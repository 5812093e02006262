/-
This file defines lists that keep each element at its first position.
A counted array of slots represents such a list.
-/

import Mathlib.Tactic

namespace Holonus.Machine

section
variable {Element : Type}

/-- The counted slots list their elements in index order. -/
def slots (count : Nat) (slot : Nat → Element) : List Element :=
  (List.range count).map slot

@[simp] theorem slots_length (count : Nat) (slot : Nat → Element) :
    (slots count slot).length = count := by
  simp [slots]

/-- A write at the count appends one element. -/
theorem slots_update (count : Nat) (slot : Nat → Element) (element : Element) :
    slots (count + 1) (Function.update slot count element) = slots count slot ++ [element] := by
  have kept : (List.range count).map (Function.update slot count element) =
      (List.range count).map slot := by
    apply List.map_congr_left
    intro index member
    have below := List.mem_range.mp member
    exact Function.update_of_ne (by omega) _ _
  simp only [slots, List.range_succ, List.map_append, kept, List.map_cons, List.map_nil,
    Function.update_self]

/-- The elements of the slots are those below the count. -/
theorem mem_slots (count : Nat) (slot : Nat → Element) (element : Element) :
    element ∈ slots count slot ↔ ∃ index, index < count ∧ slot index = element := by
  simp [slots]

variable [DecidableEq Element]

/-- A repeated element keeps its first position. -/
def addOnce (elements : List Element) (element : Element) : List Element :=
  if element ∈ elements then elements else elements ++ [element]

/-- Adding a member changes nothing. -/
theorem addOnce_of_mem {elements : List Element} {element : Element} (member : element ∈ elements) :
    addOnce elements element = elements := if_pos member

/-- Adding a fresh element appends it. -/
theorem addOnce_of_not_mem {elements : List Element} {element : Element}
    (fresh : element ∉ elements) : addOnce elements element = elements ++ [element] := if_neg fresh

@[simp] theorem mem_addOnce (elements : List Element) (element other : Element) :
    other ∈ addOnce elements element ↔ other ∈ elements ∨ other = element := by
  unfold addOnce
  split
  · rename_i member
    exact ⟨Or.inl, fun either => either.elim id fun same => same ▸ member⟩
  · simp

/-- Adding an element lengthens the list only when it is fresh. -/
theorem length_addOnce (elements : List Element) (element : Element) :
    (addOnce elements element).length = elements.length + if element ∈ elements then 0 else 1 := by
  unfold addOnce
  split
  · rfl
  · simp

/-- Adding an element repeats none. -/
theorem nodup_addOnce {elements : List Element} (distinct : elements.Nodup) (element : Element) :
    (addOnce elements element).Nodup := by
  unfold addOnce
  split
  · exact distinct
  · rename_i fresh
    rw [List.nodup_append]
    refine ⟨distinct, List.nodup_singleton _, ?_⟩
    intro left member right single equal
    rw [List.mem_singleton.mp single] at equal
    exact fresh (equal ▸ member)

/-- The distinct elements stand in the order of their first occurrences. -/
def firsts (elements : List Element) : List Element := elements.foldl addOnce []

@[simp] theorem firsts_nil : firsts ([] : List Element) = [] := rfl

@[simp] theorem firsts_append_singleton (elements : List Element) (element : Element) :
    firsts (elements ++ [element]) = addOnce (firsts elements) element := by
  simp [firsts]

/-- The first occurrences are those of the elements. -/
@[simp] theorem mem_firsts (elements : List Element) (element : Element) :
    element ∈ firsts elements ↔ element ∈ elements := by
  induction elements using List.reverseRecOn with
  | nil => simp
  | append_singleton earlier last ih => simp [ih]

/-- The first occurrences do not repeat. -/
theorem nodup_firsts (elements : List Element) : (firsts elements).Nodup := by
  induction elements using List.reverseRecOn with
  | nil => simp
  | append_singleton earlier last ih =>
      rw [firsts_append_singleton]
      exact nodup_addOnce ih last

/-- There are as many first occurrences as distinct elements. -/
theorem length_firsts (elements : List Element) :
    (firsts elements).length = elements.toFinset.card := by
  rw [← List.toFinset_card_of_nodup (nodup_firsts elements)]
  congr 1
  ext element
  simp

/-- An earlier position belongs to an earlier first occurrence. -/
theorem pairwise_firsts (elements : List Element) :
    (firsts elements).Pairwise fun first second =>
      elements.idxOf first < elements.idxOf second := by
  induction elements using List.reverseRecOn with
  | nil => simp
  | append_singleton earlier last ih =>
      have kept : (firsts earlier).Pairwise fun first second =>
          (earlier ++ [last]).idxOf first < (earlier ++ [last]).idxOf second := by
        apply ih.imp_of_mem
        intro first second firstIn secondIn before
        rw [mem_firsts] at firstIn secondIn
        rw [List.idxOf_append_of_mem firstIn, List.idxOf_append_of_mem secondIn]
        exact before
      rw [firsts_append_singleton]
      by_cases repeated : last ∈ firsts earlier
      · rw [addOnce_of_mem repeated]
        exact kept
      · rw [addOnce_of_not_mem repeated, List.pairwise_append]
        refine ⟨kept, List.pairwise_singleton _ _, ?_⟩
        intro first firstIn second single
        rw [List.mem_singleton.mp single]
        rw [mem_firsts] at firstIn repeated
        rw [List.idxOf_append_of_mem firstIn, List.idxOf_append_of_notMem repeated]
        exact (List.idxOf_lt_length_iff.mpr firstIn).trans_le (Nat.le_add_right _ _)

/-- The counted slots list each added element once, in the order of the first additions. -/
structure Enumerates (added : List Element) (count : Nat) (slot : Nat → Element) : Prop where
  counted : count = added.toFinset.card
  listed : ∀ element, (∃ index, index < count ∧ slot index = element) ↔ element ∈ added
  once : ∀ first second, first < count → second < count → slot first = slot second → first = second
  ordered : ∀ first second, first < second → second < count →
    added.idxOf (slot first) < added.idxOf (slot second)

/-- Slots that show the first occurrences enumerate the added elements. -/
theorem enumerates_of_slots {added : List Element} {count : Nat} {slot : Nat → Element}
    (same : slots count slot = firsts added) : Enumerates added count slot where
  counted := by
    rw [← length_firsts, ← same, slots_length]
  listed element := by
    rw [← mem_slots, same, mem_firsts]
  once first second firstIn secondIn equal := by
    have distinct := nodup_firsts added
    rw [← same] at distinct
    exact List.inj_on_of_nodup_map distinct (List.mem_range.mpr firstIn)
      (List.mem_range.mpr secondIn) equal
  ordered first second before secondIn := by
    have pairwise := pairwise_firsts added
    rw [← same, slots, List.pairwise_map, List.pairwise_iff_getElem] at pairwise
    have placed := pairwise first second (by simp; omega) (by simpa using secondIn) before
    rw [List.getElem_range, List.getElem_range] at placed
    exact placed

/-- An update of a weight outside the list is not seen in it. -/
theorem map_update_of_not_mem {elements : List Element} {element : Element} (fresh : element ∉ elements)
    (weight : Element → Nat) (value : Nat) :
    elements.map (Function.update weight element value) = elements.map weight := by
  apply List.map_congr_left
  intro other member
  exact Function.update_of_ne (ne_of_mem_of_not_mem member fresh) _ _

/-- A sum over distinct elements changes by the replaced term. -/
theorem sum_map_update {elements : List Element} (distinct : elements.Nodup) {element : Element}
    (member : element ∈ elements) (weight : Element → Nat) (value : Nat) :
    (elements.map (Function.update weight element value)).sum + weight element =
      (elements.map weight).sum + value := by
  induction elements with
  | nil => simp at member
  | cons head rest ih =>
      obtain ⟨fresh, distinctRest⟩ := List.nodup_cons.mp distinct
      simp only [List.map_cons, List.sum_cons]
      by_cases same : element = head
      · subst same
        rw [map_update_of_not_mem fresh, Function.update_self]
        omega
      · have later : element ∈ rest := (List.mem_cons.mp member).resolve_left same
        have tail := ih distinctRest later
        rw [Function.update_of_ne (Ne.symm same)]
        omega

/-- Adding an element replaces its old term or appends its new term. -/
theorem sum_map_addOnce {elements : List Element} (distinct : elements.Nodup) (element : Element)
    (weight : Element → Nat) (value : Nat) (absent : element ∉ elements → weight element = 0) :
    ((addOnce elements element).map (Function.update weight element value)).sum + weight element =
      (elements.map weight).sum + value := by
  by_cases member : element ∈ elements
  · rw [addOnce_of_mem member]
    exact sum_map_update distinct member weight value
  · rw [addOnce_of_not_mem member, List.map_append, List.sum_append,
      map_update_of_not_mem member, absent member]
    simp

end

end Holonus.Machine
