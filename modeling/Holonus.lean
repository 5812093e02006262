import Holonus.Machine.AtomicRun
import Holonus.Machine.CheckedWord
import Holonus.Machine.Evaluation
import Holonus.Machine.FiniteTable
import Holonus.Machine.Footprint
import Holonus.Machine.Hosting
import Holonus.Machine.Interleaving
import Holonus.Machine.OrderedSet
import Holonus.Machine.Program
import Holonus.Machine.Protocol
import Holonus.Abstract.Approval
import Holonus.Abstract.Award
import Holonus.Abstract.Contribution
import Holonus.Abstract.Currency
import Holonus.Abstract.Evaluation
import Holonus.Abstract.Footprint
import Holonus.Abstract.Isolation
import Holonus.Abstract.Ledger
import Holonus.Abstract.Monotone
import Holonus.Abstract.Registry
import Holonus.Abstract.Taking
import Holonus.Abstract.TransferLog
import Holonus.Abstract.TrustGraph
import Holonus.Construction.Api.Requests
import Holonus.Construction.Api.Responses
import Holonus.Construction.Api.Service
import Holonus.Construction.Auth.LoginBody
import Holonus.Construction.Auth.Sessions
import Holonus.Construction.Backend.CoinTransfer
import Holonus.Construction.Backend.Database
import Holonus.Construction.Backend.Failure
import Holonus.Construction.Backend.Models
import Holonus.Construction.Backend.Operations
import Holonus.Construction.Backend.PlainPlatform
import Holonus.Construction.Backend.Requests
import Holonus.Construction.Coin.Calls
import Holonus.Construction.Coin.EternalStorage
import Holonus.Construction.Coin.HolonusCoinService
import Holonus.Construction.Coin.ManageStorage
import Holonus.Construction.Coin.SafeMath
import Holonus.Construction.Coin.System
import Holonus.Construction.Coin.TokenERC20
import Holonus.Construction.File.Service
import Holonus.Construction.File.Storage
import Holonus.Proof.Api.Authority
import Holonus.Proof.Api.Coins
import Holonus.Proof.Api.Conduct
import Holonus.Proof.Api.Ownership
import Holonus.Proof.Api.Progress
import Holonus.Proof.Api.Refinement
import Holonus.Proof.Api.Runs
import Holonus.Proof.Api.Steps
import Holonus.Proof.Auth.Login
import Holonus.Proof.Auth.SessionLaw
import Holonus.Proof.Backend.Accounts
import Holonus.Proof.Backend.Acknowledged
import Holonus.Proof.Backend.Alone
import Holonus.Proof.Backend.CoinTransfer
import Holonus.Proof.Backend.Content
import Holonus.Proof.Backend.CrossStore
import Holonus.Proof.Backend.Deleted
import Holonus.Proof.Backend.Encryption
import Holonus.Proof.Backend.Evidence
import Holonus.Proof.Backend.FileRequests
import Holonus.Proof.Backend.FileTurn
import Holonus.Proof.Backend.FileVersion
import Holonus.Proof.Backend.Hashes
import Holonus.Proof.Backend.Integrity
import Holonus.Proof.Backend.Isolation
import Holonus.Proof.Backend.KeySlot
import Holonus.Proof.Backend.Locks
import Holonus.Proof.Backend.Obedience
import Holonus.Proof.Backend.OneKey
import Holonus.Proof.Backend.OneVersion
import Holonus.Proof.Backend.Ownership
import Holonus.Proof.Backend.Provenance
import Holonus.Proof.Backend.Rows
import Holonus.Proof.Backend.Rules
import Holonus.Proof.Backend.Steps
import Holonus.Proof.Coin.AccountLists
import Holonus.Proof.Coin.EvaluationLaw
import Holonus.Proof.Coin.PointLaw
import Holonus.Proof.Coin.Reachable
import Holonus.Proof.Coin.Refinement
import Holonus.Proof.Coin.ServiceLaw
import Holonus.Proof.Coin.StorageLaw
import Holonus.Proof.Coin.SystemView
import Holonus.Proof.Coin.TokenLaw
import Holonus.Proof.File.Refinement
import Holonus.Proof.Ledger.ApprovalBound
import Holonus.Proof.Ledger.Conservation
import Holonus.Proof.Ledger.Minting
import Holonus.Proof.Ledger.Posting
import Holonus.Proof.Ledger.Taking
import Holonus.Proof.Ledger.Transfer
import Holonus.Proof.Ledger.TransferLog
import Holonus.Proof.Reliability.Attribution
import Holonus.Proof.Reliability.Cascade
import Holonus.Proof.Reliability.Commutation
import Holonus.Proof.Reliability.Currency
import Holonus.Proof.Reliability.Footprint
import Holonus.Proof.Reliability.Isolation
import Holonus.Proof.Reliability.Progress
import Holonus.Proof.Reliability.Repetition
import Holonus.Proof.Reliability.Representation
import Holonus.Proof.Reliability.Seed
