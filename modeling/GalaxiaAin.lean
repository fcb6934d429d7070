import GalaxiaAin.Library.Interleaving
import GalaxiaAin.Library.Frame
import GalaxiaAin.Library.Lockstep
import GalaxiaAin.Library.Json
import GalaxiaAin.Library.Machine
import GalaxiaAin.Network.TaskQueue
import GalaxiaAin.Network.Privacy
import GalaxiaAin.Tenant.Schema
import GalaxiaAin.Tenant.Context
import GalaxiaAin.Tenant.Gates
import GalaxiaAin.Tenant.Services
import GalaxiaAin.Tenant.Jobs
import GalaxiaAin.Tenant.Executor
import GalaxiaAin.Tenant.Route
import GalaxiaAin.Tenant.Isolation
import GalaxiaAin.Tenant.Idempotency
import GalaxiaAin.Tenant.Uniqueness
import GalaxiaAin.Tenant.Acknowledgement
import GalaxiaAin.Tenant.JobStates
import GalaxiaAin.Library.Cascade
import GalaxiaAin.Library.History
import GalaxiaAin.Library.Noted
import GalaxiaAin.Library.Invariant
import GalaxiaAin.Library.Clients
import GalaxiaAin.Audit.Services
import GalaxiaAin.Audit.Chain
import GalaxiaAin.Tenant.Credentials
import GalaxiaAin.Tenant.KeyRoundTrip
import GalaxiaAin.Tenant.Metering
import GalaxiaAin.Tenant.QuotaCap
import GalaxiaAin.Tenant.Admission
import GalaxiaAin.Tenant.MeterBalance
import GalaxiaAin.Library.Decimal
import GalaxiaAin.Library.EditDistance
import GalaxiaAin.Payments.Schema
import GalaxiaAin.Payments.Kyc
import GalaxiaAin.Library.Transaction
import GalaxiaAin.Payments.Payment
import GalaxiaAin.Payments.DirectPayment
import GalaxiaAin.Payments.Ledger
import GalaxiaAin.Payments.Bookkeeping
import GalaxiaAin.Payments.Reconciliation
import GalaxiaAin.Payments.KycGate
import GalaxiaAin.Payments.Distribution
import GalaxiaAin.Library.Table
import GalaxiaAin.Network.Schema
import GalaxiaAin.Network.Nodes
import GalaxiaAin.Network.Distribution
import GalaxiaAin.Network.Capacity
import GalaxiaAin.Network.Verification
import GalaxiaAin.Network.Inference
import GalaxiaAin.Network.Handlers
import GalaxiaAin.Network.Reports
import GalaxiaAin.Network.Quorum
import GalaxiaAin.Network.Finality
import GalaxiaAin.Network.Registration
import GalaxiaAin.Network.Blocked
import GalaxiaAin.Network.Earned
import GalaxiaAin.Network.Payouts
import GalaxiaAin.Payments.Released
import GalaxiaAin.Network.Grouping
import GalaxiaAin.Network.Served
import GalaxiaAin.Network.Loads
import GalaxiaAin.Network.Majority
import GalaxiaAin.Network.Tiebreak
import GalaxiaAin.Network.Similarity
import GalaxiaAin.Network.PrivateInput
import GalaxiaAin.Network.Workload
import GalaxiaAin.Galaxia.Ecosystem
import GalaxiaAin.Galaxia.Clients
import GalaxiaAin.Galaxia.Envelope
import GalaxiaAin.Library.Utf8
import GalaxiaAin.Galaxia.Encryption
import GalaxiaAin.Galaxia.Proofs
import GalaxiaAin.Issuance.Schema
import GalaxiaAin.Issuance.Audits
import GalaxiaAin.Issuance.Offerings
import GalaxiaAin.Issuance.Steps
import GalaxiaAin.Issuance.Certified
import GalaxiaAin.Issuance.Activation
import GalaxiaAin.Issuance.Minting
import GalaxiaAin.Issuance.CapTable
import GalaxiaAin.Issuance.TransferChecks
import GalaxiaAin.Issuance.Lockups
import GalaxiaAin.Issuance.Settlement
import GalaxiaAin.Issuance.Completion
import GalaxiaAin.Issuance.OneInvestor
import GalaxiaAin.Gateway.Request
import GalaxiaAin.Gateway.Compliance
import GalaxiaAin.Gateway.Authentication
import GalaxiaAin.Gateway.Coverage
import GalaxiaAin.Gateway.Endpoints
import GalaxiaAin.Gateway.Ownership
import GalaxiaAin.Gateway.Isolation
import GalaxiaAin.Library.Numbers
import GalaxiaAin.Gateway.Signature
import GalaxiaAin.Gateway.RateLimiter
import GalaxiaAin.Library.Address
import GalaxiaAin.Gateway.OutboundUrl
import GalaxiaAin.Tenant.Jwt
import GalaxiaAin.Tenant.Identity
import GalaxiaAin.Library.Ranking
import GalaxiaAin.Network.Selection
import GalaxiaAin.Library.Waiting
import GalaxiaAin.Network.Regions
import GalaxiaAin.Network.Reassignment
import GalaxiaAin.Network.Reputation
import GalaxiaAin.Payments.Atomic
import GalaxiaAin.Payments.Credits
import GalaxiaAin.Payments.Shares
import GalaxiaAin.Library.Possible
import GalaxiaAin.Library.Answers
import GalaxiaAin.Library.Truth
import GalaxiaAin.Payments.Acceptance
import GalaxiaAin.Payments.Deposits
import GalaxiaAin.Payments.AllOrNothing
import GalaxiaAin.Library.Made
import GalaxiaAin.Payments.Transfers
import GalaxiaAin.Payments.TravelRule
import GalaxiaAin.Network.PaidOnce
import GalaxiaAin.Library.Calendar
import GalaxiaAin.Library.Duration
import GalaxiaAin.Compliance.Schema
import GalaxiaAin.Compliance.Documents
import GalaxiaAin.Compliance.Consents
import GalaxiaAin.Payments.TierLimits
import GalaxiaAin.Payments.Monitoring
import GalaxiaAin.Library.Windows
import GalaxiaAin.Limits.Memory
import GalaxiaAin.Limits.ApiKeys
import GalaxiaAin.Limits.Activity
import GalaxiaAin.Gateway.SigningPayload
import GalaxiaAin.Library.Base64
import GalaxiaAin.Library.WellFormed
import GalaxiaAin.Library.JsonParse
import GalaxiaAin.Library.JsonHeld
import GalaxiaAin.Tenant.TokenRoundTrip
import GalaxiaAin.Tenant.TimeClaims
import GalaxiaAin.Galaxia.QuantumSecurity
import GalaxiaAin.Galaxia.DefaultKey
import GalaxiaAin.Limits.Distributed
import GalaxiaAin.Tenant.Redaction
import GalaxiaAin.Tenant.MainnetGuard
import GalaxiaAin.Compliance.Deadlines
import GalaxiaAin.Library.Polling
import GalaxiaAin.Galaxia.Polling
import GalaxiaAin.Library.Sql
import GalaxiaAin.Payments.DynamicSql
import GalaxiaAin.Validation.Sanitize
import GalaxiaAin.Validation.Reading
import GalaxiaAin.Validation.Rules
import GalaxiaAin.Activity.Recent
import GalaxiaAin.Activity.Updates
import GalaxiaAin.Library.Turns
import GalaxiaAin.Library.Arithmetic
import GalaxiaAin.Utils.Retry
import GalaxiaAin.Library.Alone
import GalaxiaAin.Payments.Disjoint
import GalaxiaAin.Payments.Jurisdiction
import GalaxiaAin.Gateway.Metrics
import GalaxiaAin.Library.UniqueIndex
import GalaxiaAin.Network.Devices
import GalaxiaAin.Compliance.Complaints
import GalaxiaAin.Galaxia.Oracle
import GalaxiaAin.Library.Words
import GalaxiaAin.Tenant.Signup
import GalaxiaAin.Issuance.AuditStatus
import GalaxiaAin.Gateway.CsrfTokens
import GalaxiaAin.Payments.Balance
