import GalaxiaAin.Library.Async
import GalaxiaAin.Library.Decimal
import GalaxiaAin.Library.Json

/-! The tables of the payment and compliance services, and the backend they run against.
Amounts are columns DECIMAL(18,8), held as counts of their last place. -/
namespace GalaxiaAin.Payments
open GalaxiaAin.Library

abbrev Uuid := Nat

/-- A text given for a uuid, as the database reads it. -/
inductive UuidText where
  | empty
  | malformed (text : Text)
  | uuid (id : Uuid)
  deriving DecidableEq

/-- DECIMAL(18,8). -/
def amountFormat : Fixed := ⟨18, 8⟩

/-- The number in an amount column. -/
def parseFloat (units : Int) : ℚ := amountFormat.value units

inductive TransactionType where
  | deposit | payment | payout | refund
  deriving DecidableEq

inductive TransactionStatus where
  | pending | completed | failed
  deriving DecidableEq

inductive DirectPaymentStatus where
  | pending | confirmed | failed
  deriving DecidableEq

inductive KycLevel where
  | none | basic | intermediate | advanced | institutional
  deriving DecidableEq

inductive KycStatus where
  | pending | in_review | approved | rejected | expired | suspended
  deriving DecidableEq

structure User where
  wallet_address : Option Text
  token_balance : Int
  total_spent : Int
  deriving DecidableEq

structure Node where
  wallet_address : Text
  total_earnings : Int
  deriving DecidableEq

structure TokenTransaction where
  id : Uuid
  user_id : Option Uuid
  node_id : Option Uuid
  task_id : Option Uuid
  amount : Int
  transaction_type : TransactionType
  status : TransactionStatus
  created_at : Nat
  clearing_id : Option Text
  blockchain_hash : Option Text
  deriving DecidableEq

structure DirectPaymentRow where
  id : Uuid
  task_id : Uuid
  user_id : Uuid
  node_id : Uuid
  amount : Int
  user_wallet : Text
  node_wallet : Text
  tx_hash : Option Text
  status : DirectPaymentStatus
  deriving DecidableEq

structure KycProfile where
  id : Uuid
  user_id : Uuid
  first_name : Option Text
  last_name : Option Text
  date_of_birth : Option Nat
  nationality : Option Text
  country_of_residence : Option Text
  entity_name : Option Text
  entity_type : Option Text
  kyc_level : KycLevel
  kyc_status : KycStatus
  verification_tier : Int
  daily_limit : Int
  monthly_limit : Int
  annual_limit : Int
  single_transaction_limit : Int
  deriving DecidableEq

structure UserJurisdiction where
  user_id : Uuid
  geo_blocked : Option Bool
  detected_country : Option Text
  high_risk_jurisdiction : Option Bool := none

structure ComplianceConfig where
  jurisdiction : Text
  travel_rule_threshold : Option Int
  ctr_threshold : Option Int := none
  ltr_threshold : Option Int := none

structure TravelRuleRecord where
  transaction_id : Uuid
  originator_name : Text
  originator_account_number : Text
  originator_country : Text
  beneficiary_name : Text
  beneficiary_account_number : Text
  beneficiary_country : Text
  transaction_amount : Int
  transaction_currency : Text
  threshold_exceeded : Bool
  threshold_amount : Int
  jurisdiction : Text

/-- A screening of a user against a list; times are nullable, and so is what a review decides. -/
structure SanctionsScreening where
  user_id : Uuid
  match_found : Option Bool
  match_score : Option Int
  list_name : Option Text
  review_decision : Option Text
  screened_at : Option Nat
  deriving DecidableEq

inductive AlertType where
  | velocity_check | limit_exceeded | structuring | high_risk_jurisdiction | unusual_pattern | sanctions_match
  | large_transaction
  deriving DecidableEq

inductive AlertSeverity where
  | low | medium | high | critical
  deriving DecidableEq

inductive AlertStatus where
  | open | investigating | resolved | false_positive | escalated
  deriving DecidableEq

/-- What an alert tells of the pattern it is about. -/
inductive PatternDetails where
  | velocity (transaction_count : Nat) (time_window : Text) (total_amount : ℚ)
  | monthly (monthly_total monthly_limit excess_amount : ℚ)
  | structuring (transaction_count : Nat) (total_amount threshold : ℚ) (time_window : Text)
  | jurisdiction (country : Option Text) (risk_level : Text)
  | anomaly (transaction_amount average_amount standard_deviation deviation : ℚ)
  | sanctions (list_name : Option Text) (match_score : Option Int)
  | large (transaction_amount threshold : ℚ) (report_type : Text)
  deriving DecidableEq

/-- A row of `transaction_alerts`. -/
structure AlertRow where
  id : Uuid
  user_id : Uuid
  transaction_id : Uuid
  alert_type : AlertType
  severity : AlertSeverity
  status : AlertStatus
  rule_triggered : Text
  detection_score : Nat
  pattern_details : PatternDetails
  deriving DecidableEq

structure AuditLog where
  user_id : Option Uuid
  resource_id : Uuid

/-- The columns of a task that a payment of its nodes reads; a cost of NaN is held as NULL. -/
structure TaskColumns where
  cost_tokens : Option Int := none
  user_id : Option Uuid := none

/-- The tables; users, nodes and tasks are read by their primary keys. -/
structure PaymentDb where
  users : Uuid → Option User
  nodes : Uuid → Option Node
  tasks : List Uuid
  token_transactions : List TokenTransaction
  direct_payments : List DirectPaymentRow
  kyc_profiles : List KycProfile
  user_jurisdictions : List UserJurisdiction
  compliance_config : List ComplianceConfig
  travel_rule_records : List TravelRuleRecord
  audit_logs : List AuditLog
  /-- The rows of `tasks`. -/
  task_columns : Uuid → TaskColumns := fun _ => {}
  sanctions_screening : List SanctionsScreening := []
  transaction_alerts : List AlertRow := []
  /-- Whether `user_jurisdictions` has the column high_risk_jurisdiction; the migrations do
  not create it. -/
  has_high_risk_jurisdiction : Bool := false

/-- Where a payment goes, as it is reported to Galaxia Clearing. -/
inductive Account where
  | wallet (address : Text)
  | id (text : UuidText)

structure ClearingTransaction where
  originatorId : Account
  beneficiaryId : Account
  amount : ℚ
  transactionType : Text
  internal_transaction_id : Uuid
  task_id : Option UuidText
  kycLevel : Option KycLevel
  jurisdiction : Option Text

structure ClearingResult where
  id : Text
  status : Text

structure GXABalance where
  /-- `parseFloat` of the text; none is NaN. -/
  available : Option ℚ

structure GXATransaction where
  txHash : Option Text

structure ConstellationTransaction where
  sender : Text
  recipient : Text
  amount : ℚ
  transaction_id : Uuid
  transaction_type : TransactionType
  task_id : Option UuidText

inductive Remote where
  | gxaBalance (address : Text)
  | gxaTransfer (sender recipient : Text) (amount : ℚ)
  | importGalaxia
  | submitTransaction (transaction : ClearingTransaction)
  | sendTransaction (transaction : ConstellationTransaction)

/-- What a service answers; the data of a GXA response may be undefined. -/
abbrev Remote.Reply : Remote → Type
  | .gxaBalance _ => Option GXABalance
  | .gxaTransfer _ _ _ => Option GXATransaction
  | .importGalaxia => Unit
  | .submitTransaction _ => ClearingResult
  | .sendTransaction _ => Text

def Remote.usual : ∀ r : Remote, r.Reply
  | .gxaBalance _ => none
  | .gxaTransfer _ _ _ => none
  | .importGalaxia => ()
  | .submitTransaction _ => ⟨[], units "pending"⟩
  | .sendTransaction _ => []

inductive PaymentFailure where
  /-- A call fails, by the network or by a check of a column. -/
  | unavailable
  | aborted
  | invalidUuid
  | uniqueViolation
  | foreignKeyViolation
  | notNullViolation
  | numericOverflow
  | invalidInteger
  | undefinedColumn
  | typeError
  | geoBlocked
  | kycVerificationRequired (current : Option KycStatus)
  | singleTransactionLimit (amount limit : ℚ)
  | dailyLimit (dailyTotal limit : ℚ)
  | userNotFound
  | insufficientBalance
  | nodeNotFound
  | insufficientGXABalance
  | gxaTransferFailed
  deriving DecidableEq

/-- What is started and not awaited. -/
inductive Background where
  | monitorTransaction (userId : UuidText) (transactionId : Uuid) (amount : ℚ)
  | awaitSettlement (clearingId : Text)

inductive Site where
  | connect | begin | commit | rollback
  | geoBlocked | kycRequired | kycProfile | transactionLimits | dailyTotal
  | selectUser | gxaBalance | insertUser | updateUser | selectNode | updateNode | insertTransaction
  | travelRule | travelRuleUser | travelRuleNode | travelRuleRecordCheck | insertTravelRuleRecord
  | clearingImport | clearingUser | clearingNode | submitTransaction | updateClearingId
  | blockchainImport | blockchainUser | sendTransaction | updateBlockchainHash
  | auditLog
  | insertDirectPayment | gxaTransfer | confirmDirectPayment | updateEarnings | failDirectPayment | commitFailed
  | selectProfile | updateProfile | insertProfile | verifyProfile
  | selectTask | payerWallet | directImport
  | velocity | monthlyTotal | monthlyLimit | structuring | highRiskJurisdiction | unusualPatterns | sanctionsMatch
  | largeTransaction | storeAlert
  deriving DecidableEq

abbrev backend : Backend where
  Store := PaymentDb
  Context := Unit
  initial := ()
  Lock := Unit
  Remote := Remote
  Reply := Remote.Reply
  usual := Remote.usual
  Event := Background
  Error := PaymentFailure
  aborted := .aborted
  Fault := Unit
  raise _ := .unavailable
  refuse _ _ := none
  Site := Site

def remote (site : Site) (r : Remote) : Async backend r.Reply := Async.await (B := backend) site (Call.remote (B := backend) r)

/-- A parameter for a uuid. -/
def UuidText.read : UuidText → Except PaymentFailure Uuid
  | .uuid id => .ok id
  | .empty | .malformed _ => .error .invalidUuid

/-- A parameter for a uuid; undefined is bound as NULL. -/
def readOptional : Option UuidText → Except PaymentFailure (Option Uuid)
  | some t => t.read.map some
  | none => .ok none

/-- `id || null`. -/
def orNull : Option UuidText → Option UuidText
  | some .empty => none
  | t => t

/-- The assignment of a number to an amount column. -/
def assign (x : ℚ) : Except PaymentFailure Int :=
  match amountFormat.assign x with
  | some u => .ok u
  | none => .error .numericOverflow

end GalaxiaAin.Payments
