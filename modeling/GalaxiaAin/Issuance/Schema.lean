import GalaxiaAin.Audit.Services
import GalaxiaAin.Library.Decimal

/-! The tables of the audit and issuance services. Numbers a caller may pass are rational
or one of the special values; JSONB columns are held as the value they were written from. -/
namespace GalaxiaAin.Issuance
open GalaxiaAin.Library

/-- DECIMAL(20,8), the format of token amounts and supplies. -/
def tokenFormat : Fixed := ⟨20, 8⟩

/-- DECIMAL(20,2), the format of prices. -/
def priceFormat : Fixed := ⟨20, 2⟩

/-- A JavaScript number. -/
inductive JsNumber where
  | finite (x : ℚ)
  | posInfinity
  | negInfinity
  | nan

/-- `x >= n`. -/
def JsNumber.atLeast : JsNumber → ℚ → Bool
  | .finite x, n => decide (n ≤ x)
  | .posInfinity, _ => true
  | .negInfinity, _ => false
  | .nan, _ => false

/-- A finding as it is passed in: any field may be missing. -/
structure AuditFinding where
  severity : Option Text
  category : Option Text
  description : Option Text
  recommendation : Option Text
  codeLocation : Option Text
  cweId : Option Text
  remediation : Option Text

structure FindingRow where
  audit_id : Text
  severity : Text
  category : Text
  description : Text
  recommendation : Option Text
  code_location : Option Text
  cwe_id : Option Text
  remediation : Option Text
  status : Text

structure Certification extends Audit.AuditCertification where
  compliance_score : Option Int

structure OfferingRequest where
  offeringType : Text
  securityType : Text
  issuerDetails : Json
  offeringAmount : ℚ
  tokenName : Text
  tokenSymbol : Text
  totalSupply : ℚ
  decimals : Option ℚ
  transferRestrictions : Json
  auditCertificationId : Text
  complianceDocuments : Option Json
  metadata : Option Json

structure OfferingRow where
  offering_id : Text
  offering_type : Text
  security_type : Text
  issuer_id : Text
  issuer_details : Json
  audit_certification_id : Text
  offering_amount : Int
  token_name : Text
  token_symbol : Text
  total_supply : Int
  decimals : Int
  transfer_restrictions : Json
  status : Text
  compliance_status : Json
  compliance_documents : Json
  metadata : Json

structure InvestorRow where
  investor_id : Text
  galaxia_id_user_id : Text
  accreditation_status : Option Text
  accreditation_type : Option Text
  accreditation_verified_at : Option Nat
  accreditation_expires_at : Option Nat
  verification_method : Option Text
  jurisdiction : Text

structure VestingSchedule where
  startDate : Nat
  cliffPeriod : Option Text
  vestingPeriod : Text
  intervals : Option ℚ

/-- A vesting schedule as a holding records it. -/
structure VestingRow extends VestingSchedule where
  vestedAmount : ℚ
  unvestedAmount : ℚ

structure HoldingRow where
  holding_id : Text
  offering_id : Text
  investor_id : Text
  token_amount : Int
  purchase_price : Int
  purchase_date : Nat
  vesting_schedule : Option VestingRow
  lockup_end_date : Option Nat
  transfer_restrictions : Json
  wallet_address : Text

/-- A check of a transfer, as it is logged. -/
structure TransferLogRow where
  offering_id : Text
  from_investor_id : Text
  to_investor_id : Text
  token_amount : Int
  allowed : Bool
  restrictions_applied : List Text

structure IssuanceDb where
  audit_requests : List Audit.AuditRequestRow
  audit_findings : List FindingRow
  audit_certifications : List Certification
  offerings : List OfferingRow
  investors : List InvestorRow
  token_holdings : List HoldingRow
  transfer_restrictions_log : List TransferLogRow

inductive IssuanceFailure where
  /-- A call fails, by the network or by a check of a column. -/
  | unavailable
  | aborted
  | uniqueViolation
  | foreignKeyViolation
  | notNullViolation
  | numericOverflow
  | invalidInteger
  | invalidDate
  | uncertifiedAudit
  | offeringNotActive
  | notAccredited
  | holdingNotFound
  deriving DecidableEq

/-- What a service publishes on the event bus. -/
inductive IssuanceEvent where
  | auditRequested (auditId : Text) (input : Audit.AuditRequestInput)
  | auditCompleted (auditId certificationId : Text) (certified : Bool)
  | offeringCreated (offeringId : Text) (request : OfferingRequest)
  | tokenIssued (offeringId investorId : Text) (tokenAmount : ℚ)

inductive Site where
  | connect | begin | commit | rollback
  | insertAuditRequest | insertFinding | sign | signBackup | insertCertification | completeRequest
  | verifyCertification | insertOffering | getOffering
  | selectInvestor | insertInvestor | updateInvestor | accreditationStatus
  | selectRestrictions | insertHolding | getTokenHolding
  | transferOffering | transferHolding | insertTransferLog
  | capTable | totalSupply
  deriving DecidableEq

abbrev backend : Backend where
  Store := IssuanceDb
  Context := Unit
  initial := ()
  Lock := Unit
  Remote := Unit
  Reply _ := Unit
  usual _ := ()
  Event := IssuanceEvent
  Error := IssuanceFailure
  aborted := .aborted
  Fault := Unit
  raise _ := .unavailable
  refuse _ _ := none
  Site := Site

/-- The assignment of a number to a fixed-point column. -/
def assign (format : Fixed) (x : ℚ) : Except IssuanceFailure Int :=
  match format.assign x with
  | some u => .ok u
  | none => .error .numericOverflow

/-- A parameter for an INTEGER column. -/
def integer : JsNumber → Except IssuanceFailure Int
  | .finite x => if x.den = 1 ∧ -2147483648 ≤ x ∧ x ≤ 2147483647 then .ok x.num else .error .invalidInteger
  | _ => .error .invalidInteger

/-- A value of a NOT NULL column. -/
def required (v : Option Text) : Except IssuanceFailure Text :=
  match v with
  | some t => .ok t
  | none => .error .notNullViolation

/-- `v || null`. -/
def orNull (v : Option Text) : Option Text := v.filter (· ≠ [])

end GalaxiaAin.Issuance
