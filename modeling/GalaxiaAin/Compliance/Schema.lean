import GalaxiaAin.Library.Async
import GalaxiaAin.Library.Numbers

/-! The tables of the legal documents service. Dates are days and times milliseconds. -/
namespace GalaxiaAin.Compliance
open GalaxiaAin.Library

structure LegalDocument where
  id : Text
  document_type : Text
  version : Text
  /-- None is a document for every jurisdiction. -/
  jurisdiction : Option Text
  title : Text
  content : Text
  summary : Option Text
  effective_date : Nat
  expiry_date : Option Nat
  mandatory : Bool
  requires_reacceptance : Bool
  is_active : Bool
  is_current : Bool

structure UserConsent where
  user_id : Text
  document_id : Text
  consented : Bool
  consent_method : Text
  ip_address : Option Text
  user_agent : Option Text
  document_version : Text
  consented_at : Nat

structure UserJurisdiction where
  user_id : Text
  detected_country : Option Text

structure ComplianceDb where
  /-- The ids of the users. -/
  users : List Text
  legal_documents : List LegalDocument
  user_consents : List UserConsent
  user_jurisdictions : List UserJurisdiction

inductive ComplianceFailure where
  /-- A call fails, by the network or by a check of a column. -/
  | unavailable
  | aborted
  | uniqueViolation
  | foreignKeyViolation
  deriving DecidableEq

inductive Site where
  | connect | begin | commit | rollback
  | unsetCurrent | insertDocument | currentDocument
  | hasUserConsented | recordConsent | detectedCountry | mandatoryDocuments
  deriving DecidableEq

abbrev backend : Backend where
  Store := ComplianceDb
  Context := Unit
  initial := ()
  Lock := Unit
  Remote := Unit
  Reply _ := Unit
  usual _ := ()
  Event := Unit
  Error := ComplianceFailure
  aborted := .aborted
  Fault := Unit
  raise _ := .unavailable
  refuse _ _ := none
  Site := Site

/-- `v || null`. -/
def orNull (v : Option Text) : Option Text := v.filter (· ≠ [])

end GalaxiaAin.Compliance
