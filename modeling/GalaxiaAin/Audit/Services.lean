import GalaxiaAin.Library.Cascade
import GalaxiaAin.Library.Json

/-! Audit requests and offerings, the events their services emit, and the handlers behind
the event bus. An emitted event is handled once the import of the handlers resolves, a
later turn. -/
namespace GalaxiaAin.Audit
open GalaxiaAin.Library

structure AuditRequestInput where
  contractAddress : Option Json
  contractCode : Json
  blockchain : Text
  auditType : Text
  priority : Option Text
  requestedBy : Text
  complianceRequirements : Option (List Text)
  metadata : Option Json

/-- A row of audit_requests, its values as the INSERT binds them. -/
structure AuditRequestRow where
  audit_id : Text
  contract_address : Json
  contract_code : Json
  blockchain : Text
  audit_type : Text
  priority : Text
  requesting_app : Text
  compliance_requirements : List Text
  status : Text
  metadata : Text

structure AuditCertification where
  certification_id : Text
  audit_id : Text
  certified : Bool
  expires_at : Option Nat
  revoked : Bool

structure TokenDetails where
  name : Text
  symbol : Text
  totalSupply : Numeral
  decimals : Option Numeral
  transferRestrictions : Json

structure OfferingRequest where
  offeringType : Text
  securityType : Text
  issuerDetails : Json
  offeringAmount : Numeral
  tokenDetails : TokenDetails
  auditCertificationId : Text
  complianceDocuments : Option Json
  metadata : Option Json

structure OfferingRow where
  offering_id : Text
  offering_type : Text
  security_type : Text
  issuer_id : Text
  issuer_details : Text
  audit_certification_id : Text
  offering_amount : Numeral
  token_name : Text
  token_symbol : Text
  total_supply : Numeral
  decimals : Numeral
  transfer_restrictions : Text
  status : Text
  compliance_status : Text
  compliance_documents : Text
  metadata : Text

structure AuditDb where
  now : Nat
  audit_requests : List AuditRequestRow
  audit_certifications : List AuditCertification
  offerings : List OfferingRow

inductive AuditSite where
  | connect | begin | insertAuditRequest | verifyCertification | insertOffering | commit | rollback | getOffering
  | importHandlers
  deriving DecidableEq

inductive AuditFailure where
  /-- A call fails, by the network or by a check of the table. -/
  | unavailable
  | uncertifiedAudit
  | aborted

/-- What waits for the import of the event handlers. -/
inductive AuditSignal where
  | auditRequested (auditId : Text) (request : AuditRequestInput)
  | offeringCreated (offeringId : Text) (request : OfferingRequest)

abbrev backend : Backend where
  Store := AuditDb
  Context := Unit
  initial := ()
  Lock := Unit
  Remote := Unit
  Reply _ := Unit
  usual _ := ()
  Event := AuditSignal
  Error := AuditFailure
  aborted := .aborted
  Fault := Unit
  raise _ := .unavailable
  refuse _ _ := none
  Site := AuditSite

/-- The row `createAuditRequest` inserts. -/
def auditRequestRow (auditId : Text) (input : AuditRequestInput) : AuditRequestRow where
  audit_id := auditId
  contract_address := match input.contractAddress with
    | some a => if a.truthy then a else .null
    | none => .null
  contract_code := input.contractCode
  blockchain := input.blockchain
  audit_type := input.auditType
  priority := match input.priority with
    | some p => if p = [] then units "standard" else p
    | none => units "standard"
  requesting_app := input.requestedBy
  compliance_requirements := input.complianceRequirements.getD []
  status := units "pending"
  metadata := match input.metadata with
    | some m => if m.truthy then m.stringify else units "\x7b\x7d"
    | none => units "\x7b\x7d"

def insertAuditRequest (row : AuditRequestRow) : Stmt backend Unit :=
  .update fun _ db => { db with audit_requests := db.audit_requests ++ [row] }

def emitAuditRequested (auditId : Text) (request : AuditRequestInput) : Async backend Unit :=
  .emit (.auditRequested auditId request)

def createAuditRequest (auditId : Text) (input : AuditRequestInput) : Async backend (Text × Text) :=
  Async.withClient .connect <| Async.orRollback .rollback do
    Async.await .begin .begin
    Async.query .insertAuditRequest (insertAuditRequest (auditRequestRow auditId input))
    Async.await .commit .commit
    emitAuditRequested auditId input
    pure (auditId, units "pending")

structure Verification where
  valid : Bool
  certified : Bool
  revoked : Bool

/-- The certification of that id whose audit exists. -/
def findCertification (certificationId : Text) (db : AuditDb) : Option AuditCertification :=
  db.audit_certifications.find? fun c =>
    c.certification_id == certificationId && db.audit_requests.any fun r => r.audit_id == c.audit_id

/-- What `verifyCertification` makes of the row it finds. -/
def verification (now : Nat) : Option AuditCertification → Verification
  | none => ⟨false, false, false⟩
  | some row =>
    let live := match row.expires_at with
      | some t => decide (now < t)
      | none => true
    ⟨!row.revoked && live, row.certified, row.revoked⟩

def verifyCertification (certificationId : Text) : Async backend Verification :=
  Async.await .verifyCertification
    (.pool (.select fun _ db => verification db.now (findCertification certificationId db)))

/-- The row `createOffering` inserts. -/
def offeringRow (offeringId issuerId : Text) (request : OfferingRequest) : OfferingRow where
  offering_id := offeringId
  offering_type := request.offeringType
  security_type := request.securityType
  issuer_id := issuerId
  issuer_details := request.issuerDetails.stringify
  audit_certification_id := request.auditCertificationId
  offering_amount := request.offeringAmount
  token_name := request.tokenDetails.name
  token_symbol := request.tokenDetails.symbol
  total_supply := request.tokenDetails.totalSupply
  decimals := match request.tokenDetails.decimals with
    | some d => if (Json.num d).truthy then d else Numeral.ofNat 18
    | none => Numeral.ofNat 18
  transfer_restrictions := request.tokenDetails.transferRestrictions.stringify
  status := units "ready_for_issuance"
  compliance_status := (Json.obj [(units "kyc", .str (units "pending")), (units "aml", .str (units "pending"))]).stringify
  compliance_documents := match request.complianceDocuments with
    | some d => if d.truthy then d.stringify else units "[]"
    | none => units "[]"
  metadata := match request.metadata with
    | some m => if m.truthy then m.stringify else units "\x7b\x7d"
    | none => units "\x7b\x7d"

def insertOffering (row : OfferingRow) : Stmt backend Unit :=
  .update fun _ db => { db with offerings := db.offerings ++ [row] }

def getOffering (offeringId : Text) : Async backend (Option OfferingRow) :=
  Async.await .getOffering (.pool (.select fun _ db => db.offerings.find? fun o => o.offering_id == offeringId))

def emitOfferingCreated (offeringId : Text) (request : OfferingRequest) : Async backend Unit :=
  .emit (.offeringCreated offeringId request)

def createOffering (offeringId issuerId : Text) (request : OfferingRequest) : Async backend (Option OfferingRow) :=
  Async.withClient .connect <| Async.orRollback .rollback do
    Async.await .begin .begin
    let certVerification ← verifyCertification request.auditCertificationId
    if !certVerification.valid || !certVerification.certified then throw AuditFailure.uncertifiedAudit
    Async.query .insertOffering (insertOffering (offeringRow offeringId issuerId request))
    Async.await .commit .commit
    emitOfferingCreated offeringId request
    getOffering offeringId

structure AuditRequiredEvent where
  offeringId : Json
  contractCode : Json
  contractAddress : Option Json
  blockchain : Text
  requestedBy : Text

structure OfferingCreatedEvent where
  offeringId : Text
  offeringType : Text
  contractCode : Option Json
  contractAddress : Option Json

/-- The input `handleAuditRequiredEvent` passes on. -/
def requiredInput (event : AuditRequiredEvent) : AuditRequestInput where
  contractAddress := event.contractAddress
  contractCode := event.contractCode
  blockchain := event.blockchain
  auditType := units "full"
  priority := some (units "expedited")
  requestedBy := event.requestedBy
  complianceRequirements := some [units "securities", units "aml"]
  metadata := none

def handleAuditRequiredEvent (auditId : Text) (event : AuditRequiredEvent) : Async backend Unit := do
  let _ ← createAuditRequest auditId (requiredInput event)

def handleOfferingCreatedEvent (auditId : Text) (event : OfferingCreatedEvent) : Async backend Unit :=
  match event.contractCode with
  | some contractCode =>
    if contractCode.truthy then
      handleAuditRequiredEvent auditId
        ⟨.str event.offeringId, contractCode, event.contractAddress, units "constellation", units "galaxia-issuance"⟩
    else pure ()
  | none => pure ()

def publishAuditRequired (auditId : Text) (event : AuditRequiredEvent) : Async backend Unit :=
  handleAuditRequiredEvent auditId event

def publishOfferingCreated (auditId : Text) (event : OfferingCreatedEvent) : Async backend Unit :=
  handleOfferingCreatedEvent auditId event

/-- `metadata?.key`. -/
def field (metadata : Option Json) (key : Text) : Option Json := metadata.bind fun m => m.get key

/-- `metadata?.offeringId || ''`. -/
def offeringIdOf (metadata : Option Json) : Json :=
  match field metadata (units "offeringId") with
  | some v => if v.truthy then v else .str []
  | none => .str []

/-- The continuation of the import: it publishes, and logs what the handler raises. The
argument is the uuid an audit request of this turn gets. -/
def continuation (auditId : Text) : AuditSignal → Async backend Unit
  | .auditRequested _ request => do
    Async.await .importHandlers (.remote ())
    (publishAuditRequired auditId ⟨offeringIdOf request.metadata, request.contractCode, request.contractAddress,
      request.blockchain, request.requestedBy⟩).handle fun _ => pure ()
  | .offeringCreated offeringId request => do
    Async.await .importHandlers (.remote ())
    (publishOfferingCreated auditId ⟨offeringId, request.offeringType, field request.metadata (units "contractCode"),
      field request.metadata (units "contractAddress")⟩).handle fun _ => pure ()

end GalaxiaAin.Audit
