import GalaxiaAin.Issuance.Audits
import GalaxiaAin.Library.Duration

/-! IssuanceService: offerings, accreditations and the minting of tokens. The uuids and the
clock readings of a call are its arguments; times are milliseconds, and dates those of UTC. -/
namespace GalaxiaAin.Issuance
open GalaxiaAin.Library

/-- `v || {}` and `v || []`. -/
def orElse (v : Option Json) (default : Json) : Json := (v.filter Json.truthy).getD default

/-- The row `createOffering` inserts. -/
def offeringRow (offeringId issuerId : Text) (request : OfferingRequest) : Except IssuanceFailure OfferingRow := do
  let amount ← assign priceFormat request.offeringAmount
  let supply ← assign tokenFormat request.totalSupply
  let decimals ← integer (.finite ((request.decimals.filter (· ≠ 0)).getD 18))
  return {
    offering_id := offeringId
    offering_type := request.offeringType
    security_type := request.securityType
    issuer_id := issuerId
    issuer_details := request.issuerDetails
    audit_certification_id := request.auditCertificationId
    offering_amount := amount
    token_name := request.tokenName
    token_symbol := request.tokenSymbol
    total_supply := supply
    decimals := decimals
    transfer_restrictions := request.transferRestrictions
    status := units "ready_for_issuance"
    compliance_status := .obj [(units "kyc", .str (units "pending")), (units "aml", .str (units "pending"))]
    compliance_documents := orElse request.complianceDocuments (.arr [])
    metadata := orElse request.metadata (.obj []) }

def insertOffering (offeringId issuerId : Text) (request : OfferingRequest) : Stmt backend Unit :=
  .statement fun db => do
    let row ← offeringRow offeringId issuerId request
    if db.offerings.any fun o => o.offering_id == offeringId then .error .uniqueViolation
    else if db.audit_certifications.any fun c => c.certification_id == request.auditCertificationId then
      .ok ((), fun db => { db with offerings := db.offerings ++ [row] })
    else .error .foreignKeyViolation

def offeringOf (offeringId : Text) (db : IssuanceDb) : Option OfferingRow :=
  db.offerings.find? fun o => o.offering_id == offeringId

def getOffering (offeringId : Text) : Async backend (Option OfferingRow) :=
  Async.await .getOffering (.pool (.select fun _ db => offeringOf offeringId db))

/-- Up to COMMIT: the certification is verified and the offering inserted. -/
def offer (now : Nat) (offeringId issuerId : Text) (request : OfferingRequest) : Async backend Unit := do
  let certVerification ← verifyCertification now request.auditCertificationId
  onlyIf (!certVerification.valid || !certVerification.certified) (throw IssuanceFailure.uncertifiedAudit)
  Async.query .insertOffering (insertOffering offeringId issuerId request)

def createOffering (now : Nat) (offeringId issuerId : Text) (request : OfferingRequest) :
    Async backend (Option OfferingRow) :=
  Async.withClient .connect <| Async.orRollback .rollback do
    Async.await .begin .begin
    offer now offeringId issuerId request
    Async.await .commit .commit
    Async.emit (.offeringCreated offeringId request)
    getOffering offeringId

def investorOf (userId : Text) (db : IssuanceDb) : Option InvestorRow :=
  db.investors.find? fun i => i.galaxia_id_user_id == userId

def insertInvestor (row : InvestorRow) : Stmt backend Unit :=
  .statement fun db =>
    if db.investors.any fun i => i.investor_id == row.investor_id then .error .uniqueViolation
    else .ok ((), fun db => { db with investors := db.investors ++ [row] })

structure AccreditationRequest where
  investorId : Text
  accreditationType : Text
  verificationType : Text

/-- The uuid a new investor gets, the time of the verification and the day a year later. -/
structure VerificationTurn where
  investorId : Text
  verifiedAt : Nat
  expiresAt : Nat

def accreditedBy (verificationType : Text) : Bool :=
  verificationType == units "automatic" || verificationType == units "third-party"

/-- What a verification makes of the investor's row. -/
def InvestorRow.verified (turn : VerificationTurn) (verificationType : Text) (i : InvestorRow) : InvestorRow :=
  { i with
    accreditation_status := some (if accreditedBy verificationType then units "accredited" else units "non-accredited")
    accreditation_verified_at := some turn.verifiedAt
    accreditation_expires_at := some turn.expiresAt
    verification_method := some verificationType }

def updateInvestor (turn : VerificationTurn) (verificationType investorId : Text) : Stmt backend Unit :=
  .update fun _ db => { db with
    investors := db.investors.map fun i => if i.investor_id = investorId then i.verified turn verificationType else i }

/-- A new investor of `verifyAccreditation`. -/
def pendingInvestor (turn : VerificationTurn) (request : AccreditationRequest) : InvestorRow where
  investor_id := turn.investorId
  galaxia_id_user_id := request.investorId
  accreditation_status := some (units "pending")
  accreditation_type := some request.accreditationType
  accreditation_verified_at := none
  accreditation_expires_at := none
  verification_method := some request.verificationType
  jurisdiction := units "US"

/-- The investor of the user, inserted when there is none. -/
def getOrCreate (row : InvestorRow) : Async backend Text := do
  let investor ← Async.await .selectInvestor
    (.pool (.select fun _ db => (investorOf row.galaxia_id_user_id db).map (·.investor_id)))
  match investor with
  | some investorId => pure investorId
  | none =>
    Async.query .insertInvestor (insertInvestor row)
    pure row.investor_id

def accredit (turn : VerificationTurn) (request : AccreditationRequest) : Async backend Unit := do
  let investorId ← getOrCreate (pendingInvestor turn request)
  Async.query .updateInvestor (updateInvestor turn request.verificationType investorId)

/-- Whether the investor is accredited, as `verifyAccreditation` reports it. -/
def verifyAccreditation (turn : VerificationTurn) (request : AccreditationRequest) : Async backend Bool :=
  Async.withClient .connect <| Async.orRollback .rollback do
    Async.await .begin .begin
    accredit turn request
    Async.await .commit .commit
    pure (accreditedBy request.verificationType)

/-- The `accredited` of the status; it does not look at the expiry. -/
def accredited (i : Option InvestorRow) : Bool :=
  i.any fun i => i.accreditation_status == some (units "accredited")

def getAccreditationStatus (userId : Text) : Async backend (Option InvestorRow) :=
  Async.await .accreditationStatus (.pool (.select fun _ db => investorOf userId db))

structure TokenMintRequest where
  offeringId : Text
  investorId : Text
  tokenAmount : ℚ
  vestingSchedule : Option VestingSchedule
  lockupPeriod : Option Text
  purchasePrice : ℚ
  purchaseDate : Option Nat
  walletAddress : Text

/-- The uuids a mint draws, and its time. -/
structure MintTurn where
  investorId : Text
  holdingId : Text
  now : Nat

/-- An investor of `mintTokens`: nothing is known of an accreditation. -/
def unknownInvestor (turn : MintTurn) (request : TokenMintRequest) : InvestorRow where
  investor_id := turn.investorId
  galaxia_id_user_id := request.investorId
  accreditation_status := none
  accreditation_type := none
  accreditation_verified_at := none
  accreditation_expires_at := none
  verification_method := none
  jurisdiction := units "US"

/-- What `lockupPeriod.match(/P(\d+)M/)` captures. -/
def matchMonths : Text → Option Text
  | [] => none
  | c :: rest =>
    if c = 80 ∧ rest.takeWhile isDigit ≠ [] ∧ (rest.dropWhile isDigit).head? = some 77 then some (rest.takeWhile isDigit)
    else matchMonths rest

/-- The lockup of a period, computed at a time: a period that does not match ends at once. -/
def lockupEndDate (now : Nat) (lockupPeriod : Option Text) : Option Nat :=
  (orNull lockupPeriod).map fun period =>
    match matchMonths period with
    | some months => onDay (addMonths (parseDigits months)) now
    | none => now

/-- A date that JavaScript can hold; another is refused by its column. -/
def validDate (date : Option Nat) : Except IssuanceFailure (Option Nat) :=
  if date.all fun time => decide (time ≤ 8640000000000000) then .ok date else .error .invalidDate

def vestingRow (request : TokenMintRequest) : Option VestingRow :=
  request.vestingSchedule.map fun schedule => { schedule with vestedAmount := 0, unvestedAmount := request.tokenAmount }

/-- The row `mintTokens` inserts. -/
def holdingRow (turn : MintTurn) (request : TokenMintRequest) (investorId : Text) (restrictions : Json) :
    Except IssuanceFailure HoldingRow := do
  let amount ← assign tokenFormat request.tokenAmount
  let price ← assign priceFormat request.purchasePrice
  let lockup ← validDate (lockupEndDate turn.now request.lockupPeriod)
  return {
    holding_id := turn.holdingId
    offering_id := request.offeringId
    investor_id := investorId
    token_amount := amount
    purchase_price := price
    purchase_date := request.purchaseDate.getD turn.now
    vesting_schedule := vestingRow request
    lockup_end_date := lockup
    transfer_restrictions := restrictions
    wallet_address := request.walletAddress }

def insertHolding (turn : MintTurn) (request : TokenMintRequest) (investorId : Text) (restrictions : Json) :
    Stmt backend Unit :=
  .statement fun db => do
    let row ← holdingRow turn request investorId restrictions
    if db.token_holdings.any fun h => h.holding_id == row.holding_id then .error .uniqueViolation
    else .ok ((), fun db => { db with token_holdings := db.token_holdings ++ [row] })

/-- `rows[0]?.transfer_restrictions || {}`. -/
def restrictionsOf (o : Option OfferingRow) : Json := orElse (o.map (·.transfer_restrictions)) (.obj [])

def accreditedOnly (restrictions : Json) : Bool := (restrictions.get (units "accreditedOnly")).any Json.truthy

/-- Up to COMMIT: the checks, and the rows of the investor and the holding. -/
def mint (turn : MintTurn) (request : TokenMintRequest) : Async backend Unit := do
  let offering ← getOffering request.offeringId
  onlyIf (!(offering.any fun o => o.status == units "active")) (throw IssuanceFailure.offeringNotActive)
  let accreditation ← getAccreditationStatus request.investorId
  let restrictions ← Async.await .selectRestrictions
    (.pool (.select fun _ db => restrictionsOf (offeringOf request.offeringId db)))
  onlyIf (accreditedOnly restrictions && !(accredited accreditation)) (throw IssuanceFailure.notAccredited)
  let investorId ← getOrCreate (unknownInvestor turn request)
  Async.query .insertHolding (insertHolding turn request investorId restrictions)

def getTokenHolding (holdingId : Text) : Async backend (Option HoldingRow) :=
  Async.await .getTokenHolding (.pool (.select fun _ db => db.token_holdings.find? fun h => h.holding_id == holdingId))

def mintTokens (turn : MintTurn) (request : TokenMintRequest) : Async backend HoldingRow :=
  Async.withClient .connect <| Async.orRollback .rollback do
    Async.await .begin .begin
    mint turn request
    Async.await .commit .commit
    Async.emit (.tokenIssued request.offeringId request.investorId request.tokenAmount)
    let holding ← getTokenHolding turn.holdingId
    match holding with
    | some holding => pure holding
    | none => throw IssuanceFailure.holdingNotFound

/-! ### Runs -/

inductive IssuanceCall where
  | createAuditRequest (auditId : Text) (input : Audit.AuditRequestInput)
  | addFindings (auditId : Text) (findings : List AuditFinding)
  | completeAudit (certificationId auditId : Text) (findings : List AuditFinding) (complianceScore : JsNumber)
  | createOffering (now : Nat) (offeringId issuerId : Text) (request : OfferingRequest)
  | verifyAccreditation (turn : VerificationTurn) (request : AccreditationRequest)
  | mintTokens (turn : MintTurn) (request : TokenMintRequest)

def IssuanceCall.program : IssuanceCall → Async backend Unit
  | .createAuditRequest auditId input => do let _ ← Issuance.createAuditRequest auditId input
  | .addFindings auditId findings => Issuance.addFindings auditId findings
  | .completeAudit certificationId auditId findings score => do
    let _ ← Issuance.completeAudit certificationId auditId findings score
  | .createOffering now offeringId issuerId request => do
    let _ ← Issuance.createOffering now offeringId issuerId request
  | .verifyAccreditation turn request => do let _ ← Issuance.verifyAccreditation turn request
  | .mintTokens turn request => do let _ ← Issuance.mintTokens turn request

/-- A call and how it was answered. -/
structure Performed where
  call : IssuanceCall
  result : Except IssuanceFailure Unit

end GalaxiaAin.Issuance
