import GalaxiaAin.Gateway.Request

/-! The compliance middleware, which the application installs for all routes. Each check
looks at the user the request carries, and lets the request pass when there is none and
when the check fails. -/
namespace GalaxiaAin.Gateway
open GalaxiaAin.Library GalaxiaAin.Payments

/-- A statement about one user; the text of the id may be no uuid. -/
def ofUser {ρ : Type} (uuid : Text → Option UserId) (userId : Text) (f : GatewayDb → UserId → ρ) : Stmt gateway ρ :=
  .selection fun db =>
    match uuid userId with
    | some id => .ok (f db id)
    | none => .error .invalidUuid

def jurisdictionOf (db : GatewayDb) (id : UserId) : Option JurisdictionRow :=
  db.user_jurisdictions.find? fun row => row.user_id == id

def profileOf (db : GatewayDb) (id : UserId) : Option ProfileRow := db.kyc_profiles.find? fun row => row.user_id == id

/-- `SUM(amount)` of the payments of a user completed today. -/
def dailyTotal (db : GatewayDb) (id : UserId) : ℚ :=
  parseFloat ((db.token_transactions.filter fun t => t.user_id == some id && t.transaction_type == .payment &&
    t.day == db.today && t.status == .completed).map (·.amount)).sum

/-- What `isGeoBlocked` makes of the row it finds. -/
def blockedBy (row : Option JurisdictionRow) : Bool := (row.bind (·.geo_blocked)) == some true

/-- What `isKYCRequired` makes of the row it finds. -/
def requiresKyc (amount : Number) : Option ProfileRow → Bool
  | none => true
  | some profile => profile.kyc_status ≠ .approved || amount.above (parseFloat profile.single_transaction_limit)

section
variable (uuid : Text → Option UserId)

def isGeoBlocked (userId : Text) : Async gateway Bool :=
  Async.await .geoBlocked (.pool (ofUser uuid userId fun db id => blockedBy (jurisdictionOf db id)))

def isKYCRequired (userId : Text) (amount : Number) : Async gateway Bool :=
  Async.await .kycRequired (.pool (ofUser uuid userId fun db id => requiresKyc amount (profileOf db id)))

def getUserJurisdiction (userId : Text) : Async gateway (Option JurisdictionRow) :=
  Async.await .jurisdiction (.pool (ofUser uuid userId jurisdictionOf))

def getKYCProfile (site : GatewaySite) (userId : Text) : Async gateway (Option ProfileRow) :=
  Async.await site (.pool (ofUser uuid userId profileOf))

/-- The frame of the four checks: without a user, and on an error, the request passes. -/
def checked (req : Request) (check : Text → Async gateway Outcome) : Async gateway Outcome :=
  match present req.userId with
  | none => pure (.next req)
  | some userId => Async.handle (check userId) fun _ => pure (.next req)

def geoBlockingMiddleware : Middleware := fun req => checked req fun userId => do
  if ← isGeoBlocked uuid userId then do
    let jurisdiction ← getUserJurisdiction uuid userId
    pure (.answered (.geoBlocked (jurisdiction.bind (·.detected_country))
      (if (jurisdiction.bind (·.jurisdiction_status)) = some (units "requires_license")
        then units "License required in your jurisdiction" else units "Service restricted in your jurisdiction")))
  else pure (.next req)

/-- `text.includes(part)`. -/
def includes (text part : Text) : Bool := text.tails.any fun tail => part.isPrefixOf tail

def isPost (req : Request) : Bool := req.method == units "POST"

def kycVerificationMiddleware : Middleware := fun req => checked req fun userId =>
  let isTransactionEndpoint := includes req.path (units "/payment") || includes req.path (units "/transaction") ||
    includes req.path (units "/inference") ||
    isPost req && (includes req.path (units "/tasks") || includes req.path (units "/transfer"))
  if isTransactionEndpoint && req.amount.above 0 then do
    if ← isKYCRequired uuid userId req.amount then do
      let profile ← getKYCProfile uuid .kycProfile userId
      pure (.answered (.kycRequired (profile.map (·.kyc_status)) (profile.map (·.kyc_level)) req.amount))
    else pure (.next req)
  else pure (.next req)

def transactionLimitMiddleware : Middleware := fun req => checked req fun userId =>
  let isTransactionEndpoint := includes req.path (units "/payment") || includes req.path (units "/transaction") ||
    isPost req && includes req.path (units "/inference")
  if isTransactionEndpoint && req.amount.above 0 then do
    match ← getKYCProfile uuid .limitProfile userId with
    | none => pure (.next req)
    | some profile =>
      let singleLimit := parseFloat profile.single_transaction_limit
      if 0 < singleLimit && req.amount.above singleLimit then
        pure (.answered (.overLimit req.amount singleLimit profile.verification_tier profile.kyc_level))
      else do
        let total ← Async.await .dailyTotal (.pool (ofUser uuid userId dailyTotal))
        let dailyLimit := parseFloat profile.daily_limit
        if 0 < dailyLimit && (req.amount.add total).above dailyLimit then
          pure (.answered (.overDailyLimit req.amount total dailyLimit (dailyLimit - total)))
        else pure (.next req)
  else pure (.next req)

def complianceRelevantPaths : List Text :=
  [units "/compliance/", units "/payment", units "/transaction", units "/kyc", units "/complaints"]

/-- INSERT INTO audit_logs. -/
def insertAuditLog (req : Request) (userId : Text) : Stmt gateway Unit :=
  .statement fun _ =>
    match uuid userId with
    | none => .error .invalidUuid
    | some id => .ok ((), fun db => { db with audit_logs := db.audit_logs ++
        [⟨id, req.apiKeyId, req.method ++ units " " ++ req.path, units "API request to " ++ req.path⟩] })

def complianceAuditMiddleware : Middleware := fun req => checked req fun userId =>
  if complianceRelevantPaths.any (includes req.path) then do
    Async.await .auditLog (.pool (insertAuditLog uuid req userId))
    pure (.next req)
  else pure (.next req)

def complianceMiddleware : List Middleware :=
  [geoBlockingMiddleware uuid, kycVerificationMiddleware uuid, transactionLimitMiddleware uuid,
    complianceAuditMiddleware uuid]

end
end GalaxiaAin.Gateway
