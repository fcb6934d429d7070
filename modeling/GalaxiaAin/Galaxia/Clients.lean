import GalaxiaAin.Galaxia.Ecosystem

/-! The clients built on `request`: GXACoinService, GalaxiaIdService,
QuantumSecurityService, GalaxiaAuditClient and GalaxiaIssuanceClient. The date
constructor and the local cryptography of the fallbacks are parameters. -/
namespace GalaxiaAin.Galaxia
open Library

structure Environment where
  /-- `new Date(v)`. -/
  newDate : Value → Json
  /-- ALLOW_LEGACY_ECDSA_FALLBACK. -/
  allowLegacyEcdsaFallback : Bool
  encryptPrivateKey : Value → Except Text Text
  generateHybridKeyPair : Text → Json
  hybridSign : Except Text Json
  auditUrl : Text
  issuanceUrl : Text

/-! ### The ways a response is read -/

def whole (v : Value) : Except Text Value := .ok v

/-- `Boolean(result?.valid)`. -/
def validity (v : Value) : Except Text Value := .ok (some (.bool (truthy (readOptional v "valid"))))

def rethrow (message : String) (error : Text) : Except Text Value := .error (units message ++ error)

variable (env : Environment)

/-- `v.key ? new Date(v.key) : undefined`. -/
def optionalDate (v : Value) (key : String) : Except Text Value := do
  let date ← read v key
  return if truthy date then some (env.newDate date) else none

/-- Optional dates written after the properties of a record. -/
def withDates (v : Value) : List String → List (Text × Json) → Except Text (List (Text × Json))
  | [], fields => .ok fields
  | key :: keys, fields => do
    let date ← optionalDate env v key
    withDates v keys (assign key date fields)

/-- The spread value with its optional dates parsed. -/
def dated (keys : List String) (v : Value) : Except Text Value := do
  let fields ← withDates env v keys (spread v)
  return some (.obj fields)

/-- The same with a date before them that is always parsed. -/
def datedFrom (first : String) (keys : List String) (v : Value) : Except Text Value := do
  let start ← read v first
  let fields ← withDates env v keys (assign first (some (env.newDate start)) (spread v))
  return some (.obj fields)

/-! ### GXACoinService -/

def zeroBalance (address : Text) : Json :=
  .obj [(units "address", .str address), (units "balance", .str (units "0")), (units "available", .str (units "0")),
    (units "locked", .str (units "0")), (units "token", .str (units "GXA"))]

def getBalance (address : Text) (chainId : Option Text) : Client where
  endpoint := units "/v1/gxa/balance/" ++ address ++ ((chainId.filter (· ≠ [])).elim [] fun c => units "?chainId=" ++ c)
  direct := false
  pick := whole
  recover := fun _ => .ok (some (zeroBalance address))

def transfer : Client where
  endpoint := units "/v1/gxa/transfer"
  direct := false
  pick := whole
  recover := rethrow "GXA transfer failed: "

def getTransactionStatus (txId : Text) : Client where
  endpoint := units "/v1/gxa/transaction/" ++ txId
  direct := false
  pick := whole
  recover := rethrow "Failed to get transaction status: "

def estimateFee : Client where
  endpoint := units "/v1/gxa/estimate-fee"
  direct := false
  pick := fun v => read v "fee"
  recover := fun _ => .ok (some (.str (units "0.001")))

/-! ### GalaxiaIdService -/

def authenticateWithWallet : Client where
  endpoint := units "/v1/auth/wallet"
  direct := false
  pick := whole
  recover := rethrow "Authentication failed: "

def getUserProfile : Client where
  endpoint := units "/v1/auth/profile"
  direct := false
  pick := whole
  recover := rethrow "Failed to get user profile: "

def refreshToken : Client where
  endpoint := units "/v1/auth/refresh"
  direct := false
  pick := whole
  recover := rethrow "Token refresh failed: "

def verifyToken : Client where
  endpoint := units "/v1/auth/verify"
  direct := false
  pick := whole
  recover := rethrow "Token verification failed: "

/-! ### QuantumSecurityService -/

/-- The key pair is cached, its private key encrypted, before it is returned. -/
def cached (keyPair : Value) : Except Text Value := do
  let _ ← read keyPair "keyId"
  let privateKey ← read keyPair "privateKey"
  let _ ← env.encryptPrivateKey privateKey
  return keyPair

def generateKeyPair (algorithm : Text) : Client where
  endpoint := units "/v1/quantum/generate-keypair"
  direct := false
  pick := cached env
  recover := fun _ =>
    if env.allowLegacyEcdsaFallback then .ok (some (env.generateHybridKeyPair algorithm))
    else .error (units ("Quantum key generation failed and legacy ECDSA fallback is disabled " ++
      "(set ALLOW_LEGACY_ECDSA_FALLBACK=true to override)"))

/-- `sign` once the key pair it signs with is in the cache. -/
def sign : Client where
  endpoint := units "/v1/quantum/sign"
  direct := false
  pick := whole
  recover := fun _ =>
    if env.allowLegacyEcdsaFallback then env.hybridSign.map some
    else .error (units ("Quantum signing failed and legacy ECDSA fallback is disabled " ++
      "(set ALLOW_LEGACY_ECDSA_FALLBACK=true to override)"))

def verify : Client where
  endpoint := units "/v1/quantum/verify"
  direct := false
  pick := fun v => read v "valid"
  recover := fun _ => .ok (some (.bool false))

/-- The key `encrypt` gets from the network. -/
def encryptKey : Client where
  endpoint := units "/v1/quantum/encrypt-key"
  direct := false
  pick := fun v => read v "encryptedKey"
  recover := rethrow "Encryption failed: "

/-- The key `decrypt` gets from the network. -/
def decryptKey : Client where
  endpoint := units "/v1/quantum/decrypt-key"
  direct := false
  pick := fun v => read v "decryptedKey"
  recover := rethrow "Decryption failed: "

def verifySignature : Client where
  endpoint := units "/quantum/verify-signature"
  direct := true
  pick := validity
  recover := fun _ => .ok (some (.bool env.allowLegacyEcdsaFallback))

def verifyAttestation : Client where
  endpoint := units "/quantum/verify-attestation"
  direct := true
  pick := validity
  recover := fun _ => .ok (some (.bool env.allowLegacyEcdsaFallback))

/-! ### GalaxiaAuditClient -/

def requestAudit : Client where
  endpoint := env.auditUrl ++ units "/api/v1/audit/request"
  direct := false
  pick := whole
  recover := rethrow "Audit request failed: "

def getAuditStatus (auditId : Text) : Client where
  endpoint := env.auditUrl ++ units "/api/v1/audit/" ++ auditId ++ units "/status"
  direct := false
  pick := datedFrom env "createdAt" ["completedAt", "estimatedCompletion"]
  recover := rethrow "Get audit status failed: "

/-- A PDF report is the response itself. -/
def getAuditReport (auditId : Text) (pdf : Bool) : Client where
  endpoint := env.auditUrl ++ units "/api/v1/audit/" ++ auditId ++ units "/report?format=" ++
    units (if pdf then "pdf" else "json")
  direct := pdf
  pick := if pdf then whole else datedFrom env "generatedAt" []
  recover := rethrow "Get audit report failed: "

def verifyCertification (certificationId : Text) : Client where
  endpoint := env.auditUrl ++ units "/api/v1/audit/certification/" ++ certificationId ++ units "/verify"
  direct := false
  pick := dated env ["expiresAt"]
  recover := rethrow "Verify certification failed: "

def startMonitoring : Client where
  endpoint := env.auditUrl ++ units "/api/v1/audit/monitor"
  direct := false
  pick := whole
  recover := rethrow "Start monitoring failed: "

/-- Nothing is read of the response. -/
def stopMonitoring (monitoringId : Text) : Client where
  endpoint := env.auditUrl ++ units "/api/v1/audit/monitor/" ++ monitoringId
  direct := true
  pick := fun _ => .ok none
  recover := rethrow "Stop monitoring failed: "

/-! ### GalaxiaIssuanceClient -/

def createOffering : Client where
  endpoint := env.issuanceUrl ++ units "/api/v1/issuance/offering"
  direct := false
  pick := datedFrom env "createdAt" ["activatedAt", "closedAt"]
  recover := rethrow "Create offering failed: "

def getOffering (offeringId : Text) : Client where
  endpoint := env.issuanceUrl ++ units "/api/v1/issuance/offering/" ++ offeringId
  direct := false
  pick := datedFrom env "createdAt" ["activatedAt", "closedAt"]
  recover := rethrow "Get offering failed: "

def verifyAccreditation : Client where
  endpoint := env.issuanceUrl ++ units "/api/v1/issuance/accreditation/verify"
  direct := false
  pick := dated env ["verifiedAt", "expiresAt"]
  recover := rethrow "Verify accreditation failed: "

def getAccreditationStatus (investorId : Text) : Client where
  endpoint := env.issuanceUrl ++ units "/api/v1/issuance/accreditation/" ++ investorId
  direct := false
  pick := fun v => if truthy v then dated env ["verifiedAt", "expiresAt"] v else .ok (some .null)
  recover := rethrow "Get accreditation status failed: "

/-- The vesting schedule of a minted holding. -/
def vestingSchedule (v : Value) : Except Text Value := do
  let schedule ← read v "vestingSchedule"
  if truthy schedule then datedFrom env "startDate" ["nextVestDate"] schedule else return none

def mintTokens : Client where
  endpoint := env.issuanceUrl ++ units "/api/v1/issuance/token/mint"
  direct := false
  pick := fun v => do
    let purchaseDate ← read v "purchaseDate"
    let schedule ← vestingSchedule env v
    let lockupEndDate ← optionalDate env v "lockupEndDate"
    return some (.obj (assign "lockupEndDate" lockupEndDate
      (assign "vestingSchedule" schedule (assign "purchaseDate" (some (env.newDate purchaseDate)) (spread v)))))
  recover := rethrow "Mint tokens failed: "

/-- One holder of a cap table. -/
def capTableHolder (holder : Json) : Except Text Json := do
  let purchaseDate ← read (some holder) "purchaseDate"
  let status ← read (some holder) "vestingStatus"
  let vestingStatus ← if truthy status then dated env ["nextVestDate"] status else pure none
  return .obj (assign "vestingStatus" vestingStatus
    (assign "purchaseDate" (some (env.newDate purchaseDate)) (spread (some holder))))

def getCapTable (offeringId : Text) : Client where
  endpoint := env.issuanceUrl ++ units "/api/v1/issuance/offering/" ++ offeringId ++ units "/cap-table"
  direct := false
  pick := fun v => do
    match ← read v "holders" with
    | some (.arr holders) =>
      return some (.obj (assign "holders" (some (.arr (← holders.mapM (capTableHolder env)))) (spread v)))
    | none => .error (units "Cannot read properties of undefined (reading 'map')")
    | some .null => .error (units "Cannot read properties of null (reading 'map')")
    | some _ => .error (units "response.data.holders.map is not a function")
  recover := rethrow "Get cap table failed: "

def submitFiling (filingType : Text) : Client where
  endpoint := env.issuanceUrl ++ units "/api/v1/issuance/filing/" ++ filingType
  direct := false
  pick := dated env ["submittedAt"]
  recover := rethrow "Submit filing failed: "

def getFilingStatus (filingId : Text) : Client where
  endpoint := env.issuanceUrl ++ units "/api/v1/issuance/filing/" ++ filingId
  direct := false
  pick := dated env ["submittedAt"]
  recover := rethrow "Get filing status failed: "

def checkTransferRestrictions : Client where
  endpoint := env.issuanceUrl ++ units "/api/v1/issuance/transfer/check"
  direct := false
  pick := whole
  recover := rethrow "Check transfer restrictions failed: "

end GalaxiaAin.Galaxia
