import GalaxiaAin.Gateway.Compliance

/-! The middleware of the inference route: the optional Galaxia ID, the API key, the CSRF
token, the rate limit and the request signature. -/
namespace GalaxiaAin.Gateway
open GalaxiaAin.Library

/-- `x-pq-snark-signature`, read as JSON. -/
structure PqSnarkSignature where
  proof : Json
  publicSignals : Json
  timestamp : Number

structure QuantumSignature where
  signature : Text
  publicKey : Text
  algorithm : Text
  timestamp : Number

/-- The object `buildRequestSigningPayload` puts into JSON. -/
structure SigningPayload where
  domain : Text
  method : Text
  path : Text
  body : Json
  timestamp : Number

structure RateRecord where
  count : Nat
  resetAt : Nat

/-- What the middleware finds around it: the platform, the services, the readings of the
clock in milliseconds and the rate limits kept in memory. -/
structure Environment where
  uuid : Text → Option UserId
  sha256 : Text → Text
  /-- `parseInt(text, 10)`. -/
  parseInt : Text → Number
  /-- `verifyToken`; none where it throws. -/
  verifyToken : Text → Option GalaxiaIdUser
  /-- `parseJsonHeader`; none for a malformed and for a falsy value. -/
  parsePqSnark : Text → Option PqSnarkSignature
  verifyPqSnarkSignature : PqSnarkSignature → Bool
  /-- `quantumSecurityService.verify`, which answers false when it fails. -/
  verifyQuantum : SigningPayload → QuantumSignature → Bool
  /-- `PQ_SNARK_ENABLED` is true. -/
  pqEnabled : Bool
  maxSkewMs : ℚ
  keyCheckedAt : Nat
  rateCheckedAt : Nat
  signatureCheckedAt : Nat
  rateLimitMap : UserId → Option RateRecord

variable (env : Environment)

/-- The token of an Authorization header of the Bearer scheme. -/
def bearerToken (header : Option Text) : Option Text :=
  header.bind fun h => if (units "Bearer ").isPrefixOf h then some (h.drop 7) else none

def optionalGalaxiaAuth : Middleware := fun req =>
  match (bearerToken req.authorization).bind env.verifyToken with
  | some user => pure (.next { req with userId := user.id, galaxiaUser := some user })
  | none => pure (.next req)

/-- SELECT * FROM api_keys WHERE key_hash = $1 AND is_active = true. -/
def selectApiKey (keyHash : Text) : Stmt gateway (Option ApiKey) :=
  .select fun _ db => db.api_keys.find? fun key => key.key_hash == keyHash && key.is_active == some true

def ApiKey.expired (key : ApiKey) (now : Nat) : Bool := key.expires_at.any fun t => decide (t < now)

def authenticateApiKey : Middleware := fun req =>
  Async.handle (
    match present req.apiKey with
    | none => pure (.answered (.unauthorized (units "API key required")))
    | some apiKey => do
      match ← Async.await .apiKey (.pool (selectApiKey (env.sha256 apiKey))) with
      | none => pure (.answered (.unauthorized (units "Invalid API key")))
      | some key =>
        if key.expired env.keyCheckedAt then pure (.answered (.unauthorized (units "API key expired")))
        else pure (.next { req with apiKeyId := some key.id, userId := key.user_id }))
    fun _ => pure (.answered (.serverError (units "Authentication error")))

/-- The header and the cookie are there and agree, or the method needs no token. -/
def csrfValid (http : HttpRequest) : Bool :=
  [units "GET", units "HEAD", units "OPTIONS"].contains http.method ||
    ((present http.csrfToken).isSome && (present http.csrfCookie).isSome && http.csrfToken == http.csrfCookie)

def csrfProtection : Middleware := fun req =>
  if csrfValid req.toHttpRequest then pure (.next req)
  else pure (.answered (.forbidden (units "CSRF token validation failed")))

/-- The answer to a key whose window of a minute is used up. -/
def rateLimited (apiKeyId : UserId) : Option Response :=
  (env.rateLimitMap apiKeyId).bind fun record =>
    if record.resetAt < env.rateCheckedAt then none
    else if 100 ≤ record.count then
      some (.tooManyRequests (units "Rate limit exceeded") ((record.resetAt - env.rateCheckedAt + 999) / 1000))
    else none

def rateLimit : Middleware := fun req =>
  match req.apiKeyId.bind (rateLimited env) with
  | some response => pure (.answered response)
  | none => pure (.next req)

def buildRequestSigningPayload (http : HttpRequest) (timestamp : Number) : SigningPayload :=
  ⟨units "galaxia-request-v1", http.method, http.path, http.body, timestamp⟩

/-- The timestamp is outside the replay window; NaN never is. -/
def skewed : Number → Bool
  | .nan => false
  | .finite t => decide (env.maxSkewMs < |(env.signatureCheckedAt : ℚ) - t|)
  | .infinity | .negInfinity => true

/-- The field ok of `SignatureVerifier.verifyRequest`. -/
def verifyRequest (http : HttpRequest) : Bool :=
  match (present http.pqSnarkSignature).filter fun _ => env.pqEnabled with
  | some header =>
    match env.parsePqSnark header with
    | none => false
    | some pqSig => !skewed env pqSig.timestamp && env.verifyPqSnarkSignature pqSig
  | none =>
    let timestamp := ((present http.quantumTimestamp).map env.parseInt).getD (.finite env.signatureCheckedAt)
    match present http.quantumSignature, present http.quantumPublicKey with
    | some signature, some publicKey =>
      let algorithm := (present http.quantumAlgorithm).getD (units "CRYSTALS-Dilithium")
      env.verifyQuantum (buildRequestSigningPayload http timestamp) ⟨signature, publicKey, algorithm, timestamp⟩
    | _, _ => true

/-- Both verifications catch their errors, so the catch block of the middleware is never run. -/
def verifyQuantumSignature : Middleware := fun req =>
  if verifyRequest env req.toHttpRequest then pure (.next req)
  else pure (.answered (.unauthorized (units "Invalid signature")))

/-- The middleware in front of the handler of POST /v1/inference: first that of the
application, then that of the route. -/
def inferenceMiddleware : List Middleware :=
  complianceMiddleware env.uuid ++ [optionalGalaxiaAuth env, authenticateApiKey env, csrfProtection, rateLimit env,
    verifyQuantumSignature env]

end GalaxiaAin.Gateway
