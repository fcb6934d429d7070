import GalaxiaAin.Library.Decimal
import GalaxiaAin.Library.Utf8
import GalaxiaAin.Tenant.Credentials

/-! Bearer tokens: the validation of a JWT, and the membership that decides the context. The
claims of a token are any JSON; what the token says of a role is not read. -/
namespace GalaxiaAin.Tenant.Credentials
open GalaxiaAin.Library GalaxiaAin.Tenant

/-- The environment variables and the platform of the validator. -/
structure JwtEnv where
  /-- `JWT_SECRET`. -/
  secret : Option Text
  /-- `JWT_ISSUER`. -/
  issuer : Option Text
  /-- `JWT_AUDIENCE`. -/
  audience : Option Text
  /-- `CLOCK_SKEW_SEC`, as text and as the summand of a number. -/
  clockSkew : Text
  addSkew : Number → Number
  subSkew : Number → Number
  /-- `Math.floor(Date.now() / 1000)`. -/
  now : Nat
  /-- `Buffer.from(text, 'base64')`. -/
  fromBase64 : Text → Bytes
  /-- `JSON.parse`; none where it throws. -/
  parseJson : Text → Option Json
  /-- `Number(v)`; none where the coercion throws. -/
  number : Json → Option Number
  /-- The HMAC-SHA256 of a text under a secret, as base64url. -/
  hmac : Text → Text → Text

inductive JwtError where
  /-- A `JwtValidationError`. -/
  | validation (code message : Text)
  | typeError

def jwtError {α : Type} (code message : String) : Except JwtError α := .error (.validation (units code) (units message))

variable (env : JwtEnv)

/-- The padding to a multiple of four. -/
def padding (input : Text) : Text := List.replicate ((4 - input.length % 4) % 4) 61

def base64UrlDecode (input : Text) : Bytes :=
  env.fromBase64 (input.map (fun c => if c = 45 then 43 else if c = 95 then 47 else c) ++ padding input)

/-- `JSON.parse(base64UrlDecode(part).toString('utf8'))`. -/
def decodePart (part : Text) : Option Json := env.parseJson (decodeUtf8 (base64UrlDecode env part))

/-- A property of a parsed value; null has none to read. -/
def property (v : Json) (name : Text) : Except JwtError (Option Json) :=
  match v with
  | .null => .error .typeError
  | v => .ok (v.get name)

/-- The checks of the header's algorithm. -/
def checkAlgorithm (header : Json) : Except JwtError Unit := do
  match ← property header (units "alg") with
  | some (.str alg) =>
    if alg = units "HS256" then .ok ()
    else if alg = units "RS256" then jwtError "ALGORITHM_NOT_ALLOWED" "Only HS256 local validation implemented"
    else .error (.validation (units "ALGORITHM_NOT_ALLOWED") (units "Algorithm " ++ alg ++ units " not allowed"))
  | some alg =>
    match alg.text with
    | some shown => .error (.validation (units "ALGORITHM_NOT_ALLOWED") (units "Algorithm " ++ shown ++ units " not allowed"))
    | none => .error .typeError
  | none => jwtError "ALGORITHM_NOT_ALLOWED" "Algorithm undefined not allowed"

def verifyHs256 (token secret : Text) : Except JwtError Json :=
  match token.splitOn 46 with
  | [headerB64, payloadB64, sigB64] =>
    match decodePart env headerB64 with
    | none => jwtError "MALFORMED_JWT" "Invalid JWT header"
    | some header => do
      checkAlgorithm header
      let expected := env.hmac secret (headerB64 ++ units "." ++ payloadB64)
      if base64UrlDecode env sigB64 = base64UrlDecode env expected then
        match decodePart env payloadB64 with
        | none => jwtError "MALFORMED_JWT" "Invalid JWT payload"
        | some payload => .ok payload
      else jwtError "INVALID_SIGNATURE" "JWT signature invalid"
  | _ => jwtError "MALFORMED_JWT" "Malformed JWT"

/-- `exp + CLOCK_SKEW_SEC`: a sum of numbers, or the text of both put together. -/
def withSkew (exp : Json) : Option Number :=
  match exp with
  | .null | .bool _ | .num _ => (env.number exp).map env.addSkew
  | exp => exp.text.bind fun t => env.number (.str (t ++ env.clockSkew))

/-- A comparison with the clock that throws where the coercion does. -/
def compared (n : Option Number) (p : Number → Bool) : Except JwtError Bool :=
  match n with
  | some n => .ok (p n)
  | none => .error .typeError

/-- `payload.exp !== undefined && payload.exp + CLOCK_SKEW_SEC < now`. -/
def expired : Option Json → Except JwtError Bool
  | none => .ok false
  | some exp => compared (withSkew env exp) (Number.below env.now)

/-- `payload.nbf !== undefined && payload.nbf - CLOCK_SKEW_SEC > now`. -/
def notYetValid : Option Json → Except JwtError Bool
  | none => .ok false
  | some nbf => compared ((env.number nbf).map env.subSkew) (Number.above env.now)

/-- `payload.sub` is truthy; a string has a method of that name. -/
def hasSub (payload : Json) (sub : Option Json) : Bool :=
  match payload with
  | .str _ => true
  | _ => sub.any Json.truthy

/-- The claim is the text. -/
def isText (claim : Option Json) (expected : Text) : Bool :=
  match claim with
  | some (.str s) => s == expected
  | _ => false

/-- `Array.isArray(aud) ? aud.includes(expectedAud) : aud === expectedAud`. -/
def forAudience (aud : Option Json) (expectedAud : Text) : Bool :=
  match aud with
  | some (.arr items) => items.any fun item => isText (some item) expectedAud
  | aud => isText aud expectedAud

/-- The checks of `validateClaims`. -/
def checkClaims (payload : Json) : Except JwtError Unit := do
  let sub ← property payload (units "sub")
  if !hasSub payload sub then jwtError "MISSING_SUB" "JWT missing sub claim"
  else if ← expired env (payload.get (units "exp")) then jwtError "TOKEN_EXPIRED" "JWT expired"
  else if ← notYetValid env (payload.get (units "nbf")) then jwtError "TOKEN_NOT_YET_VALID" "JWT not yet valid"
  else if (present env.issuer).any fun iss => !isText (payload.get (units "iss")) iss then
    jwtError "WRONG_ISSUER" "JWT issuer mismatch"
  else if (present env.audience).any fun aud => !forAudience (payload.get (units "aud")) aud then
    jwtError "WRONG_AUDIENCE" "JWT audience mismatch"
  else .ok ()

def validateClaims (payload : Json) : Except JwtError Json := (checkClaims env payload).map fun _ => payload

/-! ### Membership -/

/-- A row of `organization_members`. -/
structure Member where
  organization_id : Uuid
  user_id : Uuid
  role : Text
  status : Text

/-- A claim as a parameter of a query. -/
def claimText (rt : Runtime) : Json → Text
  | .str s => s
  | v => rt.parameter v

/-- The rows of `organization_members JOIN organizations` for a user and an organisation, with the
status of the organisation. -/
def memberships (rt : Runtime) (c : Settings) (members : List Member) (user organization : Uuid) (db : CredentialDb) :
    List (Member × Text) :=
  (members.filter fun m =>
    c.admits rt (some m.organization_id) && m.user_id == user && m.organization_id == organization).flatMap fun m =>
      (db.organizations.filter fun o => c.admits rt (some o.id) && o.id == m.organization_id).map fun o => (m, o.status)

def selectMember (rt : Runtime) (members : List Member) (sub organization : Text) :
    Stmt credentialBackend (List (Member × Text)) where
  run c db := do
    let user ← uuidText rt sub
    let organization ← uuidText rt organization
    return (memberships rt c members user organization db, id)

/-- `payload.organization_id || payload.org_id`, where one of them is truthy. -/
def orgHint (payload : Json) : Option Json :=
  ((payload.get (units "organization_id")).filter Json.truthy).or ((payload.get (units "org_id")).filter Json.truthy)

/-- A token that passes both validations, as its payload. -/
def validPayload (token secret : Text) : Except JwtError Json := do
  let payload ← verifyHs256 env token secret
  validateClaims env payload

/-- The context of a payload: the first membership row decides it. -/
def authFromPayload (rt : Runtime) (members : List Member) (requestId : Text) (payload : Json) :
    Async credentialBackend (Option AuthContext) :=
  match orgHint payload with
  | none => pure none
  | some org => do
    let sub := claimText rt ((payload.get (units "sub")).getD .null)
    let rows ← Async.await .bearer (.pool (selectMember rt members sub (claimText rt org)))
    match rows with
    | [] => pure none
    | (member, org_status) :: _ =>
      if member.status ≠ units "active" ∨ org_status ≠ units "active" then pure none
      else pure (some ⟨sub, claimText rt org, member.role, none, none, [], requestId⟩)

/-- `members` is the table at the time of the query. -/
def authFromBearerJwt (rt : Runtime) (members : List Member) (requestId token : Text) :
    Async credentialBackend (Option AuthContext) :=
  match present env.secret with
  | none => pure none
  | some secret =>
    match validPayload env token secret with
    | .error _ => pure none
    | .ok payload => authFromPayload rt members requestId payload

/-- The deployment in production. -/
def production (rt : Runtime) (allowDevAuth : Bool) (members : List Member) (requestId : Text) : AuthEnv where
  production := true
  allowDevAuth := allowDevAuth
  bearer := authFromBearerJwt env rt members requestId

end GalaxiaAin.Tenant.Credentials
