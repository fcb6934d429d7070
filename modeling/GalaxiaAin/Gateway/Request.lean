import GalaxiaAin.Library.Cascade
import GalaxiaAin.Payments.Schema

/-! Requests to the gateway, the tables its middleware reads, and the chain of middleware a
request goes through before its handler. -/
namespace GalaxiaAin.Gateway
open GalaxiaAin.Library GalaxiaAin.Payments

/-- The form in which the database prints a uuid. -/
abbrev UserId := Text

structure GalaxiaIdUser where
  id : Option Text
  address : Text
  walletType : Text

/-- What a client sends. -/
structure HttpRequest where
  method : Text
  path : Text
  body : Json
  /-- `parseFloat(req.body?.amount || req.query?.amount || '0')`. -/
  amount : Number
  authorization : Option Text
  /-- The header x-api-key. -/
  apiKey : Option Text
  /-- The header x-csrf-token and the cookie csrf-token. -/
  csrfToken : Option Text
  csrfCookie : Option Text
  /-- The headers x-pq-snark-signature and x-quantum-*. -/
  pqSnarkSignature : Option Text
  quantumSignature : Option Text
  quantumPublicKey : Option Text
  quantumAlgorithm : Option Text
  quantumTimestamp : Option Text

/-- A request with what the middleware attached to it. -/
structure Request extends HttpRequest where
  apiKeyId : Option UserId
  userId : Option Text
  galaxiaUser : Option GalaxiaIdUser

/-- A request before the first middleware that attaches anything. -/
def Request.received (http : HttpRequest) : Request := { http with apiKeyId := none, userId := none, galaxiaUser := none }

/-- A header that is present and not empty. -/
def present (header : Option Text) : Option Text := header.filter (· != [])

inductive Response where
  | geoBlocked (jurisdiction : Option Text) (reason : Text)
  | kycRequired (kyc_status : Option KycStatus) (kyc_level : Option KycLevel) (amount : Number)
  | overLimit (amount : Number) (limit : ℚ) (kyc_tier : Int) (kyc_level : KycLevel)
  | overDailyLimit (amount : Number) (daily_total daily_limit remaining : ℚ)
  | unauthorized (error : Text)
  | forbidden (error : Text)
  | tooManyRequests (error : Text) (retryAfter : Nat)
  | serverError (error : Text)

def Response.status : Response → Nat
  | .geoBlocked .. | .kycRequired .. | .overLimit .. | .overDailyLimit .. | .forbidden _ => 403
  | .unauthorized _ => 401
  | .tooManyRequests .. => 429
  | .serverError _ => 500

/-! ### Tables -/

/-- A row of `api_keys`; times are milliseconds. -/
structure ApiKey where
  id : UserId
  user_id : Option UserId
  key_hash : Text
  is_active : Option Bool
  expires_at : Option Nat

structure JurisdictionRow where
  user_id : UserId
  geo_blocked : Option Bool
  detected_country : Option Text
  jurisdiction_status : Option Text

/-- A row of `kyc_profiles`; limits are counts of the last place of their column. -/
structure ProfileRow where
  user_id : UserId
  kyc_status : KycStatus
  kyc_level : KycLevel
  verification_tier : Int
  single_transaction_limit : Int
  daily_limit : Int

structure TransactionRow where
  user_id : Option UserId
  amount : Int
  transaction_type : TransactionType
  status : TransactionStatus
  /-- `created_at::date`. -/
  day : Nat

structure AuditLogRow where
  user_id : UserId
  api_key_id : Option UserId
  action_type : Text
  action_description : Text

structure GatewayDb where
  /-- `CURRENT_DATE`. -/
  today : Nat
  api_keys : List ApiKey
  user_jurisdictions : List JurisdictionRow
  kyc_profiles : List ProfileRow
  token_transactions : List TransactionRow
  audit_logs : List AuditLogRow

inductive GatewayError where
  | unavailable | aborted | invalidUuid
  deriving DecidableEq

/-- The queries of the middleware. -/
inductive GatewaySite where
  | geoBlocked | jurisdiction | kycRequired | kycProfile | limitProfile | dailyTotal | auditLog | apiKey
  deriving DecidableEq

abbrev gateway : Backend where
  Store := GatewayDb
  Context := Unit
  initial := ()
  Lock := Empty
  Remote := Empty
  Reply := Empty.elim
  usual r := r.elim
  Event := Empty
  Error := GatewayError
  aborted := .aborted
  Fault := Unit
  raise _ := .unavailable
  refuse _ _ := none
  Site := GatewaySite

/-! ### Middleware -/

/-- What a middleware does: call `next`, or answer. -/
inductive Outcome where
  | next (req : Request)
  | answered (response : Response)

abbrev Middleware := Request → Async gateway Outcome

/-- Each middleware gets the request the one before it passed on. -/
def chain : List Middleware → Middleware
  | [], req => pure (.next req)
  | middleware :: rest, req => do
    match ← middleware req with
    | .next req => chain rest req
    | .answered response => pure (.answered response)

theorem chain_next {middleware : Middleware} {req req' : Request} (h : middleware req = pure (.next req'))
    (rest : List Middleware) : chain (middleware :: rest) req = chain rest req' := by
  rw [chain, h]
  rfl

theorem chain_answered {middleware : Middleware} {req : Request} {response : Response}
    (h : middleware req = pure (.answered response)) (rest : List Middleware) :
    chain (middleware :: rest) req = pure (.answered response) := by
  rw [chain, h]
  rfl

/-- A handler behind the middleware is run. -/
def Reaches (middleware : List Middleware) (answer : GatewaySite → Answer gateway) (db : GatewayDb) (req : Request) : Prop :=
  ∃ req', ((chain middleware req).follow answer db Local.empty).1 = .ok (.next req')

end GalaxiaAin.Gateway
