import GalaxiaAin.Library.Async
import GalaxiaAin.Library.Json
import Mathlib.Data.Rat.Defs
import Mathlib.Algebra.Field.Rat

/-! The tenant tables, the row-level policies over them, and the backend the
tenant services run against. -/
namespace GalaxiaAin.Tenant
open GalaxiaAin.Library

/-- A uuid, by its canonical text. -/
abbrev Uuid := Text

inductive InferenceJobStatus where
  | QUEUED | RUNNING | SUCCEEDED | FAILED | CANCELLED | TIMED_OUT
  deriving DecidableEq, Repr

/-- The statuses `updateInferenceJob` stamps with a completion time. -/
def InferenceJobStatus.completed : InferenceJobStatus → Bool
  | .SUCCEEDED | .FAILED | .CANCELLED | .TIMED_OUT => true
  | .QUEUED | .RUNNING => false

structure Organization where
  id : Uuid
  name : Text
  slug : Text
  status : Text
  billing_status : Text
  usage_mode : Text
  plan_tier : Text
  financial_eligibility : Bool
  quota_requests_per_day : Option Int
  deriving DecidableEq

structure Project where
  id : Uuid
  organization_id : Uuid
  name : Text
  slug : Text
  status : Text
  created_at : Nat
  deriving DecidableEq

structure InferenceRequest where
  organization_id : Uuid
  project_id : Option Uuid
  user_id : Option Uuid
  request_id : Text
  idempotency_key : Option Text
  payload_hash : Option Text
  provider_id : Text
  model_id : Text
  status : InferenceJobStatus
  input_bytes : Option Nat
  output_bytes : Option Nat
  duration_ms : Option Nat
  error_code : Option Text
  created_at : Nat
  updated_at : Nat
  completed_at : Option Nat
  deriving DecidableEq

structure UsageRecord where
  organization_id : Uuid
  project_id : Option Uuid
  user_id : Option Uuid
  request_id : Text
  provider_id : Option Text
  model_id : Option Text
  input_tokens : Option Nat
  output_tokens : Option Nat
  duration_ms : Option Nat
  status : Text
  estimated_cost_usd : Option ℚ
  created_at : Nat
  deriving DecidableEq

structure AuditEvent where
  organization_id : Option Uuid
  actor_id : Option Uuid
  request_id : Option Text
  event_type : Text
  resource_type : Option Text
  resource_id : Option Text
  result : Text
  metadata : Text
  created_at : Nat
  deriving DecidableEq

/-- The tenant tables, and the time NOW() reads. -/
structure Db where
  now : Nat
  organizations : List Organization
  projects : List Project
  inference_requests : List InferenceRequest
  usage_records : List UsageRecord
  audit_events : List AuditEvent
  deriving DecidableEq

/-- The settings a transaction carries; unset is the empty string. -/
structure Settings where
  current_organization_id : Text := []
  rls_bootstrap : Text := []
  deriving DecidableEq

/-- What the program finds around it: its database role, the environment variables
it reads, and functions of the platform. -/
structure Runtime where
  /-- The connecting role is subject to the row-level policies. -/
  rowSecurity : Bool
  /-- `OPENAI_API_KEY` is set. -/
  openaiApiKey : Bool
  /-- `ANTHROPIC_API_KEY` is set. -/
  anthropicApiKey : Bool
  /-- `DOCKER_INFERENCE_ENABLED` is the text `false`. -/
  dockerInferenceDisabled : Bool
  /-- The hexadecimal SHA-256 digest of a text in UTF-8. -/
  sha256 : Text → Text
  /-- `Number(v)`, when it is a finite number; `none` when the coercion throws. -/
  number : Json → Option (Option ℚ)
  /-- The text the driver sends for a parameter. -/
  parameter : Json → Text
  /-- The uuid a text denotes. -/
  uuid : Text → Option Uuid
  /-- `String.prototype.toUpperCase`. -/
  toUpperCase : Text → Text
  /-- `Math.round((usedToday / limit) * 100)` in doubles. -/
  percentUsed : Nat → Int → Nat
  /-- `Math.round((chars / 1000) * 0.001 * 10000) / 10000` in doubles. -/
  estimateCost : Nat → ℚ

/-- A deployment with the OpenAI key set, its platform functions as they are on plain
texts and on uuids in canonical form. -/
def Runtime.pilot (rowSecurity : Bool) (sha256 : Text → Text) : Runtime where
  rowSecurity := rowSecurity
  openaiApiKey := true
  anthropicApiKey := false
  dockerInferenceDisabled := false
  sha256 := sha256
  number _ := some none
  parameter v := match v with | .str s => s | v => v.stringify
  uuid t := if t.length = 36 then some t else none
  toUpperCase := id
  percentUsed used limit := (200 * used + limit.toNat) / (2 * limit.toNat)
  estimateCost chars := ((chars + 50) / 100 : Nat) / 10000

def pilotOrg : Organization :=
  ⟨units "7c9e6679-7425-40de-944b-e07fc1f90ae7", units "Org", units "org", units "active", units "NOT_CONFIGURED",
    units "METERING_ONLY", units "FREE", false, some 100⟩

/-- One organisation and nothing else. -/
def pilotDb : Db := ⟨0, [pilotOrg], [], [], [], []⟩

def Settings.bootstrap (c : Settings) : Bool := c.rls_bootstrap == units "on"

/-- `current_organization_id()`. -/
def Settings.currentOrganizationId (c : Settings) : Option Uuid :=
  if c.current_organization_id = [] then none else some c.current_organization_id

/-- The policies: `rls_bootstrap() OR organization_id = current_organization_id()`. -/
def Settings.admits (rt : Runtime) (c : Settings) (organization_id : Option Uuid) : Bool :=
  !rt.rowSecurity || c.bootstrap || (organization_id.isSome && organization_id == c.currentOrganizationId)

/-- The errors a handler can tell apart; the others only carry a code. -/
inductive ServiceError where
  | idempotencyConflict
  | authorization (code : Text) (message : Text)
  | other (code : Option Text)
  deriving DecidableEq

namespace ServiceError

/-- `e.code`. -/
def code : ServiceError → Option Text
  | .idempotencyConflict => some (units "IDEMPOTENCY_CONFLICT")
  | .authorization code _ => some code
  | .other code => code

def rowSecurityViolation : ServiceError := .other (some (units "42501"))
def uniqueViolation : ServiceError := .other (some (units "23505"))
def foreignKeyViolation : ServiceError := .other (some (units "23503"))
def stringTooLong : ServiceError := .other (some (units "22001"))
def outOfRange : ServiceError := .other (some (units "22003"))
def invalidText : ServiceError := .other (some (units "22P02"))
def inFailedTransaction : ServiceError := .other (some (units "25P02"))
def headersSent : ServiceError := .other (some (units "ERR_HTTP_HEADERS_SENT"))

end ServiceError

/-- What `fetch` and `res.json()` give for a chat completion. -/
structure Completion where
  ok : Bool
  content : Option Text
  prompt_tokens : Option Nat
  completion_tokens : Option Nat
  durationMs : Nat

/-- The request the OpenAI adapter sends. -/
structure ChatRequest where
  model : Text
  content : Text
  max_tokens : Nat
  timeoutMs : Nat

/-- The job `executeInferenceJob` is given. -/
structure Execution where
  organizationId : Uuid
  projectId : Option Json
  userId : Option Text
  requestId : Text
  providerId : Text
  modelId : Text
  prompt : Text

inductive QuotaState where
  | QUOTA_OK | QUOTA_WARNING | QUOTA_EXCEEDED
  deriving DecidableEq, Repr

structure Quota where
  state : QuotaState
  usedToday : Nat
  limit : Int
  planTier : Text
  percentUsed : Nat
  message : Option Text
  deriving DecidableEq

/-- The bodies POST /v1/tenant/inference answers with. -/
inductive Body where
  | rejected (code : Text) (error : Text) (quota : Option Quota)
  | idempotent (requestId : Text) (status : InferenceJobStatus)
  | accepted (requestId : Text)
  deriving DecidableEq

/-- The request id a body with `ok: true` acknowledges. -/
def Body.acknowledges : Body → Option Text
  | .rejected _ _ _ => none
  | .idempotent requestId _ => some requestId
  | .accepted requestId => some requestId

/-- What a handler does besides its calls: its response, and setImmediate. -/
inductive Event where
  | respond (status : Nat) (body : Body)
  | schedule (job : Execution)

def Event.isResponse : Event → Bool
  | .respond _ _ => true
  | .schedule _ => false

/-- The status and body of a response. -/
def Event.response : Event → Option (Nat × Body)
  | .respond status body => some (status, body)
  | .schedule _ => none

theorem Event.mem_of_response {out : List Event} {status : Nat} {body : Body}
    (h : some (status, body) ∈ out.map Event.response) : .respond status body ∈ out := by
  obtain ⟨e, he, hr⟩ := List.mem_map.mp h
  cases e with
  | respond st b => cases hr; exact he
  | schedule job => cases hr

/-- What an open transaction keeps others from: entries of the unique indexes, and rows. -/
inductive Lock where
  | idempotency (organization_id : Uuid) (idempotency_key : Text)
  | requestId (request_id : Text)
  | projectId (id : Uuid)
  | projectSlug (organization_id : Uuid) (slug : Text)
  | job (request_id : Text)
  deriving DecidableEq

/-- The places of the awaited calls. -/
inductive Site where
  | transaction
  | read
  | count (organizationId : Uuid)
  | lookup (organizationId : Uuid) (idempotencyKey : Text) (hash : Text)
  | insertJob
  | updateJob
  | cancelJob
  | insertProject
  | usage
  | audit
  | provider
  | clock (elapsed : Nat)
  deriving DecidableEq

/-- A second response on a request throws. -/
def refuse (out : List Event) (e : Event) : Option ServiceError :=
  if e.isResponse && out.any Event.isResponse then some .headersSent else none

/-- The backend of the tenant services. -/
abbrev backend : Backend where
  Store := Db
  Context := Settings
  initial := {}
  Lock := Lock
  Remote := ChatRequest
  Reply _ := Completion
  usual _ := ⟨true, none, none, none, 0⟩
  Event := Event
  Error := ServiceError
  aborted := .inFailedTransaction
  Fault := Option Text
  raise := .other
  refuse := refuse
  Site := Site

/-- A parameter for a column of UUID type: absent and falsy values are NULL. -/
def uuidParameter (rt : Runtime) : Option Json → Except ServiceError (Option Uuid)
  | none => .ok none
  | some v =>
    if v.truthy then
      match rt.uuid (rt.parameter v) with
      | some id => .ok (some id)
      | none => .error .invalidText
    else .ok none

/-- The characters of a text: a surrogate pair is one. -/
def charLength : Text → Nat
  | [] => 0
  | [_] => 1
  | c :: d :: rest => if highSurrogate c && lowSurrogate d then 1 + charLength rest else 1 + charLength (d :: rest)

/-- A text fits VARCHAR(n). -/
def varchar (n : Nat) (t : Text) : Bool := t.all (· != 0) && charLength t ≤ n

/-- A number fits INTEGER. -/
def integer (n : Nat) : Bool := n ≤ 2147483647

end GalaxiaAin.Tenant
