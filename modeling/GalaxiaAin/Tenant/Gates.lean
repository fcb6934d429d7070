import GalaxiaAin.Tenant.Schema

/-! The checks a request passes before a job is created: scopes, client-supplied
identity, the mainnet guard, input limits, plans and the model registry. -/
namespace GalaxiaAin.Tenant
open GalaxiaAin.Library

/-! ### Patterns -/

/-- ASCII case folding, what the `i` flag does to an ASCII pattern. -/
def foldCase (c : UInt16) : UInt16 := if 65 ≤ c && c ≤ 90 then c + 32 else c

def lineTerminator (c : UInt16) : Bool := c == 10 || c == 13 || c == 0x2028 || c == 0x2029

/-- `/a.*b/i.test(s)` for the literals `a`, `b`, … in order. -/
def search : List Text → Text → Bool
  | [], _ => true
  | lit :: rest, s => s.tails.any fun t =>
      lit.isPrefixOf (t.map foldCase) && search rest ((t.drop lit.length).takeWhile fun c => !lineTerminator c)

/-! ### Scopes -/

inductive OrgRole where
  | OWNER | ADMIN | AI_OPERATOR | DEVELOPER | BILLING | AUDITOR | VIEWER | API_SERVICE_ACCOUNT
  deriving DecidableEq, Repr

def ROLE_PERMISSIONS : OrgRole → List Text
  | .OWNER | .ADMIN => ["inference:read", "inference:execute", "projects:read", "projects:write", "usage:read",
      "audit:read", "providers:read"].map units
  | .AI_OPERATOR => ["inference:read", "inference:execute", "projects:read", "usage:read"].map units
  | .DEVELOPER => ["inference:read", "inference:execute", "projects:read", "projects:write"].map units
  | .BILLING => ["usage:read"].map units
  | .AUDITOR => ["audit:read", "usage:read"].map units
  | .VIEWER => ["inference:read", "projects:read", "usage:read"].map units
  | .API_SERVICE_ACCOUNT => ["inference:execute", "inference:read"].map units

structure AuthContext where
  userId : Text
  organizationId : Uuid
  role : OrgRole
  scopes : List Text

/-- Deny-by-default scope check. -/
def authorize (ctx : AuthContext) (scope : Text) : Except ServiceError Unit :=
  if (ROLE_PERMISSIONS ctx.role).contains scope || ctx.scopes.contains scope then .ok ()
  else .error (.authorization (units "FORBIDDEN") (units "Missing scope: " ++ scope))

/-- Reject client-supplied org if it doesn't match authenticated context. -/
def assertOrgMatch (ctx : AuthContext) (organizationId : Json) : Except ServiceError Unit :=
  match organizationId with
  | .str s => if s = ctx.organizationId then .ok () else denied
  | _ => denied
where
  denied := .error (.authorization (units "TENANT_ACCESS_DENIED") (units "Cross-tenant access denied"))

def assertProjectInOrg (ctx : AuthContext) (projectOrganizationId : Uuid) : Except ServiceError Unit :=
  if projectOrganizationId = ctx.organizationId then .ok ()
  else .error (.authorization (units "TENANT_ACCESS_DENIED") (units "Project not in organization"))

/-- Never trust client role header/body. -/
def rejectClientRoleOverride (body : Json) : Except ServiceError Unit :=
  if (body.get (units "role")).isSome || (body.get (units "organizationId")).isSome ||
      (body.get (units "orgId")).isSome then
    .error (.authorization (units "INVALID_INPUT") (units "Client cannot set role or organizationId"))
  else .ok ()

/-! ### The mainnet guard -/

def BLOCKED_CHAIN_IDS : List ℚ := [1, 56, 137, 42161, 10, 8453]

def BLOCKED_RPC_PATTERNS : List (List Text) :=
  [["mainnet"], ["eth-mainnet"], ["ethereum.org/mainnet"], ["infura.io/v3/", "mainnet"]].map (·.map units)

/-- `a ?? b ?? …` over properties of the body; null falls through. -/
def firstPresent (body : Json) : List Text → Option Json
  | [] => none
  | key :: rest =>
    match body.get key with
    | none | some .null => firstPresent body rest
    | some v => some v

/-- The last operand of a `??` chain is kept when it is null. -/
def chainId (body : Json) : Option Json :=
  (firstPresent body [units "chainId", units "chain_id"]).or (body.get (units "networkId"))

/-- The reason for a MAINNET_BLOCKED answer; the coercions may throw a TypeError. -/
def validateNoMainnetInjection (rt : Runtime) (body : Json) : Except ServiceError (Option Text) := do
  match chainId body with
  | some v =>
    match rt.number v with
    | none => throw (.other none)
    | some (some n) =>
      if BLOCKED_CHAIN_IDS.contains n then
        return some (units "chainId " ++ decimal n.num.toNat ++ units " blocked")
    | some none => pure ()
  | none => pure ()
  match firstPresent body [units "rpcUrl", units "rpc_url", units "providerUrl", units "endpoint"] with
  | none => return none
  | some v =>
    match v.text with
    | none => throw (.other none)
    | some rpc =>
      if rpc ≠ [] && BLOCKED_RPC_PATTERNS.any fun pat => search pat rpc then
        return some (units "mainnet RPC pattern blocked")
      else return none

/-! ### Input limits -/

namespace INPUT_LIMITS
def maxPromptChars : Nat := 128000
def maxOutputTokensDefault : Nat := 4096
def inferenceTimeoutMs : Nat := 120000
end INPUT_LIMITS

/-- The code and message of a refused prompt. -/
def validatePromptInput (input : Text) (modelMaxContext : Option Nat) : Option (Text × Text) :=
  if input.length > INPUT_LIMITS.maxPromptChars then
    some (units "PROMPT_TOO_LARGE", units "Prompt exceeds maximum size")
  else if input.length > modelMaxContext.getD INPUT_LIMITS.maxPromptChars then
    some (units "MODEL_CONTEXT_EXCEEDED", units "Prompt exceeds model context limit")
  else none

/-- `typeof input === 'string' ? input : JSON.stringify(input)`. -/
def promptText : Json → Text
  | .str s => s
  | v => v.stringify

/-! ### Plans -/

structure PlanDefinition where
  id : Text
  quotaRequestsPerDay : Int

def FREE : PlanDefinition := ⟨units "FREE", 100⟩

def PLAN_CATALOG : List PlanDefinition :=
  [FREE, ⟨units "SMALL_BUSINESS", 5000⟩, ⟨units "BUSINESS", 25000⟩, ⟨units "PROFESSIONAL", 100000⟩,
    ⟨units "ENTERPRISE", 500000⟩]

def resolvePlan (rt : Runtime) (tier : Option Text) : PlanDefinition :=
  let key := rt.toUpperCase (match tier with | some t => if t = [] then units "FREE" else t | none => units "FREE")
  (PLAN_CATALOG.find? fun plan => plan.id == key).getD FREE

/-! ### Models and providers -/

structure ModelEntry where
  id : Text
  provider : Text
  enabled : Bool

def DOCKER_MODELS : List ModelEntry :=
  ["llama-3-8b", "stable-diffusion", "whisper"].map fun id => ⟨units id, units "galaxia-docker", true⟩

def OPENAI_MODELS : List ModelEntry :=
  ["gpt-4o-mini", "gpt-4o"].map fun id => ⟨units id, units "openai", true⟩

def allModels (rt : Runtime) : List ModelEntry :=
  if rt.openaiApiKey then DOCKER_MODELS ++ OPENAI_MODELS else DOCKER_MODELS

/-- `m.id === modelId`. -/
def ModelEntry.named (m : ModelEntry) : Json → Bool
  | .str s => m.id == s
  | _ => false

/-- A refusal whose message shows the model id; the template text throws when the id does. -/
def notAllowed (modelId : Json) (before after : String) : Except ServiceError (Except (Text × Text) ModelEntry) :=
  match modelId.text with
  | none => throw (.other none)
  | some shown => return .error (units "MODEL_NOT_ALLOWED", units before ++ shown ++ units after)

/-- A model id on the allowlist, or the code and message of the refusal. -/
def resolveModel (rt : Runtime) (modelId : Json) : Except ServiceError (Except (Text × Text) ModelEntry) :=
  match (allModels rt).find? (·.named modelId) with
  | none => notAllowed modelId "Model \"" "\" is not on the server allowlist."
  | some model =>
    if !model.enabled then notAllowed modelId "Model \"" "\" is not on the server allowlist."
    else if model.provider = units "openai" then
      if !rt.openaiApiKey then
        return .error (units "PROVIDER_NOT_CONFIGURED", units "OpenAI is not configured on this api-server instance.")
      else return .ok model
    else if model.provider = units "galaxia-docker" then
      if rt.dockerInferenceDisabled then
        return .error (units "PROVIDER_NOT_CONFIGURED",
          units "Docker inference is not enabled on this api-server instance.")
      else return .ok model
    else notAllowed modelId "Unknown provider for model \"" "\"."

inductive ProviderAdapter where
  | notConfigured (id : Text) (reason : Text)
  | openAi

def getProviderAdapter (rt : Runtime) (providerId : Text) : ProviderAdapter :=
  if providerId = units "openai" then
    if rt.openaiApiKey then .openAi else .notConfigured (units "openai") (units "OPENAI_API_KEY not configured")
  else if providerId = units "anthropic" then
    if rt.anthropicApiKey then .notConfigured (units "anthropic") (units "Anthropic adapter not yet implemented")
    else .notConfigured (units "anthropic") (units "ANTHROPIC_API_KEY not configured")
  else if providerId = units "galaxia-docker" then
    if rt.dockerInferenceDisabled then .notConfigured (units "galaxia-docker") (units "Docker inference disabled")
    else .notConfigured (units "galaxia-docker") (units "Docker inference worker not wired to tenant API")
  else .notConfigured providerId (units "Unknown provider")

/-- `provider.status() === 'NOT_CONFIGURED'`. -/
def ProviderAdapter.statusNotConfigured (rt : Runtime) : ProviderAdapter → Bool
  | .notConfigured _ _ => true
  | .openAi => !rt.openaiApiKey

def ALLOWED_OPENAI_MODELS : List Text := [units "gpt-4o-mini", units "gpt-4o"]

end GalaxiaAin.Tenant
