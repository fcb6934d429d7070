import GalaxiaAin.Tenant.Jobs

/-! Execution of a job: the provider call, and the statuses and records around it. -/
namespace GalaxiaAin.Tenant
open GalaxiaAin.Library

variable (rt : Runtime)

structure GenerateInput where
  modelId : Text
  prompt : Text
  maxOutputTokens : Option Nat
  timeoutMs : Option Nat

structure GenerateResult where
  output : Text
  inputTokens : Option Nat
  outputTokens : Option Nat
  durationMs : Nat
  providerId : Text
  modelId : Text

def chatRequest (input : GenerateInput) : ChatRequest where
  model := input.modelId
  content := input.prompt.take INPUT_LIMITS.maxPromptChars
  max_tokens := min (input.maxOutputTokens.getD 1024) INPUT_LIMITS.maxOutputTokensDefault
  timeoutMs := input.timeoutMs.getD INPUT_LIMITS.inferenceTimeoutMs

/-- `OpenAiProvider.generate`; a failed fetch, a time-out or a body that is no JSON
is a failed call. -/
def openAiGenerate (input : GenerateInput) : Async backend GenerateResult :=
  if !rt.openaiApiKey then throw (.other (some (units "PROVIDER_NOT_CONFIGURED")))
  else if !ALLOWED_OPENAI_MODELS.contains input.modelId then throw (.other (some (units "MODEL_NOT_ALLOWED")))
  else do
    let data : Completion ← Async.await .provider (.remote (chatRequest input))
    if !data.ok then throw (.other (some (units "PROVIDER_UNAVAILABLE")))
    else return {
      output := data.content.getD []
      inputTokens := data.prompt_tokens
      outputTokens := data.completion_tokens
      durationMs := data.durationMs
      providerId := units "openai"
      modelId := input.modelId }

def ProviderAdapter.generate : ProviderAdapter → GenerateInput → Async backend GenerateResult
  | .notConfigured _ _, _ => throw (.other (some (units "PROVIDER_NOT_CONFIGURED")))
  | .openAi, input => openAiGenerate rt input

/-- `provider.estimateCost?.(…)`. -/
def ProviderAdapter.estimateCost : ProviderAdapter → Text → Option ℚ
  | .notConfigured _ _, _ => none
  | .openAi, prompt => some (rt.estimateCost prompt.length)

/-- The audit event of a job's end. -/
def jobAudit (job : Execution) (eventType result : Text) (metadata : List (Text × Json)) : AuditInput where
  organizationId := some job.organizationId
  actorId := job.userId
  requestId := some job.requestId
  eventType := eventType
  resourceType := some (units "inference")
  resourceId := some job.requestId
  result := result
  metadata := metadata

/-- The body of the executor's `try`. -/
def generateAndRecord (job : Execution) : Async backend Unit := do
  let provider := getProviderAdapter rt job.providerId
  let result ← provider.generate rt
    ⟨job.modelId, job.prompt, some INPUT_LIMITS.maxOutputTokensDefault, some INPUT_LIMITS.inferenceTimeoutMs⟩
  updateInferenceJob rt job.organizationId job.requestId {
    status := .SUCCEEDED
    outputBytes := some (byteLength result.output)
    durationMs := some result.durationMs }
  appendUsageRecord rt {
    organizationId := job.organizationId
    projectId := job.projectId
    userId := job.userId
    requestId := job.requestId
    providerId := some result.providerId
    modelId := some result.modelId
    inputTokens := result.inputTokens
    outputTokens := result.outputTokens
    durationMs := some result.durationMs
    status := units "SUCCEEDED"
    estimatedCostUsd := provider.estimateCost rt job.prompt }
  appendAuditEvent rt (jobAudit job (units "INFERENCE_COMPLETED") (units "SUCCESS") [])

/-- The executor's `catch`. -/
def recordFailure (job : Execution) (e : ServiceError) : Async backend Unit := do
  updateInferenceJob rt job.organizationId job.requestId {
    status := .FAILED
    errorCode := some ((orNull e.code).getD (units "INFERENCE_FAILED")) }
  appendAuditEvent rt (jobAudit job (units "INFERENCE_FAILED") (units "FAILED")
    (e.code.map fun c => (units "code", Json.str c)).toList)

def executeInferenceJob (job : Execution) : Async backend Unit := do
  updateInferenceJob rt job.organizationId job.requestId { status := .RUNNING }
  (generateAndRecord rt job).handle (recordFailure rt job)

end GalaxiaAin.Tenant
