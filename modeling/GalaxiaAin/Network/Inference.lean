import GalaxiaAin.Network.Verification
import GalaxiaAin.Network.Privacy
import GalaxiaAin.Tenant.Gates

/-! POST /v1/inference behind its middleware: the checks, the privacy processing, the task
and its place in the queue. -/
namespace GalaxiaAin.Network
open GalaxiaAin.Library

structure InferenceResult where
  output : Text
  processing_time_ms : Int

/-- The answers of inference and of the payment service. -/
structure Services where
  runInference : Text → Text → InputType → Except Text InferenceResult
  getUserBalance : Uuid → Option Text → Except Text ℚ
  distributeNodePayments : UuidText → List Uuid → Option Uuid → Option Text → Except Text Unit

inductive Response where
  | success
  | queued (nodesAssigned : Nat) (privacyLevel : PrivacyLevel) (encrypted zkProof : Bool)
  | badRequest
  | modelRefused (code message : Text)
  | insufficientBalance (balance required : ℚ)
  | notFound
  | serverError
  deriving DecidableEq

/-- A request behind the middleware, with what its handling draws: the uuid of `createTask`,
the times at which the nodes are looked up, and the outcome of the privacy calls. -/
structure InferenceRequest where
  taskId : Uuid
  created : Nat
  enqueued : Nat
  privacy : PrivacyCalls
  model : Text
  input : Text
  priority : Option Priority
  region : Option Text
  privacyLevel : Option PrivacyLevel
  apiKeyId : Option Uuid
  userId : Option Uuid
  userWallet : Option Text

def inputType (model : Text) : InputType :=
  if model = units "whisper" then .audio
  else if model = units "stable-diffusion" then .image
  else .text

/-! ### The input -/

/-- The lower case of a letter of ASCII. -/
def lowerUnit (c : UInt16) : UInt16 := if 65 ≤ c ∧ c ≤ 90 then c + 32 else c

/-- What `\w` matches. -/
def wordUnit (c : UInt16) : Bool := (48 ≤ c && c ≤ 57) || (65 ≤ c && c ≤ 90) || (97 ≤ c && c ≤ 122) || c == 95

/-- `/on\w+\s*=/` matches from the start of the text. -/
def opensHandler (text : Text) : Bool :=
  (units "on").isPrefixOf text && (text.drop 2).head?.any wordUnit &&
    (((text.drop 2).dropWhile wordUnit).dropWhile space).head? == some 61

/-- One of the malicious patterns matches somewhere; all of them ignore case. -/
def malicious (input : Text) : Bool :=
  (input.map lowerUnit).tails.any fun text =>
    [units "<script", units "javascript:", units "eval(", units "exec(", units "system("].any (List.isPrefixOf · text) ||
      opensHandler text

def sizeLimit : InputType → Nat
  | .text => 100000
  | .image => 10000000
  | .audio => 50000000

def validateInput (input : Text) (inputType : InputType) : Bool := !malicious input && input.length ≤ sizeLimit inputType

/-- The estimate the balance is compared with. -/
def estimatedCost : InputType → ℚ
  | .text => 1 / 100
  | .image => 5 / 100
  | .audio => 2 / 100

/-! ### The task -/

/-- `privacy_level || 'public'`. -/
def InferenceRequest.level (request : InferenceRequest) : PrivacyLevel := request.privacyLevel.getD .publicLevel

def InferenceRequest.taskData (request : InferenceRequest) (processedInput : Text) : TaskData where
  model_id := request.model
  input_data := processedInput
  input_type := inputType request.model
  priority := some (request.priority.getD .standard)
  region := some (orAuto request.region)
  api_key_id := request.apiKeyId

/-- What both assignments of a request ask for. -/
def requirementsOf (model : Text) (priority : Priority) (region : Text) : TaskRequirements :=
  ⟨model, none, false, some region, some priority⟩

def InferenceRequest.requirements (request : InferenceRequest) : TaskRequirements :=
  requirementsOf request.model (request.priority.getD .standard) (orAuto request.region)

/-- `TaskQueue.enqueue`. -/
def enqueue (now : Nat) (taskId model input : Text) (inputType : InputType) (privacyLevel : Option PrivacyLevel) :
    Async backend Unit := do
  match ← getTask (.uuid taskId) with
  | none => throw NetworkError.taskNotFound
  | some (_, task) => do
    let nodeIds ← assignTask now (.uuid taskId) (requirementsOf model task.priority task.region)
    Async.emit (.enqueue (queuedTask taskId model input inputType nodeIds privacyLevel))

def insertPrivacySettings (taskId : Uuid) (setting : PrivacySetting) : Stmt backend Unit :=
  .statement fun db =>
    if (db.tasks.get? taskId).isNone then .error .foreignKeyViolation
    else if (db.privacy_settings.get? taskId).isSome then .error .uniqueViolation
    else .ok ((), fun db => { db with privacy_settings := db.privacy_settings.insert taskId setting })

/-- What the request's privacy processing yields; none for a public request and when it fails. -/
def InferenceRequest.privacyResult (crypto : Cryptography) (request : InferenceRequest) : Option PrivacyResult :=
  match request.level with
  | .publicLevel => none
  | level => (processPrivateTask crypto request.privacy request.input level).toOption

/-- The request has a user whose balance is below the estimate. -/
def checkBalance (services : Services) (request : InferenceRequest) : Except NetworkError (Option Response) :=
  match request.userId with
  | none => .ok none
  | some userId => do
    let balance ← (services.getUserBalance userId request.userWallet).mapError .service
    let required := estimatedCost (inputType request.model)
    .ok (if balance < required then some (.insufficientBalance balance required) else none)

/-- The task of an accepted request: created, assigned and queued. -/
def startTask (crypto : Cryptography) (request : InferenceRequest) : Async backend Response := do
  let result := request.privacyResult crypto
  let encrypted := result.any fun r => r.encryptedInput.isSome
  let zkProof := result.any fun r => r.zkProof.isSome
  createTask request.taskId (request.taskData (processedInput crypto request.privacy request.input (some request.level)))
  onlyIf (request.level ≠ .publicLevel) (Async.await .insertPrivacySettings (.pool (insertPrivacySettings request.taskId
    ⟨request.level, if encrypted then some true else none, if zkProof then some true else none⟩)))
  let assignedNodes ← assignTask request.created (.uuid request.taskId) request.requirements
  enqueue request.enqueued request.taskId request.model request.input (inputType request.model) (some request.level)
  pure (.queued assignedNodes.length request.level encrypted zkProof)

/-- The handler of the route. The plaintext is what goes to the queue. -/
def inference (rt : Tenant.Runtime) (crypto : Cryptography) (services : Services) (request : InferenceRequest) :
    Async backend Response :=
  if request.model = [] ∨ request.input = [] then pure .badRequest
  else
    match Tenant.resolveModel rt (.str request.model) with
    | .error _ => pure .serverError
    | .ok (.error (code, message)) => pure (.modelRefused code message)
    | .ok (.ok _) =>
      if !validateInput request.input (inputType request.model) then pure .badRequest
      else Async.handle (do
        match ← Async.ofExcept (checkBalance services request) with
        | some refusal => pure refusal
        | none => startTask crypto request) fun _ => pure .serverError

end GalaxiaAin.Network
