import GalaxiaAin.Network.Inference

/-! The reports of the nodes, and the work of the queue. What the services outside the
database answer is given with each. -/
namespace GalaxiaAin.Network
open GalaxiaAin.Library

/-- `await distributeNodePayments(...)`. -/
def distributePayments (services : Services) (taskId : UuidText) (nodeIds : List Uuid) (userId : Option Uuid)
    (userWallet : Option Text) : Async backend Unit := do
  Async.emit (.distributeNodePayments taskId nodeIds userId userWallet)
  Async.ofExcept ((services.distributeNodePayments taskId nodeIds userId userWallet).mapError .service)

/-! ### Reports of the nodes -/

structure CompletionReport where
  taskId : UuidText
  device_id : Text
  output : Text
  processing_time_ms : Int

/-- Verify the results so far, and pay the nodes when they agree. -/
def checkConsensus (services : Services) (taskId : UuidText) : Async backend Unit := do
  match ← getTask taskId with
  | none => pure ()
  | some (_, task) => do
    let result ← verifyTaskResults taskId
    onlyIf result.consensus (distributePayments services taskId task.assigned_nodes none none)

/-- POST /v1/nodes/tasks/:taskId/complete. -/
def complete (services : Services) (report : CompletionReport) : Async backend Response :=
  if report.device_id = [] ∨ report.output = [] then pure .badRequest
  else Async.handle (do
    match ← getNodeByDeviceId report.device_id with
    | none => pure .notFound
    | some nodeId => do
      completeTask report.taskId nodeId report.output report.processing_time_ms
      checkConsensus services report.taskId
      pure .success) fun _ => pure .serverError

structure FailureReport where
  taskId : UuidText
  device_id : Text
  now : Nat

/-- POST /v1/nodes/tasks/:taskId/fail. -/
def fail (report : FailureReport) : Async backend Response :=
  if report.device_id = [] then pure .badRequest
  else Async.handle (do
    match ← getNodeByDeviceId report.device_id with
    | none => pure .notFound
    | some nodeId => do
      let _ ← handleTaskFailure report.now report.taskId nodeId
      pure .success) fun _ => pure .serverError

/-! ### The queue -/

/-- One row for every node of the task, with the same result. -/
def recordResults (taskId : Text) (result : InferenceResult) : List Text → Async backend Unit
  | [] => pure ()
  | nodeId :: rest => do
    Async.query .insertResult (insertResult (.uuid taskId) nodeId result.output result.processing_time_ms)
    recordResults taskId result rest

/-- The wallet of a user. -/
def selectWallet (userId : Uuid) : Stmt backend (Option Text) := .select fun _ db => (db.users userId).join

/-- The payment of the nodes of a queued task. -/
def payNodes (services : Services) (task : QueuedTask) : Async backend Unit :=
  Async.withClient .connect do
    let taskData ← Async.query .selectTask (selectTask (.uuid task.taskId))
    match taskData.bind fun t => t.2.user_id with
    | none => distributePayments services (.uuid task.taskId) task.nodeIds none none
    | some userId => do
      let userWallet ← Async.query .selectWallet (selectWallet userId)
      distributePayments services (.uuid task.taskId) task.nodeIds (some userId) userWallet

/-- The body of `TaskQueue.processTask`, with the outcome of its privacy calls. -/
def processTask (crypto : Cryptography) (calls : PrivacyCalls) (services : Services) (task : QueuedTask) :
    Async backend Unit := do
  let input := processedInput crypto calls task.input task.privacyLevel
  Async.emit (.runInference task.model input task.inputType)
  let result ← Async.ofExcept ((services.runInference task.model input task.inputType).mapError .service)
  Async.withClient .connect (recordResults task.taskId result task.nodeIds)
  let verification ← verifyTaskResults (.uuid task.taskId)
  onlyIf verification.consensus (payNodes services task)

def markTaskFailed (taskId : Text) : Async backend Unit :=
  Async.withClient .connect <| Async.query .failTask (setStatus taskId .failed)

end GalaxiaAin.Network
