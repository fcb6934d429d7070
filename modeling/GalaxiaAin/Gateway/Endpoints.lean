import GalaxiaAin.Gateway.Authentication

/-! The endpoints a client reaches with an API key, over the tables they share. A task belongs
to the user of the key it was created with, its consensus results go with it, and a Travel Rule
record belongs to the user of its transaction. -/
namespace GalaxiaAin.Gateway
open GalaxiaAin.Library

variable {σ : Type}

/-! ### Tables -/

inductive TaskStatus where
  | queued | assigned | processing | completed | failed
  deriving DecidableEq

/-- A row of `tasks`, as far as a client is shown it. -/
structure TaskRow where
  id : UserId
  model_id : Text
  priority : Text
  assigned_nodes : List UserId
  status : TaskStatus
  api_key_id : Option UserId
  cost_tokens : Text
  latency_ms : Option Nat
  created_at : Nat
  completed_at : Option Nat
  deriving DecidableEq

structure ConsensusRow where
  task_id : UserId
  final_output : Text
  deriving DecidableEq

/-- A row of `travel_rule_records`; the remaining columns are one value. -/
structure TravelRuleRow where
  transaction_id : UserId
  details : Json

structure Complaint where
  id : UserId
  user_id : UserId
  related_task_id : Option UserId
  details : Json

/-- A transaction of a user, as the owner of its Travel Rule record. -/
structure OwnedTransaction where
  id : UserId
  user_id : Option UserId

/-- What the endpoints keep apart from tasks, consensus results and Travel Rule records; `rest`
is every other table and what the process holds in memory. -/
structure Shared (σ : Type) where
  rest : σ
  api_keys : List ApiKey
  token_transactions : List OwnedTransaction
  complaints : List Complaint

structure ServerDb (σ : Type) extends Shared σ where
  tasks : List TaskRow
  consensus_results : List ConsensusRow
  travel_rule_records : List TravelRuleRow

/-! ### Requests and replies -/

/-- The routes that aggregate over all tasks. -/
inductive Statistics where
  | metrics | competitiveMetrics | adminStats

inductive Endpoint where
  /-- POST /v1/api-keys. -/
  | issueKey
  /-- POST /v1/inference. -/
  | inference
  /-- GET /v1/tasks/:taskId. -/
  | task (taskId : Text)
  /-- POST /v1/compliance/complaints. -/
  | submitComplaint
  /-- GET /v1/compliance/complaints/:id. -/
  | complaint (complaintId : Text)
  /-- GET /v1/compliance/travel-rule/:transactionId. -/
  | travelRule (transactionId : Text)
  /-- POST /v1/nodes/tasks/:taskId/complete and /fail. -/
  | nodeTask (taskId : Text)
  | statistics (route : Statistics)
  /-- Any other route, behind `authenticateApiKey` or not. -/
  | elsewhere (authenticated : Bool)

/-- The queries of the endpoints. -/
inductive ServerSite where
  | apiKey | insertKey | task | consensusResult | insertComplaint | complaint | travelRule | role
  deriving DecidableEq

/-- A request with what the server draws and finds while it serves it. -/
structure Exchange where
  endpoint : Endpoint
  http : HttpRequest
  now : Nat
  /-- `crypto.randomBytes(32).toString('hex')`. -/
  randomHex : Text
  /-- `uuid_generate_v4()`. -/
  rowId : UserId
  /-- The message of the error a query fails with. -/
  fault : ServerSite → Option Text

/-- The body of GET /v1/tasks/:taskId. -/
structure TaskView where
  task_id : UserId
  status : TaskStatus
  model : Text
  priority : Text
  nodes_used : Nat
  latency_ms : Option Nat
  cost_tokens : Text
  result : Option Text
  created_at : Nat
  completed_at : Option Nat

inductive Reply where
  | refused (response : Response)
  | error (status : Nat) (error : Text)
  | apiKey (api_key : Text) (api_key_id : UserId)
  | queued (task_id : UserId) (details : Json)
  | task (view : TaskView)
  | submitted (complaintId : UserId) (details : Json)
  | complaint (complaint : Complaint)
  | travelRule (travel_rule_record : TravelRuleRow)
  | other (status : Nat) (body : Json)

def Reply.status : Reply → Nat
  | .refused response => response.status
  | .error status _ | .other status _ => status
  | .submitted .. => 201
  | .apiKey .. | .queued .. | .task _ | .complaint _ | .travelRule _ => 200

/-- The task the inference route stores. -/
structure NewTask where
  model_id : Text
  priority : Text
  assigned_nodes : List UserId
  status : TaskStatus
  cost_tokens : Text

/-- What a node operator's report makes of a task and of the other tables. -/
structure NodeWork (σ : Type) where
  rest : σ
  reply : Nat × Json
  status : TaskStatus
  latency_ms : Option Nat
  completed_at : Option Nat
  /-- The outputs of the consensus results it adds. -/
  outputs : List Text

/-- The server around the endpoints: its environment and the routes of which only what they
read matters here. -/
structure Server (σ : Type) where
  environment : Environment
  /-- The text the driver sends for a parameter. -/
  parameter : Json → Text
  /-- `role` of a row of `users`. -/
  role : σ → UserId → Option Text
  /-- `requireNodeOperatorSecret`: its answer where it does not call `next`. -/
  requireNodeOperatorSecret : HttpRequest → Option (Nat × Json)
  complaintDetails : Exchange → Json
  /-- The middleware after the key check and the handler of POST /v1/inference: a reply, or the
  task to store with the details of the reply to it. -/
  inference : Shared σ → ApiKey → Exchange → σ × (Nat × Json ⊕ NewTask × Json)
  /-- The report of a node about the task of this id and its results. -/
  nodeTask : Shared σ → Option (TaskRow × List ConsensusRow) → Exchange → NodeWork σ
  statistics : Statistics → ServerDb σ → Exchange → Nat × Json
  elsewhere : Shared σ → Option ApiKey → Exchange → σ × Nat × Json

/-! ### Handlers -/

section
variable (S : Server σ) (e : Exchange) (db : ServerDb σ)

/-- A query, answered or failing. -/
def Exchange.ask {α : Type} (e : Exchange) (site : ServerSite) (answer : Except Text α) : Except Text α :=
  match e.fault site with
  | some error => .error error
  | none => answer

/-- A value of a uuid column in a query. -/
def Server.uuid (t : Text) : Except Text UserId :=
  match S.environment.uuid t with
  | some id => .ok id
  | none => .error (units "invalid input syntax for type uuid: \"" ++ t ++ units "\"")

/-- `error.message || 'Internal server error'`. -/
def serverError (message : Text) : Reply :=
  .error 500 (if message = [] then units "Internal server error" else message)

/-- The catch block of a handler. -/
def caught (onError : Text → Reply) : Except Text Reply → Reply
  | .ok reply => reply
  | .error message => onError message

def other (answer : Nat × Json) : Reply := .other answer.1 answer.2

/-- `authenticateApiKey`: the key a request is executed with. -/
def authenticate (keys : List ApiKey) : Except Response ApiKey :=
  match present e.http.apiKey with
  | none => .error (.unauthorized (units "API key required"))
  | some apiKey =>
    match e.fault .apiKey with
    | some _ => .error (.serverError (units "Authentication error"))
    | none =>
      match keys.find? fun key => key.key_hash == S.environment.sha256 apiKey && key.is_active == some true with
      | none => .error (.unauthorized (units "Invalid API key"))
      | some key =>
        if key.expired e.now then .error (.unauthorized (units "API key expired")) else .ok key

/-- `user_id` of the body as a uuid, where it is given. -/
def requestedUser : Option (Except Text UserId) :=
  ((e.http.body.get (units "user_id")).filter Json.truthy).map fun v => S.uuid (S.parameter v)

def issuedKey : Text := units "galx_" ++ e.randomHex

/-- INSERT INTO api_keys, whose id and hash are unique. -/
def insertKey (userId : UserId) : Except Text ApiKey :=
  let key : ApiKey := ⟨e.rowId, some userId, S.environment.sha256 (issuedKey e), some true, none⟩
  if db.api_keys.any fun other => other.id == key.id || other.key_hash == key.key_hash then
    .error (units "duplicate key value violates unique constraint")
  else .ok key

def issueKey : ServerDb σ × Reply :=
  match requestedUser S e with
  | none => (db, .error 400 (units "user_id required"))
  | some userId =>
    match userId.bind fun userId => e.ask .insertKey (insertKey S e db userId) with
    | .ok key => ({ db with api_keys := db.api_keys ++ [key] }, .apiKey (issuedKey e) key.id)
    | .error message => (db, serverError message)

def getTask (taskId : Text) : Except Text (Option TaskRow) :=
  e.ask .task ((S.uuid taskId).map fun id => db.tasks.find? fun task => task.id == id)

/-- The output of the first consensus result of a completed task. -/
def finalOutput (task : TaskRow) : Except Text (Option Text) :=
  if task.status = .completed then
    e.ask .consensusResult (.ok ((db.consensus_results.find? fun r => r.task_id == task.id).map (·.final_output)))
  else .ok none

def taskView (task : TaskRow) (result : Option Text) : TaskView where
  task_id := task.id
  status := task.status
  model := task.model_id
  priority := task.priority
  nodes_used := task.assigned_nodes.length
  latency_ms := task.latency_ms
  cost_tokens := task.cost_tokens
  result := result
  created_at := task.created_at
  completed_at := task.completed_at

def taskReply (taskId : Text) : Reply :=
  caught serverError do
    match ← getTask S e db taskId with
    | none => pure (.error 404 (units "Task not found"))
    | some task => return .task (taskView task (← finalOutput e db task))

/-- `related_task_id` of the body, which refers to a task. -/
def relatedTask : Except Text (Option UserId) :=
  match (e.http.body.get (units "related_task_id")).filter Json.truthy with
  | none => .ok none
  | some v => do
    let id ← S.uuid (S.parameter v)
    if db.tasks.any fun task => task.id == id then pure (some id)
    else throw (units "insert or update on table \"complaints\" violates foreign key constraint")

/-- The fields a complaint must have. -/
def complaintComplete : Bool :=
  [units "category", units "subject", units "description"].all fun field => (e.http.body.get field).any Json.truthy

def submitComplaint (key : ApiKey) : ServerDb σ × Reply :=
  if complaintComplete e then
    match e.ask .insertComplaint (do
        let related_task_id ← relatedTask S e db
        match key.user_id with
        | none => throw (units "null value in column \"user_id\" violates not-null constraint")
        | some userId => pure (Complaint.mk e.rowId userId related_task_id (S.complaintDetails e))) with
    | .ok complaint =>
      ({ db with complaints := db.complaints ++ [complaint] }, .submitted complaint.id complaint.details)
    | .error message => (db, .error 500 message)
  else (db, .error 400 (units "Category, subject, and description are required"))

def complaintReply (complaintId : Text) (key : ApiKey) : Reply :=
  caught (.error 500) do
    match ← e.ask .complaint ((S.uuid complaintId).map fun id => db.complaints.find? fun c => c.id == id) with
    | none => pure (.error 404 (units "Complaint not found"))
    | some complaint =>
      if some complaint.user_id = key.user_id then pure (.complaint complaint)
      else pure (.error 403 (units "Access denied"))

def getTravelRuleRecord (transactionId : Text) : Except Text (Option TravelRuleRow) :=
  e.ask .travelRule ((S.uuid transactionId).map fun id =>
    db.travel_rule_records.find? fun record => record.transaction_id == id)

def travelRuleReply (transactionId : Text) : Reply :=
  caught (.error 500) do
    match ← getTravelRuleRecord S e db transactionId with
    | none => pure (.error 404 (units "Travel Rule record not found"))
    | some record => pure (.travelRule record)

/-- The row of a new task of this key. -/
def NewTask.row (task : NewTask) (key : ApiKey) : TaskRow :=
  ⟨e.rowId, task.model_id, task.priority, task.assigned_nodes, task.status, some key.id, task.cost_tokens, none, e.now, none⟩

def inferenceReply (key : ApiKey) : ServerDb σ × Reply :=
  match S.inference db.toShared key e with
  | (rest, .inl answer) => ({ db with rest := rest }, other answer)
  | (rest, .inr (task, details)) =>
    ({ db with rest := rest, tasks := db.tasks ++ [task.row e key] }, .queued e.rowId details)

/-- The change of a node's report to the row of its task. -/
def NodeWork.update (work : NodeWork σ) (id : UserId) (task : TaskRow) : TaskRow :=
  if task.id = id then
    { task with status := work.status, latency_ms := work.latency_ms, completed_at := work.completed_at }
  else task

def reportTask (id : UserId) : ServerDb σ × Reply :=
  match db.tasks.find? fun task => task.id == id with
  | none => ({ db with rest := (S.nodeTask db.toShared none e).rest }, other (S.nodeTask db.toShared none e).reply)
  | some task =>
    let work := S.nodeTask db.toShared (some (task, db.consensus_results.filter fun r => r.task_id == id)) e
    ({ db with
        rest := work.rest
        tasks := db.tasks.map (work.update id)
        consensus_results := db.consensus_results ++ work.outputs.map (ConsensusRow.mk id) }, other work.reply)

def nodeTaskReply (taskId : Text) : ServerDb σ × Reply :=
  match S.requireNodeOperatorSecret e.http with
  | some answer => (db, other answer)
  | none =>
    match S.environment.uuid taskId with
    | some id => reportTask S e db id
    | none => ({ db with rest := (S.nodeTask db.toShared none e).rest }, other (S.nodeTask db.toShared none e).reply)

/-- `requireAdmin`: its answer where it does not call `next`. -/
def requireAdmin (key : ApiKey) : Option Reply :=
  match key.user_id with
  | none => some (.error 401 (units "Authentication required"))
  | some userId =>
    if (e.fault .role).isSome then some (.error 500 (units "Authentication error"))
    else
      match S.role db.rest userId with
      | none => some (.error 403 (units "Access denied"))
      | some role =>
        if role = units "admin" ∨ role = units "super_admin" then none
        else some (.error 403 (units "Admin access required"))

/-! ### The server -/

/-- A reply with the user the request was executed as. -/
structure Served (σ : Type) where
  db : ServerDb σ
  reply : Reply
  userId : Option UserId

/-- A handler behind `authenticateApiKey`. -/
def authenticated (handler : ApiKey → ServerDb σ × Reply) : Served σ :=
  match authenticate S e db.api_keys with
  | .error response => ⟨db, .refused response, none⟩
  | .ok key => ⟨(handler key).1, (handler key).2, key.user_id⟩

/-- A handler in front of which no user is attached. -/
def unauthenticated (outcome : ServerDb σ × Reply) : Served σ := ⟨outcome.1, outcome.2, none⟩

def statisticsReply : Statistics → Served σ
  | .metrics => unauthenticated (db, other (S.statistics .metrics db e))
  | .competitiveMetrics => unauthenticated (db, other (S.statistics .competitiveMetrics db e))
  | .adminStats =>
    authenticated S e db fun key => (db, (requireAdmin S e db key).getD (other (S.statistics .adminStats db e)))

def elsewhere (key : Option ApiKey) : ServerDb σ × Reply :=
  ({ db with rest := (S.elsewhere db.toShared key e).1 }, other (S.elsewhere db.toShared key e).2)

def serve : Served σ :=
  match e.endpoint with
  | .issueKey => unauthenticated (issueKey S e db)
  | .inference => authenticated S e db (inferenceReply S e db)
  | .task taskId => authenticated S e db fun _ => (db, taskReply S e db taskId)
  | .submitComplaint => authenticated S e db (submitComplaint S e db)
  | .complaint complaintId => authenticated S e db fun key => (db, complaintReply S e db complaintId key)
  | .travelRule transactionId => authenticated S e db fun _ => (db, travelRuleReply S e db transactionId)
  | .nodeTask taskId => unauthenticated (nodeTaskReply S e db taskId)
  | .statistics route => statisticsReply S e db route
  | .elsewhere true => authenticated S e db fun key => elsewhere S e db (some key)
  | .elsewhere false => unauthenticated (elsewhere S e db none)

end

/-! ### The key check is the middleware's -/

/-- `authenticate` answers as the middleware does on the same keys. -/
theorem authenticateApiKey_follow (S : Server σ) (e : Exchange) (g : GatewayDb) (answer : GatewaySite → Answer gateway)
    (hnow : S.environment.keyCheckedAt = e.now)
    (hfault : (answer .apiKey).Faulty ↔ (e.fault .apiKey).isSome = true)
    (req : Request) (hreq : req.toHttpRequest = e.http) :
    ((authenticateApiKey S.environment req).follow answer g Local.empty).1 = .ok (
      match authenticate S e g.api_keys with
      | .ok key => .next { req with apiKeyId := some key.id, userId := key.user_id }
      | .error response => .answered response) := by
  rw [authenticate, ← hreq]
  cases hkey : present req.apiKey with
  | none => simp [authenticateApiKey, hkey]
  | some apiKey =>
    cases ha : answer .apiKey with
    | fault f =>
      obtain ⟨m, hm⟩ := Option.isSome_iff_exists.mp (hfault.mp (by rw [ha]; trivial))
      simp [authenticateApiKey, hkey, ha, hm, Call.exec]
    | done reply =>
      have hnone : e.fault .apiKey = none := by
        rw [← Option.not_isSome_iff_eq_none, ← hfault, ha]
        exact id
      rw [hnone]
      cases hfound : g.api_keys.find? (fun key => key.key_hash == S.environment.sha256 apiKey && key.is_active == some true) with
      | none => simp [authenticateApiKey, hkey, ha, hfound, Call.exec, Call.serve, selectApiKey]
      | some key =>
        cases hexpired : key.expired e.now <;>
          simp [authenticateApiKey, hkey, ha, hfound, hnow, hexpired, Call.exec, Call.serve, selectApiKey]

end GalaxiaAin.Gateway
