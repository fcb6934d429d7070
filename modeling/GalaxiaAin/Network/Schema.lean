import GalaxiaAin.Library.Async
import GalaxiaAin.Library.Decimal
import GalaxiaAin.Library.Json
import GalaxiaAin.Library.Table
import GalaxiaAin.Network.TaskQueue

/-! The tables of the compute network and the backend its services run against. A uuid is
held in the form the database prints it. -/
namespace GalaxiaAin.Network
open GalaxiaAin.Library

abbrev Uuid := Text

/-- A text given for a uuid, as the database reads it. -/
inductive UuidText where
  | malformed
  | uuid (id : Uuid)
  deriving DecidableEq

/-- DECIMAL(5,2). -/
def scoreFormat : Fixed := ⟨5, 2⟩

/-- DECIMAL(10,6). -/
def priceFormat : Fixed := ⟨10, 6⟩

/-- DECIMAL(18,8). -/
def costFormat : Fixed := ⟨18, 8⟩

inductive NodeStatus where
  | online | offline | busy | blocked
  deriving DecidableEq

inductive Priority where
  | standard | fast
  deriving DecidableEq

inductive TaskStatus where
  | queued | assigned | processing | completed | failed
  deriving DecidableEq

inductive VerificationStatus where
  | pending | verified | disputed | rejected
  deriving DecidableEq

inductive ConsensusType where
  | majority | unanimous | tiebreaker
  deriving DecidableEq

/-- What a node says it can do; what it leaves out is undefined. -/
structure NodeCapabilities where
  gpu : Bool
  ram_gb : Option ℚ
  models : Option (List Text)

/-- A row of `nodes`. Scores are counts of hundredths, times are milliseconds. -/
structure NodeRow where
  device_id : Text
  capabilities : NodeCapabilities
  /-- `location->>'region'`. -/
  region : Option Text
  uptime_score : Option Int
  reputation : Option Int
  tasks_completed : Option Nat
  tasks_failed : Option Nat
  status : NodeStatus
  last_seen : Option Nat
  current_load : Option Int32
  max_concurrent_tasks : Option Int32

structure Task where
  model_id : Text
  input_data : Text
  input_type : InputType
  priority : Priority
  region : Text
  assigned_nodes : List Uuid
  status : TaskStatus
  api_key_id : Option Uuid
  user_id : Option Uuid
  /-- A number; none is NaN. -/
  cost_tokens : Option Int

structure TaskResult where
  output_data : Text
  processing_time_ms : Int32
  verification_status : VerificationStatus
  similarity_score : Option Int

structure ConsensusResult where
  task_id : Uuid
  final_output : Text
  consensus_type : ConsensusType
  agreeing_nodes : List Uuid
  disagreeing_nodes : List Uuid
  confidence_score : Int

structure Model where
  cost_per_1k_tokens : Option Int
  cost_per_image : Option Int
  cost_per_minute : Option Int

/-- A row of `privacy_settings`, one for a task. -/
structure PrivacySetting where
  privacy_level : PrivacyLevel
  encrypt_input : Option Bool
  use_zk_proof : Option Bool

/-- The tables by their primary keys; results by their task and node, which are unique. -/
structure NetworkDb where
  nodes : Table Uuid NodeRow
  tasks : Table Uuid Task
  task_results : Table (Uuid × Uuid) TaskResult
  consensus_results : List ConsensusResult
  models : Table Text Model
  privacy_settings : Table Uuid PrivacySetting
  /-- The wallets of the users. -/
  users : Uuid → Option (Option Text)

inductive NetworkError where
  /-- A call fails. -/
  | unavailable
  | aborted
  | invalidUuid
  | uniqueViolation
  | foreignKeyViolation
  | integerOutOfRange
  | numericOverflow
  | stringTooLong
  | typeError
  | noEligibleNodes
  | modelNotFound (modelId : Text)
  | taskNotFound
  /-- An error of inference or of the payment service. -/
  | service (message : Text)
  deriving DecidableEq

inductive Site where
  | connect | begin | commit | rollback
  | selectNodes | selectDevice | selectCounters | updateReputation
  | assignNodes | incrementLoad (nodeId : Uuid)
  | selectModel | insertTask | selectTask | insertPrivacySettings
  | failNode | reduceReputation | keepRemaining
  | insertResult | decrementLoad
  | selectPending | markResults | countCompleted | penalize | insertConsensus | finishTask
  | selectTiebreakers | failTask | selectWallet
  | insertNode | touchNode | insertHealthLog | updateStatus
  deriving DecidableEq

/-- What a statement keeps to itself until its transaction ends: a row that it writes, or the
device id of a new node. -/
inductive RowLock where
  | node (id : Uuid) | task (id : Uuid) | result (taskId nodeId : Uuid) | device (deviceId : Text)
  deriving DecidableEq

/-- What a handler leaves to others: a task for the queue, an inference, and the payment of nodes. -/
inductive Effect where
  | enqueue (task : QueuedTask)
  | runInference (model input : Text) (inputType : InputType)
  | distributeNodePayments (taskId : UuidText) (nodeIds : List Uuid) (userId : Option Uuid) (userWallet : Option Text)

abbrev backend : Backend where
  Store := NetworkDb
  Context := Unit
  initial := ()
  Lock := RowLock
  Remote := Empty
  Reply := Empty.elim
  usual r := r.elim
  Event := Effect
  Error := NetworkError
  aborted := .aborted
  Fault := Unit
  raise _ := .unavailable
  refuse _ _ := none
  Site := Site

/-- A parameter for a uuid. -/
def UuidText.read : UuidText → Except NetworkError Uuid
  | .uuid id => .ok id
  | .malformed => .error .invalidUuid

/-! ### Columns -/

/-- A number for a column INTEGER. -/
def integer (x : Int) : Except NetworkError Int32 :=
  if -2147483648 ≤ x ∧ x < 2147483648 then .ok (Int32.ofInt x) else .error .integerOutOfRange

/-- `column + d`; NULL stays NULL. -/
def addInteger (d : Int) : Option Int32 → Except NetworkError (Option Int32)
  | none => .ok none
  | some x => (integer (x.toInt + d)).map some

/-- `GREATEST(0, column)` of an integer, which is 0 for NULL. -/
def greatestInteger (x : Option Int32) : Option Int32 := some (x.elim 0 fun x => if x.toInt < 0 then 0 else x)

/-- `GREATEST(0, column - d)` of a score. -/
def reduceScore (d : Int) (x : Option Int) : Option Int := some (x.elim 0 fun x => max 0 (x - d))

/-! ### Statements by primary key -/

/-- `SELECT ... FROM nodes WHERE id = $1`. -/
def selectNodeRow (nodeId : Uuid) : Stmt backend (Option NodeRow) := .selection fun db => .ok (db.nodes.get? nodeId)

/-- `UPDATE nodes SET ... WHERE id = $n`. -/
def updateNode (nodeId : Uuid) (set : NodeRow → Except NetworkError NodeRow) : Stmt backend Unit where
  run _ db :=
    match db.nodes.get? nodeId with
    | none => .ok ((), id)
    | some node => (set node).map fun node => ((), fun db => { db with nodes := db.nodes.modify nodeId fun _ => node })
  locks _ db := if (db.nodes.get? nodeId).isSome then [.node nodeId] else []

/-- `SELECT * FROM tasks WHERE id = $1`. -/
def selectTask (taskId : UuidText) : Stmt backend (Option (Uuid × Task)) :=
  .selection fun db => taskId.read.map fun key => (db.tasks.get? key).map fun task => (key, task)

/-- `UPDATE tasks SET ... WHERE id = $n`. -/
def updateTask (taskId : UuidText) (set : Task → Task) : Stmt backend Unit where
  run _ _ := taskId.read.map fun key => ((), fun db => { db with tasks := db.tasks.modify key set })
  locks _ db := (taskId.read.toOption.filter fun key => (db.tasks.get? key).isSome).toList.map .task

end GalaxiaAin.Network
