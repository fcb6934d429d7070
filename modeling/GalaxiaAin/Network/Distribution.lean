import GalaxiaAin.Network.Nodes

/-! Task distribution: creating a task, assigning it to nodes, and what a node's report of
a result or a failure does to it. -/
namespace GalaxiaAin.Network
open GalaxiaAin.Library

structure TaskRequirements where
  model_id : Text
  min_ram_gb : Option ℚ
  requires_gpu : Bool
  region : Option Text
  priority : Option Priority

/-! ### Choosing nodes -/

/-- The filter of `assignTask`; without a list of models it throws. -/
def eligible (requirements : TaskRequirements) (node : Node) : Except NetworkError Bool :=
  if requirements.min_ram_gb.any fun least => least != 0 && node.capabilities.ram_gb.any fun ram => decide (ram < least) then
    .ok false
  else if requirements.requires_gpu && !node.capabilities.gpu then .ok false
  else
    match node.capabilities.models with
    | none => .error .typeError
    | some models =>
      .ok (models.contains requirements.model_id && decide (node.current_load < node.max_concurrent_tasks))

def eligibleNodes (requirements : TaskRequirements) : List Node → Except NetworkError (List Node)
  | [] => .ok []
  | node :: rest => do
    let keep ← eligible requirements node
    let others ← eligibleNodes requirements rest
    .ok (if keep then node :: others else others)

/-- The score of a node. The region of the requirements is one of the filters of the query,
so where it is given it is the node's own. -/
def score (requirements : TaskRequirements) (node : Node) : ℚ :=
  let reputationScore := node.reputation * (4 / 10)
  let geoScore : ℚ := if requirements.region.any (· != []) then 30 else 15
  let loadRatio : ℚ := node.current_load / node.max_concurrent_tasks
  let loadScore := (1 - loadRatio) * 30
  reputationScore + geoScore + loadScore

/-- `scoredNodes.sort((a, b) => b.score - a.score)`. -/
def rankNodes (requirements : TaskRequirements) (nodes : List Node) : List Node :=
  nodes.mergeSort fun a b => decide (score requirements b ≤ score requirements a)

/-- The ids of the two or three best of the eligible nodes. -/
def selectNodes (requirements : TaskRequirements) (allNodes : List Node) : Except NetworkError (List Uuid) := do
  let eligible ← eligibleNodes requirements allNodes
  if eligible.isEmpty then .error .noEligibleNodes
  else .ok (((rankNodes requirements eligible).take 3).map (·.id))

/-! ### Assigning a task -/

def assignNodes (taskId : UuidText) (nodeIds : List Uuid) : Stmt backend Unit :=
  updateTask taskId fun task => { task with assigned_nodes := nodeIds, status := .assigned }

/-- `UPDATE nodes SET current_load = current_load + 1 WHERE id = $1`. -/
def incrementLoad (nodeId : Uuid) : Stmt backend Unit :=
  updateNode nodeId fun row => do .ok { row with current_load := ← addInteger 1 row.current_load }

def incrementLoads : List Uuid → Async backend Unit
  | [] => pure ()
  | nodeId :: rest => do
    Async.query (.incrementLoad nodeId) (incrementLoad nodeId)
    incrementLoads rest

def assignTask (now : Nat) (taskId : UuidText) (requirements : TaskRequirements) : Async backend (List Uuid) :=
  Async.withClient .connect do
    let allNodes ← getActiveNodes ⟨requirements.region, some 30⟩ now
    let selectedNodeIds ← Async.ofExcept (selectNodes requirements allNodes)
    Async.query .assignNodes (assignNodes taskId selectedNodeIds)
    incrementLoads selectedNodeIds
    pure selectedNodeIds

/-! ### Creating a task -/

structure TaskData where
  model_id : Text
  input_data : Text
  input_type : InputType
  priority : Option Priority
  region : Option Text
  api_key_id : Option Uuid

/-- The cost of a task; a price that is NULL makes it NaN. -/
def taskCost (data : TaskData) (model : Model) : Option ℚ :=
  let cost : Option ℚ :=
    match data.input_type with
    | .text => (model.cost_per_1k_tokens.map priceFormat.value).map ((data.input_data.length : ℚ) / 4 / 1000 * ·)
    | .image => model.cost_per_image.map priceFormat.value
    | .audio => (model.cost_per_minute.map priceFormat.value).map ((data.input_data.length : ℚ) / (1024 * 1024) * ·)
  cost.map fun c => if data.priority = some .fast then c * 2 else c

/-- The assignment of a cost. -/
def assignCost : Option ℚ → Except NetworkError (Option Int)
  | none => .ok none
  | some x =>
    match costFormat.assign x with
    | some u => .ok (some u)
    | none => .error .numericOverflow

/-- `region || 'auto'`. -/
def orAuto : Option Text → Text
  | none | some [] => units "auto"
  | some region => region

/-- The row of a new task. -/
def TaskData.row (data : TaskData) (cost : Option Int) : Task where
  model_id := data.model_id
  input_data := data.input_data
  input_type := data.input_type
  priority := data.priority.getD .standard
  region := orAuto data.region
  assigned_nodes := []
  status := .queued
  api_key_id := data.api_key_id
  user_id := none
  cost_tokens := cost

def insertTask (taskId : Uuid) (data : TaskData) (cost : Option ℚ) : Stmt backend Unit :=
  .statement fun db => do
    let units ← assignCost cost
    if (db.tasks.get? taskId).isSome then .error .uniqueViolation
    else .ok ((), fun db => { db with tasks := db.tasks.insert taskId (data.row units) })

/-- The task id is the uuid the call draws. -/
def createTask (taskId : Uuid) (data : TaskData) : Async backend Unit :=
  Async.withClient .connect do
    match ← Async.query .selectModel (.select fun _ db => db.models.get? data.model_id) with
    | none => throw (NetworkError.modelNotFound data.model_id)
    | some model => Async.query .insertTask (insertTask taskId data (taskCost data model))

/-! ### Reports -/

/-- The nodes of a task other than the one that failed. -/
def remainingNodes (task : Task) (failedNodeId : Uuid) : List Uuid := task.assigned_nodes.filter fun id => id ≠ failedNodeId

def failNode (failedNodeId : Uuid) : Stmt backend Unit :=
  updateNode failedNodeId fun row => do
    .ok { row with
      current_load := greatestInteger (← addInteger (-1) row.current_load)
      tasks_failed := row.tasks_failed.map (· + 1) }

def reduceReputation (nodeId : Uuid) (hundredths : Int) : Stmt backend Unit :=
  updateNode nodeId fun row => .ok { row with reputation := reduceScore hundredths row.reputation }

def handleTaskFailure (now : Nat) (taskId : UuidText) (failedNodeId : Uuid) : Async backend (List Uuid) :=
  Async.withClient .connect <| Async.orRollback .rollback do
    Async.await .begin .begin
    match ← Async.query .selectTask (selectTask taskId) with
    | none => throw NetworkError.taskNotFound
    | some (_, task) => do
      Async.query .failNode (failNode failedNodeId)
      Async.query .reduceReputation (reduceReputation failedNodeId 200)
      if remainingNodes task failedNodeId = [] then do
        let newNodes ← assignTask now taskId ⟨task.model_id, none, false, some task.region, some task.priority⟩
        Async.await .commit .commit
        pure newNodes
      else do
        Async.query .keepRemaining
          (updateTask taskId fun task' => { task' with assigned_nodes := remainingNodes task failedNodeId })
        Async.await .commit .commit
        pure (remainingNodes task failedNodeId)

/-- `INSERT INTO task_results ... ON CONFLICT (task_id, node_id) DO UPDATE`. -/
def insertResult (taskId : UuidText) (nodeId : Uuid) (output : Text) (processingTimeMs : Int) : Stmt backend Unit where
  run _ db := do
    let key ← taskId.read
    let ms ← integer processingTimeMs
    if (db.tasks.get? key).isNone || (db.nodes.get? nodeId).isNone then .error .foreignKeyViolation
    else if (db.task_results.get? (key, nodeId)).isSome then
      .ok ((), fun db => { db with task_results := db.task_results.modify (key, nodeId) fun r =>
        { r with output_data := output, processing_time_ms := ms } })
    else .ok ((), fun db => { db with task_results := db.task_results.insert (key, nodeId) ⟨output, ms, .pending, none⟩ })
  locks _ _ := taskId.read.toOption.toList.map fun key => .result key nodeId

def decrementLoad (nodeId : Uuid) : Stmt backend Unit :=
  updateNode nodeId fun row => do .ok { row with current_load := greatestInteger (← addInteger (-1) row.current_load) }

def completeTask (taskId : UuidText) (nodeId : Uuid) (output : Text) (processingTimeMs : Int) : Async backend Unit :=
  Async.withClient .connect <| Async.orRollback .rollback do
    Async.await .begin .begin
    Async.query .insertResult (insertResult taskId nodeId output processingTimeMs)
    Async.query .decrementLoad (decrementLoad nodeId)
    Async.await .commit .commit

def getTask (taskId : UuidText) : Async backend (Option (Uuid × Task)) :=
  Async.withClient .connect <| Async.query .selectTask (selectTask taskId)

end GalaxiaAin.Network
