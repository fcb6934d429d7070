import GalaxiaAin.Network.Distribution

/-! The verification of a task's results: by exact match or by similarity, with a tiebreaker
when they do not agree. -/
namespace GalaxiaAin.Network
open GalaxiaAin.Library

/-- A pending row of `task_results`, as the functions below read it. -/
structure PendingResult where
  node_id : Uuid
  output_data : Text

/-- What `verifyTaskResults` returns. -/
structure Verification where
  consensus : Bool
  finalOutput : Option Text
  confidence : Option ℚ
  consensusType : Option ConsensusType

/-- `{ consensus: false }`. -/
def noConsensus : Verification := ⟨false, none, none, none⟩

/-- `Math.ceil(totalNodes * 0.66)`. -/
def consensusThreshold (totalNodes : Nat) : Nat := (totalNodes * 66 + 99) / 100

/-! ### Statements -/

/-- `SELECT * FROM task_results WHERE task_id = $1 AND verification_status = 'pending'`. -/
def pendingResults (db : NetworkDb) (taskId : Uuid) : List PendingResult :=
  (db.task_results.rows.filter fun r => r.1.1 == taskId && r.2.verification_status == .pending).map fun r =>
    ⟨r.1.2, r.2.output_data⟩

def selectPending (taskId : UuidText) : Stmt backend (List PendingResult) :=
  .selection fun db => taskId.read.map (pendingResults db)

/-- `UPDATE task_results SET verification_status = CASE ... END WHERE task_id = $2`; the scores
are set only where they are given. -/
def markResults (taskId : Uuid) (agreeing : List Uuid) (scores : Option (Int × Int)) : Stmt backend Unit :=
  .update (fun _ db => { db with task_results := db.task_results.mapRows fun key r =>
    if key.1 = taskId then
      { r with
        verification_status := if agreeing.contains key.2 then .verified else .rejected
        similarity_score :=
          match scores with
          | none => r.similarity_score
          | some (agree, disagree) => some (if agreeing.contains key.2 then agree else disagree) }
    else r })
    fun _ db => (db.task_results.rows.filter fun r => r.1.1 == taskId).map fun r => .result r.1.1 r.1.2

/-- `UPDATE nodes SET tasks_completed = tasks_completed + 1 WHERE id = $1`. -/
def countCompleted (nodeId : Uuid) : Stmt backend Unit :=
  updateNode nodeId fun row => .ok { row with tasks_completed := row.tasks_completed.map (· + 1) }

def insertConsensus (result : ConsensusResult) : Stmt backend Unit :=
  .statement fun db =>
    if (db.tasks.get? result.task_id).isNone then .error .foreignKeyViolation
    else .ok ((), fun db => { db with consensus_results := db.consensus_results ++ [result] })

/-- `UPDATE tasks SET status = ... WHERE id = $1`. -/
def setStatus (taskId : Uuid) (status : TaskStatus) : Stmt backend Unit :=
  updateTask (.uuid taskId) fun task => { task with status := status }

/-! ### What both kinds of verification do with a majority -/

/-- How a kind of verification marks the results and by how much it penalizes. -/
structure VerificationKind where
  scores : Option (Int × Int)
  penalty : Int

def rewardNodes : List Uuid → Async backend Unit
  | [] => pure ()
  | nodeId :: rest => do
    Async.query .countCompleted (countCompleted nodeId)
    updateNodeReputation nodeId
    rewardNodes rest

def penalizeNodes (penalty : Int) : List Uuid → Async backend Unit
  | [] => pure ()
  | nodeId :: rest => do
    Async.query .penalize (reduceReputation nodeId penalty)
    penalizeNodes penalty rest

/-- The nodes whose results are not in the majority. -/
def disagreeingNodes (results : List PendingResult) (majorityNodes : List Uuid) : List Uuid :=
  (results.filter fun r => !majorityNodes.contains r.node_id).map (·.node_id)

/-- The row for a majority, and what is returned of it. -/
def majorityResult (taskId : Uuid) (results : List PendingResult) (majorityOutput : Text) (majorityNodes : List Uuid)
    (confidence : Int) : ConsensusResult where
  task_id := taskId
  final_output := majorityOutput
  consensus_type := if majorityNodes.length = results.length then .unanimous else .majority
  agreeing_nodes := majorityNodes
  disagreeing_nodes := disagreeingNodes results majorityNodes
  confidence_score := confidence

/-- The branch "Consensus reached". -/
def reachConsensus (kind : VerificationKind) (taskId : Uuid) (results : List PendingResult) (majorityOutput : Text)
    (majorityNodes : List Uuid) : Async backend Verification := do
  Async.query .markResults (markResults taskId majorityNodes kind.scores)
  rewardNodes majorityNodes
  penalizeNodes kind.penalty (disagreeingNodes results majorityNodes)
  let share : ℚ := (majorityNodes.length : ℚ) / results.length * 100
  let confidence ← Async.ofExcept (assignScore share)
  let result := majorityResult taskId results majorityOutput majorityNodes confidence
  Async.query .insertConsensus (insertConsensus result)
  Async.query .finishTask (setStatus taskId .completed)
  pure ⟨true, some majorityOutput, some share, some result.consensus_type⟩

/-! ### The tiebreaker -/

/-- The rows `SELECT id FROM nodes ...` may return; of them at most two are. -/
def tiebreakers (db : NetworkDb) (existingNodeIds : List Uuid) : List (Uuid × NodeRow) :=
  db.nodes.rows.filter fun r => r.2.status == .online && !existingNodeIds.contains r.1 &&
    r.2.reputation.any (fun x => decide (70 ≤ scoreFormat.value x)) &&
    r.2.current_load.any fun load => r.2.max_concurrent_tasks.any fun most => decide (load.toInt < most.toInt)

/-- How many tiebreaker nodes there are. -/
def selectTiebreakers (existingNodeIds : List Uuid) : Stmt backend Nat :=
  .select fun _ db => min 2 (tiebreakers db existingNodeIds).length

/-- A `Map` from outputs, in the order of insertion. -/
abbrev OutputMap (α : Type) := List (Text × α)

/-- `map.set(output, f(map.get(output)))`. -/
def OutputMap.alter {α : Type} (m : OutputMap α) (output : Text) (f : Option α → α) : OutputMap α :=
  match m with
  | [] => [(output, f none)]
  | (key, x) :: rest => if key = output then (key, f (some x)) :: rest else (key, x) :: OutputMap.alter rest output f

/-- The first entry of the largest size, if any is positive. -/
def OutputMap.largest {α : Type} (size : α → Nat) (m : OutputMap α) : Option (Text × α) :=
  m.foldl (fun best entry => if best.elim 0 (fun b => size b.2) < size entry.2 then some entry else best) none

/-- The output that is given most often. -/
def commonOutput (results : List PendingResult) : Text :=
  let counts : OutputMap Nat := results.foldl (fun m r => m.alter r.output_data fun n => n.getD 0 + 1) []
  ((OutputMap.largest id counts).map Prod.fst).getD []

/-- The row a tiebreaker inserts. -/
def tiebreakerResult (taskId : Uuid) (existingResults : List PendingResult) : ConsensusResult where
  task_id := taskId
  final_output := commonOutput existingResults
  consensus_type := .tiebreaker
  agreeing_nodes := existingResults.map (·.node_id)
  disagreeing_nodes := []
  confidence_score := 6000

def runTiebreaker (taskId : Uuid) (existingResults : List PendingResult) : Async backend Verification :=
  Async.withClient .connect do
    match ← Async.query .selectTask (selectTask (.uuid taskId)) with
    | none => pure noConsensus
    | some _ => do
      let found ← Async.query .selectTiebreakers (selectTiebreakers (existingResults.map (·.node_id)))
      if found < 2 then do
        Async.query .failTask (setStatus taskId .failed)
        pure noConsensus
      else do
        Async.query .insertConsensus (insertConsensus (tiebreakerResult taskId existingResults))
        Async.query .finishTask (setStatus taskId .completed)
        pure ⟨true, some (commonOutput existingResults), some 60, some .tiebreaker⟩

/-! ### Exact match -/

/-- The nodes by their trimmed outputs. -/
def outputGroups (results : List PendingResult) : OutputMap (List Uuid) :=
  results.foldl (fun m r => m.alter (trim r.output_data) fun nodeIds => nodeIds.getD [] ++ [r.node_id]) []

def verifyDeterministicResults (taskId : Uuid) (results : List PendingResult) : Async backend Verification :=
  Async.withClient .connect <|
    let majority := ((outputGroups results).largest List.length).getD ([], [])
    if consensusThreshold results.length ≤ majority.2.length then
      reachConsensus ⟨none, 500⟩ taskId results majority.1 majority.2
    else runTiebreaker taskId results

/-! ### Similarity -/

/-- The next row of the matrix of `levenshteinDistance`, for one more character. -/
def nextRow (char : UInt16) (str1 : Text) : List Nat → List Nat
  | [] => []
  | corner :: above => (corner + 1) :: fill str1 corner (corner + 1) above
where
  fill : Text → Nat → Nat → List Nat → List Nat
    | c :: str1, diagonal, left, up :: above =>
      let entry := if char = c then diagonal else min (diagonal + 1) (min (left + 1) (up + 1))
      entry :: fill str1 up entry above
    | _, _, _, _ => []

def levenshteinDistance (str1 str2 : Text) : Nat :=
  (str2.foldl (fun row char => nextRow char str1 row) (List.range (str1.length + 1))).getLastD 0

def calculateSimilarity (str1 str2 : Text) : ℚ :=
  let longer := if str2.length < str1.length then str1 else str2
  if longer.length = 0 then 100
  else
    let similarity : ℚ := ((longer.length : ℚ) - levenshteinDistance str1 str2) / longer.length * 100
    max 0 (min 100 similarity)

/-- The pairs of nodes whose results are similar, in the order of the loops. -/
def similarPairs : List PendingResult → List (Uuid × Uuid)
  | [] => []
  | r :: rest =>
    (rest.filterMap fun r' => if 90 ≤ calculateSimilarity r.output_data r'.output_data then some (r.node_id, r'.node_id) else none) ++
      similarPairs rest

/-- `if (!cluster.includes(node)) cluster.push(node)`. -/
def addNode (cluster : List Uuid) (node : Uuid) : List Uuid := if cluster.contains node then cluster else cluster ++ [node]

/-- Put a pair into the first cluster that has one of its nodes, or into a new one. -/
def addPair (node1 node2 : Uuid) : List (List Uuid) → List (List Uuid)
  | [] => [addNode (addNode [] node1) node2]
  | cluster :: rest =>
    if cluster.contains node1 || cluster.contains node2 then addNode (addNode cluster node1) node2 :: rest
    else cluster :: addPair node1 node2 rest

/-- The clusters of similar results; a node that is processed is in no further pair. -/
def findClusters (clusters : List (List Uuid)) (processed : List Uuid) : List (Uuid × Uuid) → List (List Uuid)
  | [] => clusters
  | (node1, node2) :: rest =>
    if processed.contains node1 || processed.contains node2 then findClusters clusters processed rest
    else findClusters (addPair node1 node2 clusters) (node2 :: node1 :: processed) rest

def verifyNonDeterministicResults (taskId : Uuid) (results : List PendingResult) : Async backend Verification :=
  Async.withClient .connect <|
    match (findClusters [] [] (similarPairs results)).mergeSort fun a b => decide (b.length ≤ a.length) with
    | [] => runTiebreaker taskId results
    | majorityCluster :: _ =>
      if consensusThreshold results.length ≤ majorityCluster.length then
        let majorityOutput := ((results.find? fun r => majorityCluster.contains r.node_id).map (·.output_data)).getD []
        reachConsensus ⟨some (9500, 5000), 300⟩ taskId results majorityOutput majorityCluster
      else runTiebreaker taskId results

/-! ### Verification -/

/-- Audio transcription is deterministic. -/
def isDeterministic (task : Task) : Bool := task.model_id == units "whisper"

def verifyTaskResults (taskId : UuidText) : Async backend Verification :=
  Async.withClient .connect do
    let results ← Async.query .selectPending (selectPending taskId)
    if results.isEmpty then pure noConsensus
    else
      match ← Async.query .selectTask (selectTask taskId) with
      | none => pure noConsensus
      | some (key, task) =>
        if isDeterministic task then verifyDeterministicResults key results
        else verifyNonDeterministicResults key results

end GalaxiaAin.Network
