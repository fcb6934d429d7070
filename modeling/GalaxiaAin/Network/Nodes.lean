import GalaxiaAin.Network.Schema
import Mathlib.Data.List.Sort

/-! The node registry: rows as JavaScript reads them, the active nodes, and reputations. -/
namespace GalaxiaAin.Network
open GalaxiaAin.Library

/-- `x || d` of a number. -/
def orDefault {α : Type} [Zero α] [DecidableEq α] (x : Option α) (d : α) : α :=
  match x with
  | none => d
  | some x => if x = 0 then d else x

/-- A node as `mapRowToNode` returns it. -/
structure Node where
  id : Uuid
  capabilities : NodeCapabilities
  region : Option Text
  reputation : ℚ
  current_load : Int
  max_concurrent_tasks : Int

def mapRowToNode (id : Uuid) (row : NodeRow) : Node where
  id := id
  capabilities := row.capabilities
  region := row.region
  reputation := orDefault (row.reputation.map scoreFormat.value) 50
  current_load := orDefault (row.current_load.map Int32.toInt) 0
  max_concurrent_tasks := orDefault (row.max_concurrent_tasks.map Int32.toInt) 3

/-- The filters that `getActiveNodes` looks at. -/
structure NodeFilters where
  region : Option Text
  minReputation : Option ℚ

/-- The WHERE clause; a filter that is undefined, empty or 0 is left out. -/
def NodeFilters.admits (filters : NodeFilters) (now : Nat) (row : NodeRow) : Bool :=
  row.status == .online && row.last_seen.any (fun seen => decide (now < seen + 300000)) &&
    filters.minReputation.all (fun least => least == 0 || row.reputation.any fun r => decide (least ≤ scoreFormat.value r)) &&
    filters.region.all fun region => region == [] || row.region == some region

/-- `ORDER BY reputation DESC, current_load ASC`: NULL comes before every reputation and
after every load. -/
def NodeRow.precedes (a b : NodeRow) : Bool :=
  match a.reputation, b.reputation with
  | none, some _ => true
  | some _, none => false
  | some x, some y => decide (y < x) || (x == y && loadLE a.current_load b.current_load)
  | none, none => loadLE a.current_load b.current_load
where
  loadLE : Option Int32 → Option Int32 → Bool
    | _, none => true
    | none, some _ => false
    | some x, some y => decide (x.toInt ≤ y.toInt)

/-- The rows of the active nodes. -/
def activeRows (filters : NodeFilters) (now : Nat) (db : NetworkDb) : List (Uuid × NodeRow) :=
  (db.nodes.rows.filter fun r => filters.admits now r.2).mergeSort fun a b => a.2.precedes b.2

/-- `SELECT * FROM nodes WHERE ...`, mapped to nodes. -/
def selectActiveNodes (filters : NodeFilters) (now : Nat) : Stmt backend (List Node) :=
  .select fun _ db => (activeRows filters now db).map fun r => mapRowToNode r.1 r.2

def getActiveNodes (filters : NodeFilters) (now : Nat) : Async backend (List Node) :=
  Async.withClient .connect <| Async.query .selectNodes (selectActiveNodes filters now)

/-- The id of the node of a device; the other fields are not read. -/
def getNodeByDeviceId (deviceId : Text) : Async backend (Option Uuid) :=
  Async.withClient .connect <| Async.query .selectDevice <| .select fun _ db =>
    (db.nodes.rows.find? fun r => r.2.device_id == deviceId).map Prod.fst

/-- The reputation computed from a node's counters. -/
def computeReputation (row : NodeRow) : ℚ :=
  let totalTasks := row.tasks_completed.getD 0 + row.tasks_failed.getD 0
  if totalTasks = 0 then 50
  else
    let successRate : ℚ := row.tasks_completed.getD 0 / totalTasks * 100
    let uptimeWeight := (row.uptime_score.map scoreFormat.value).getD 0
    max 0 (min 100 (successRate * (4 / 10) + uptimeWeight * (4 / 10) + 20))

/-- The assignment of a number to a score column. -/
def assignScore (x : ℚ) : Except NetworkError Int :=
  match scoreFormat.assign x with
  | some u => .ok u
  | none => .error .numericOverflow

def updateReputation (nodeId : Uuid) (reputation : ℚ) : Stmt backend Unit :=
  updateNode nodeId fun row => (assignScore reputation).map fun u => { row with reputation := some u }

def updateNodeReputation (nodeId : Uuid) : Async backend Unit :=
  Async.withClient .connect do
    match ← Async.query .selectCounters (selectNodeRow nodeId) with
    | none => pure ()
    | some row => Async.query .updateReputation (updateReputation nodeId (computeReputation row))

end GalaxiaAin.Network
