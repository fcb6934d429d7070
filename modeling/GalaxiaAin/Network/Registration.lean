import GalaxiaAin.Network.Handlers
import GalaxiaAin.Tenant.Schema

/-! The registration and the heartbeat of a node, and the status an administrator sets. -/
namespace GalaxiaAin.Network
open GalaxiaAin.Library

/-- A `varchar(n)` column takes the text. -/
def fits (n : Nat) (text : Text) : Except NetworkError Unit :=
  if Tenant.varchar n text then .ok () else .error .stringTooLong

/-- `SELECT ... FROM nodes WHERE device_id = $1`. -/
def selectDeviceRow (deviceId : Text) : Stmt backend (Option (Uuid × NodeRow)) :=
  .select fun _ db => db.nodes.rows.find? fun r => r.2.device_id == deviceId

/-- `UPDATE nodes SET ... WHERE device_id = $n RETURNING *`. -/
def updateDevice (deviceId : Text) (set : NodeRow → NodeRow) : Stmt backend (Option (Uuid × NodeRow)) where
  run _ db :=
    .ok ((db.nodes.rows.find? fun r => r.2.device_id == deviceId).map fun r => (r.1, set r.2),
      fun db => { db with nodes := db.nodes.mapRows fun _ row => if row.device_id = deviceId then set row else row })
  locks _ db := (db.nodes.rows.filter fun r => r.2.device_id == deviceId).map fun r => .node r.1

/-! ### Registration -/

/-- The body of a registration. A location is given by its region, `located` is the region
of what getLocationFromIP answers, `id` the row's uuid_generate_v4(). -/
structure Registration where
  device_id : Text
  wallet_address : Text
  capabilities : Option NodeCapabilities
  location : Option (Option Text)
  located : Option Text
  id : Uuid
  now : Nat

/-- The region of the node. -/
def Registration.region (data : Registration) : Option Text := data.location.getD data.located

/-- What a registration sets in the row of its device. -/
def NodeRow.revive (data : Registration) (capabilities : NodeCapabilities) (row : NodeRow) : NodeRow :=
  { row with capabilities := capabilities, region := data.region, status := .online, last_seen := some data.now }

/-- A new row, with the defaults of its columns. -/
def Registration.row (data : Registration) (capabilities : NodeCapabilities) : NodeRow where
  device_id := data.device_id
  capabilities := capabilities
  region := data.region
  uptime_score := some 0
  reputation := some 5000
  tasks_completed := some 0
  tasks_failed := some 0
  status := .online
  last_seen := some data.now
  current_load := some 0
  max_concurrent_tasks := some 3

/-- `INSERT INTO nodes ... RETURNING *`. -/
def insertNode (data : Registration) (capabilities : NodeCapabilities) : Stmt backend (Option (Uuid × NodeRow)) where
  run _ db := do
    fits 255 data.device_id
    fits 255 data.wallet_address
    if (db.nodes.get? data.id).isSome || db.nodes.rows.any (fun r => r.2.device_id == data.device_id) then
      .error .uniqueViolation
    else .ok (some (data.id, data.row capabilities),
      fun db => { db with nodes := db.nodes.insert data.id (data.row capabilities) })
  locks _ _ := [.device data.device_id]

/-- `mapRowToNode(result.rows[0])`, which throws without a row. -/
def firstNode : Option (Uuid × NodeRow) → Async backend Node
  | none => throw .typeError
  | some (id, row) => return mapRowToNode id row

def registerNode (data : Registration) (capabilities : NodeCapabilities) : Async backend Node :=
  Async.withClient .connect <| Async.orRollback .rollback do
    Async.await .begin .begin
    match ← Async.query .selectDevice (selectDeviceRow data.device_id) with
    | some _ => do
      let result ← Async.query .touchNode (updateDevice data.device_id (NodeRow.revive data capabilities))
      Async.await .commit .commit
      firstNode result
    | none => do
      let result ← Async.query .insertNode (insertNode data capabilities)
      Async.await .commit .commit
      firstNode result

/-- POST /v1/nodes/register. -/
def register (data : Registration) : Async backend Response :=
  match data.capabilities with
  | none => pure .badRequest
  | some capabilities =>
    if data.device_id = [] ∨ data.wallet_address = [] then pure .badRequest
    else Async.handle (do
      let _ ← registerNode data capabilities
      pure .success) fun _ => pure .serverError

/-! ### Heartbeat -/

structure Heartbeat where
  device_id : Text
  now : Nat

/-- `INSERT INTO node_health_logs ...`; nothing reads the rows. -/
def insertHealthLog (nodeId : Uuid) : Stmt backend Unit :=
  .statement fun db => if (db.nodes.get? nodeId).isNone then .error .foreignKeyViolation else .ok ((), id)

def updateNodeHealth (data : Heartbeat) : Async backend Unit :=
  Async.withClient .connect do
    let _ ← Async.query .touchNode
      (updateDevice data.device_id fun row => { row with last_seen := some data.now, status := .online })
    match ← Async.query .selectDevice (selectDeviceRow data.device_id) with
    | none => pure ()
    | some (nodeId, _) => Async.query .insertHealthLog (insertHealthLog nodeId)

/-- POST /v1/nodes/heartbeat. -/
def heartbeat (data : Heartbeat) : Async backend Response :=
  if data.device_id = [] then pure .badRequest
  else Async.handle (do
    updateNodeHealth data
    pure .success) fun _ => pure .serverError

/-! ### Status -/

def updateNodeStatus (now : Nat) (deviceId : Text) (status : NodeStatus) : Async backend Unit :=
  Async.withClient .connect do
    let _ ← Async.query .updateStatus (updateDevice deviceId fun row => { row with status := status, last_seen := some now })

end GalaxiaAin.Network
