import GalaxiaAin.Payments.DirectPayment

/-! `distributeNodePayments`: the nodes of a task are paid from the user's wallet, with
`processPayment` as the fallback, inside a transaction that pays nothing itself. -/
namespace GalaxiaAin.Payments
open GalaxiaAin.Library

/-- A node to be paid, and what the calls for it draw. -/
structure PaidNode where
  nodeId : UuidText
  paymentId : Uuid
  turn : Turn

/-- What the calls for a node do when the amount is NaN. -/
structure Unpriced where
  direct : PaidNode → Async backend Unit
  payout : PaidNode → Async backend Unit

/-- `SELECT cost_tokens, user_id FROM tasks WHERE id = $1`. -/
def selectTask (taskId : UuidText) : Stmt backend (Option TaskColumns) :=
  .selection fun db => taskId.read.map fun key => if db.tasks.contains key then some (db.task_columns key) else none

/-- `SELECT wallet_address FROM users WHERE id = $1`. -/
def selectWallet (userId : UuidText) : Stmt backend (Option Text) :=
  .selection fun db => userId.read.map fun key => (db.users key).bind (·.wallet_address)

/-- `userId || row.user_id`. -/
def taskUser (userId : Option UuidText) (row : TaskColumns) : Option UuidText :=
  orNull userId <|> row.user_id.map .uuid

/-- The wallet the nodes are paid from. -/
def payerWallet (userWallet : Option Text) (taskUserId : Option UuidText) : Async backend (Option Text) :=
  match truthy userWallet, taskUserId with
  | some wallet, _ => pure (some wallet)
  | none, some userId => Async.query .payerWallet (selectWallet userId)
  | none, none => pure userWallet

/-- The payout of a node by `processPayment`; no amount is NaN. -/
def payTraditionally (unpriced : Unpriced) (taskId : UuidText) (userId : UuidText) (amount : Option ℚ) (node : PaidNode) :
    Async backend Unit :=
  match amount with
  | none => unpriced.payout node
  | some amount => do
    let _ ← processPayment node.turn
      { user_id := userId, amount, node_id := some node.nodeId, task_id := some taskId, transaction_type := .payout,
        wallet_address := none }

/-- The direct payment of a node. -/
def payDirectly (unpriced : Unpriced) (taskId : UuidText) (userId : UuidText) (amount : Option ℚ)
    (userWallet nodeWallet : Text) (node : PaidNode) : Async backend Unit :=
  match amount with
  | none => unpriced.direct node
  | some amount => do
    let _ ← processDirectPayment ⟨node.paymentId, taskId, userId, node.nodeId, amount, userWallet, nodeWallet⟩

/-- The loop over the nodes with a wallet of the user. -/
def payFromWallet (unpriced : Unpriced) (taskId : UuidText) (userId : UuidText) (amount : Option ℚ) (userWallet : Text) :
    List PaidNode → Async backend Unit
  | [] => pure ()
  | node :: rest => do
    let row ← Async.query .selectNode (selectNode (some node.nodeId))
    match truthy (row.map (·.wallet_address)) with
    | none => pure ()
    | some nodeWallet =>
      (payDirectly unpriced taskId userId amount userWallet nodeWallet node).handle fun _ =>
        payTraditionally unpriced taskId userId amount node
    payFromWallet unpriced taskId userId amount userWallet rest

/-- The loop without one. -/
def payFromBalance (unpriced : Unpriced) (taskId : UuidText) (userId : UuidText) (amount : Option ℚ) :
    List PaidNode → Async backend Unit
  | [] => pure ()
  | node :: rest => do
    payTraditionally unpriced taskId userId amount node
    payFromBalance unpriced taskId userId amount rest

/-- A cost of NULL or NaN has no share. -/
def paymentPerNode (row : TaskColumns) (nodes : List PaidNode) : Option ℚ :=
  row.cost_tokens.map fun cost => parseFloat cost / nodes.length

/-- The payments of a task that is found. -/
def payTask (unpriced : Unpriced) (taskId : UuidText) (nodes : List PaidNode) (userId : Option UuidText)
    (userWallet : Option Text) (row : TaskColumns) : Async backend Unit := do
  let taskUserId := taskUser userId row
  let wallet ← payerWallet userWallet taskUserId
  match truthy wallet with
  | some wallet => do
    remote .directImport .importGalaxia
    payFromWallet unpriced taskId (taskUserId.getD .empty) (paymentPerNode row nodes) wallet nodes
  | none => payFromBalance unpriced taskId (taskUserId.getD .empty) (paymentPerNode row nodes) nodes

def distributeNodePayments (unpriced : Unpriced) (taskId : UuidText) (nodes : List PaidNode) (userId : Option UuidText)
    (userWallet : Option Text) : Async backend Unit :=
  Async.withClient .connect <| Async.orRollback .rollback do
    Async.await .begin .begin
    match ← Async.query .selectTask (selectTask taskId) with
    -- the early return is before the COMMIT
    | none => pure ()
    | some row => do
      payTask unpriced taskId nodes userId userWallet row
      Async.await .commit .commit

end GalaxiaAin.Payments
