import GalaxiaAin.Payments.Payment

/-! `processDirectPayment`: a GXA transfer from the user's wallet to the node's, recorded as
pending, confirmed or failed. -/
namespace GalaxiaAin.Payments
open GalaxiaAin.Library

/-- The arguments, and the uuid the call draws. -/
structure DirectPaymentRequest where
  paymentId : Uuid
  taskId : UuidText
  userId : UuidText
  nodeId : UuidText
  amount : ℚ
  userWallet : Text
  nodeWallet : Text

structure DirectPayment where
  request : DirectPaymentRequest
  txHash : Option Text
  status : DirectPaymentStatus

/-- `transferResult.txHash`; undefined data is an error. -/
def txHash : Option GXATransaction → Except PaymentFailure (Option Text)
  | some transaction => .ok transaction.txHash
  | none => .error .typeError

/-- `gxaCoinService.transfer`, and the hash of what it answers. -/
def gxaTransfer (request : DirectPaymentRequest) : Async backend (Option Text) := do
  let data ← (remote .gxaTransfer (.gxaTransfer request.userWallet request.nodeWallet request.amount)).handle
    fun _ => throw PaymentFailure.gxaTransferFailed
  Async.ofExcept (txHash data)

def insertDirectPayment (request : DirectPaymentRequest) : Stmt backend Unit :=
  .statement fun db => do
    let taskId ← request.taskId.read
    let userId ← request.userId.read
    let nodeId ← request.nodeId.read
    let amount ← assign request.amount
    if db.direct_payments.any fun p => p.id == request.paymentId then .error .uniqueViolation
    else if db.tasks.contains taskId && (db.users userId).isSome && (db.nodes nodeId).isSome then
      .ok ((), fun db => { db with direct_payments := db.direct_payments ++
        [⟨request.paymentId, taskId, userId, nodeId, amount, request.userWallet, request.nodeWallet, none, .pending⟩] })
    else .error .foreignKeyViolation

/-- `UPDATE direct_payments ... WHERE id = $n`. -/
def updateDirectPayment (request : DirectPaymentRequest) (set : DirectPaymentRow → DirectPaymentRow) : Stmt backend Unit :=
  .statement fun _ => .ok ((), fun db => { db with
    direct_payments := db.direct_payments.map fun p => if p.id = request.paymentId then set p else p })

/-- `UPDATE nodes SET total_earnings = total_earnings + $1 WHERE id = $2`. -/
def addEarnings (request : DirectPaymentRequest) : Stmt backend Unit :=
  updateNode (some request.nodeId) fun node => assign (parseFloat node.total_earnings + request.amount)

/-- The transfer and what is recorded of it, up to COMMIT. -/
def confirm (request : DirectPaymentRequest) : Async backend DirectPayment := do
  let hash ← gxaTransfer request
  Async.query .confirmDirectPayment
    (updateDirectPayment request fun p => { p with tx_hash := hash, status := .confirmed })
  Async.query .updateEarnings (addEarnings request)
  Async.await .commit .commit
  pure ⟨request, hash, .confirmed⟩

/-- What is recorded of a transfer that failed. -/
def markFailed (request : DirectPaymentRequest) (e : PaymentFailure) : Async backend DirectPayment := do
  Async.query .failDirectPayment (updateDirectPayment request fun p => { p with status := .failed })
  Async.await .commitFailed .commit
  throw e

def processDirectPayment (request : DirectPaymentRequest) : Async backend DirectPayment :=
  Async.withClient .connect <| Async.orRollback .rollback do
    Async.await .begin .begin
    let insufficient ← Async.ofExcept (lacks request.amount (← getBalance request.userWallet))
    onlyIf insufficient (throw PaymentFailure.insufficientGXABalance)
    Async.query .insertDirectPayment (insertDirectPayment request)
    (confirm request).handle (markFailed request)

end GalaxiaAin.Payments
