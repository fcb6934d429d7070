import GalaxiaAin.Library.Frame
import GalaxiaAin.Library.Table
import GalaxiaAin.Library.Transaction
import GalaxiaAin.Payments.DirectPayment

/-! The ledger: balances, earnings and what is recorded of payments; and what each call does
to it, when it succeeds and when it fails. -/
namespace GalaxiaAin.Payments
open GalaxiaAin.Library

/-- A transaction without the references that are added after its commit. -/
def TokenTransaction.booked (t : TokenTransaction) : TokenTransaction :=
  { t with clearing_id := none, blockchain_hash := none }

structure Ledger where
  users : Uuid → Option User
  nodes : Uuid → Option Node
  transactions : List TokenTransaction
  direct : List DirectPaymentRow
  profiles : List KycProfile

def PaymentDb.ledger (db : PaymentDb) : Ledger where
  users := db.users
  nodes := db.nodes
  transactions := db.token_transactions.map TokenTransaction.booked
  direct := db.direct_payments
  profiles := db.kyc_profiles

/-- The sum does not depend on the references. -/
theorem total_booked {counted : TokenTransaction → Bool} (h : ∀ t, counted t.booked = counted t)
    (rows : List TokenTransaction) : total counted (rows.map TokenTransaction.booked) = total counted rows := by
  unfold total
  rw [List.filter_map, List.map_map]
  exact congrArg (fun p => ((rows.filter p).map _).sum) (funext h)

theorem total_append (counted : TokenTransaction → Bool) (rows : List TokenTransaction) (t : TokenTransaction) :
    total counted (rows ++ [t]) = total counted rows + if counted t then t.amount else 0 := by
  unfold total
  rw [List.filter_append, List.map_append, List.sum_append]
  cases h : counted t <;> simp [h]

/-- An error other than that of the separate check of a single payment. -/
def Plain (e : PaymentFailure) : Prop := ∀ amount limit, e ≠ .singleTransactionLimit amount limit

/-! ### Statements -/

theorem meets_read (t : UuidText) : Meets t.read (fun key => t = .uuid key) Plain := by
  cases t with
  | uuid key => exact meets_ok.mpr rfl
  | empty => exact meets_error.mpr (by intro _ _ h; cases h)
  | malformed text => exact meets_error.mpr (by intro _ _ h; cases h)

theorem meets_readOptional (t : Option UuidText) :
    Meets (readOptional t) (fun key => t = key.map UuidText.uuid) Plain := by
  cases t with
  | none => exact meets_ok.mpr rfl
  | some t => exact (meets_read t).map fun key h => congrArg some h

theorem meets_assign (x : ℚ) : Meets (assign x) (fun u => amountFormat.assign x = some u) Plain := by
  unfold assign
  cases h : amountFormat.assign x with
  | some u => exact meets_ok.mpr rfl
  | none => exact meets_error.mpr (by intro _ _ h; cases h)

section
variable {c : Unit} {db : PaymentDb}

theorem meets_selectUser (userId : UuidText) : Meets ((selectUser userId).run c db)
    (fun o => ∃ key, userId = .uuid key ∧ o.1 = db.users key ∧ o.2 db = db) Plain :=
  Stmt.meets_selection (B := backend) (R := fun r t => ∃ key, userId = .uuid key ∧ r = db.users key ∧ t = db) <|
    (meets_read userId).map fun key h => ⟨key, h, rfl, rfl⟩

theorem meets_selectNode (nodeId : Option UuidText) : Meets ((selectNode nodeId).run c db)
    (fun o => (∀ node, o.1 = some node → ∃ key, nodeId = some (.uuid key) ∧ db.nodes key = some node) ∧ o.2 db = db) Plain := by
  refine Stmt.meets_selection (B := backend) (R := fun r t => (∀ node, r = some node → ∃ key, nodeId = some (.uuid key) ∧
    db.nodes key = some node) ∧ t = db) ((meets_readOptional nodeId).map fun key h => ⟨fun node hnode => ?_, rfl⟩)
  cases key with
  | none => cases hnode
  | some key => exact ⟨key, h, hnode⟩

/-- An UPDATE of a user that is found. -/
theorem meets_updateUser {key : Uuid} {user : User} {set : User → Except PaymentFailure User} {R : User → Prop}
    (hu : db.users key = some user) (hset : Meets (set user) R Plain) :
    Meets ((updateUser (.uuid key) set).run c db)
      (fun o => ∃ v, R v ∧ o.2 db = { db with users := Function.update db.users key (some v) }) Plain := by
  simp only [updateUser, Stmt.statement, UuidText.read, hu]
  exact hset.map fun v hv => ⟨v, hv, rfl⟩

theorem meets_updateNode {key : Uuid} {node : Node} {earnings : Node → Except PaymentFailure Int} {R : Int → Prop}
    (hn : db.nodes key = some node) (hset : Meets (earnings node) R Plain) :
    Meets ((updateNode (some (.uuid key)) earnings).run c db) (fun o => ∃ u, R u ∧
      o.2 db = { db with nodes := Function.update db.nodes key (some { node with total_earnings := u }) }) Plain := by
  simp only [updateNode, Stmt.statement, readOptional, UuidText.read, Except.map, hn]
  exact hset.map fun u hu => ⟨u, hu, rfl⟩

theorem meets_insertUser (userId : UuidText) (tokenBalance : ℚ) (walletAddress : Option Text) :
    Meets ((insertUser userId tokenBalance walletAddress).run c db) (fun o => ∃ key b, userId = .uuid key ∧
      amountFormat.assign tokenBalance = some b ∧ db.users key = none ∧
      o.2 db = { db with users := Function.update db.users key (some ⟨walletAddress, b, 0⟩) }) Plain := by
  refine (meets_read userId).bind fun key hkey => (meets_assign tokenBalance).bind fun b hb => ?_
  split
  · exact meets_error.mpr (by intro _ _ h; cases h)
  · rename_i hnone
    exact meets_ok.mpr ⟨key, b, hkey, hb, by simpa using hnone, rfl⟩

/-- The transaction of a request can be inserted, once there is a row of its user. -/
structure Recordable (turn : Turn) (request : PaymentRequest) (s : PaymentDb) : Prop where
  amount : ∃ amount, amountFormat.assign request.amount = some amount
  fresh : ∀ t ∈ s.token_transactions, t.id ≠ turn.transactionId
  node : ∃ nodeId : Option Uuid, orNull request.node_id = nodeId.map UuidText.uuid ∧ refers nodeId fun key => (s.nodes key).isSome
  task : ∃ taskId : Option Uuid, orNull request.task_id = taskId.map UuidText.uuid ∧ refers taskId fun key => s.tasks.contains key

/-- The nodes, tasks and transactions that a record refers to are there after a change of balances. -/
theorem Recordable.change {turn : Turn} {request : PaymentRequest} {s t : PaymentDb} (h : Recordable turn request s) (hrows : t.token_transactions = s.token_transactions)
    (htasks : t.tasks = s.tasks) (hnodes : ∀ key, (t.nodes key).isSome = (s.nodes key).isSome) : Recordable turn request t where
  amount := h.amount
  fresh := hrows ▸ h.fresh
  node := by
    obtain ⟨nodeId, hnode, hrow⟩ := h.node
    exact ⟨nodeId, hnode, by simpa only [hnodes] using hrow⟩
  task := by
    obtain ⟨taskId, htask, hrow⟩ := h.task
    exact ⟨taskId, htask, by rwa [htasks]⟩

/-- The row `insertTransaction` adds. -/
def transactionRow (turn : Turn) (request : PaymentRequest) (userId nodeId taskId : Option Uuid) (amount : Int) :
    TokenTransaction :=
  ⟨turn.transactionId, userId, nodeId, taskId, amount, request.transaction_type, .completed, turn.begun, none, none⟩

theorem meets_insertTransaction (turn : Turn) (request : PaymentRequest) :
    Meets ((insertTransaction turn request).run c db) (fun o => ∃ userId nodeId taskId amount,
      orNull (some request.user_id) = userId.map UuidText.uuid ∧ orNull request.node_id = nodeId.map UuidText.uuid ∧
      orNull request.task_id = taskId.map UuidText.uuid ∧ amountFormat.assign request.amount = some amount ∧
      Recordable turn request db ∧ o.2 db = { db with
        token_transactions := db.token_transactions ++ [transactionRow turn request userId nodeId taskId amount] })
      Plain := by
  refine (meets_readOptional _).bind fun userId huser => (meets_readOptional _).bind fun nodeId hnode =>
    (meets_readOptional _).bind fun taskId htask => (meets_assign _).bind fun amount hamount => ?_
  split
  · exact meets_error.mpr (by intro _ _ h; cases h)
  · rename_i hfresh
    split
    · rename_i hrefers
      simp only [Bool.and_eq_true] at hrefers
      refine meets_ok.mpr ⟨userId, nodeId, taskId, amount, huser, hnode, htask, hamount, ⟨⟨amount, hamount⟩, not_any_key.mp hfresh,
        ⟨nodeId, hnode, hrefers.1.2⟩, ⟨taskId, htask, hrefers.2⟩⟩, rfl⟩
    · exact meets_error.mpr (by intro _ _ h; cases h)

/-- The row of a direct payment. -/
def directPaymentRow (request : DirectPaymentRequest) (taskId userId nodeId : Uuid) (amount : Int) (txHash : Option Text)
    (status : DirectPaymentStatus) : DirectPaymentRow :=
  ⟨request.paymentId, taskId, userId, nodeId, amount, request.userWallet, request.nodeWallet, txHash, status⟩

/-- The record of a direct payment can be inserted: its ids are read and refer to rows, its amount fits, and no
record has its id. -/
structure Insertable (request : DirectPaymentRequest) (db : PaymentDb) (taskId userId nodeId : Uuid) (amount : Int) : Prop where
  task : request.taskId = .uuid taskId
  user : request.userId = .uuid userId
  node : request.nodeId = .uuid nodeId
  amount_eq : amountFormat.assign request.amount = some amount
  fresh : ∀ p ∈ db.direct_payments, p.id ≠ request.paymentId
  task_row : db.tasks.contains taskId = true
  user_row : (db.users userId).isSome = true
  node_row : (db.nodes nodeId).isSome = true

/-- It is inserted exactly then. -/
theorem meets_insertDirectPayment (request : DirectPaymentRequest) :
    Meets ((insertDirectPayment request).run c db) (fun o => ∃ taskId userId nodeId amount,
      Insertable request db taskId userId nodeId amount ∧ o.2 db = { db with direct_payments :=
        db.direct_payments ++ [directPaymentRow request taskId userId nodeId amount none .pending] })
      fun _ => ∀ taskId userId nodeId amount, ¬ Insertable request db taskId userId nodeId amount := by
  have hread (t : UuidText) : Meets t.read (fun key => t = .uuid key) fun _ => ∀ key, t ≠ .uuid key := by
    cases t with
    | uuid key => exact meets_ok.mpr rfl
    | empty => exact meets_error.mpr fun _ h => by cases h
    | malformed text => exact meets_error.mpr fun _ h => by cases h
  have hassign (x : ℚ) : Meets (assign x) (fun u => amountFormat.assign x = some u) fun _ => ∀ u, amountFormat.assign x ≠ some u := by
    unfold assign
    cases h : amountFormat.assign x with
    | some u => exact meets_ok.mpr rfl
    | none => exact meets_error.mpr fun _ h => by cases h
  have hor {α : Type} {x : Except PaymentFailure α} {R : α → Prop} {E E' : PaymentFailure → Prop} (h : Meets x R E)
      (hE : ∀ e, E e → E' e) : Meets x R E' := ⟨h.1, fun e he => hE e (h.2 e he)⟩
  refine (hor (hread _) fun _ h _ _ _ _ hi => h _ hi.task).bind fun taskId htask => ?_
  refine (hor (hread _) fun _ h _ _ _ _ hi => h _ hi.user).bind fun userId huser => ?_
  refine (hor (hread _) fun _ h _ _ _ _ hi => h _ hi.node).bind fun nodeId hnode => ?_
  refine (hor (hassign _) fun _ h _ _ _ _ hi => h _ hi.amount_eq).bind fun amount hamount => ?_
  split
  · rename_i htaken
    obtain ⟨p, hp, hid⟩ := List.any_eq_true.mp htaken
    exact meets_error.mpr fun _ _ _ _ hi => hi.fresh p hp (beq_iff_eq.mp hid)
  · rename_i hfresh
    split
    · rename_i hkeys
      simp only [Bool.and_eq_true] at hkeys
      refine meets_ok.mpr ⟨taskId, userId, nodeId, amount, ⟨htask, huser, hnode, hamount, not_any_key.mp hfresh,
        hkeys.1.1, hkeys.1.2, hkeys.2⟩, rfl⟩
    · rename_i hkeys
      refine meets_error.mpr fun taskId' userId' nodeId' _ hi => hkeys ?_
      obtain rfl := UuidText.uuid.inj (htask.symm.trans hi.task)
      obtain rfl := UuidText.uuid.inj (huser.symm.trans hi.user)
      obtain rfl := UuidText.uuid.inj (hnode.symm.trans hi.node)
      simp only [Bool.and_eq_true]
      exact ⟨⟨hi.task_row, hi.user_row⟩, hi.node_row⟩

theorem meets_addEarnings {request : DirectPaymentRequest} {nodeId : Uuid} {node : Node} (hnode : request.nodeId = .uuid nodeId)
    (hn : db.nodes nodeId = some node) : Meets ((addEarnings request).run c db) (fun o => ∃ e,
      amountFormat.assign (parseFloat node.total_earnings + request.amount) = some e ∧ o.2 db =
        { db with nodes := Function.update db.nodes nodeId (some { node with total_earnings := e }) }) Plain := by
  rw [addEarnings, hnode]
  exact meets_updateNode hn (meets_assign _)

/-- An UPDATE by id where no row has it. -/
theorem map_id_fresh {request : DirectPaymentRequest} {rows : List DirectPaymentRow} (set : DirectPaymentRow → DirectPaymentRow)
    (h : ∀ p ∈ rows, p.id ≠ request.paymentId) :
    rows.map (fun p => if p.id = request.paymentId then set p else p) = rows := by
  refine (List.map_congr_left fun p hp => ?_).trans (List.map_id rows)
  exact if_neg (h p hp)

end
end GalaxiaAin.Payments
