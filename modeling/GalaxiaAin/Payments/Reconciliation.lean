import GalaxiaAin.Library.Machine
import GalaxiaAin.Payments.Bookkeeping

/-! Ledger reconciliation: balances, spending and earnings are the sums of the completed
transactions and confirmed direct payments behind them, after every sequence of calls. -/
namespace GalaxiaAin.Payments
open GalaxiaAin.Library

/-- A completed transaction of a type and a user. -/
def byUser (type : TransactionType) (key : Uuid) (t : TokenTransaction) : Bool :=
  t.status == .completed && t.transaction_type == type && t.user_id == some key

/-- A completed transaction of a type for a node. -/
def forNode (type : TransactionType) (key : Uuid) (t : TokenTransaction) : Bool :=
  t.status == .completed && t.transaction_type == type && t.node_id == some key

/-- The sum of a node's confirmed direct payments. -/
def confirmedTotal (key : Uuid) (rows : List DirectPaymentRow) : Int :=
  ((rows.filter fun p => p.status == .confirmed && p.node_id == key).map (·.amount)).sum

structure Reconciled (db : PaymentDb) : Prop where
  balance : ∀ key user, db.users key = some user → user.token_balance =
    total (byUser .deposit key) db.token_transactions + total (byUser .refund key) db.token_transactions -
      total (byUser .payment key) db.token_transactions
  spent : ∀ key user, db.users key = some user → user.total_spent = total (byUser .payment key) db.token_transactions
  earnings : ∀ key node, db.nodes key = some node → node.total_earnings =
    total (forNode .payout key) db.token_transactions + confirmedTotal key db.direct_payments

/-- Nothing is booked, and no user or node has any amount. -/
structure Opened (db : PaymentDb) : Prop where
  transactions : db.token_transactions = []
  direct : db.direct_payments = []
  users : ∀ key user, db.users key = some user → user.token_balance = 0 ∧ user.total_spent = 0
  nodes : ∀ key node, db.nodes key = some node → node.total_earnings = 0

/-- A call of one of the two services. -/
inductive LedgerCall where
  | payment (turn : Turn) (request : PaymentRequest)
  | direct (request : DirectPaymentRequest)

namespace LedgerCall

def amount : LedgerCall → ℚ
  | .payment _ request => request.amount
  | .direct request => request.amount

/-- The amount is one of the column's format. -/
def Exact (call : LedgerCall) : Prop := ∃ units, call.amount = amountFormat.value units

/-- One call by itself, of whose database and remote calls any may fail. -/
def step : Machine PaymentDb LedgerCall
  | s, .payment turn request, t => ∃ r l, Async.Exec anySite (processPayment turn request) s Local.empty r t l
  | s, .direct request, t => ∃ r l, Async.Exec anySite (processDirectPayment request) s Local.empty r t l

end LedgerCall

/-! ### What is carried through a call -/

/-- The ledger is reconciled, and every transaction has its user. -/
structure Balanced (s : Ledger) : Prop where
  balance : ∀ key user, s.users key = some user → user.token_balance =
    total (byUser .deposit key) s.transactions + total (byUser .refund key) s.transactions -
      total (byUser .payment key) s.transactions
  spent : ∀ key user, s.users key = some user → user.total_spent = total (byUser .payment key) s.transactions
  earnings : ∀ key node, s.nodes key = some node → node.total_earnings =
    total (forNode .payout key) s.transactions + confirmedTotal key s.direct
  owned : ∀ t ∈ s.transactions, ∀ key, t.user_id = some key → s.users key ≠ none

theorem Balanced.reconciled {db : PaymentDb} (h : Balanced db.ledger) : Reconciled db := by
  have hbooked (counted : TokenTransaction → Bool) (hc : ∀ t, counted t.booked = counted t) :
      total counted db.ledger.transactions = total counted db.token_transactions := total_booked hc _
  refine ⟨fun key user hu => ?_, fun key user hu => ?_, fun key node hn => ?_⟩
  · have := h.balance key user hu
    rwa [hbooked _ fun _ => rfl, hbooked _ fun _ => rfl, hbooked _ fun _ => rfl] at this
  · have := h.spent key user hu
    rwa [hbooked _ fun _ => rfl] at this
  · have := h.earnings key node hn
    rwa [hbooked _ fun _ => rfl] at this

theorem Opened.balanced {db : PaymentDb} (h : Opened db) : Balanced db.ledger where
  balance key user hu := by simp [PaymentDb.ledger, h.transactions, (h.users key user hu).1, total]
  spent key user hu := by simp [PaymentDb.ledger, h.transactions, (h.users key user hu).2, total]
  earnings key node hn := by
    simp [PaymentDb.ledger, h.transactions, h.direct, h.nodes key node hn, total, confirmedTotal]
  owned t ht := by simp [PaymentDb.ledger, h.transactions] at ht

/-- In exact arithmetic a sum is assigned as it is. -/
theorem assign_add {x a b : Int} (h : amountFormat.assign (parseFloat x + amountFormat.value a) = some b) : b = x + a := by
  rw [parseFloat, Fixed.value_add] at h
  exact amountFormat.assign_value h

theorem assign_sub {x a b : Int} (h : amountFormat.assign (parseFloat x - amountFormat.value a) = some b) : b = x - a := by
  rw [parseFloat, Fixed.value_sub] at h
  exact amountFormat.assign_value h

/-- No transaction counts for a user who has no row. -/
theorem Balanced.total_absent {s : Ledger} (h : Balanced s) {key : Uuid} (hnone : s.users key = none)
    (type : TransactionType) : total (byUser type key) s.transactions = 0 := by
  have : s.transactions.filter (byUser type key) = [] := by
    refine List.filter_eq_nil_iff.mpr fun t ht hcounted => ?_
    simp only [byUser, Bool.and_eq_true, beq_iff_eq] at hcounted
    exact h.owned t ht key hcounted.2 hnone
  rw [total, this]
  rfl

section Booking
variable {turn : Turn} {request : PaymentRequest} {key : Uuid} {nodeId taskId : Option Uuid} {amount : Int}
  {rows : List TokenTransaction}

theorem total_byUser (type : TransactionType) (k : Uuid) :
    total (byUser type k) (rows ++ [transactionRow turn request (some key) nodeId taskId amount]) =
      total (byUser type k) rows + if request.transaction_type = type ∧ key = k then amount else 0 := by
  rw [total_append]
  simp [byUser, transactionRow]

theorem total_forNode (type : TransactionType) (k : Uuid) :
    total (forNode type k) (rows ++ [transactionRow turn request (some key) nodeId taskId amount]) =
      total (forNode type k) rows + if request.transaction_type = type ∧ nodeId = some k then amount else 0 := by
  rw [total_append]
  simp [forNode, transactionRow]

/-- The books of a user whose row is replaced along with a transaction. -/
theorem Balanced.setUser {s : Ledger} (h : Balanced s) (user : User)
    (hbalance : user.token_balance = total (byUser .deposit key) s.transactions + total (byUser .refund key) s.transactions -
      total (byUser .payment key) s.transactions + (if request.transaction_type = .deposit then amount else 0) +
      (if request.transaction_type = .refund then amount else 0) - if request.transaction_type = .payment then amount else 0)
    (hspent : user.total_spent = total (byUser .payment key) s.transactions +
      if request.transaction_type = .payment then amount else 0)
    (htype : request.transaction_type ≠ .payout) :
    Balanced { s with
      users := Function.update s.users key (some user)
      transactions := s.transactions ++ [transactionRow turn request (some key) nodeId taskId amount] } where
  balance k v hk := by
    simp only [total_byUser]
    rcases eq_or_ne key k with rfl | hne
    · simp only [Function.update_self, Option.some.injEq] at hk
      subst hk
      simp only [and_true]
      omega
    · simp only [Function.update_of_ne hne.symm] at hk
      have := h.balance k v hk
      simp only [hne, and_false, if_false]
      omega
  spent k v hk := by
    simp only [total_byUser]
    rcases eq_or_ne key k with rfl | hne
    · simp only [Function.update_self, Option.some.injEq] at hk
      subst hk
      simpa only [and_true] using hspent
    · simp only [Function.update_of_ne hne.symm] at hk
      simpa only [hne, and_false, if_false, add_zero] using h.spent k v hk
  earnings k node hk := by
    simp only [total_forNode, htype, false_and, if_false, add_zero]
    exact h.earnings k node hk
  owned t ht k hk hnone := by
    rcases List.mem_append.mp ht with ht | ht
    · rcases eq_or_ne key k with rfl | hne
      · simp at hnone
      · simp only [Function.update_of_ne hne.symm] at hnone
        exact h.owned t ht k hk hnone
    · obtain rfl := List.mem_singleton.mp ht
      obtain rfl : key = k := Option.some.inj hk
      simp at hnone

/-- The books of a node whose earnings are raised along with a payout. -/
theorem Balanced.setNode {s : Ledger} (h : Balanced s) {node : Uuid} {n : Node} {user : User} (hn : s.nodes node = some n)
    (huser : s.users key = some user) (hnode : nodeId = some node) (htype : request.transaction_type = .payout) :
    Balanced { s with
      nodes := Function.update s.nodes node (some { n with total_earnings := n.total_earnings + amount })
      transactions := s.transactions ++ [transactionRow turn request (some key) nodeId taskId amount] } where
  balance k v hk := by
    simp only [total_byUser, htype, reduceCtorEq, false_and, if_false, add_zero]
    exact h.balance k v hk
  spent k v hk := by
    simp only [total_byUser, htype, reduceCtorEq, false_and, if_false, add_zero]
    exact h.spent k v hk
  earnings k v hk := by
    simp only [total_forNode, htype, true_and, hnode, Option.some.injEq]
    rcases eq_or_ne node k with rfl | hne
    · simp only [Function.update_self, Option.some.injEq] at hk
      subst hk
      have := h.earnings node n hn
      simp only [if_true]
      omega
    · simp only [Function.update_of_ne hne.symm] at hk
      have := h.earnings k v hk
      simp only [hne, if_false]
      omega
  owned t ht k hk hnone := by
    rcases List.mem_append.mp ht with ht | ht
    · exact h.owned t ht k hk hnone
    · obtain rfl := List.mem_singleton.mp ht
      obtain rfl : key = k := Option.some.inj hk
      cases huser.symm.trans hnone

/-- A payment that is booked keeps the ledger balanced. -/
theorem Balanced.books {s t : Ledger} (h : Balanced s) (hbooks : Books turn request s t) {a : Int}
    (hexact : request.amount = amountFormat.value a) : Balanced t := by
  obtain ⟨key, nodeId, taskId, amount, t, huser, hnode, hamount, -, hchange⟩ := hbooks
  obtain rfl : amount = a := amountFormat.assign_value (hexact ▸ hamount)
  cases hchange with
  | openAccount wallet htype hnone hb =>
    have hb := amountFormat.assign_value (hexact ▸ hb)
    refine h.setUser _ ?_ ?_ (by rw [htype]; decide)
    · simp [h.total_absent hnone, htype, hb]
    · simp [h.total_absent hnone, htype]
  | @deposit u b htype hrow hb =>
    have hb := assign_add (hexact ▸ hb)
    refine h.setUser _ ?_ ?_ (by rw [htype]; decide)
    · simp [htype, hb, h.balance key u hrow]
    · simp [htype, h.spent key u hrow]
  | @payment u b c htype hrow hcovered hb hc =>
    have hb := assign_sub (hexact ▸ hb)
    have hc := assign_add (hexact ▸ hc)
    refine h.setUser _ ?_ ?_ (by rw [htype]; decide)
    · simp [htype, hb, h.balance key u hrow]
    · simp [htype, hc, h.spent key u hrow]
  | @payout u node n e htype hrow hid hn he =>
    have he := assign_add (hexact ▸ he)
    subst he
    refine h.setNode hn hrow ?_ htype
    rw [hid] at hnode
    cases nodeId with
    | none => cases hnode
    | some k => exact congrArg some (UuidText.uuid.inj (Option.some.inj hnode)).symm
  | @refund u b htype hrow hb =>
    have hb := assign_add (hexact ▸ hb)
    refine h.setUser _ ?_ ?_ (by rw [htype]; decide)
    · simp [htype, hb, h.balance key u hrow]
    · simp [htype, h.spent key u hrow]

end Booking
section Direct
variable {request : DirectPaymentRequest} {s t : PaymentDb}

theorem confirmedTotal_append (key : Uuid) (rows : List DirectPaymentRow) (p : DirectPaymentRow) :
    confirmedTotal key (rows ++ [p]) =
      confirmedTotal key rows + if p.status = .confirmed ∧ p.node_id = key then p.amount else 0 := by
  unfold confirmedTotal
  rw [List.filter_append, List.map_append, List.sum_append]
  by_cases h : p.status = .confirmed ∧ p.node_id = key
  · simp [h]
  · rw [if_neg h, List.filter_cons_of_neg (by simpa using h)]
    rfl

/-- A direct payment keeps the ledger balanced, whatever comes of it. -/
theorem Balanced.direct {r : Except PaymentFailure DirectPayment} (h : Balanced s.ledger)
    (houtcome : DirectOutcome request s r t) {a : Int} (hexact : request.amount = amountFormat.value a) :
    Balanced t.ledger := by
  rcases houtcome with ⟨-, rfl | ⟨taskId, userId, nodeId, amount, rfl⟩⟩ | ⟨-, taskId, userId, nodeId, amount, e, txHash, n,
    hn, hamount, he, rfl⟩
  · exact h
  · refine { h with earnings := fun key node hnode => ?_ }
    have := h.earnings key node hnode
    simpa [PaymentDb.ledger, confirmedTotal_append, directPaymentRow] using this
  · obtain rfl : amount = a := amountFormat.assign_value (hexact ▸ hamount)
    have he := assign_add (hexact ▸ he)
    refine { h with earnings := fun key node hnode => ?_ }
    simp only [PaymentDb.ledger, confirmedTotal_append, directPaymentRow, true_and] at hnode ⊢
    rcases eq_or_ne nodeId key with rfl | hne
    · simp only [Function.update_self, Option.some.injEq] at hnode
      subst hnode
      have := h.earnings nodeId n hn
      simp only [PaymentDb.ledger] at this
      simp only [if_true]
      omega
    · simp only [Function.update_of_ne hne.symm] at hnode
      have := h.earnings key node hnode
      simp only [PaymentDb.ledger] at this
      simp only [hne, if_false]
      omega

end Direct

/-! ### Sequences of calls -/

/-- No user is overdrawn. -/
def Covered (s : Ledger) : Prop := ∀ key user, s.users key = some user → 0 ≤ user.token_balance

theorem Covered.setUser {s : Ledger} (h : Covered s) {key : Uuid} {user : User} {rows : List TokenTransaction}
    (hu : 0 ≤ user.token_balance) :
    Covered { s with users := Function.update s.users key (some user), transactions := rows } := by
  intro k v hk
  rcases eq_or_ne key k with rfl | hne
  · simp only [Function.update_self, Option.some.injEq] at hk
    exact hk ▸ hu
  · simp only [Function.update_of_ne hne.symm] at hk
    exact h k v hk

/-- A payment of a non-negative amount overdraws no user. -/
theorem Covered.books {turn : Turn} {request : PaymentRequest} {s t : Ledger} (h : Covered s)
    (hbooks : Books turn request s t) {a : Int} (hexact : request.amount = amountFormat.value a) (ha : 0 ≤ a) :
    Covered t := by
  obtain ⟨key, nodeId, taskId, amount, t, huser, hnode, hamount, -, hchange⟩ := hbooks
  cases hchange with
  | openAccount wallet htype hnone hb => exact h.setUser ((amountFormat.assign_value (hexact ▸ hb)).symm ▸ ha)
  | @deposit u b htype hrow hb =>
    have := h key u hrow
    have := assign_add (hexact ▸ hb)
    exact h.setUser (by simp only; omega)
  | @payment u b c htype hrow hcovered hb hc =>
    have := assign_sub (hexact ▸ hb)
    have := (amountFormat.value_le).mp (hexact ▸ hcovered : amountFormat.value a ≤ amountFormat.value u.token_balance)
    exact h.setUser (by simp only; omega)
  | @payout u node n e htype hrow hid hn he => exact h
  | @refund u b htype hrow hb =>
    have := h key u hrow
    have := assign_add (hexact ▸ hb)
    exact h.setUser (by simp only; omega)

namespace LedgerCall
variable {s t : PaymentDb} {call : LedgerCall}

/-- What a call does to a ledger, whichever of its calls fail. -/
theorem step_cases (h : step s call t) : t.ledger = s.ledger ∨
    (∃ turn request, call = .payment turn request ∧ Books turn request s.ledger t.ledger) ∨
    ∃ request r, call = .direct request ∧ DirectOutcome request s r t := by
  cases call with
  | payment turn request =>
    obtain ⟨r, l, h⟩ := h
    rcases (h.sound (processPayment_post turn request s)).1 with ⟨e, -, -, rfl⟩ | ⟨-, -, hbooks⟩
    · exact .inl rfl
    · exact .inr (.inl ⟨turn, request, rfl, hbooks⟩)
  | direct request =>
    obtain ⟨r, l, h⟩ := h
    exact .inr (.inr ⟨request, r, rfl, (h.sound (processDirectPayment_post request s)).1⟩)

theorem step_balanced (hs : Balanced s.ledger) (hexact : call.Exact) (h : step s call t) : Balanced t.ledger := by
  obtain ⟨a, ha⟩ := hexact
  rcases step_cases h with heq | ⟨turn, request, rfl, hbooks⟩ | ⟨request, r, rfl, houtcome⟩
  · exact heq ▸ hs
  · exact hs.books hbooks ha
  · exact hs.direct houtcome ha

theorem step_covered (hs : Covered s.ledger) (hexact : call.Exact) (hamount : 0 ≤ call.amount) (h : step s call t) :
    Covered t.ledger := by
  obtain ⟨a, ha⟩ := hexact
  have hpos : 0 ≤ a := by
    rw [ha, ← amountFormat.value_zero] at hamount
    exact amountFormat.value_le.mp hamount
  rcases step_cases h with heq | ⟨turn, request, rfl, hbooks⟩ | ⟨request, r, rfl, houtcome⟩
  · exact heq ▸ hs
  · exact hs.books hbooks ha hpos
  · rcases houtcome with ⟨-, rfl | ⟨_, _, _, _, rfl⟩⟩ | ⟨-, _, _, _, _, _, _, _, -, -, -, rfl⟩ <;> exact hs

end LedgerCall

/-- After every sequence of calls, of which any part may fail, the ledger is reconciled; with
amounts that are not negative no user is overdrawn. -/
theorem ledger_reconciles {s t : PaymentDb} {calls : List LedgerCall} (hopened : Opened s)
    (hexact : ∀ call ∈ calls, call.Exact) (hrun : Machine.Run LedgerCall.step s calls t) :
    Reconciled t ∧ ((∀ call ∈ calls, 0 ≤ call.amount) → ∀ key user, t.users key = some user → 0 ≤ user.token_balance) := by
  have hmem (pre : List LedgerCall) (call : LedgerCall) (post : List LedgerCall) (h : calls = pre ++ call :: post) :
      call ∈ calls := h ▸ List.mem_append_right pre List.mem_cons_self
  constructor
  · have hguard (pre : List LedgerCall) (call : LedgerCall) (post : List LedgerCall) (u : PaymentDb)
        (h : calls = pre ++ call :: post) (_ : Machine.Run LedgerCall.step s pre u) : call.Exact :=
      hexact call (hmem pre call post h)
    exact (hrun.invariant_of (P := fun s => Balanced s.ledger)
      (fun _ _ _ hs hcall h => LedgerCall.step_balanced hs hcall h) hguard hopened.balanced).reconciled
  · intro hamount
    have hguard (pre : List LedgerCall) (call : LedgerCall) (post : List LedgerCall) (u : PaymentDb)
        (h : calls = pre ++ call :: post) (_ : Machine.Run LedgerCall.step s pre u) : call.Exact ∧ 0 ≤ call.amount :=
      ⟨hexact call (hmem pre call post h), hamount call (hmem pre call post h)⟩
    exact hrun.invariant_of (P := fun s => Covered s.ledger)
      (fun _ _ _ hs hcall h => LedgerCall.step_covered hs hcall.1 hcall.2 h) hguard fun key user hu =>
        ge_of_eq (hopened.users key user hu).1

/-- Where a call leads when every call it makes is served with these replies. -/
def LedgerCall.served (replies : ∀ r : Remote, r.Reply) (s : PaymentDb) : LedgerCall → PaymentDb
  | .payment turn request => ((processPayment turn request).run (List.replicate 20 (.done replies)) s Local.empty).2.1
  | .direct request => ((processDirectPayment request).run (List.replicate 20 (.done replies)) s Local.empty).2.1

theorem LedgerCall.served_step (replies : ∀ r : Remote, r.Reply) (s : PaymentDb) (call : LedgerCall) :
    LedgerCall.step s call (call.served replies s) := by
  cases call with
  | payment turn request =>
    exact ⟨_, _, Async.exec_run anySite (processPayment turn request) (List.replicate 20 (.done replies)) s Local.empty
      fun _ _ _ _ => trivial⟩
  | direct request =>
    exact ⟨_, _, Async.exec_run anySite (processDirectPayment request) (List.replicate 20 (.done replies)) s Local.empty
      fun _ _ _ _ => trivial⟩

/-- A node and a task, before anything is paid. -/
def tradingDb : PaymentDb where
  users := fun _ => none
  nodes := fun key => if key = 7 then some ⟨units "0xnode", 0⟩ else none
  tasks := [5]
  token_transactions := []
  direct_payments := []
  kyc_profiles := []
  user_jurisdictions := []
  compliance_config := []
  travel_rule_records := []
  audit_logs := []

/-- A wallet that holds 100 GXA. -/
def tradingReplies : ∀ r : Remote, r.Reply
  | .gxaBalance _ => some ⟨some 100⟩
  | .gxaTransfer _ _ _ => some ⟨some (units "0xhash")⟩
  | .importGalaxia => ()
  | .submitTransaction _ => ⟨units "clr", units "settled"⟩
  | .sendTransaction _ => units "0xhash"

/-- A deposit that creates the user, a payout to the node, and a direct payment to it. -/
def tradingCalls : List LedgerCall :=
  [.payment ⟨1, 0, 0, none⟩ ⟨.uuid 3, 10, none, none, .deposit, none⟩,
    .payment ⟨2, 0, 0, none⟩ ⟨.uuid 3, 4, some (.uuid 5), some (.uuid 7), .payout, none⟩,
    .direct ⟨1, .uuid 5, .uuid 3, .uuid 7, 3 / 2, units "0xuser", units "0xnode"⟩]

theorem ledger_reconciles_trade :
    let t := tradingCalls.foldl (LedgerCall.served tradingReplies) tradingDb
    Reconciled t ∧ (t.users 3).map (·.token_balance) = some 1000000000 ∧
      (t.nodes 7).map (·.total_earnings) = some 550000000 := by
  have hrun : Machine.Run LedgerCall.step tradingDb tradingCalls
      (tradingCalls.foldl (LedgerCall.served tradingReplies) tradingDb) :=
    .cons (LedgerCall.served_step _ _ _) (.cons (LedgerCall.served_step _ _ _) (.cons (LedgerCall.served_step _ _ _) (.nil _)))
  have hopened : Opened tradingDb := by
    refine ⟨rfl, rfl, fun key user h => (nomatch h), fun key node h => ?_⟩
    simp only [tradingDb] at h
    split at h <;> cases h
    rfl
  have hexact : ∀ call ∈ tradingCalls, call.Exact := by
    simp only [tradingCalls, List.mem_cons, List.not_mem_nil, or_false, forall_eq_or_imp, forall_eq]
    refine ⟨⟨1000000000, ?_⟩, ⟨400000000, ?_⟩, 150000000, ?_⟩ <;>
      norm_num [LedgerCall.amount, amountFormat, Fixed.value]
  refine ⟨(ledger_reconciles hopened hexact hrun).1, ?_, ?_⟩ <;> decide +kernel

end GalaxiaAin.Payments
