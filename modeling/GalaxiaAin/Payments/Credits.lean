import GalaxiaAin.Payments.Bookkeeping
import GalaxiaAin.Payments.Distribution
import Mathlib.Algebra.BigOperators.Group.Multiset.Basic
import Mathlib.Tactic.Abel

/-! What the nodes of a task are credited: a completed payout or a confirmed direct payment
stands for one credit, and a distribution that returns has added one for each node it paid. -/
namespace GalaxiaAin.Payments
open GalaxiaAin.Library
open GalaxiaAin.Library.Async hiding bind

/-- A completed payout for the task. -/
def TokenTransaction.pays (task : Uuid) (t : TokenTransaction) : Bool :=
  t.task_id == some task && t.transaction_type == .payout && t.status == .completed

/-- A confirmed direct payment for the task. -/
def DirectPaymentRow.pays (task : Uuid) (p : DirectPaymentRow) : Bool := p.task_id == task && p.status == .confirmed

/-- The credits of a task: their nodes and amounts. -/
def Ledger.credits (task : Uuid) (l : Ledger) : Multiset (Option Uuid × Int) :=
  ((l.transactions.filter (·.pays task)).map fun t => (t.node_id, t.amount) : List (Option Uuid × Int)) +
    ((l.direct.filter (·.pays task)).map fun p => (some p.node_id, p.amount) : List (Option Uuid × Int))

/-- Credits are added to those of the task; the wallets of the nodes are as they were. -/
structure Adds (task : Uuid) (new : Multiset (Option Uuid × Int)) (s t : Ledger) : Prop where
  credits : t.credits task = s.credits task + new
  wallets : ∀ key, (t.nodes key).map (·.wallet_address) = (s.nodes key).map (·.wallet_address)

section Ledgers
variable {task : Uuid} {s t u : Ledger} {a b : Multiset (Option Uuid × Int)}

theorem Adds.refl (task : Uuid) (s : Ledger) : Adds task 0 s s := ⟨(add_zero _).symm, fun _ => rfl⟩

theorem Adds.trans (h : Adds task a s t) (h' : Adds task b t u) : Adds task (a + b) s u :=
  ⟨by rw [h'.credits, h.credits, add_assoc], fun key => (h'.wallets key).trans (h.wallets key)⟩

theorem credits_transaction (l : Ledger) (row : TokenTransaction) : Ledger.credits task { l with transactions := l.transactions ++ [row] } =
    l.credits task + if row.pays task then {(row.node_id, row.amount)} else 0 := by
  unfold Ledger.credits
  rw [List.filter_append, List.map_append, ← Multiset.coe_add]
  cases hpays : row.pays task with
  | false =>
    simp [hpays]
  | true =>
    simp only [List.filter_cons, hpays, if_true, List.filter_nil, List.map_cons, List.map_nil, Multiset.coe_singleton]
    abel

theorem credits_direct (l : Ledger) (row : DirectPaymentRow) : Ledger.credits task { l with direct := l.direct ++ [row] } =
    l.credits task + if row.pays task then {(some row.node_id, row.amount)} else 0 := by
  unfold Ledger.credits
  rw [List.filter_append, List.map_append, ← Multiset.coe_add]
  cases hpays : row.pays task with
  | false => simp [hpays]
  | true =>
    simp only [List.filter_cons, hpays, if_true, List.filter_nil, List.map_cons, List.map_nil, Multiset.coe_singleton]
    abel

/-- The earnings of a node are no part of its wallet. -/
theorem wallets_update {nodes : Uuid → Option Node} {k : Uuid} {n : Node} (hn : nodes k = some n) (e : Int) (key : Uuid) :
    (Function.update nodes k (some { n with total_earnings := e }) key).map (·.wallet_address) =
      (nodes key).map (·.wallet_address) := by
  by_cases hk : key = k
  · rw [hk, Function.update_self, hn]
    rfl
  · rw [Function.update_of_ne hk]

end Ledgers

/-! ### The calls for a node -/

theorem orNull_uuid {k : Uuid} {key : Option Uuid} (h : orNull (some (.uuid k)) = key.map UuidText.uuid) : key = some k := by
  cases key with
  | none => cases h
  | some key => exact congrArg some (UuidText.uuid.inj (Option.some.inj h)).symm

/-- A payout that commits adds one credit. -/
theorem Commits.adds {turn : Turn} {request : PaymentRequest} {s u : PaymentDb} {task : Uuid} (h : Commits turn request s u)
    (htype : request.transaction_type = .payout) (htask : request.task_id = some (.uuid task)) :
    ∃ k, request.node_id = some (.uuid k) ∧ Adds task {(some k, amountFormat.units request.amount)} s.ledger u.ledger := by
  obtain ⟨key, nodeId, taskId, amount, v, -, hnode, htask', hamount, -, hchange, rfl⟩ := h
  have hledger : PaymentDb.ledger { v with token_transactions := s.token_transactions ++
      [transactionRow turn request (some key) nodeId taskId amount] } = { v.ledger with transactions :=
        s.ledger.transactions ++ [transactionRow turn request (some key) nodeId taskId amount] } := by
    simp only [PaymentDb.ledger, List.map_append]
    rfl
  rw [hledger]
  generalize v.ledger = w at hchange
  cases hchange with
  | openAccount wallet htype' => rw [htype] at htype'; cases htype'
  | deposit htype' => rw [htype] at htype'; cases htype'
  | payment htype' => rw [htype] at htype'; cases htype'
  | refund htype' => rw [htype] at htype'; cases htype'
  | @payout _ k n e _ _ hk hn _ =>
    rw [hk] at hnode
    rw [htask] at htask'
    obtain rfl : nodeId = some k := orNull_uuid hnode
    obtain rfl : taskId = some task := orNull_uuid htask'
    refine ⟨k, hk, ?_, wallets_update hn e⟩
    have hcredits := @credits_transaction task s.ledger (transactionRow turn request (some key) (some k) (some task) amount)
    rw [if_pos (by simp [TokenTransaction.pays, transactionRow, htype])] at hcredits
    rw [← amountFormat.assign_eq hamount]
    exact hcredits

section Calls
variable {task : Uuid} {s t : PaymentDb}

/-- A direct payment adds one credit when it is confirmed. -/
theorem DirectEnds.adds {request : DirectPaymentRequest} {r : Except PaymentFailure DirectPayment}
    (h : DirectEnds request s r t) (htask : request.taskId = .uuid task) :
    (∃ e, r = .error e) ∧ Adds task 0 s.ledger t.ledger ∨ (∃ d, r = .ok d) ∧ ∃ k, request.nodeId = .uuid k ∧
      Adds task {(some k, amountFormat.units request.amount)} s.ledger t.ledger := by
  cases h with
  | nothing e => exact .inl ⟨⟨e, rfl⟩, .refl task s.ledger⟩
  | @failed e taskId userId k amount h =>
    refine .inl ⟨⟨e, rfl⟩, ?_, fun _ => rfl⟩
    have hcredits := @credits_direct task s.ledger (directPaymentRow request taskId userId k amount none .failed)
    rw [if_neg (by simp [DirectPaymentRow.pays, directPaymentRow])] at hcredits
    exact hcredits
  | @confirmed d taskId userId k amount e n hash h hn he =>
    obtain rfl : taskId = task := UuidText.uuid.inj (h.task.symm.trans htask)
    refine .inr ⟨⟨d, rfl⟩, k, h.node, ?_, wallets_update hn e⟩
    have hcredits := @credits_direct taskId s.ledger (directPaymentRow request taskId userId k amount hash .confirmed)
    rw [if_pos (by simp [DirectPaymentRow.pays, directPaymentRow])] at hcredits
    rw [← amountFormat.assign_eq h.amount_eq]
    exact hcredits

variable {unpriced : Unpriced} {userId : UuidText} {share : ℚ} {node : PaidNode} {l : Local backend}

/-- The traditional payment of a node adds one credit, or throws and changes nothing. -/
theorem payTraditionally_adds : (payTraditionally unpriced (.uuid task) userId (some share) node).post anySite (fun r t l' =>
    ((∃ e, r = .error e) ∧ t = s ∨ r = .ok () ∧ ∃ k, node.nodeId = .uuid k ∧
      Adds task {(some k, amountFormat.units share)} s.ledger t.ledger) ∧ l'.sessions = l.sessions) s l := by
  rw [payTraditionally, post_bind]
  refine post_mono (processPayment_commits (ledger_settlesIn node.turn) _ s l) fun r t l' h => ?_
  obtain ⟨⟨e, rfl, -, rfl⟩ | ⟨rfl, -, u, hcommits, hkept⟩, hl⟩ := h
  · exact ⟨.inl ⟨⟨e, rfl⟩, rfl⟩, hl⟩
  · obtain ⟨k, hk, hadds⟩ := hcommits.adds rfl rfl
    exact ⟨.inr ⟨rfl, k, Option.some.inj hk, (show t.ledger = u.ledger from hkept) ▸ hadds⟩, hl⟩

/-- The direct payment of a node, with its fallback, adds one credit if it returns. -/
theorem payOne_adds (userWallet nodeWallet : Text) : ((payDirectly unpriced (.uuid task) userId (some share) userWallet nodeWallet node).handle
    fun _ => payTraditionally unpriced (.uuid task) userId (some share) node).post anySite (fun r t l' =>
      ((∃ e, r = .error e) ∨ r = .ok () ∧ ∃ k, node.nodeId = .uuid k ∧ Adds task {(some k, amountFormat.units share)} s.ledger t.ledger) ∧
        l'.sessions = l.sessions) s l := by
  rw [post_handle, payDirectly, post_bind]
  refine post_mono (processDirectPayment_ends _ s l) fun r t l' h => ?_
  obtain ⟨⟨⟨e, rfl⟩, hsame⟩ | ⟨⟨d, rfl⟩, k, hk, hadds⟩, hl⟩ := And.imp_left (fun h => h.adds rfl) h
  · rw [next_error, caught_error]
    refine post_mono (payTraditionally_adds (l := l')) fun r u l'' h => ⟨?_, h.2.trans hl⟩
    rcases h.1 with ⟨he, -⟩ | ⟨hr, k, hk, hadds⟩
    · exact .inl he
    · exact .inr ⟨hr, k, hk, zero_add ({(some k, amountFormat.units share)} : Multiset _) ▸ hsame.trans hadds⟩
  · exact ⟨.inr ⟨rfl, k, hk, hadds⟩, hl⟩

end Calls

/-! ### The loops -/

/-- One credit of the share for each of the nodes. -/
def sharesOf (share : ℚ) (keys : List Uuid) : Multiset (Option Uuid × Int) :=
  (keys.map fun k => (some k, amountFormat.units share) : List (Option Uuid × Int))

theorem sharesOf_cons (share : ℚ) (k : Uuid) (keys : List Uuid) :
    {(some k, amountFormat.units share)} + sharesOf share keys = sharesOf share (k :: keys) := rfl

/-- The wallet of a node, where its row is found. -/
def PaidNode.wallet (db : PaymentDb) (node : PaidNode) : Option Text :=
  match node.nodeId with
  | .uuid key => truthy ((db.nodes key).map (·.wallet_address))
  | .empty | .malformed _ => none

/-- The wallet that the nodes are paid from. -/
def payerOf (userWallet : Option Text) (taskUserId : Option UuidText) (db : PaymentDb) : Option Text :=
  match truthy userWallet, taskUserId with
  | some wallet, _ => some wallet
  | none, some (.uuid key) => truthy ((db.users key).bind (·.wallet_address))
  | none, _ => none

/-- The wallet can be looked up: it is given, or the user's id is one. -/
def Readable (userWallet : Option Text) (taskUserId : Option UuidText) : Prop :=
  truthy userWallet = none → ∀ id, taskUserId = some id → ∃ key, id = .uuid key

/-- The nodes that are paid: from a wallet those that have one themselves, and all without one. -/
def paidNodes (payer : Option Text) (db : PaymentDb) (nodes : List PaidNode) : List PaidNode :=
  match payer with
  | some _ => nodes.filter fun node => (node.wallet db).isSome
  | none => nodes

/-- What the loops have done when they return: each of these nodes has one credit more. -/
def Distributes (task : Uuid) (share : ℚ) (paid : List PaidNode) (s t : PaymentDb) : Prop :=
  ∃ keys, paid.map (·.nodeId) = keys.map UuidText.uuid ∧ Adds task (sharesOf share keys) s.ledger t.ledger

section Loops
variable {task : Uuid} {unpriced : Unpriced} {userId : UuidText} {share : ℚ} {s : PaymentDb}

theorem Distributes.nil : Distributes task share [] s s := ⟨[], rfl, .refl task s.ledger⟩

theorem Distributes.cons {node : PaidNode} {k : Uuid} {rest : List PaidNode} {t u : PaymentDb} (hk : node.nodeId = .uuid k)
    (hadds : Adds task {(some k, amountFormat.units share)} s.ledger t.ledger) (h : Distributes task share rest t u) :
    Distributes task share (node :: rest) s u := by
  obtain ⟨keys, hkeys, hrest⟩ := h
  refine ⟨k :: keys, by rw [List.map_cons, List.map_cons, hk, hkeys], ?_⟩
  rw [← sharesOf_cons]
  exact hadds.trans hrest

/-- Without a wallet of the user every node is paid. -/
theorem payFromBalance_distributes (nodes : List PaidNode) {l : Local backend} :
    (payFromBalance unpriced (.uuid task) userId (some share) nodes).post anySite (fun r t l' =>
      (r = .ok () → Distributes task share nodes s t) ∧ l'.sessions = l.sessions) s l := by
  induction nodes generalizing s l with
  | nil => exact ⟨fun _ => .nil, rfl⟩
  | cons node rest ih =>
    rw [payFromBalance, post_bind]
    refine post_mono payTraditionally_adds fun r t l' h => ?_
    obtain ⟨⟨⟨e, rfl⟩, -⟩ | ⟨rfl, k, hk, hadds⟩, hl⟩ := h
    · exact ⟨fun hr => (by cases hr), hl⟩
    · refine post_mono (ih (s := t) (l := l')) fun r u l'' h => ⟨fun hr => .cons hk hadds (h.1 hr), h.2.trans hl⟩

theorem Adds.wallet {new : Multiset (Option Uuid × Int)} {t : PaymentDb} (h : Adds task new s.ledger t.ledger) (node : PaidNode) :
    node.wallet t = node.wallet s := by
  unfold PaidNode.wallet
  split
  · exact congrArg truthy (h.wallets _)
  · rfl
  · rfl

/-- The client of the distribution: its transaction has written nothing. -/
def Unwritten (rest : List (Session backend)) (l : Local backend) : Prop :=
  ∃ held pending out, l = ⟨.active () held pending :: rest, out⟩ ∧ ∀ u, pending u = u

theorem unwritten_sessions {rest : List (Session backend)} {l l' : Local backend} (h : Unwritten rest l)
    (hl : l'.sessions = l.sessions) : Unwritten rest l' := by
  obtain ⟨held, pending, out, rfl, hid⟩ := h
  obtain ⟨sessions, out'⟩ := l'
  exact ⟨held, pending, out', congrArg (Local.mk · out') hl, hid⟩

/-- A read in it leaves it so. -/
theorem unwritten_query {ρ : Type} {f : PaymentDb → Except PaymentFailure ρ} {Q : Post backend ρ} {σ : Site}
    {rest : List (Session backend)} {l : Local backend} (hl : Unwritten rest l)
    (hok : ∀ a l', f s = .ok a → Unwritten rest l' → Q (.ok a) s l')
    (herror : ∀ e x out, Q (.error e) s ⟨x :: rest, out⟩) :
    (Async.query σ (Stmt.selection f)).post anySite Q s l := by
  obtain ⟨held, pending, out, rfl, hid⟩ := hl
  rw [post_query_active, hid]
  refine ⟨?_, fun _ _ => herror _ _ _⟩
  cases hf : f s with
  | error e =>
    have hrun : (Stmt.selection (B := backend) f).run () s = .error e := by
      change (f s).map _ = _
      rw [hf]
      rfl
    rw [Stmt.reply_error hrun]
    exact herror _ _ _
  | ok a =>
    have hrun : (Stmt.selection (B := backend) f).run () s = .ok (a, id) := by
      change (f s).map _ = _
      rw [hf]
      rfl
    rw [Stmt.reply_ok hrun]
    refine hok a _ hf ⟨_, _, out, rfl, fun u => ?_⟩
    rw [Stmt.effect_ok hrun, hid]
    rfl

/-- From a wallet of the user the nodes with a wallet are paid, and the others skipped. -/
theorem payFromWallet_distributes (userWallet : Text) (nodes : List PaidNode) {rest : List (Session backend)} {l : Local backend}
    (hl : Unwritten rest l) : (payFromWallet unpriced (.uuid task) userId (some share) userWallet nodes).post anySite
      (fun r t l' => (r = .ok () → Distributes task share (paidNodes (some userWallet) s nodes) s t ∧ Unwritten rest l') ∧
        ∃ x out, l' = ⟨x :: rest, out⟩) s l := by
  induction nodes generalizing s l with
  | nil =>
    obtain ⟨held, pending, out, rfl, hid⟩ := hl
    exact ⟨fun _ => ⟨.nil, held, pending, out, rfl, hid⟩, _, out, rfl⟩
  | cons node others ih =>
    rw [payFromWallet, post_bind]
    refine unwritten_query hl (fun row l' hrow hl' => ?_) fun e x out => ⟨fun hr => (by cases hr), x, out, rfl⟩
    have hwallet : truthy (row.map (·.wallet_address)) = node.wallet s := by
      unfold PaidNode.wallet
      cases hid : node.nodeId with
      | uuid key =>
        rw [hid] at hrow
        rw [← Except.ok.inj hrow]
        rfl
      | empty => rw [hid] at hrow; cases hrow
      | malformed text => rw [hid] at hrow; cases hrow
    rw [next_ok, hwallet]
    cases hnode : node.wallet s with
    | none =>
      have hskip : (node :: others).filter (fun node => (node.wallet s).isSome) = others.filter fun node => (node.wallet s).isSome :=
        List.filter_cons_of_neg (by simp [hnode])
      rw [paidNodes, hskip]
      exact ih hl'
    | some nodeWallet =>
      have hpaid : (node :: others).filter (fun node => (node.wallet s).isSome) = node :: others.filter fun node => (node.wallet s).isSome :=
        List.filter_cons_of_pos (by simp [hnode])
      rw [paidNodes, hpaid, post_bind]
      refine post_mono (payOne_adds (s := s) (l := l') userWallet nodeWallet) fun r t k h => ?_
      have hk := unwritten_sessions hl' h.2
      obtain ⟨⟨e, rfl⟩ | ⟨rfl, key, hkey, hadds⟩, -⟩ := h
      · obtain ⟨held, pending, out, rfl, -⟩ := hk
        exact ⟨fun hr => (by cases hr), _, out, rfl⟩
      · have hsame : paidNodes (some userWallet) t others = paidNodes (some userWallet) s others := by
          refine List.filter_congr fun n _ => ?_
          rw [hadds.wallet]
        refine post_mono (ih (s := t) hk) fun r u k' h => ⟨fun hr => ⟨?_, (h.1 hr).2⟩, h.2⟩
        have hrest := (h.1 hr).1
        rw [hsame] at hrest
        exact .cons hkey hadds hrest

theorem truthy_some {t : Option Text} {wallet : Text} (h : truthy t = some wallet) : truthy (some wallet) = some wallet := by
  rw [← h]
  cases t <;> simp [truthy]

/-- The reading of the payer's wallet. -/
theorem payerWallet_reads {userWallet : Option Text} {taskUserId : Option UuidText} {Q : Post backend (Option Text)}
    {rest : List (Session backend)} {l : Local backend} (hl : Unwritten rest l)
    (hok : ∀ wallet l', Readable userWallet taskUserId → truthy wallet = payerOf userWallet taskUserId s → Unwritten rest l' →
      Q (.ok wallet) s l')
    (herror : ∀ e x out, Q (.error e) s ⟨x :: rest, out⟩) : (payerWallet userWallet taskUserId).post anySite Q s l := by
  unfold payerWallet
  unfold payerOf at hok
  cases hwallet : truthy userWallet with
  | some wallet =>
    rw [hwallet] at hok
    exact hok (some wallet) l (fun hnone => by rw [hwallet] at hnone; cases hnone) (truthy_some hwallet) hl
  | none =>
    rw [hwallet] at hok
    cases taskUserId with
    | none => exact hok userWallet l (fun _ _ hid => by cases hid) hwallet hl
    | some userId =>
      refine unwritten_query hl (fun wallet l' hread hl' => ?_) herror
      cases userId with
      | uuid key => exact hok wallet l' (fun _ _ hid => ⟨key, (Option.some.inj hid).symm⟩) (by rw [← Except.ok.inj hread]) hl'
      | empty => cases hread
      | malformed text => cases hread

end Loops

/-- A distribution that returns, for a task that exists, has credited each node it pays with one share. -/
theorem distributeNodePayments_distributes (unpriced : Unpriced) {task : Uuid} (nodes : List PaidNode) (userId : Option UuidText)
    (userWallet : Option Text) {s : PaymentDb} {cost : Int} (htask : s.tasks.contains task = true)
    (hcost : (s.task_columns task).cost_tokens = some cost) :
    (distributeNodePayments unpriced (.uuid task) nodes userId userWallet).post anySite (fun r t _ => r = .ok () →
      Distributes task (parseFloat cost / nodes.length)
        (paidNodes (payerOf userWallet (taskUser userId (s.task_columns task)) s) s nodes) s t) s Local.empty := by
  rw [distributeNodePayments, post_withClient]
  have herror (t : PaymentDb) (e : PaymentFailure) (x : Session backend) (out : List Background) :
      caught anySite (fun e => do await Site.rollback .rollback; .raise e) (fun r t l' => r = .ok () →
        Distributes task (parseFloat cost / nodes.length)
          (paidNodes (payerOf userWallet (taskUser userId (s.task_columns task)) s) s nodes) s t) (.error e) t ⟨[x], out⟩ :=
    caught_rollback (fun _ hr => (by cases hr)) (fun hr => (by cases hr)) x
  refine ⟨?_, fun _ _ hr => (by cases hr)⟩
  rw [post_orRollback, post_bind, post_begin]
  refine ⟨?_, fun _ _ => herror _ _ _ _⟩
  rw [next_ok, post_bind]
  have hbegun : Unwritten [] ⟨[.active () [] id], Local.empty.out⟩ := ⟨[], id, _, rfl, fun _ => rfl⟩
  refine unwritten_query hbegun (fun row l hrow hl => ?_) fun e x out => herror _ _ _ _
  obtain rfl : some (s.task_columns task) = row := by
    have hread : (if s.tasks.contains task = true then some (s.task_columns task) else none) = row := Except.ok.inj hrow
    rwa [if_pos htask] at hread
  rw [next_ok]
  simp only
  rw [post_bind, payTask, post_bind]
  refine payerWallet_reads hl (fun wallet l' _ hwallet hl' => ?_) fun e x out => herror _ _ _ _
  rw [next_ok, hwallet]
  -- the payments are made, and COMMIT has nothing to write
  have hcommit (t : PaymentDb) (l'' : Local backend) (hl'' : Unwritten [] l'') (h : Distributes task (parseFloat cost / nodes.length)
      (paidNodes (payerOf userWallet (taskUser userId (s.task_columns task)) s) s nodes) s t) :
      (Async.await (B := backend) Site.commit .commit).post anySite (caught anySite
        (fun e => do await Site.rollback .rollback; .raise e) fun r t l' => r = .ok () → Distributes task
          (parseFloat cost / nodes.length) (paidNodes (payerOf userWallet (taskUser userId (s.task_columns task)) s) s nodes) s t)
        t l'' := by
    obtain ⟨held, pending, out, rfl, hid⟩ := hl''
    rw [post_commit, hid]
    exact ⟨fun _ => h, fun _ _ => herror _ _ _ _⟩
  have hshare : paymentPerNode (s.task_columns task) nodes = some (parseFloat cost / nodes.length) := by
    rw [paymentPerNode, hcost]
    rfl
  cases hpayer : payerOf userWallet (taskUser userId (s.task_columns task)) s with
  | none =>
    rw [hpayer] at hcommit herror
    simp only [hshare]
    refine post_mono (payFromBalance_distributes nodes) fun r t l'' h => ?_
    have hk := unwritten_sessions hl' h.2
    cases r with
    | ok _ => exact hcommit t l'' hk (h.1 rfl)
    | error e =>
      obtain ⟨held, pending, out, rfl, -⟩ := hk
      exact herror _ _ _ _
  | some wallet =>
    rw [hpayer] at hcommit herror
    simp only [hshare]
    rw [post_bind, remote, post_remote]
    refine ⟨fun _ => ?_, fun _ _ => ?_⟩
    · rw [next_ok]
      refine post_mono (payFromWallet_distributes wallet nodes hl') fun r t l'' h => ?_
      obtain ⟨hok, x, out, rfl⟩ := h
      cases r with
      | ok _ => exact hcommit t _ (hok rfl).2 (hok rfl).1
      | error e => exact herror _ _ _ _
    · obtain ⟨held, pending, out, rfl, -⟩ := hl'
      exact herror _ _ _ _

end GalaxiaAin.Payments
