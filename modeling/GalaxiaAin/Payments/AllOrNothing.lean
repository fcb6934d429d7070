import GalaxiaAin.Payments.Acceptance
import GalaxiaAin.Payments.Credits

/-! A distribution is no transaction. Each payment commits on a client of its own, so once
the first node can be paid, a later failure leaves its payment behind; and nodes without a
wallet are passed over. -/
namespace GalaxiaAin.Payments
open GalaxiaAin.Library
open GalaxiaAin.Library.Async hiding bind

/-- The credits of a node for a task. -/
def creditsOf (task key : Uuid) (db : PaymentDb) : Nat := (db.ledger.credits task).countP fun c => c.1 = some key

/-- The tables of the payments are as they were. -/
def Untouched (s t : PaymentDb) : Prop :=
  t.users = s.users ∧ t.nodes = s.nodes ∧ t.token_transactions = s.token_transactions ∧ t.direct_payments = s.direct_payments

/-- A distribution that throws has changed nothing, and one that returns has credited every node once for its task. -/
def AllOrNothing (taskId : UuidText) (nodes : List PaidNode) (userId : Option UuidText) (userWallet : Option Text) (s : PaymentDb) : Prop :=
  ∀ unpriced : Unpriced, (distributeNodePayments unpriced taskId nodes userId userWallet).post anySite (fun r t _ =>
    ((∃ e, r = .error e) → Untouched s t) ∧ (r = .ok () → ∀ task, taskId = .uuid task → s.tasks.contains task = true →
      ∀ node ∈ nodes, ∃ key, node.nodeId = .uuid key ∧ creditsOf task key t = creditsOf task key s + 1)) s Local.empty

/-! ### When a node can be paid -/

/-- The request of a payout. -/
def payoutRequest (taskId userId : UuidText) (amount : ℚ) (node : PaidNode) : PaymentRequest where
  user_id := userId
  amount := amount
  node_id := some node.nodeId
  task_id := some taskId
  transaction_type := .payout
  wallet_address := none

/-- The request of a direct payment. -/
def directRequest (taskId userId : UuidText) (amount : ℚ) (userWallet nodeWallet : Text) (node : PaidNode) : DirectPaymentRequest :=
  ⟨node.paymentId, taskId, userId, node.nodeId, amount, userWallet, nodeWallet⟩

/-- The payout of the node can go through; nothing is known of a share that is no number. -/
def Payable (taskId userId : UuidText) (node : PaidNode) (s : PaymentDb) : Option ℚ → Prop
  | none => True
  | some amount => ∃ key, userId = .uuid key ∧ Admitted s key ∧ Applicable (payoutRequest taskId userId amount node) s key ∧
      Recordable node.turn (payoutRequest taskId userId amount node) s

/-- The direct payment of the node can be recorded. -/
def Recorded (taskId userId : UuidText) (userWallet nodeWallet : Text) (node : PaidNode) (s : PaymentDb) (share : Option ℚ) : Prop :=
  ∃ amount taskKey userKey nodeKey units, share = some amount ∧
    Insertable (directRequest taskId userId amount userWallet nodeWallet node) s taskKey userKey nodeKey units

/-- From the payer's wallet: the nodes without one are passed over, and there is none left or the first that has one
can be paid. -/
def StartsFromWallet (taskId userId : UuidText) (share : Option ℚ) (userWallet : Text) (s : PaymentDb) : List PaidNode → Prop
  | [] => True
  | node :: rest =>
    match node.nodeId with
    | .uuid key =>
      match truthy ((s.nodes key).map (·.wallet_address)) with
      | none => StartsFromWallet taskId userId share userWallet s rest
      | some nodeWallet => Payable taskId userId node s share ∨ Recorded taskId userId userWallet nodeWallet node s share
    | .empty | .malformed _ => False

/-- From the balance: the first node can be paid. -/
def StartsFromBalance (taskId userId : UuidText) (share : Option ℚ) (s : PaymentDb) : List PaidNode → Prop
  | [] => False
  | node :: _ => Payable taskId userId node s share

/-- The task is found, its payer is read, and the payments of its nodes can start. -/
def Starts (taskId : UuidText) (nodes : List PaidNode) (userId : Option UuidText) (userWallet : Option Text) (s : PaymentDb) : Prop :=
  nodes ≠ [] ∧ ∃ task, taskId = .uuid task ∧ s.tasks.contains task = true ∧
    Readable userWallet (taskUser userId (s.task_columns task)) ∧
    match payerOf userWallet (taskUser userId (s.task_columns task)) s with
    | some wallet => StartsFromWallet taskId ((taskUser userId (s.task_columns task)).getD .empty)
        (paymentPerNode (s.task_columns task) nodes) wallet s nodes
    | none => StartsFromBalance taskId ((taskUser userId (s.task_columns task)).getD .empty)
        (paymentPerNode (s.task_columns task) nodes) s nodes

/-! ### Where they cannot start -/

section Stuck
variable {unpriced : Unpriced} {taskId userId : UuidText} {share : Option ℚ} {node : PaidNode} {s : PaymentDb} {l : Local backend}

theorem payTraditionally_stuck (hstuck : ¬ Payable taskId userId node s share) : (payTraditionally unpriced taskId userId share node).post
    anySite (fun r t l' => ((∃ e, r = .error e) ∧ t = s) ∧ l'.sessions = l.sessions) s l := by
  cases share with
  | none => exact absurd trivial hstuck
  | some amount =>
    rw [payTraditionally, post_bind]
    refine (post_iff _ _ _ _ _).mpr fun r t l' hexec => ?_
    obtain ⟨hends, hl⟩ := hexec.sound (processPayment_commits (ledger_settlesIn node.turn) (payoutRequest taskId userId amount node) s l)
    rcases hends with ⟨e, rfl, -, rfl⟩ | ⟨rfl, -, u, hcommits, -⟩
    · exact ⟨⟨⟨e, rfl⟩, rfl⟩, hl⟩
    · obtain ⟨key, hkey, happly, hrecord⟩ := hcommits.applicable (.inr rfl)
      exact absurd ⟨key, hkey, hexec.sound (processPayment_admitted hkey l) _ rfl, happly, hrecord⟩ hstuck

theorem payDirectly_stuck {userWallet nodeWallet : Text} (hshare : share ≠ none)
    (hstuck : ¬ Recorded taskId userId userWallet nodeWallet node s share) :
    (payDirectly unpriced taskId userId share userWallet nodeWallet node).post anySite
      (fun r t l' => ((∃ e, r = .error e) ∧ t = s) ∧ l'.sessions = l.sessions) s l := by
  cases share with
  | none => exact absurd rfl hshare
  | some amount =>
    rw [payDirectly, post_bind]
    refine post_mono (processDirectPayment_ends (directRequest taskId userId amount userWallet nodeWallet node) s l) fun r t l' h => ?_
    obtain ⟨hends, hl⟩ := h
    cases hends with
    | nothing e => exact ⟨⟨⟨e, rfl⟩, rfl⟩, hl⟩
    | failed e h => exact absurd ⟨amount, _, _, _, _, rfl, h⟩ hstuck
    | confirmed d hash h hn he => exact absurd ⟨amount, _, _, _, _, rfl, h⟩ hstuck

theorem payFromBalance_stuck (nodes : List PaidNode) (hstuck : ¬ StartsFromBalance taskId userId share s nodes) :
    (payFromBalance unpriced taskId userId share nodes).post anySite
      (fun r t l' => ((r = .ok () → nodes = []) ∧ t = s) ∧ l'.sessions = l.sessions) s l := by
  cases nodes with
  | nil => exact ⟨⟨fun _ => rfl, rfl⟩, rfl⟩
  | cons node rest =>
    rw [payFromBalance, post_bind]
    refine post_mono (payTraditionally_stuck hstuck) fun r t l' h => ?_
    obtain ⟨⟨⟨e, rfl⟩, rfl⟩, hl⟩ := h
    exact ⟨⟨fun hr => (by cases hr), rfl⟩, hl⟩

theorem payFromWallet_stuck (userWallet : Text) (nodes : List PaidNode) {rest : List (Session backend)} (hl : Unwritten rest l)
    (hstuck : ¬ StartsFromWallet taskId userId share userWallet s nodes) :
    (payFromWallet unpriced taskId userId share userWallet nodes).post anySite
      (fun r t l' => ((∃ e, r = .error e) ∧ t = s) ∧ ∃ x out, l' = ⟨x :: rest, out⟩) s l := by
  induction nodes generalizing l with
  | nil => exact absurd trivial hstuck
  | cons node others ih =>
    rw [payFromWallet, post_bind]
    refine unwritten_query hl (fun row l' hrow hl' => ?_) fun e x out => ⟨⟨⟨e, rfl⟩, rfl⟩, x, out, rfl⟩
    cases hid : node.nodeId with
    | empty => rw [hid] at hrow; cases hrow
    | malformed text => rw [hid] at hrow; cases hrow
    | uuid key =>
      rw [hid] at hrow
      obtain rfl : s.nodes key = row := Except.ok.inj hrow
      simp only [StartsFromWallet, hid] at hstuck
      rw [next_ok]
      cases hwallet : truthy ((s.nodes key).map (·.wallet_address)) with
      | none =>
        rw [hwallet] at hstuck
        exact ih hl' hstuck
      | some nodeWallet =>
        rw [hwallet] at hstuck
        obtain ⟨hpayable, hrecorded⟩ := not_or.mp hstuck
        have hshare : share ≠ none := fun h => hpayable (h ▸ trivial)
        simp only
        rw [post_bind, post_handle]
        refine post_mono (payDirectly_stuck hshare hrecorded) fun r t k h => ?_
        obtain ⟨⟨⟨e, rfl⟩, rfl⟩, hk⟩ := h
        rw [caught_error]
        refine post_mono (payTraditionally_stuck hpayable) fun r u k' h => ?_
        obtain ⟨⟨⟨e, rfl⟩, rfl⟩, hk'⟩ := h
        obtain ⟨held, pending, out, rfl, -⟩ := unwritten_sessions hl' (hk'.trans hk)
        exact ⟨⟨⟨e, rfl⟩, rfl⟩, _, out, rfl⟩

end Stuck

/-- Where the payments cannot start, nothing is changed, and a distribution that returns had none to make. -/
theorem distributeNodePayments_stuck {unpriced : Unpriced} {taskId : UuidText} {nodes : List PaidNode} {userId : Option UuidText}
    {userWallet : Option Text} {s : PaymentDb} (hstuck : ¬ Starts taskId nodes userId userWallet s) :
    (distributeNodePayments unpriced taskId nodes userId userWallet).post anySite (fun r t _ => t = s ∧
      (r = .ok () → ∀ task, taskId = .uuid task → s.tasks.contains task = true → nodes = [])) s Local.empty := by
  rw [distributeNodePayments, post_withClient]
  have herror (e : PaymentFailure) (x : Session backend) (out : List Background) :
      caught anySite (fun e => do await Site.rollback .rollback; .raise e) (fun r t l' => t = s ∧
        (r = .ok () → ∀ task, taskId = .uuid task → s.tasks.contains task = true → nodes = [])) (.error e) s ⟨[x], out⟩ :=
    caught_rollback (fun _ => ⟨rfl, fun hr => by cases hr⟩) ⟨rfl, fun hr => by cases hr⟩ x
  refine ⟨?_, fun _ _ => ⟨rfl, fun hr => by cases hr⟩⟩
  rw [post_orRollback, post_bind, post_begin]
  refine ⟨?_, fun _ _ => herror _ _ _⟩
  rw [next_ok, post_bind]
  have hbegun : Unwritten [] ⟨[.active () [] id], Local.empty.out⟩ := ⟨[], id, _, rfl, fun _ => rfl⟩
  refine unwritten_query hbegun (fun row l hrow hl => ?_) fun e x out => herror _ _ _
  rw [next_ok]
  cases taskId with
  | empty => cases hrow
  | malformed text => cases hrow
  | uuid task =>
    obtain rfl : (if s.tasks.contains task = true then some (s.task_columns task) else none) = row := Except.ok.inj hrow
    by_cases htask : s.tasks.contains task = true
    · rw [if_pos htask]
      simp only
      rw [post_bind, payTask, post_bind]
      refine payerWallet_reads hl (fun wallet l' hreadable hwallet hl' => ?_) fun e x out => herror _ _ _
      rw [next_ok, hwallet]
      -- nothing was paid, and COMMIT has nothing to write
      have hcommit (hnodes : nodes = []) (l'' : Local backend) (hl'' : Unwritten [] l'') :
          (Async.await (B := backend) Site.commit .commit).post anySite (caught anySite
            (fun e => do await Site.rollback .rollback; .raise e) fun r t l' => t = s ∧
              (r = .ok () → ∀ key, UuidText.uuid task = .uuid key → s.tasks.contains key = true → nodes = [])) s l'' := by
        obtain ⟨held, pending, out, rfl, hid⟩ := hl''
        rw [post_commit, hid]
        exact ⟨⟨rfl, fun _ _ _ _ => hnodes⟩, fun _ _ => herror _ _ _⟩
      have hcannot (hnodes : nodes ≠ []) := fun h => hstuck ⟨hnodes, task, rfl, htask, hreadable, h⟩
      cases hpayer : payerOf userWallet (taskUser userId (s.task_columns task)) s with
      | none =>
        simp only
        have hbalance : ¬ StartsFromBalance (.uuid task) ((taskUser userId (s.task_columns task)).getD .empty)
            (paymentPerNode (s.task_columns task) nodes) s nodes := by
          intro hstarts
          refine hcannot (fun hnodes => ?_) (by rw [hpayer]; exact hstarts)
          rw [hnodes] at hstarts
          exact hstarts
        refine post_mono (payFromBalance_stuck nodes hbalance) fun r t l'' h => ?_
        obtain ⟨⟨hok, rfl⟩, hk⟩ := h
        have hk := unwritten_sessions hl' hk
        cases r with
        | ok _ => exact hcommit (hok rfl) l'' hk
        | error e =>
          obtain ⟨held, pending, out, rfl, -⟩ := hk
          exact herror _ _ _
      | some wallet =>
        simp only
        rw [post_bind, remote, post_remote]
        refine ⟨fun _ => ?_, fun _ _ => ?_⟩
        · rw [next_ok]
          by_cases hnodes : nodes = []
          · rw [hnodes, payFromWallet]
            exact hnodes ▸ hcommit hnodes l' hl'
          · have hwalletStuck := hcannot hnodes
            rw [hpayer] at hwalletStuck
            refine post_mono (payFromWallet_stuck wallet nodes hl' hwalletStuck) fun r t l'' h => ?_
            obtain ⟨⟨⟨e, rfl⟩, rfl⟩, x, out, rfl⟩ := h
            exact herror _ _ _
        · obtain ⟨held, pending, out, rfl, -⟩ := hl'
          exact herror _ _ _
    · rw [if_neg htask]
      exact ⟨rfl, fun _ key hkey hfound => absurd (UuidText.uuid.inj hkey ▸ hfound) htask⟩

/-! ### Where they can -/

/-- Every call may answer anything. -/
abbrev anyAnswer : Site → Answer backend → Prop := fun _ _ => True

theorem any_fault (σ : Site) : ∃ f, anyAnswer σ (.fault f) := ⟨default, trivial⟩

theorem any_served (σ : Site) : ∃ reply, anyAnswer σ (.done reply) := ⟨backend.usual, trivial⟩

/-- Payments of an amount that is no number, booked all the same. -/
def bookedAnyway : Unpriced where
  direct _ := throw .typeError
  payout _ := Async.await .insertTransaction (.pool (.statement fun _ => .ok ((), fun db => { db with
    token_transactions := db.token_transactions ++ [⟨0, none, none, none, 0, .payout, .completed, 0, none, none⟩] })))

section Moves
variable {taskId userId : UuidText} {share : Option ℚ} {node : PaidNode} {s : PaymentDb} {l : Local backend}

theorem payTraditionally_fails : (payTraditionally bookedAnyway taskId userId share node).Fails anyAnswer := by
  cases share with
  | none => exact fails_await (any_fault _)
  | some amount => exact fails_bind (fails_withClient (any_fault _))

theorem payDirectly_fails {userWallet nodeWallet : Text} :
    (payDirectly bookedAnyway taskId userId share userWallet nodeWallet node).Fails anyAnswer := by
  cases share with
  | none => exact fun _ _ => ⟨⟨_, rfl⟩, rfl⟩
  | some amount => exact fails_bind (fails_withClient (any_fault _))

/-- A row more than before is a change. -/
theorem moved_of_transactions {t : PaymentDb} (h : t.token_transactions.length = s.token_transactions.length + 1) : ¬ Untouched s t := by
  rintro ⟨-, -, hrows, -⟩
  rw [hrows] at h
  omega

theorem moved_of_direct {t : PaymentDb} (h : t.direct_payments.length = s.direct_payments.length + 1) : ¬ Untouched s t := by
  rintro ⟨-, -, -, hrows⟩
  rw [hrows] at h
  omega

theorem Commits.moved {turn : Turn} {request : PaymentRequest} {t u : PaymentDb} (h : Commits turn request s u) (hkept : t.ledger = u.ledger) :
    ¬ Untouched s t := by
  obtain ⟨key, nodeId, taskId, amount, v, -, -, -, -, -, -, rfl⟩ := h
  refine moved_of_transactions ?_
  have hrows := congrArg (fun l : Ledger => l.transactions.length) hkept
  simpa [PaymentDb.ledger] using hrows

theorem payTraditionally_moves (hpayable : Payable taskId userId node s share) :
    (payTraditionally bookedAnyway taskId userId share node).can anyAnswer (fun _ t _ => ¬ Untouched s t) s l := by
  cases share with
  | none =>
    obtain ⟨reply, hreply⟩ := any_served .insertTransaction
    exact can_pool hreply rfl (moved_of_transactions (by simp))
  | some amount =>
    obtain ⟨key, hkey, hadmitted, happly, hrecord⟩ := hpayable
    rw [payTraditionally, can_bind]
    have hcan := processPayment_can any_served hkey hadmitted happly hrecord l
    refine can_mono (can_must hcan (must_of_post (processPayment_commits (ledger_settlesIn node.turn) _ s l))) fun r t l' h => ?_
    obtain ⟨rfl, ⟨e, hr, -⟩ | ⟨-, -, u, hcommits, hkept⟩, -⟩ := h
    · cases hr
    · exact hcommits.moved hkept

/-- The service reports a balance that is no number. -/
def noNumber : ∀ r : Remote, r.Reply
  | .gxaBalance _ => some ⟨none⟩
  | .gxaTransfer sender recipient amount => Remote.usual (.gxaTransfer sender recipient amount)
  | .importGalaxia => ()
  | .submitTransaction transaction => Remote.usual (.submitTransaction transaction)
  | .sendTransaction transaction => Remote.usual (.sendTransaction transaction)

theorem insertDirectPayment_run {request : DirectPaymentRequest} {taskKey userKey nodeKey : Uuid} {units : Int}
    (h : Insertable request s taskKey userKey nodeKey units) : ∃ w, (insertDirectPayment request).run () s = .ok ((), w) ∧
      (w s).direct_payments.length = s.direct_payments.length + 1 := by
  have hinsert := @meets_insertDirectPayment () s request
  cases hrun : (insertDirectPayment request).run () s with
  | error e => exact absurd h (hinsert.2 e hrun taskKey userKey nodeKey units)
  | ok o =>
    obtain ⟨taskId, userId, nodeId, amount, -, ho⟩ := hinsert.1 o hrun
    exact ⟨o.2, rfl, by rw [ho]; simp⟩

/-- A direct payment that can be recorded, and whose transfer fails, stays behind as failed. -/
theorem processDirectPayment_fails {request : DirectPaymentRequest} {taskKey userKey nodeKey : Uuid} {units : Int}
    (h : Insertable request s taskKey userKey nodeKey units) : (processDirectPayment request).can anyAnswer
      (fun r t _ => (∃ e, r = .error e) ∧ t.direct_payments.length = s.direct_payments.length + 1) s l := by
  obtain ⟨reply, hconnect⟩ := any_served .connect
  refine can_withClient hconnect ?_
  rw [orRollback, can_handle, can_bind]
  obtain ⟨reply, hbegin⟩ := any_served .begin
  refine can_await hbegin ?_
  change (getBalance request.userWallet >>= fun _ => _).can anyAnswer _ s _
  rw [can_bind, getBalance, can_handle]
  -- the balance is no number, which is not less than the amount
  refine can_await (a := .done noNumber) trivial ?_
  change (Async.ofExcept (B := backend) (lacks request.amount (some ⟨none⟩)) >>= fun _ => _).can anyAnswer _ s _
  rw [can_bind, can_ofExcept]
  change (onlyIf (B := backend) (false = true) _ >>= fun _ => _).can anyAnswer _ s _
  rw [can_bind, onlyIf, if_neg (by decide)]
  change (Async.query Site.insertDirectPayment (insertDirectPayment request) >>= fun _ => _).can anyAnswer _ s
    ⟨.active () [] id :: l.sessions, l.out⟩
  rw [can_bind]
  obtain ⟨w, hinsert, hrows⟩ := insertDirectPayment_run h
  obtain ⟨reply, hserved⟩ := any_served .insertDirectPayment
  refine can_query_active hserved hinsert ?_
  change ((confirm request).handle (markFailed request)).can anyAnswer _ s _
  rw [can_handle, confirm, can_bind, gxaTransfer, can_bind, can_handle]
  obtain ⟨f, hfault⟩ := any_fault .gxaTransfer
  refine can_fault hfault ?_
  change (markFailed request .gxaTransferFailed).can anyAnswer _ s _
  rw [markFailed, can_bind]
  obtain ⟨reply, hfailed⟩ := any_served .failDirectPayment
  refine can_query_active hfailed rfl ?_
  change (Async.await (B := backend) Site.commitFailed .commit >>= fun _ => _).can anyAnswer _ s _
  rw [can_bind]
  obtain ⟨reply, hcommit⟩ := any_served .commitFailed
  refine can_await hcommit ?_
  change (Async.await (B := backend) Site.rollback .rollback >>= fun _ => _).can anyAnswer _ _ _
  rw [can_bind]
  obtain ⟨f, hrollback⟩ := any_fault .rollback
  refine can_fault hrollback ⟨⟨_, rfl⟩, ?_⟩
  change ((w s).direct_payments.map _).length = _
  rw [List.length_map, hrows]

/-- A node whose payment can start can leave a change behind. -/
theorem payOne_moves {userWallet nodeWallet : Text}
    (h : Payable taskId userId node s share ∨ Recorded taskId userId userWallet nodeWallet node s share) :
    ((payDirectly bookedAnyway taskId userId share userWallet nodeWallet node).handle fun _ =>
      payTraditionally bookedAnyway taskId userId share node).can anyAnswer (fun _ t _ => ¬ Untouched s t) s l := by
  rw [can_handle]
  rcases h with hpayable | ⟨amount, _, _, _, _, rfl, hrecorded⟩
  · refine can_mono (payDirectly_fails s l) fun r t l' h => ?_
    obtain ⟨⟨e, rfl⟩, rfl⟩ := h
    exact payTraditionally_moves hpayable
  · rw [payDirectly, can_bind]
    refine can_mono (processDirectPayment_fails hrecorded) fun r t l' h => ?_
    obtain ⟨⟨e, rfl⟩, hrows⟩ := h
    refine can_mono (payTraditionally_fails t l') fun r u _ h => ?_
    rw [h.2]
    exact moved_of_direct hrows

/-- The rest of a loop can end at once. -/
theorem payFromBalance_stops (nodes : List PaidNode) : (payFromBalance bookedAnyway taskId userId share nodes).can anyAnswer
    (fun _ t _ => t = s) s l := by
  cases nodes with
  | nil => exact rfl
  | cons node rest => exact can_mono (fails_bind payTraditionally_fails s l) fun _ _ _ h => h.2

theorem payFromWallet_stops (userWallet : Text) (nodes : List PaidNode) :
    (payFromWallet bookedAnyway taskId userId share userWallet nodes).can anyAnswer (fun _ t _ => t = s) s l := by
  cases nodes with
  | nil => exact rfl
  | cons node rest => exact can_mono (fails_bind (fails_await (any_fault _)) s l) fun _ _ _ h => h.2

theorem payFromBalance_moves {nodes : List PaidNode} (hstarts : StartsFromBalance taskId userId share s nodes) :
    (payFromBalance bookedAnyway taskId userId share nodes).can anyAnswer (fun _ t _ => ¬ Untouched s t) s l := by
  cases nodes with
  | nil => exact hstarts.elim
  | cons node rest =>
    refine can_bind_keeps (payTraditionally_moves hstarts) fun _ t l' hmoved => ?_
    exact can_mono (payFromBalance_stops rest) fun _ u _ h => h ▸ hmoved

/-- A read in a transaction that has written nothing. -/
theorem can_read {ρ : Type} {f : PaymentDb → Except PaymentFailure ρ} {a : ρ} {Q : Post backend ρ} {σ : Site}
    {rest : List (Session backend)} (hl : Unwritten rest l) (hf : f s = .ok a) (hok : ∀ l', Unwritten rest l' → Q (.ok a) s l') :
    (Async.query σ (Stmt.selection f)).can anyAnswer Q s l := by
  obtain ⟨held, pending, out, rfl, hid⟩ := hl
  obtain ⟨reply, hserved⟩ := any_served σ
  have hrun : (Stmt.selection (B := backend) f).run () (pending s) = .ok (a, id) := by
    rw [hid]
    change (f s).map _ = _
    rw [hf]
    rfl
  exact can_query_active hserved hrun (hok _ ⟨_, _, out, rfl, hid⟩)

theorem payFromWallet_moves {userWallet : Text} {nodes : List PaidNode} {rest : List (Session backend)} (hl : Unwritten rest l)
    (hstarts : StartsFromWallet taskId userId share userWallet s nodes) :
    (payFromWallet bookedAnyway taskId userId share userWallet nodes).can anyAnswer
      (fun r t l' => ¬ Untouched s t ∨ r = .ok () ∧ t = s ∧ Unwritten rest l') s l := by
  induction nodes generalizing l with
  | nil => exact .inr ⟨rfl, rfl, hl⟩
  | cons node others ih =>
    rw [payFromWallet, can_bind]
    cases hid : node.nodeId with
    | empty => simp only [StartsFromWallet, hid] at hstarts
    | malformed text => simp only [StartsFromWallet, hid] at hstarts
    | uuid key =>
      simp only [StartsFromWallet, hid] at hstarts
      refine can_read (a := s.nodes key) hl rfl fun l' hl' => ?_
      change Async.can anyAnswer (match truthy ((s.nodes key).map (·.wallet_address)) with
        | none => _
        | some nodeWallet => _) _ s l'
      cases hwallet : truthy ((s.nodes key).map (·.wallet_address)) with
      | none =>
        rw [hwallet] at hstarts
        exact ih hl' hstarts
      | some nodeWallet =>
        rw [hwallet] at hstarts
        refine can_mono (can_bind_keeps (payOne_moves hstarts) fun _ t k hmoved => ?_) fun _ _ _ h => .inl h
        exact can_mono (payFromWallet_stops userWallet others) fun _ u _ h => h ▸ hmoved

theorem payerWallet_can {userWallet : Option Text} {taskUserId : Option UuidText} {Q : Post backend (Option Text)}
    {rest : List (Session backend)} (hl : Unwritten rest l) (hreadable : Readable userWallet taskUserId)
    (hok : ∀ wallet l', truthy wallet = payerOf userWallet taskUserId s → Unwritten rest l' → Q (.ok wallet) s l') :
    (payerWallet userWallet taskUserId).can anyAnswer Q s l := by
  unfold payerWallet
  unfold payerOf at hok
  cases hwallet : truthy userWallet with
  | some wallet =>
    rw [hwallet] at hok
    exact hok (some wallet) l (truthy_some hwallet) hl
  | none =>
    rw [hwallet] at hok
    cases taskUserId with
    | none => exact hok userWallet l hwallet hl
    | some userId =>
      obtain ⟨key, rfl⟩ := hreadable hwallet userId rfl
      exact can_read (a := (s.users key).bind (·.wallet_address)) hl rfl fun l' hl' => hok _ l' rfl hl'

end Moves

/-- Where the payments can start, a distribution can throw with a change left behind, or return with nothing done. -/
theorem distributeNodePayments_moves {taskId : UuidText} {nodes : List PaidNode} {userId : Option UuidText} {userWallet : Option Text}
    {s : PaymentDb} (hstarts : Starts taskId nodes userId userWallet s) :
    (distributeNodePayments bookedAnyway taskId nodes userId userWallet).can anyAnswer (fun r t _ =>
      r.toOption = none ∧ ¬ Untouched s t ∨ r.toOption = some () ∧ t = s) s Local.empty := by
  obtain ⟨-, task, rfl, htask, hreadable, hstarts⟩ := hstarts
  obtain ⟨reply, hconnect⟩ := any_served .connect
  refine can_withClient hconnect (can_orRollback (O := fun r t => r = none ∧ ¬ Untouched s t ∨ r = some () ∧ t = s) (any_fault _) ?_)
  rw [can_bind]
  obtain ⟨reply, hbegin⟩ := any_served .begin
  refine can_await hbegin ?_
  change (Async.query Site.selectTask (selectTask (.uuid task)) >>= fun _ => _).can anyAnswer _ s _
  rw [can_bind]
  have hbegun : Unwritten [] ⟨[.active () [] id], Local.empty.out⟩ := ⟨[], id, _, rfl, fun _ => rfl⟩
  have hfound : (UuidText.uuid task).read.map (fun key => if s.tasks.contains key = true then some (s.task_columns key) else none) =
      .ok (some (s.task_columns task)) := by
    change Except.ok (if s.tasks.contains task = true then some (s.task_columns task) else none) = _
    rw [if_pos htask]
  refine can_read hbegun hfound fun l hl => ?_
  change (payTask bookedAnyway (.uuid task) nodes userId userWallet (s.task_columns task) >>= fun _ => _).can anyAnswer _ s l
  rw [can_bind, payTask, can_bind]
  refine payerWallet_can hl hreadable fun wallet l' hwallet hl' => ?_
  -- what the loops have done is still there when COMMIT fails; a COMMIT of nothing is served
  have hcommit (r : Except PaymentFailure Unit) (t : PaymentDb) (k : Local backend)
      (h : ¬ Untouched s t ∨ r = .ok () ∧ t = s ∧ Unwritten [] k) :
      nextCan anyAnswer (fun _ => Async.await (B := backend) Site.commit .commit) (fun r t _ => r.toOption = none ∧ ¬ Untouched s t ∨
        r.toOption = some () ∧ t = s) r t k := by
    rcases h with hmoved | ⟨rfl, rfl, held, pending, out, rfl, hid⟩
    · cases r with
      | error e => exact .inl ⟨rfl, hmoved⟩
      | ok _ =>
        obtain ⟨f, hfault⟩ := any_fault .commit
        exact can_fault hfault (.inl ⟨rfl, hmoved⟩)
    · obtain ⟨reply, hserved⟩ := any_served .commit
      exact can_await hserved (.inr ⟨rfl, hid _⟩)
  change Async.can anyAnswer (match truthy wallet with
    | some wallet => _
    | none => _) _ s l'
  rw [hwallet]
  cases hpayer : payerOf userWallet (taskUser userId (s.task_columns task)) s with
  | none =>
    rw [hpayer] at hstarts
    exact can_mono (payFromBalance_moves hstarts) fun r t k hmoved => hcommit r t k (.inl hmoved)
  | some wallet =>
    rw [hpayer] at hstarts
    obtain ⟨reply, himport⟩ := any_served .directImport
    refine (can_bind _ _ _).mpr (can_await himport ?_)
    exact can_mono (payFromWallet_moves hl' hstarts) hcommit

/-- A distribution that can start breaks its promise. -/
theorem not_allOrNothing {taskId : UuidText} {nodes : List PaidNode} {userId : Option UuidText} {userWallet : Option Text}
    {s : PaymentDb} (hstarts : Starts taskId nodes userId userWallet s) : ¬ AllOrNothing taskId nodes userId userWallet s := by
  intro hall
  obtain ⟨hnodes, task, htaskId, htask, -⟩ := id hstarts
  refine can_not_must (can_mono (distributeNodePayments_moves hstarts) fun r t l h => ?_) (must_of_post (hall bookedAnyway))
  rintro ⟨hthrows, hreturns⟩
  obtain ⟨hr, hmoved⟩ | ⟨hr, rfl⟩ := h
  · cases r with
    | ok _ => cases hr
    | error e => exact hmoved (hthrows ⟨e, rfl⟩)
  · cases r with
    | error e => cases hr
    | ok _ =>
      obtain ⟨node, hnode⟩ := List.exists_mem_of_ne_nil nodes hnodes
      obtain ⟨key, -, hcredits⟩ := hreturns rfl task htaskId htask node hnode
      omega

/-- A distribution is all or nothing exactly when its payments cannot start. -/
theorem all_or_nothing_iff (taskId : UuidText) (nodes : List PaidNode) (userId : Option UuidText) (userWallet : Option Text)
    (s : PaymentDb) : AllOrNothing taskId nodes userId userWallet s ↔ ¬ Starts taskId nodes userId userWallet s := by
  constructor
  · exact fun hall hstarts => not_allOrNothing hstarts hall
  · refine fun hstuck unpriced => post_mono (distributeNodePayments_stuck hstuck) fun r t l h => ?_
    obtain ⟨rfl, hreturns⟩ := h
    refine ⟨fun _ => ⟨rfl, rfl, rfl, rfl⟩, fun hr task htaskId htask node hnode => ?_⟩
    rw [hreturns hr task htaskId htask] at hnode
    cases hnode

/-- A task of user 1 that costs two tokens, and two nodes; no one has a wallet set but the nodes. -/
def twoNodesDb : PaymentDb where
  users := fun key => if key = 1 then some ⟨none, 0, 0⟩ else none
  nodes := fun key => if key = 2 ∨ key = 3 then some ⟨units "w", 0⟩ else none
  tasks := [9]
  token_transactions := []
  direct_payments := []
  kyc_profiles := []
  user_jurisdictions := []
  compliance_config := []
  travel_rule_records := []
  audit_logs := []
  task_columns := fun _ => ⟨some 200000000, some 1⟩

/-- The nodes of the task. -/
def twoNodes : List PaidNode := [⟨.uuid 2, 20, ⟨21, 0, 0, none⟩⟩, ⟨.uuid 3, 30, ⟨31, 0, 0, none⟩⟩]

/-- The first node is paid, and the distribution may fail afterwards. -/
theorem first_node_stays_paid : ¬ AllOrNothing (.uuid 9) twoNodes none none twoNodesDb := by
  refine not_allOrNothing ⟨List.cons_ne_nil _ _, 9, rfl, rfl, fun _ id hid => ⟨1, (Option.some.inj hid).symm⟩, ?_⟩
  have hchange : Applicable (payoutRequest (.uuid 9) (.uuid 1) (parseFloat 200000000 / 2) ⟨.uuid 2, 20, ⟨21, 0, 0, none⟩⟩) twoNodesDb 1 :=
    .payout rfl (u := ⟨none, 0, 0⟩) rfl (k := 2) (n := ⟨units "w", 0⟩) (e := 100000000) rfl rfl (by decide +kernel)
  have hrecord : Recordable ⟨21, 0, 0, none⟩ (payoutRequest (.uuid 9) (.uuid 1) (parseFloat 200000000 / 2)
      ⟨.uuid 2, 20, ⟨21, 0, 0, none⟩⟩) twoNodesDb := {
    amount := ⟨100000000, by decide +kernel⟩
    fresh := fun t ht => by cases ht
    node := ⟨some 2, rfl, rfl⟩
    task := ⟨some 9, rfl, rfl⟩ }
  exact ⟨1, rfl, fun j hj => (by cases hj), hchange, hrecord⟩

end GalaxiaAin.Payments
