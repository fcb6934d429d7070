import GalaxiaAin.Library.Possible
import GalaxiaAin.Payments.Bookkeeping

/-! When a payment can go through: the conditions on the request and the tables under which
a payout or a deposit is booked if no call fails, and without which it never is. -/
namespace GalaxiaAin.Payments
open GalaxiaAin.Library
open GalaxiaAin.Library.Async hiding bind

/-- The user is not geo-blocked. -/
def Admitted (s : PaymentDb) (key : Uuid) : Prop :=
  ∀ j, s.user_jurisdictions.find? (fun j => j.user_id == key) = some j → j.geo_blocked ≠ some true

section Statements
variable {turn : Turn} {request : PaymentRequest} {s : PaymentDb} {key : Uuid}

theorem assign_some {x : ℚ} {u : Int} (h : amountFormat.assign x = some u) : assign x = .ok u := by rw [assign, h]

theorem readOptional_map (key : Option Uuid) : readOptional (key.map UuidText.uuid) = .ok key := by cases key <;> rfl

theorem insertTransaction_run (hkey : request.user_id = .uuid key) (huser : (s.users key).isSome = true) (h : Recordable turn request s) :
    ∃ w, (insertTransaction turn request).run () s = .ok ((), w) := by
  obtain ⟨amount, hamount⟩ := h.amount
  obtain ⟨nodeId, hnode, hnodeRow⟩ := h.node
  obtain ⟨taskId, htask, htaskRow⟩ := h.task
  have hfresh : ¬ (s.token_transactions.any fun t => t.id == turn.transactionId) = true := not_any_key.mpr h.fresh
  have huserId : readOptional (orNull (some request.user_id)) = .ok (some key) := by
    rw [hkey]
    rfl
  refine ⟨fun db => { db with token_transactions := db.token_transactions ++
    [⟨turn.transactionId, some key, nodeId, taskId, amount, request.transaction_type, .completed, turn.begun, none, none⟩] }, ?_⟩
  simp only [insertTransaction, Stmt.statement, huserId, hnode, htask, readOptional_map, assign_some hamount, bind, Except.bind]
  rw [if_neg hfresh, if_pos]
  · simp only [Bool.and_eq_true]
    exact ⟨⟨huser, hnodeRow⟩, htaskRow⟩

end Statements

/-! ### Payments that can go through -/

section Accepting
variable {allowed : Site → Answer backend → Prop} {turn : Turn} {request : PaymentRequest} {s : PaymentDb} {key : Uuid}

/-- The change of balances that a payment without a separate check makes can be made. -/
inductive Applicable (request : PaymentRequest) (s : PaymentDb) (key : Uuid) : Prop
  | open_ (htype : request.transaction_type = .deposit) (huser : s.users key = none) {b : Int}
      (hb : amountFormat.assign request.amount = some b)
  | deposit (htype : request.transaction_type = .deposit) {u : User} (huser : s.users key = some u) {b : Int}
      (hb : amountFormat.assign (parseFloat u.token_balance + request.amount) = some b)
  | payout (htype : request.transaction_type = .payout) {u : User} (huser : s.users key = some u) {k : Uuid} {n : Node} {e : Int}
      (hnode : request.node_id = some (.uuid k)) (hn : s.nodes k = some n)
      (he : amountFormat.assign (parseFloat n.total_earnings + request.amount) = some e)

/-- The tables after it: what a transaction refers to is there. -/
def Applied (s : PaymentDb) (key : Uuid) (t : PaymentDb) : Prop :=
  (t.users key).isSome = true ∧ t.token_transactions = s.token_transactions ∧ t.tasks = s.tasks ∧
    ∀ k, (t.nodes k).isSome = (s.nodes k).isSome

theorem isSome_update {β : Type} {f : Uuid → Option β} {k : Uuid} {x y : β} (h : f k = some x) (key : Uuid) :
    (Function.update f k (some y) key).isSome = (f key).isSome := by
  by_cases hk : key = k
  · rw [hk, Function.update_self, h]
    rfl
  · rw [Function.update_of_ne hk]

theorem addDeposit_reaches (hserved : ∀ σ, ∃ reply, allowed σ (.done reply)) (hkey : request.user_id = .uuid key)
    (happly : Applicable request s key) (htype : request.transaction_type = .deposit) :
    (addDeposit request (s.users key)).Reaches allowed () s s (fun _ t => Applied s key t) := by
  cases happly with
  | payout htype' => rw [htype] at htype'; cases htype'
  | @open_ _ huser b hb =>
    rw [huser, addDeposit, hkey]
    refine Async.reaches_query (r := ()) (hserved _) (w := fun db : PaymentDb => { db with
      users := Function.update db.users key (some ⟨walletOf request none, b, 0⟩) }) ?_ ⟨?_, rfl, rfl, fun _ => rfl⟩
    · simp only [insertUser, Stmt.statement, UuidText.read, assign_some hb, bind, Except.bind]
      rw [if_neg (by simp [huser])]
    · change (Function.update s.users key _ key).isSome = true
      rw [Function.update_self]
      rfl
  | @deposit _ u huser b hb =>
    rw [huser, addDeposit, hkey]
    refine Async.reaches_query (r := ()) (hserved _) (w := fun db : PaymentDb => { db with
      users := Function.update db.users key (some { u with token_balance := b }) }) ?_ ⟨?_, rfl, rfl, fun _ => rfl⟩
    · simp only [updateUser, Stmt.statement, UuidText.read, huser, assign_some hb, bind, Except.bind, Except.map]
    · change (Function.update s.users key _ key).isSome = true
      rw [Function.update_self]
      rfl

theorem applyPayment_reaches (hserved : ∀ σ, ∃ reply, allowed σ (.done reply)) (hkey : request.user_id = .uuid key)
    (happly : Applicable request s key) : (applyPayment request (s.users key)).Reaches allowed () s s (fun _ t => Applied s key t) := by
  have hdeposit (htype : request.transaction_type = .deposit) :
      (deposit request (s.users key)).Reaches allowed () s s (fun _ t => Applied s key t) :=
    Async.reaches_bind (R := fun _ t => t = s) (Async.Transacts.reaches (fun σ => (hserved σ).elim fun _ h => ⟨_, h⟩)
      (checkGXABalance_transacts _ _)) fun _ t ht => by
        rw [ht]
        exact addDeposit_reaches hserved hkey happly htype
  cases happly with
  | open_ htype huser hb =>
    have h := hdeposit htype
    rw [huser] at h ⊢
    rwa [applyPayment, if_pos htype]
  | deposit htype huser hb =>
    have h := hdeposit htype
    rw [huser] at h ⊢
    simpa only [applyPayment, htype] using h
  | @payout htype u huser k n e hnode hn he =>
    rw [huser]
    simp only [applyPayment, htype]
    rw [payout]
    have hselect : (selectNode request.node_id).run () s = .ok (some n, id) := by
      rw [hnode, ← hn]
      rfl
    refine Async.reaches_bind (R := fun row t => row = some n ∧ t = s) (Async.reaches_query (hserved _) hselect ⟨rfl, rfl⟩) ?_
    rintro _ _ ⟨rfl, rfl⟩
    rw [addPayout, hnode]
    refine Async.reaches_query (r := ()) (hserved _) (w := fun db : PaymentDb => { db with
      nodes := Function.update db.nodes k (some { n with total_earnings := e }) }) ?_
      ⟨by rw [huser]; rfl, rfl, rfl, isSome_update hn⟩
    simp only [updateNode, Stmt.statement, readOptional, UuidText.read, Except.map, hn, assign_some he]

/-- A deposit or a payout with all of this can go through. -/
theorem processPayment_can (hserved : ∀ σ, ∃ reply, allowed σ (.done reply)) (hkey : request.user_id = .uuid key)
    (hadmitted : Admitted s key) (happly : Applicable request s key) (hrecord : Recordable turn request s) (l : Local backend) :
    (processPayment turn request).can allowed (fun r _ _ => r = .ok turn.transactionId) s l := by
  have hdone (σ : Site) : ∃ reply, allowed σ (.done reply) := hserved σ
  obtain ⟨reply, hconnect⟩ := hdone .connect
  have hunchecked : ¬ (request.transaction_type = .payment ∧ request.user_id ≠ .empty ∧ 0 < request.amount) := by
    rintro ⟨htype, -⟩
    cases happly with
    | open_ htype' => rw [htype] at htype'; cases htype'
    | deposit htype' => rw [htype] at htype'; cases htype'
    | payout htype' => rw [htype] at htype'; cases htype'
  refine can_withClient hconnect ?_
  rw [orRollback, can_handle, can_bind]
  -- the checks
  have hchecks (Q : Post backend Unit) (k : Local backend) (h : Q (.ok ()) s k) : (complianceChecks turn request).can allowed Q s k := by
    rw [complianceChecks, can_bind, onlyIf, if_pos (by rw [hkey]; exact UuidText.noConfusion), geoCheck, can_bind, isGeoBlocked, can_bind]
    obtain ⟨reply, hgeo⟩ := hdone .geoBlocked
    have hrun : (selectGeoBlocked request.user_id).run () s =
        .ok (s.user_jurisdictions.find? (fun j => j.user_id == key), id) := by
      rw [hkey]
      rfl
    refine can_pool hgeo hrun ?_
    have hopen : (s.user_jurisdictions.find? fun j => j.user_id == key).elim false (fun j => j.geo_blocked == some true) = false := by
      cases hfind : s.user_jurisdictions.find? fun j => j.user_id == key with
      | none => rfl
      | some j => exact beq_eq_false_iff_ne.mpr (hadmitted j hfind)
    change (onlyIf _ _).can allowed _ s k
    rw [hopen, onlyIf, if_neg (by decide)]
    change (onlyIf _ _).can allowed Q s k
    rw [onlyIf, if_neg hunchecked]
    exact h
  refine hchecks _ _ ?_
  change (Async.await (B := backend) Site.begin .begin >>= fun _ => _).can allowed _ s _
  rw [can_bind]
  obtain ⟨reply, hbegin⟩ := hdone .begin
  refine can_await hbegin ?_
  change (Async.query Site.selectUser (selectUser request.user_id) >>= fun _ => _).can allowed _ s ⟨.active () [] id :: l.sessions, l.out⟩
  rw [can_bind]
  have hselect : (selectUser request.user_id).run () s = .ok (s.users key, id) := by
    rw [hkey]
    rfl
  refine Async.Reaches.can (R := fun row t => row = s.users key ∧ t = s) (Async.reaches_query (hdone _) hselect ⟨rfl, rfl⟩) rfl ?_
  rintro _ held pending ⟨rfl, hpending⟩
  change (applyPayment request (s.users key) >>= fun _ => _).can allowed _ s _
  rw [can_bind]
  refine Async.Reaches.can (applyPayment_reaches hserved hkey happly) hpending ?_
  rintro _ held' pending' ⟨huser, hrows, htasks, hnodes⟩
  change (Async.query Site.insertTransaction (insertTransaction turn request) >>= fun _ => _).can allowed _ s _
  rw [can_bind]
  obtain ⟨w, hinsert⟩ := insertTransaction_run hkey huser (hrecord.change hrows htasks hnodes)
  obtain ⟨reply, ha⟩ := hdone .insertTransaction
  refine can_query_active ha hinsert ?_
  change (Async.await (B := backend) Site.commit .commit >>= fun _ => _).can allowed _ s _
  rw [can_bind]
  obtain ⟨reply, hcommit⟩ := hdone .commit
  refine can_await hcommit ?_
  change (settle turn request >>= fun _ => _).can allowed _ _ _
  rw [can_bind]
  have howns : Local.Owns ledgerFrame 1 l.sessions ⟨.idle :: l.sessions, l.out⟩ := ⟨[.idle], rfl, rfl, by simp [Session.Keeps]⟩
  refine can_of_post (fun σ => (hserved σ).elim fun _ h => ⟨_, h⟩) (Async.post_mono
    (Async.Confined.post (settle_settles (ledger_settlesIn turn) request l.out) howns) fun r u k hr => ?_)
  obtain ⟨-, -, rfl⟩ := hr
  rfl

/-! ### Payments that cannot -/

/-- A deposit or a payout that commits could be made. -/
theorem Commits.applicable {u : PaymentDb} (h : Commits turn request s u)
    (htype : request.transaction_type = .deposit ∨ request.transaction_type = .payout) :
    ∃ key, request.user_id = .uuid key ∧ Applicable request s key ∧ Recordable turn request s := by
  obtain ⟨key, nodeId, taskId, amount, v, hkey, -, -, -, hrecord, hchange, -⟩ := h
  refine ⟨key, hkey, ?_, hrecord⟩
  generalize v.ledger = w at hchange
  cases hchange with
  | openAccount wallet htype huser hb => exact .open_ htype huser hb
  | deposit htype huser hb => exact .deposit htype huser hb
  | payout htype huser hnode hn he => exact .payout htype huser hnode hn he
  | payment htype' => rw [htype'] at htype; exact (htype.elim (fun h => by cases h) fun h => by cases h)
  | refund htype' => rw [htype'] at htype; exact (htype.elim (fun h => by cases h) fun h => by cases h)

/-- The user of a payment that returns an id is not geo-blocked. -/
theorem processPayment_admitted (hkey : request.user_id = .uuid key) (l : Local backend) :
    (processPayment turn request).post anySite (fun r _ _ => ∀ id, r = .ok id → Admitted s key) s l := by
  rw [processPayment, post_withClient]
  refine ⟨?_, fun _ _ _ h => by cases h⟩
  have herror (t : PaymentDb) (e : PaymentFailure) (k : Local backend) : caught anySite (fun e => do await Site.rollback .rollback; .raise e)
      (fun r _ _ => ∀ id, r = .ok id → Admitted s key) (.error e : Except PaymentFailure Uuid) t k := by
    rw [caught_error, post_bind]
    refine post_of_forall fun r u k' => ?_
    cases r with
    | ok _ => exact fun _ h => by cases h
    | error _ => exact fun _ h => by cases h
  rw [post_orRollback, post_bind, complianceChecks, post_bind, onlyIf, if_pos (by rw [hkey]; exact UuidText.noConfusion),
    geoCheck, post_bind, isGeoBlocked, post_bind, post_pool]
  have hrun : (selectGeoBlocked request.user_id).run () s = .ok (s.user_jurisdictions.find? (fun j => j.user_id == key), id) := by
    rw [hkey]
    rfl
  refine ⟨?_, fun _ _ => herror _ _ _⟩
  rw [show backend.initial = () from rfl, Stmt.reply_ok hrun, Stmt.effect_ok hrun, next_ok, post_pure, next_ok, onlyIf]
  split
  · exact herror _ _ _
  · rename_i hopen
    have hadmitted : Admitted s key := fun j hj hblocked => hopen (by rw [hj]; exact beq_iff_eq.mpr hblocked)
    have hdone (r : Except PaymentFailure Uuid) (t : PaymentDb) (k : Local backend) :
        caught anySite (fun e => do await Site.rollback .rollback; .raise e) (fun r _ _ => ∀ id, r = .ok id → Admitted s key) r t k := by
      cases r with
      | error e => exact herror _ _ _
      | ok _ => exact fun _ _ => hadmitted
    -- the rest of the checks, then the transaction
    refine post_of_forall fun r u k => ?_
    cases r with
    | error e => exact herror _ _ _
    | ok _ =>
      rw [next_ok]
      refine post_of_forall fun r u k => ?_
      cases r with
      | error e => exact herror _ _ _
      | ok _ => exact post_of_forall hdone

end Accepting

end GalaxiaAin.Payments
