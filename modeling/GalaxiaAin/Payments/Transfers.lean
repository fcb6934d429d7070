import GalaxiaAin.Library.Made
import GalaxiaAin.Payments.Acceptance

/-! The transfer of a direct payment comes before its record is confirmed: a call that throws
may have moved the tokens, and then its caller pays the node again from the balance. -/
namespace GalaxiaAin.Payments
open GalaxiaAin.Library
open GalaxiaAin.Library.Async hiding bind

/-- The transfer that a direct payment asks for. -/
def DirectPaymentRequest.transfer (request : DirectPaymentRequest) : Remote :=
  .gxaTransfer request.userWallet request.nodeWallet request.amount

/-- The payout that stands in for a direct payment that threw. -/
def DirectPaymentRequest.fallback (request : DirectPaymentRequest) : PaymentRequest where
  user_id := request.userId
  amount := request.amount
  node_id := some request.nodeId
  task_id := some request.taskId
  transaction_type := .payout
  wallet_address := none

/-- With these answers a direct payment that throws has made no transfer, and no run of its fallback pays a node that
the transfer has paid. -/
def MovedNothing (answer : Site → Answer backend) (request : DirectPaymentRequest) (s : PaymentDb) : Prop :=
  let transfers := (processDirectPayment request).made answer s Local.empty []
  ∀ e t l, (processDirectPayment request).follow answer s Local.empty = (.error e, t, l) →
    request.transfer ∉ transfers ∧ ∀ turn id u l', Exec anySite (processPayment turn request.fallback) t l (.ok id) u l' →
      request.transfer ∉ transfers

/-- The balance that the payment is checked against. -/
def reportedBalance (answer : Site → Answer backend) (request : DirectPaymentRequest) : Option GXABalance :=
  match answer .gxaBalance with
  | .done reply => reply (.gxaBalance request.userWallet)
  | .fault _ => some ⟨some 0⟩

/-- The transfer is asked for, and served. -/
structure Transferred (answer : Site → Answer backend) (request : DirectPaymentRequest) (s : PaymentDb) : Prop where
  connected : ¬ (answer .connect).Faulty
  begun : ¬ (answer .begin).Faulty
  sufficient : lacks request.amount (reportedBalance answer request) = .ok false
  inserted : ¬ (answer .insertDirectPayment).Faulty
  insertable : ∃ taskId userId nodeId amount, Insertable request s taskId userId nodeId amount
  served : ¬ (answer .gxaTransfer).Faulty

/-- What comes after it is served as well, and the node's earnings fit. -/
structure Confirmed (answer : Site → Answer backend) (request : DirectPaymentRequest) (s : PaymentDb) : Prop where
  data : ∀ reply, answer .gxaTransfer = .done reply → reply request.transfer ≠ none
  confirmed : ¬ (answer .confirmDirectPayment).Faulty
  earned : ¬ (answer .updateEarnings).Faulty
  fits : ∀ key n, request.nodeId = .uuid key → s.nodes key = some n →
    amountFormat.assign (parseFloat n.total_earnings + request.amount) ≠ none
  committed : ¬ (answer .commit).Faulty

section Runs
variable {answer : Site → Answer backend} {request : DirectPaymentRequest} {s : PaymentDb} {l : Local backend} {before : List Remote}

theorem markFailed_throws (e : PaymentFailure) : (markFailed request e).post anySite (fun r _ _ => ∃ e', r = .error e') s l := by
  rw [markFailed, post_bind]
  refine post_of_forall fun r t k => ?_
  cases r with
  | error e' => exact ⟨e', rfl⟩
  | ok _ =>
    rw [next_ok, post_bind]
    refine post_of_forall fun r t k => ?_
    cases r with
    | error e' => exact ⟨e', rfl⟩
    | ok _ => exact ⟨e, rfl⟩

theorem markFailed_silent (e : PaymentFailure) : (markFailed request e).Silent :=
  silent_bind (silent_await fun a _ => by cases a <;> rfl) fun _ => silent_bind (silent_await fun a _ => by cases a <;> rfl) fun _ => trivial

theorem rollback_throws {α : Type} (e : PaymentFailure) :
    (do Async.await Site.rollback .rollback; .raise e : Async backend α).Tells answer (fun r _ _ m => (∃ e', r = .error e') ∧ m = before)
      s l before := by
  refine Silent.tells (Q := fun r _ _ => ∃ e', r = .error e') ?_ ?_
  · exact silent_bind (silent_await fun a _ => by cases a <;> rfl) fun _ => trivial
  · rw [post_bind]
    refine post_of_forall fun r t k => ?_
    cases r with
    | error e' => exact ⟨e', rfl⟩
    | ok _ => exact ⟨e, rfl⟩

/-- The earnings of a node that is there are updated exactly when they fit. -/
theorem addEarnings_run {nodeId : Uuid} {node : Node} {db : PaymentDb} (hnode : request.nodeId = .uuid nodeId)
    (hn : db.nodes nodeId = some node) : (∃ e, (addEarnings request).run () db = .error e) ↔
      amountFormat.assign (parseFloat node.total_earnings + request.amount) = none := by
  rw [addEarnings, hnode]
  simp only [updateNode, Stmt.statement, readOptional, UuidText.read, Except.map, hn, assign]
  cases amountFormat.assign (parseFloat node.total_earnings + request.amount) with
  | none => exact ⟨fun _ => rfl, fun _ => ⟨_, rfl⟩⟩
  | some e =>
    refine iff_of_false ?_ (Option.some_ne_none e)
    rintro ⟨e', h⟩
    cases h

/-- From a pending record on, the transfer is made when it is served, and the payment returns when all of the rest is
served. -/
theorem confirm_tells {held : List Unit} {pending : PaymentDb → PaymentDb} {rest : List (Session backend)} {out : List Background}
    {taskId userId nodeId : Uuid} {amount : Int} (h : Insertable request s taskId userId nodeId amount)
    (hnodes : (pending s).nodes = s.nodes) :
    ((confirm request).handle (markFailed request)).Tells answer (fun r _ _ m =>
      m = (if (answer .gxaTransfer).Faulty then before else before ++ [request.transfer]) ∧
        ((∃ d, r = .ok d) ↔ ¬ (answer .gxaTransfer).Faulty ∧ Confirmed answer request s))
      s ⟨.active () held pending :: rest, out⟩ before := by
  have hfailed (e : PaymentFailure) (t : PaymentDb) (k : Local backend) (m : List Remote)
      (hm : m = if (answer .gxaTransfer).Faulty then before else before ++ [request.transfer])
      (hnot : ¬ (¬ (answer .gxaTransfer).Faulty ∧ Confirmed answer request s)) :
      caughtTells answer (markFailed request) (fun r _ _ m =>
        m = (if (answer .gxaTransfer).Faulty then before else before ++ [request.transfer]) ∧
          ((∃ d, r = .ok d) ↔ ¬ (answer .gxaTransfer).Faulty ∧ Confirmed answer request s)) (.error e) t k m := by
    refine tells_mono (Silent.tells (markFailed_silent e) (markFailed_throws e)) fun r u k' m' hr => ?_
    obtain ⟨⟨e', rfl⟩, rfl⟩ := hr
    exact ⟨hm, iff_of_false (fun ⟨d, hd⟩ => by cases hd) hnot⟩
  rw [tells_handle, confirm, tells_bind, gxaTransfer, tells_bind, tells_handle]
  refine tells_call (fun reply htransfer => ?_) fun f hfault => ?_
  · have hserved : ¬ (answer .gxaTransfer).Faulty := by rw [htransfer]; exact id
    have hmade : before ++ [request.transfer] = if (answer .gxaTransfer).Faulty then before else before ++ [request.transfer] :=
      (if_neg hserved).symm
    change (Async.ofExcept (B := backend) (txHash (reply request.transfer))).Tells answer _ s _ (before ++ [request.transfer])
    rw [tells_ofExcept]
    cases hdata : (reply request.transfer : Option GXATransaction) with
    | none =>
      exact hfailed _ _ _ _ hmade fun h => h.2.data reply htransfer hdata
    | some transaction =>
      change (Async.query (B := backend) Site.confirmDirectPayment _ >>= fun _ => _).Tells answer _ s _ _
      rw [tells_bind]
      refine tells_query_active (fun hconfirm _ w hw => ?_) fun e x he => ?_
      · cases hw
        change (Async.query Site.updateEarnings (addEarnings request) >>= fun _ => _).Tells answer _ s _ _
        rw [tells_bind]
        obtain ⟨node, hn⟩ := Option.isSome_iff_exists.mp h.node_row
        have hrow : ({ pending s with direct_payments := (pending s).direct_payments.map fun p =>
            if p.id = request.paymentId then { p with tx_hash := transaction.txHash, status := .confirmed } else p } : PaymentDb).nodes
              nodeId = some node := by
          rw [← hn, ← hnodes]
        have hfit (key : Uuid) (n : Node) (hkey : request.nodeId = .uuid key) (hk : s.nodes key = some n) : n = node := by
          obtain rfl := UuidText.uuid.inj (hkey.symm.trans h.node)
          exact Option.some.inj (hk.symm.trans hn)
        refine tells_query_active (fun hearned _ w hw => ?_) fun e x he => ?_
        · change (Async.await (B := backend) Site.commit .commit >>= fun _ => _).Tells answer _ s _ _
          rw [tells_bind]
          refine tells_call (fun reply' hcommit => ?_) fun f hfault => ?_
          · have hcommitted : ¬ (answer .commit).Faulty := by rw [hcommit]; exact id
            refine ⟨hmade, iff_of_true ⟨_, rfl⟩ ⟨hserved, ?_, hconfirm, hearned, fun key n hkey hk hnone => ?_, hcommitted⟩⟩
            · intro reply'' htransfer' hnone
              obtain rfl := Answer.done.inj (htransfer.symm.trans htransfer')
              exact Option.some_ne_none _ (hdata.symm.trans hnone)
            · rw [hfit key n hkey hk] at hnone
              obtain ⟨e, he⟩ := (addEarnings_run h.node hrow).mpr hnone
              cases hw.symm.trans he
          · exact hfailed _ _ _ _ hmade fun h => h.2.committed hfault
        · refine hfailed _ _ _ _ hmade fun hall => ?_
          rcases he with hfault | hrun
          · exact hall.2.earned hfault
          · exact hall.2.fits nodeId node h.node hn ((addEarnings_run h.node hrow).mp ⟨e, hrun⟩)
      · rcases he with hfault | hrun
        · exact hfailed _ _ _ _ hmade fun h => h.2.confirmed hfault
        · cases hrun
  · refine hfailed _ _ _ _ (if_pos hfault).symm fun h => h.1 hfault

/-- The transfer is among the calls of a direct payment exactly when it is asked for and served, and the payment
returns exactly when it is confirmed too. -/
theorem processDirectPayment_tells : (processDirectPayment request).Tells answer (fun r _ _ m =>
    ((request.transfer : Remote) ∈ (m : List Remote) ↔ Transferred answer request s) ∧
      ((∃ d, r = .ok d) ↔ Transferred answer request s ∧ Confirmed answer request s)) s l [] := by
  -- an error before the transfer
  have hearly {m : List Remote} (hm : request.transfer ∉ m) (hnot : ¬ Transferred answer request s) (e : PaymentFailure) (t : PaymentDb)
      (k : Local backend) : caughtTells answer (fun e => do Async.await Site.rollback .rollback; .raise e) (fun r _ _ m =>
        ((request.transfer : Remote) ∈ (m : List Remote) ↔ Transferred answer request s) ∧
          ((∃ d, r = .ok d) ↔ Transferred answer request s ∧ Confirmed answer request s)) (.error e : Except PaymentFailure DirectPayment) t k m := by
    refine tells_mono (rollback_throws e) fun r u k' m' hr => ?_
    obtain ⟨⟨e', rfl⟩, rfl⟩ := hr
    exact ⟨iff_of_false hm hnot, iff_of_false (fun ⟨d, hd⟩ => by cases hd) fun h => hnot h.1⟩
  refine tells_withClient (fun hconnect => ?_) fun f hfault => ?_
  swap
  · exact ⟨iff_of_false (List.not_mem_nil) fun h => h.connected hfault, iff_of_false (fun ⟨d, hd⟩ => by cases hd) fun h => h.1.connected hfault⟩
  rw [orRollback, tells_handle, tells_bind]
  refine tells_call (fun reply hbegin => ?_) fun f hfault => hearly List.not_mem_nil (fun h => h.begun hfault) _ _ _
  have hbegun : ¬ (answer .begin).Faulty := by rw [hbegin]; exact id
  change (getBalance request.userWallet >>= fun _ => _).Tells answer _ s ⟨.active () [] id :: l.sessions, l.out⟩ []
  rw [tells_bind]
  -- the balance, as it is reported
  have hbalance : (getBalance request.userWallet).Tells answer (fun r t k m => r = .ok (reportedBalance answer request) ∧ t = s ∧
      k = ⟨.active () [] id :: l.sessions, l.out⟩ ∧ request.transfer ∉ m) s ⟨.active () [] id :: l.sessions, l.out⟩ [] := by
    rw [getBalance, tells_handle, remote, tells_await]
    unfold reportedBalance
    cases answer .gxaBalance with
    | done reply => exact ⟨rfl, rfl, rfl, by simp [Call.made, DirectPaymentRequest.transfer]⟩
    | fault f => exact ⟨rfl, rfl, rfl, List.not_mem_nil⟩
  refine tells_mono hbalance fun r t k m hr => ?_
  obtain ⟨rfl, rfl, rfl, hm⟩ := hr
  change (Async.ofExcept (B := backend) (lacks request.amount (reportedBalance answer request)) >>= fun _ => _).Tells answer _ t _ m
  rw [tells_bind, tells_ofExcept]
  cases hlacks : lacks request.amount (reportedBalance answer request) with
  | error e => exact hearly hm (fun h => by cases hlacks.symm.trans h.sufficient) _ _ _
  | ok insufficient =>
    change (onlyIf (B := backend) (insufficient = true) _ >>= fun _ => _).Tells answer _ t _ m
    rw [tells_bind, onlyIf]
    cases insufficient with
    | true => exact hearly hm (fun h => by cases hlacks.symm.trans h.sufficient) _ _ _
    | false =>
      rw [if_neg (by decide)]
      change (Async.query Site.insertDirectPayment (insertDirectPayment request) >>= fun _ => _).Tells answer _ t _ m
      rw [tells_bind]
      have hinsert := @meets_insertDirectPayment () t request
      refine tells_query_active (fun hinserted _ w hw => ?_) fun e x he => ?_
      · obtain ⟨taskId, userId, nodeId, amount, hinsertable, hrow⟩ := hinsert.1 _ hw
        have hnodes : PaymentDb.nodes (w t) = PaymentDb.nodes t := (congrArg PaymentDb.nodes hrow :)
        change ((confirm request).handle (markFailed request)).Tells answer _ t _ m
        refine tells_mono (confirm_tells hinsertable hnodes) fun r u k m' hr => ?_
        obtain ⟨rfl, hok⟩ := hr
        have htransferred : Transferred answer request t ↔ ¬ (answer .gxaTransfer).Faulty :=
          ⟨fun h => h.served, fun h => ⟨hconnect, hbegun, hlacks, hinserted, ⟨_, _, _, _, hinsertable⟩, h⟩⟩
        have hmem : request.transfer ∈ (if (answer .gxaTransfer).Faulty then m else m ++ [request.transfer]) ↔
            Transferred answer request t := by
          rw [htransferred]
          split
          case isTrue hfault => exact iff_of_false hm (not_not.mpr hfault)
          case isFalse hserved => exact iff_of_true (List.mem_append_right _ List.mem_cons_self) hserved
        rw [← htransferred] at hok
        cases r with
        | ok d => exact ⟨hmem, hok⟩
        | error e =>
          refine tells_mono (rollback_throws e) fun r v k' m'' hr => ?_
          obtain ⟨⟨e', rfl⟩, rfl⟩ := hr
          exact ⟨hmem, iff_of_false (fun ⟨d, hd⟩ => by cases hd) fun h => by obtain ⟨d, hd⟩ := hok.mpr h; cases hd⟩
      · refine hearly hm (fun h => ?_) _ _ _
        rcases he with hfault | hrun
        · exact h.inserted hfault
        · obtain ⟨taskId, userId, nodeId, amount, hinsertable⟩ := h.insertable
          exact hinsert.2 e hrun taskId userId nodeId amount hinsertable

end Runs

section Outcomes
variable {answer : Site → Answer backend} {request : DirectPaymentRequest} {s : PaymentDb}

theorem transfer_made : request.transfer ∈ (processDirectPayment request).made answer s Local.empty [] ↔ Transferred answer request s :=
  ((tells_iff _ _).mp processDirectPayment_tells).1

theorem direct_returns : (∃ d, ((processDirectPayment request).follow answer s Local.empty).1 = .ok d) ↔
    Transferred answer request s ∧ Confirmed answer request s :=
  ((tells_iff _ _).mp processDirectPayment_tells).2

/-- A transfer that is made and not confirmed is one of a payment that throws. -/
theorem not_movedNothing (htransferred : Transferred answer request s) (hunconfirmed : ¬ Confirmed answer request s) :
    ¬ MovedNothing answer request s := by
  intro hmoved
  rcases hfollow : (processDirectPayment request).follow answer s Local.empty with ⟨e | d, t, l⟩
  · exact (hmoved e t l hfollow).1 (transfer_made.mpr htransferred)
  · exact hunconfirmed (direct_returns.mp ⟨d, by rw [hfollow]⟩).2

end Outcomes

/-- A direct payment that throws has moved nothing exactly when a transfer that is served is followed by everything
that confirms it. -/
theorem moved_nothing_iff (answer : Site → Answer backend) (request : DirectPaymentRequest) (s : PaymentDb) :
    MovedNothing answer request s ↔ (Transferred answer request s → Confirmed answer request s) := by
  constructor
  · exact fun hmoved htransferred => by_contra fun hunconfirmed => not_movedNothing htransferred hunconfirmed hmoved
  · intro h e t l hfollow
    have hthrown : ¬ ∃ d, ((processDirectPayment request).follow answer s Local.empty).1 = .ok d := by
      rw [hfollow]
      rintro ⟨d, hd⟩
      cases hd
    have hnot : request.transfer ∉ (processDirectPayment request).made answer s Local.empty [] := fun hin =>
      hthrown (direct_returns.mpr ⟨transfer_made.mp hin, h (transfer_made.mp hin)⟩)
    exact ⟨hnot, fun _ _ _ _ _ => hnot⟩

/-- User 1 and node 2 with their wallets, and a task. -/
def transferDb : PaymentDb where
  users := fun key => if key = 1 then some ⟨some (units "u"), 0, 0⟩ else none
  nodes := fun key => if key = 2 then some ⟨units "n", 0⟩ else none
  tasks := [9]
  token_transactions := []
  direct_payments := []
  kyc_profiles := []
  user_jurisdictions := []
  compliance_config := []
  travel_rule_records := []
  audit_logs := []

/-- One token for the task, from the user to the node. -/
def transferRequest : DirectPaymentRequest := ⟨20, .uuid 9, .uuid 1, .uuid 2, 1, units "u", units "n"⟩

/-- The services reply: the balance covers the amount, and the transfer has a hash. -/
def transferReply : ∀ r : Remote, r.Reply
  | .gxaBalance _ => some ⟨some 5⟩
  | .gxaTransfer _ _ _ => some ⟨some (units "h")⟩
  | .importGalaxia => ()
  | .submitTransaction transaction => Remote.usual (.submitTransaction transaction)
  | .sendTransaction transaction => Remote.usual (.sendTransaction transaction)

/-- Every call is served but COMMIT. -/
def commitLost (σ : Site) : Answer backend := if σ = .commit then .fault () else .done transferReply

/-- The COMMIT after the transfer fails, and the direct payment throws. -/
theorem lost_commit_moved : ¬ MovedNothing commitLost transferRequest transferDb := by
  have hinsertable : Insertable transferRequest transferDb 9 1 2 100000000 := {
    task := rfl
    user := rfl
    node := rfl
    amount_eq := by decide +kernel
    fresh := fun p hp => by cases hp
    task_row := rfl
    user_row := rfl
    node_row := rfl }
  have htransferred : Transferred commitLost transferRequest transferDb := {
    connected := id
    begun := id
    sufficient := by decide +kernel
    inserted := id
    insertable := ⟨9, 1, 2, 100000000, hinsertable⟩
    served := id }
  exact not_movedNothing htransferred fun hconfirmed => hconfirmed.committed trivial

end GalaxiaAin.Payments
