import GalaxiaAin.Audit.Services

/-! The chain of audit requests behind one request or one offering: every request that is
recorded has a successor, unless a call fails. -/
namespace GalaxiaAin.Audit
open GalaxiaAin.Library

/-- No call of `createAuditRequest` up to its COMMIT fails. -/
def Requested (answer : AuditSite → Answer backend) : Prop :=
  ∀ σ ∈ [AuditSite.connect, .begin, .insertAuditRequest, .commit], ¬ (answer σ).Faulty

instance (answer : AuditSite → Answer backend) : Decidable (Requested answer) := by
  unfold Requested; infer_instance

/-- The import of the handlers resolves. -/
def Imported (answer : AuditSite → Answer backend) : Prop := ¬ (answer .importHandlers).Faulty

instance (answer : AuditSite → Answer backend) : Decidable (Imported answer) := by
  unfold Imported; infer_instance

def record (s : AuditDb) (auditId : Text) (input : AuditRequestInput) : AuditDb :=
  { s with audit_requests := s.audit_requests ++ [auditRequestRow auditId input] }

section
variable {answer : AuditSite → Answer backend} {s : AuditDb} {auditId : Text} {input : AuditRequestInput}

variable (s auditId input) in
/-- A request that is recorded emits its event. -/
theorem createAuditRequest_requested (h : Requested answer) : ∃ r,
    (createAuditRequest auditId input).follow answer s Local.empty =
      (r, record s auditId input, ⟨[], [.auditRequested auditId input]⟩) ∧ r.isOk = true := by
  simp only [Requested, List.mem_cons, List.not_mem_nil, or_false, forall_eq_or_imp, forall_eq] at h
  obtain ⟨h1, h2, h3, h4⟩ := h
  obtain ⟨r2, h2⟩ := Answer.served h2
  obtain ⟨r3, h3⟩ := Answer.served h3
  obtain ⟨r4, h4⟩ := Answer.served h4
  refine Async.follow_transaction (r := .ok (auditId, units "pending")) (x := .idle) h1 ?_
  simp [h2, h3, h4, emitAuditRequested, Async.query, Call.exec, Call.serve, insertAuditRequest, Session.query,
    Session.commit, Session.begin, Sync.exec, record]

variable (s auditId input) in
/-- A request that is not recorded changes nothing and emits nothing. -/
theorem createAuditRequest_failed (h : ¬ Requested answer) : ∃ r,
    (createAuditRequest auditId input).follow answer s Local.empty = (r, s, Local.empty) ∧ r.isOk = false := by
  by_cases h1 : (answer .connect).Faulty
  · obtain ⟨e, he⟩ := Async.follow_disconnected h1
    exact ⟨.error e, he, rfl⟩
  have hbody : ∃ e x, (do
      Async.await .begin .begin
      Async.query .insertAuditRequest (insertAuditRequest (auditRequestRow auditId input))
      Async.await .commit .commit
      emitAuditRequested auditId input
      pure (auditId, units "pending") : Async backend (Text × Text)).follow answer s ⟨[.idle], []⟩ =
        (.error e, s, ⟨[x], []⟩) := by
    cases h2 : answer .begin with
    | fault f => exact ⟨.unavailable, _, by simp [h2, Call.exec, Call.failed]; rfl⟩
    | done r2 =>
      cases h3 : answer .insertAuditRequest with
      | fault f => exact ⟨.unavailable, _, by simp [h2, h3, Call.exec, Call.serve, Call.failed, Async.query]; rfl⟩
      | done r3 =>
        cases h4 : answer .commit with
        | fault f =>
          exact ⟨.unavailable, .idle, by
            simp [h2, h3, h4, Call.exec, Call.serve, Call.failed, Async.query, Session.begin, Session.query,
              insertAuditRequest]⟩
        | done r4 => exact absurd (by simp [Requested, h1, h2, h3, h4]) h
  obtain ⟨e, x, hbody⟩ := hbody
  exact Async.follow_transaction h1 hbody

/-- The certification of the request is in force, and no call of `createOffering` up to its
COMMIT fails. -/
def Offered (answer : AuditSite → Answer backend) (s : AuditDb) (request : OfferingRequest) : Prop :=
  (∀ σ ∈ [AuditSite.connect, .begin, .verifyCertification, .insertOffering, .commit], ¬ (answer σ).Faulty) ∧
    (verification s.now (findCertification request.auditCertificationId s)).valid = true ∧
    (verification s.now (findCertification request.auditCertificationId s)).certified = true

variable {offeringId issuerId : Text} {request : OfferingRequest}

variable (offeringId issuerId) in
/-- An offering that is recorded emits its event, also when it cannot be read back. -/
theorem createOffering_offered (h : Offered answer s request) : ∃ r,
    (createOffering offeringId issuerId request).follow answer s Local.empty =
      (r, { s with offerings := s.offerings ++ [offeringRow offeringId issuerId request] },
        ⟨[], [.offeringCreated offeringId request]⟩) := by
  simp only [Offered, List.mem_cons, List.not_mem_nil, or_false, forall_eq_or_imp, forall_eq] at h
  obtain ⟨⟨h1, h2, h3, h4, h5⟩, hvalid, hcertified⟩ := h
  obtain ⟨r2, h2⟩ := Answer.served h2
  obtain ⟨r3, h3⟩ := Answer.served h3
  obtain ⟨r4, h4⟩ := Answer.served h4
  obtain ⟨r5, h5⟩ := Answer.served h5
  have hread (t : AuditDb) (l : Local backend) : ∃ r, (getOffering offeringId).follow answer t l = (r, t, l) := by
    cases h6 : answer .getOffering with
    | done r6 => exact ⟨_, by simp [getOffering, h6, Call.exec, Call.serve]; rfl⟩
    | fault f => exact ⟨_, by simp [getOffering, h6, Call.exec, Call.failed]; rfl⟩
  obtain ⟨r, hread⟩ := hread { s with offerings := s.offerings ++ [offeringRow offeringId issuerId request] }
    ⟨[.idle], [.offeringCreated offeringId request]⟩
  have hoffer : ∃ r', (createOffering offeringId issuerId request).follow answer s Local.empty =
      (r', { s with offerings := s.offerings ++ [offeringRow offeringId issuerId request] },
        ⟨[], [.offeringCreated offeringId request]⟩) ∧ r'.isOk = r.isOk := by
    refine Async.follow_transaction (x := .idle) h1 ?_
    rw [← hread]
    simp [h2, h3, h4, h5, hvalid, hcertified, verifyCertification, emitOfferingCreated, Async.query, Call.exec, Call.serve,
      insertOffering, Session.query, Session.commit, Session.begin, Sync.exec]
  exact hoffer.imp fun _ h => h.1

variable (offeringId issuerId) in
/-- An offering that is not recorded changes nothing and emits nothing. -/
theorem createOffering_failed (h : ¬ Offered answer s request) : ∃ r,
    (createOffering offeringId issuerId request).follow answer s Local.empty = (r, s, Local.empty) := by
  by_cases h1 : (answer .connect).Faulty
  · obtain ⟨e, he⟩ := Async.follow_disconnected h1
    exact ⟨.error e, he⟩
  have hbody : ∃ e x, (do
      Async.await .begin .begin
      let certVerification ← verifyCertification request.auditCertificationId
      if !certVerification.valid || !certVerification.certified then throw AuditFailure.uncertifiedAudit
      Async.query .insertOffering (insertOffering (offeringRow offeringId issuerId request))
      Async.await .commit .commit
      emitOfferingCreated offeringId request
      getOffering offeringId : Async backend (Option OfferingRow)).follow answer s ⟨[.idle], []⟩ =
        (.error e, s, ⟨[x], []⟩) := by
    cases h2 : answer .begin with
    | fault f => exact ⟨.unavailable, _, by simp [h2, Call.exec, Call.failed]; rfl⟩
    | done r2 =>
      cases h3 : answer .verifyCertification with
      | fault f => exact ⟨.unavailable, _, by simp [h2, h3, verifyCertification, Call.exec, Call.serve, Call.failed]; rfl⟩
      | done r3 =>
        by_cases hcert : (verification s.now (findCertification request.auditCertificationId s)).valid = true ∧
            (verification s.now (findCertification request.auditCertificationId s)).certified = true
        · cases h4 : answer .insertOffering with
          | fault f =>
            exact ⟨.unavailable, _, by
              simp [h2, h3, h4, hcert, verifyCertification, Async.query, Call.exec, Call.serve, Call.failed]; rfl⟩
          | done r4 =>
            cases h5 : answer .commit with
            | fault f =>
              exact ⟨.unavailable, .idle, by
                simp [h2, h3, h4, h5, hcert, verifyCertification, Async.query, Call.exec, Call.serve, Call.failed,
                  Session.begin, Session.query, insertOffering]⟩
            | done r5 => exact absurd ⟨by simp [h1, h2, h3, h4, h5], hcert⟩ h
        · refine ⟨.uncertifiedAudit, Session.idle.begin, ?_⟩
          have : (verification s.now (findCertification request.auditCertificationId s)).valid = false ∨
              (verification s.now (findCertification request.auditCertificationId s)).certified = false := by
            simpa only [not_and_or, Bool.not_eq_true] using hcert
          simp [h2, h3, this, verifyCertification, Call.exec, Call.serve]
          rfl
  obtain ⟨e, x, hbody⟩ := hbody
  exact (Async.follow_transaction (B := backend) h1 hbody).imp fun _ h => h.1

/-- The import resolves and the request of the handler is recorded. -/
def Continues (answer : AuditSite → Answer backend) : Prop := Imported answer ∧ Requested answer

instance (answer : AuditSite → Answer backend) : Decidable (Continues answer) := by
  unfold Continues; infer_instance

/-- The input of the request that a recorded request leads to. -/
def successor (request : AuditRequestInput) : AuditRequestInput :=
  requiredInput ⟨offeringIdOf request.metadata, request.contractCode, request.contractAddress, request.blockchain,
    request.requestedBy⟩

/-- A handler that continues records one more request, with its own event. -/
theorem handled_continues {p : Async backend Unit} (next : AuditRequestInput)
    (hp : p = (do let _ ← createAuditRequest auditId next)) (h : Continues answer) :
    ((do Async.await .importHandlers (.remote ()); p.handle fun _ => pure () : Async backend Unit).follow answer s
      Local.empty).2 = (record s auditId next, ⟨[], [.auditRequested auditId next]⟩) := by
  obtain ⟨r0, h0⟩ := Answer.served h.1
  obtain ⟨r, hr, hok⟩ := createAuditRequest_requested s auditId next h.2
  cases r with
  | ok a => simp [hp, h0, hr, Call.exec, Call.serve]
  | error e => cases hok

/-- Otherwise it changes nothing, and nothing follows. -/
theorem handled_stops {p : Async backend Unit} (next : AuditRequestInput)
    (hp : p = (do let _ ← createAuditRequest auditId next)) (h : ¬ Continues answer) :
    ((do Async.await .importHandlers (.remote ()); p.handle fun _ => pure () : Async backend Unit).follow answer s
      Local.empty).2 = (s, Local.empty) := by
  cases h0 : answer .importHandlers with
  | fault f => simp [h0, Call.exec, Call.failed]
  | done r0 =>
    have hreq : ¬ Requested answer := fun hreq => h ⟨by simp [Imported, h0], hreq⟩
    obtain ⟨r, hr, hok⟩ := createAuditRequest_failed s auditId next hreq
    cases r with
    | ok a => cases hok
    | error e => simp [hp, h0, hr, Call.exec, Call.serve]

/-- A handler that has nothing to audit. -/
theorem handled_idle {p : Async backend Unit} (hp : p = pure ()) :
    ((do Async.await .importHandlers (.remote ()); p.handle fun _ => pure () : Async backend Unit).follow answer s
      Local.empty).2 = (s, Local.empty) := by
  cases h0 : answer .importHandlers <;> simp [hp, h0, Call.exec, Call.serve, Call.failed]

/-- A turn leaves what its handler emits. -/
theorem turn_single {handler : AuditSignal → Async backend Unit} {e : AuditSignal} {s' : AuditDb} {out : List AuditSignal}
    (h : ((handler e).follow answer s Local.empty).2 = (s', ⟨[], out⟩)) :
    Cascade.turn (B := backend) handler answer ⟨s, [e]⟩ = ⟨s', out⟩ :=
  congrArg (fun o : AuditDb × Local backend => (⟨o.1, [] ++ o.2.out⟩ : Cascade backend)) h

/-- A turn of the event of a recorded request. -/
theorem turn_requested (a : Text) (input : AuditRequestInput) :
    Cascade.turn (B := backend) (continuation auditId) answer ⟨s, [.auditRequested a input]⟩ =
      if Continues answer then ⟨record s auditId (successor input), [.auditRequested auditId (successor input)]⟩
      else ⟨s, []⟩ := by
  split
  · exact turn_single (handled_continues (successor input) rfl ‹_›)
  · exact turn_single (handled_stops (successor input) rfl ‹_›)

/-- The input of the request for an offering whose metadata has a contract to audit. -/
def offeringInput (offeringId : Text) (request : OfferingRequest) : Option AuditRequestInput :=
  ((field request.metadata (units "contractCode")).filter Json.truthy).map fun contractCode =>
    requiredInput ⟨.str offeringId, contractCode, field request.metadata (units "contractAddress"),
      units "constellation", units "galaxia-issuance"⟩

/-- A turn of the event of a recorded offering. -/
theorem turn_offered (offeringId : Text) (request : OfferingRequest) :
    Cascade.turn (B := backend) (continuation auditId) answer ⟨s, [.offeringCreated offeringId request]⟩ =
      match offeringInput offeringId request with
      | some input => if Continues answer then ⟨record s auditId input, [.auditRequested auditId input]⟩ else ⟨s, []⟩
      | none => ⟨s, []⟩ := by
  unfold offeringInput
  cases hcode : field request.metadata (units "contractCode") with
  | none => exact turn_single (handled_idle (by rw [hcode]; rfl))
  | some code =>
    by_cases htruthy : code.truthy
    · simp only [Option.filter_some, htruthy, if_true, Option.map_some]
      split
      · exact turn_single (handled_continues _ (by
          simp only [publishOfferingCreated, handleOfferingCreatedEvent, hcode, htruthy, if_true]; rfl) ‹_›)
      · exact turn_single (handled_stops _ (by
          simp only [publishOfferingCreated, handleOfferingCreatedEvent, hcode, htruthy, if_true]; rfl) ‹_›)
    · simp only [Option.filter_some, htruthy]
      refine turn_single (handled_idle ?_)
      simp only [publishOfferingCreated, handleOfferingCreatedEvent, hcode, htruthy]
      rfl

end

/-! ### Chains -/

/-- The chain of turns from a state on, with the uuids they draw. -/
def chain (ids : Nat → Text) (answers : Nat → AuditSite → Answer backend) (c : Cascade backend) (n : Nat) :
    Cascade backend := Cascade.after (fun k => continuation (ids k)) answers c n

/-- The chain that one `createAuditRequest` starts. -/
def requestChain (ids : Nat → Text) (answers : Nat → AuditSite → Answer backend) (s : AuditDb)
    (input : AuditRequestInput) (n : Nat) : Cascade backend :=
  chain (fun k => ids (k + 1)) (fun k => answers (k + 1)) (Cascade.start (createAuditRequest (ids 0) input) (answers 0) s) n

/-- The chain that one `createOffering` starts. -/
def offeringChain (ids : Nat → Text) (answers : Nat → AuditSite → Answer backend) (s : AuditDb) (issuerId : Text)
    (request : OfferingRequest) (n : Nat) : Cascade backend :=
  chain (fun k => ids (k + 1)) (fun k => answers (k + 1))
    (Cascade.start (createOffering (ids 0) issuerId request) (answers 0) s) n

section
variable {ids : Nat → Text} {answers : Nat → AuditSite → Answer backend} {s : AuditDb} {auditId : Text}
  {input : AuditRequestInput}

theorem chain_done (n : Nat) : chain ids answers ⟨s, []⟩ n = ⟨s, []⟩ := Cascade.after_done rfl n

theorem chain_succ (c : Cascade backend) (n : Nat) : chain ids answers c (n + 1) =
    chain (fun k => ids (k + 1)) (fun k => answers (k + 1)) (c.turn (continuation (ids 0)) (answers 0)) n :=
  Cascade.after_succ n

/-- No row is lost along a chain. -/
theorem chain_grows (n : Nat) : s.audit_requests.length ≤
    (chain ids answers ⟨s, [.auditRequested auditId input]⟩ n).store.audit_requests.length := by
  induction n generalizing ids answers s auditId input with
  | zero => exact Nat.le_refl _
  | succ n ih =>
    rw [chain_succ, turn_requested]
    split
    · refine Nat.le_trans ?_ ih
      simp only [record, List.length_append]
      omega
    · rw [chain_done]

variable (ids s auditId input) in
/-- A chain in which no call fails never ends: each turn records one more request. -/
theorem chain_endless (h : ∀ n, Continues (answers n)) (n : Nat) :
    (chain ids answers ⟨s, [.auditRequested auditId input]⟩ n).pending ≠ [] ∧
      (chain ids answers ⟨s, [.auditRequested auditId input]⟩ n).store.audit_requests.length =
        s.audit_requests.length + n := by
  induction n generalizing ids answers s auditId input with
  | zero => exact ⟨List.cons_ne_nil _ _, rfl⟩
  | succ n ih =>
    rw [chain_succ, turn_requested, if_pos (h 0)]
    obtain ⟨hpending, hlength⟩ := ih (fun k => ids (k + 1)) (record s (ids 0) (successor input)) (ids 0)
      (successor input) fun k => h (k + 1)
    refine ⟨hpending, hlength.trans ?_⟩
    simp only [record, List.length_append, List.length_singleton]
    omega

variable (ids answers s auditId input) in
/-- A chain that continues has a row more from its first turn on. -/
theorem chain_continues (h : Continues (answers 0)) (n : Nat) : s.audit_requests.length + 1 ≤
    (chain ids answers ⟨s, [.auditRequested auditId input]⟩ (n + 1)).store.audit_requests.length := by
  rw [chain_succ, turn_requested, if_pos h]
  refine Nat.le_trans ?_ (chain_grows n)
  simp only [record, List.length_append, List.length_singleton]
  exact Nat.le_refl _

/-- A chain that does not continue is over after its first turn. -/
theorem chain_stops (h : ¬ Continues (answers 0)) (n : Nat) :
    chain ids answers ⟨s, [.auditRequested auditId input]⟩ (n + 1) = ⟨s, []⟩ := by
  rw [chain_succ, turn_requested, if_neg h, chain_done]

/-- The chain of an offering is that of the request its event leads to, if it does. -/
theorem chain_offered (offeringId : Text) (request : OfferingRequest) (n : Nat) :
    chain ids answers ⟨s, [.offeringCreated offeringId request]⟩ (n + 1) =
      match offeringInput offeringId request with
      | some input =>
        if Continues (answers 0) then
          chain (fun k => ids (k + 1)) (fun k => answers (k + 1))
            ⟨record s (ids 0) input, [.auditRequested (ids 0) input]⟩ n
        else ⟨s, []⟩
      | none => ⟨s, []⟩ := by
  rw [chain_succ, turn_offered]
  cases offeringInput offeringId request with
  | none => exact chain_done n
  | some input =>
    simp only
    split
    · rfl
    · exact chain_done n

/-- The chain of an offering adds two rows exactly if it has a contract to audit and two
turns continue. -/
theorem chain_offered_iff (offeringId : Text) (request : OfferingRequest) :
    (∀ n, (chain ids answers ⟨s, [.offeringCreated offeringId request]⟩ n).store.audit_requests.length ≤
      s.audit_requests.length + 1) ↔
      ¬ ((offeringInput offeringId request).isSome ∧ Continues (answers 0) ∧ Continues (answers 1)) := by
  have hrecord (auditId : Text) (input : AuditRequestInput) :
      (record s auditId input).audit_requests.length = s.audit_requests.length + 1 := by
    simp only [record, List.length_append, List.length_singleton]
  constructor
  · rintro h ⟨hinput, hfirst, hsecond⟩
    obtain ⟨input, hinput⟩ := Option.isSome_iff_exists.mp hinput
    have := h 2
    rw [chain_offered, hinput] at this
    simp only [hfirst, if_true] at this
    have hmore := chain_continues (fun k => ids (k + 1)) (fun k => answers (k + 1)) (record s (ids 0) input) (ids 0) input hsecond 0
    rw [hrecord, Nat.zero_add] at hmore
    omega
  · intro h n
    cases n with
    | zero => exact Nat.le_succ _
    | succ n =>
      rw [chain_offered]
      cases hinput : offeringInput offeringId request with
      | none => exact Nat.le_succ _
      | some input =>
        by_cases hfirst : Continues (answers 0)
        · have hsecond : ¬ Continues (answers 1) := fun hsecond => h ⟨by rw [hinput]; rfl, hfirst, hsecond⟩
          simp only [hfirst, if_true]
          cases n with
          | zero => exact Nat.le_of_eq (hrecord _ _)
          | succ n =>
            rw [chain_stops hsecond]
            exact Nat.le_of_eq (hrecord _ _)
        · simp only [hfirst, if_false]
          exact Nat.le_succ _

end

theorem start_of {α : Type} {p : Async backend α} {answer : AuditSite → Answer backend} {s s' : AuditDb}
    {r : Except AuditFailure α} {l : Local backend} (h : p.follow answer s Local.empty = (r, s', l)) :
    Cascade.start p answer s = ⟨s', l.out⟩ := by
  rw [Cascade.start, h]

/-- When the chain of a request ends with one row, and the chain of an offering adds at most
one: only if a call of a later link fails. -/
theorem audit_chain_iff (ids : Nat → Text) (answers : Nat → AuditSite → Answer backend) (s : AuditDb) :
    (∀ input, (∃ n row, (requestChain ids answers s input n).pending = [] ∧
        (requestChain ids answers s input n).store.audit_requests = s.audit_requests ++ [row]) ↔
      Requested (answers 0) ∧ ¬ Continues (answers 1)) ∧
    ∀ issuerId request, (∀ n, (offeringChain ids answers s issuerId request n).store.audit_requests.length ≤
        s.audit_requests.length + 1) ↔
      ¬ (Offered (answers 0) s request ∧ (offeringInput (ids 0) request).isSome ∧ Continues (answers 1) ∧
        Continues (answers 2)) := by
  refine ⟨fun input => ?_, fun issuerId request => ?_⟩
  · by_cases hreq : Requested (answers 0)
    · obtain ⟨r, hr, -⟩ := createAuditRequest_requested s (ids 0) input hreq
      simp only [requestChain, start_of hr, hreq, true_and]
      constructor
      · rintro ⟨n, row, hpending, hrows⟩ hcontinues
        cases n with
        | zero => cases hpending
        | succ n =>
          have := chain_continues (fun k => ids (k + 1)) (fun k => answers (k + 1)) (record s (ids 0) input) (ids 0) input hcontinues n
          rw [hrows] at this
          simp [record] at this
      · intro hstops
        refine ⟨1, auditRequestRow (ids 0) input, ?_⟩
        rw [chain_stops hstops]
        exact ⟨rfl, rfl⟩
    · obtain ⟨r, hr, -⟩ := createAuditRequest_failed s (ids 0) input hreq
      refine iff_of_false ?_ fun h => hreq h.1
      rintro ⟨n, row, -, hrows⟩
      rw [requestChain, start_of hr] at hrows
      have := congrArg List.length ((congrArg (·.store.audit_requests) (chain_done n)).symm.trans hrows)
      simp at this
  · by_cases hoffer : Offered (answers 0) s request
    · obtain ⟨r, hr⟩ := createOffering_offered (ids 0) issuerId hoffer
      simp only [offeringChain, start_of hr, hoffer, true_and]
      exact chain_offered_iff (ids 0) request
    · obtain ⟨r, hr⟩ := createOffering_failed (ids 0) issuerId hoffer
      refine iff_of_true (fun n => ?_) fun h => hoffer h.1
      rw [offeringChain, start_of hr]
      exact Nat.le_trans (Nat.le_of_eq (congrArg (·.store.audit_requests.length) (chain_done n))) (Nat.le_succ _)

/-- One request of an untroubled system: its chain has one row more each turn, without end. -/
theorem audit_chain_endless :
    let input : AuditRequestInput := ⟨none, .str (units "contract A {}"), units "ethereum", units "full", none,
      units "galaxia-ai-infrastructure", none, none⟩
    ∀ n, (requestChain decimal (fun _ _ => .done backend.usual) ⟨0, [], [], []⟩ input n).pending ≠ [] ∧
      (requestChain decimal (fun _ _ => .done backend.usual) ⟨0, [], [], []⟩ input n).store.audit_requests.length = n + 1 := by
  intro input n
  obtain ⟨r, hr, -⟩ := createAuditRequest_requested ⟨0, [], [], []⟩ (decimal 0) input
    (show Requested fun _ => .done backend.usual by simp [Requested])
  rw [requestChain, start_of hr]
  obtain ⟨hpending, hlength⟩ := chain_endless (fun k => decimal (k + 1)) (record ⟨0, [], [], []⟩ (decimal 0) input)
    (decimal 0) input (fun _ => show Continues fun _ => .done backend.usual from ⟨by simp [Imported], by simp [Requested]⟩) n
  refine ⟨hpending, hlength.trans ?_⟩
  simp only [record, List.nil_append, List.length_singleton, Nat.add_comm]

end GalaxiaAin.Audit
