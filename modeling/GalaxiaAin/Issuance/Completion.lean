import GalaxiaAin.Issuance.Certified
import GalaxiaAin.Issuance.Settlement

/-! Completed audits that fail: the findings are committed on a connection of their own, and
what follows them may fail. -/
namespace GalaxiaAin.Issuance
open GalaxiaAin.Library

/-- A completion that fails leaves the tables of the audits as they were. -/
def Atomic (auditId : Text) (findings : List AuditFinding) (score : JsNumber) (s : IssuanceDb) : Prop :=
  ∀ certificationId e t, IssuanceDb.Step s ⟨.completeAudit certificationId auditId findings score, .error e⟩ t →
    t.audit_findings = s.audit_findings ∧ t.audit_certifications = s.audit_certifications ∧ t.audit_requests = s.audit_requests

/-- Completions of the audit that fail. -/
def Failed (auditId : Text) (findings : List AuditFinding) (score : JsNumber) (e : Performed) : Prop :=
  ∃ certificationId err, e = ⟨.completeAudit certificationId auditId findings score, .error err⟩

/-- One that succeeds after them leaves one row for each finding and one certification. -/
def Retries (auditId : Text) (findings : List AuditFinding) (score : JsNumber) (s : IssuanceDb) : Prop :=
  ∀ history u certificationId t, (∀ e ∈ history, Failed auditId findings score e) → Machine.Run IssuanceDb.Step s history u →
    IssuanceDb.Step u ⟨.completeAudit certificationId auditId findings score, .ok ()⟩ t →
      ∃ rows n, List.Forall₂ (fun f row => findingRow auditId f = .ok row) findings rows ∧
        t.audit_findings = s.audit_findings ++ rows ∧ t.audit_certifications = s.audit_certifications ++
          [certification certificationId auditId (certifies findings score) n]

/-- The findings can be added: the audit is on record, and they have what a row needs. -/
def Addable (auditId : Text) (findings : List AuditFinding) (s : IssuanceDb) : Prop :=
  (∃ r ∈ s.audit_requests, r.audit_id = auditId) ∧ ∀ f ∈ findings, (findingRow auditId f).isOk = true

section
variable {s t : IssuanceDb} {auditId : Text} {findings : List AuditFinding} {score : JsNumber}

theorem Recorded.addable (h : Recorded auditId findings s t) (hne : findings ≠ []) : Addable auditId findings s := by
  obtain ⟨rows, hrows, hknown, -⟩ := h
  refine ⟨hknown hne, ?_⟩
  clear hknown hne
  induction hrows with
  | nil => exact fun _ hf => absurd hf List.not_mem_nil
  | cons hr _ ih =>
    intro f hf
    rcases List.mem_cons.mp hf with rfl | hf
    · rw [hr]
      rfl
    · exact ih f hf

theorem Recorded.nil (h : Recorded auditId [] s t) : t = s := by
  obtain ⟨rows, hrows, -, rfl⟩ := h
  rw [List.forall₂_nil_left_iff.mp hrows]
  simp

/-- What a completion of the audit may leave. -/
theorem IssuanceDb.Step.completion {certificationId : Text} {r : Except IssuanceFailure Unit}
    (h : IssuanceDb.Step s ⟨.completeAudit certificationId auditId findings score, r⟩ t) :
    (r.isOk = false ∧ (t = s ∨ Recorded auditId findings s t)) ∨
      (r.isOk = true ∧ Completed certificationId auditId findings score s t) := by
  cases h with
  | call hexec =>
    refine hexec.sound (Q := fun r t _ => (r.isOk = false ∧ (t = s ∨ Recorded auditId findings s t)) ∨
      (r.isOk = true ∧ Completed certificationId auditId findings score s t)) ?_
    rw [IssuanceCall.program, Async.post_bind]
    exact Async.post_mono (completeAudit_post certificationId auditId findings score _) fun r t l' h => by cases r <;> exact h

/-- Where nothing is or can be added, a failed completion changes nothing. -/
theorem failed_unchanged (h : findings = [] ∨ ¬ Addable auditId findings s) {e : Performed} (hfailed : Failed auditId findings score e)
    (hstep : IssuanceDb.Step s e t) : t = s := by
  obtain ⟨certificationId, err, rfl⟩ := hfailed
  rcases hstep.completion with ⟨-, rfl | hrecorded⟩ | ⟨hr, -⟩
  · rfl
  · rcases h with rfl | hnot
    · exact hrecorded.nil
    · by_cases hne : findings = []
      · subst hne
        exact hrecorded.nil
      · exact absurd (hrecorded.addable hne) hnot
  · cases hr

/-- So any number of them. -/
theorem failures_unchanged {history : List Performed} (h : findings = [] ∨ ¬ Addable auditId findings s)
    (hfailed : ∀ e ∈ history, Failed auditId findings score e) (hrun : Machine.Run IssuanceDb.Step s history t) : t = s := by
  have hkeeps (u : IssuanceDb) (e : Performed) (v : IssuanceDb) (hu : u = s) (he : Failed auditId findings score e)
      (hstep : IssuanceDb.Step u e v) : v = s := by
    subst hu
    exact failed_unchanged h he hstep
  exact hrun.invariant_of hkeeps (fun pre e post _ hsplit _ =>
    hfailed e (hsplit ▸ List.mem_append_right _ List.mem_cons_self)) rfl

theorem completed_once {certificationId : Text} (h : Completed certificationId auditId findings score s t) :
    ∃ rows n, List.Forall₂ (fun f row => findingRow auditId f = .ok row) findings rows ∧
      t.audit_findings = s.audit_findings ++ rows ∧ t.audit_certifications = s.audit_certifications ++
        [certification certificationId auditId (certifies findings score) n] := by
  obtain ⟨u, n, ⟨rows, hrows, -, rfl⟩, -, ht⟩ := h
  exact ⟨rows, n, hrows, by rw [ht], by rw [ht]⟩

/-! ### Findings that stay -/

theorem insertFinding_run {finding : AuditFinding} {row : FindingRow} (hrow : findingRow auditId finding = .ok row)
    (hknown : ∃ r ∈ s.audit_requests, r.audit_id = auditId) :
    (insertFinding auditId finding).run () s = .ok ((), fun db => { db with audit_findings := db.audit_findings ++ [row] }) := by
  have hany : (s.audit_requests.any fun r => r.audit_id == auditId) = true := any_key.mpr hknown
  simp only [insertFinding, Stmt.statement, hrow, bind, Except.bind]
  rw [if_pos hany]

theorem insertFindings_reaches {allowed : Site → Answer backend → Prop} (hserved : ∀ σ, ∃ reply, allowed σ (.done reply))
    (findings : List AuditFinding) : ∀ u : IssuanceDb, Addable auditId findings u →
      (insertFindings auditId findings).Reaches allowed () s u (fun _ v =>
        v.audit_findings.length = u.audit_findings.length + findings.length) := by
  induction findings with
  | nil => exact fun u _ => Async.reaches_pure rfl
  | cons finding findings ih =>
    rintro u ⟨hknown, hrows⟩
    cases hrow : findingRow auditId finding with
    | error e =>
      have := hrows finding (.head _)
      rw [hrow] at this
      cases this
    | ok row =>
      refine Async.reaches_bind (Async.reaches_query (R := fun _ v => v = { u with audit_findings := u.audit_findings ++ [row] })
        (hserved _) (insertFinding_run hrow hknown) rfl) ?_
      rintro - v hv
      have hmore : Addable auditId findings v := by
        rw [hv]
        exact ⟨hknown, fun f hf => hrows f (.tail _ hf)⟩
      refine (ih v hmore).mono fun _ w hw => ?_
      rw [hw, hv, List.length_append, List.length_singleton, List.length_cons]
      omega

/-- The findings are committed, and the signature fails. -/
theorem completeAudit_breaks (certificationId : Text) (hne : findings ≠ []) (h : Addable auditId findings s) :
    (completeAudit certificationId auditId findings score).can (mayFail everySite)
      (fun r t _ => r.isOk = false ∧ t.audit_findings ≠ s.audit_findings) s Local.empty := by
  obtain ⟨reply, hserved⟩ : ∃ reply, ∀ σ : Site, mayFail everySite σ (.done reply) := ⟨fun _ => (), fun _ _ => trivial⟩
  refine Async.can_withClient (hserved _) ?_
  rw [Async.orRollback, Async.can_handle, Async.can_bind]
  refine Async.can_await (hserved _) ?_
  change ((addFindings auditId findings >>= fun _ => _).can (B := backend) _ _ _ _)
  rw [Async.can_bind]
  refine (insertFindings_reaches (mayFail_serves everySite) findings s h).committed_then ⟨_, hserved _⟩ ⟨_, hserved _⟩
    ⟨_, hserved _⟩ ?_
  rintro - u hu
  change ((Async.await (B := backend) .sign (.remote ()) >>= fun _ => _).can _ _ _ _)
  rw [Async.can_bind]
  refine Async.can_fault (f := ()) (fun _ => trivial) ?_
  change ((Async.await (B := backend) .rollback .rollback >>= fun _ => Async.raise IssuanceFailure.unavailable).can _ _ _ _)
  rw [Async.can_bind]
  refine Async.can_await (hserved _) ⟨rfl, fun hsame => ?_⟩
  have hlen : u.audit_findings.length = s.audit_findings.length := congrArg List.length hsame
  have hpos : 0 < findings.length := List.length_pos_iff.mpr hne
  omega

/-- A completion is not atomic when there is something to add. -/
theorem Atomic.adds_nothing (hatomic : Atomic auditId findings score s) : findings = [] ∨ ¬ Addable auditId findings s := by
  refine or_iff_not_imp_left.mpr fun hne hadd => ?_
  have hpost : (IssuanceCall.completeAudit auditId auditId findings score).program.post everySite
      (fun r t _ => ∀ e, r = .error e → t.audit_findings = s.audit_findings) s Local.empty :=
    (Async.post_iff _ _ _ _ _).mpr fun r t l hexec e he => (hatomic auditId e t (he ▸ .call hexec)).1
  rw [IssuanceCall.program, Async.post_bind] at hpost
  refine Async.can_not_must (Async.can_mono (completeAudit_breaks auditId hne hadd) fun r t l' h hkept => ?_)
    (Async.must_of_post_may hpost)
  cases r with
  | ok a => cases h.1
  | error e => exact h.2 (hkept e rfl)

end

/-- A critical finding of the audit that is requested. -/
theorem criticalFinding_addable : Addable (units "a1") [criticalFinding] requestedDb := by
  have hknown : requestedDb.audit_requests.map (·.audit_id) = [units "a1"] := by decide +kernel
  refine ⟨?_, fun f hf => ?_⟩
  · rw [← List.mem_map, hknown]
    exact List.mem_singleton.mpr rfl
  · rw [List.mem_singleton.mp hf]
    rfl

end GalaxiaAin.Issuance
