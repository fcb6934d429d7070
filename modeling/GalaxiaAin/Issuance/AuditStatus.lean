import GalaxiaAin.Issuance.Certified
import GalaxiaAin.Library.Ranking

/-! What the status of an audit reports: three reads of the tables, with calls of the services
between them, against what a certification is worth afterwards. -/
namespace GalaxiaAin.Issuance
open GalaxiaAin.Library

/-- CASE severity. -/
def severityRank (severity : Text) : Nat :=
  if severity = units "critical" then 1
  else if severity = units "high" then 2
  else if severity = units "medium" then 3
  else if severity = units "low" then 4
  else 5

structure AuditStatus where
  auditId : Text
  status : Text
  findings : List AuditFinding
  complianceScore : Int
  certified : Bool
  certificationId : Option Text

/-- ORDER BY created_at DESC LIMIT 1: which of the certifications it is depends on the clock
of the database, which the rows do not have here. -/
structure Newest where
  pick : List Certification → Option Certification
  picked : ∀ {l c}, pick l = some c → c ∈ l
  empty : ∀ {l}, pick l = none → l = []

def selectStatus (auditId : Text) (db : IssuanceDb) : Option Text :=
  (db.audit_requests.find? fun r => r.audit_id == auditId).map (·.status)

def selectFindings (auditId : Text) (db : IssuanceDb) : List FindingRow :=
  ranked (fun r => OrderDual.toDual (severityRank r.severity)) (db.audit_findings.filter fun r => r.audit_id == auditId)

def selectCertification (newest : Newest) (auditId : Text) (db : IssuanceDb) : Option Certification :=
  newest.pick (db.audit_certifications.filter fun c => c.audit_id == auditId)

def reportedFinding (r : FindingRow) : AuditFinding where
  severity := some r.severity
  category := some r.category
  description := some r.description
  recommendation := r.recommendation
  codeLocation := r.code_location
  cweId := r.cwe_id
  remediation := r.remediation

/-- The three reads of a status, each of the tables as they are then. -/
def getAuditStatus (newest : Newest) (auditId : Text) (requests findings certifications : IssuanceDb) : Option AuditStatus :=
  (selectStatus auditId requests).map fun status =>
    let certification := selectCertification newest auditId certifications
    { auditId := auditId
      status := status
      findings := (selectFindings auditId findings).map reportedFinding
      complianceScore := (certification.bind (·.compliance_score)).getD 0
      certified := (certification.map (·.certified)).getD false
      certificationId := certification.map (·.certification_id) }

/-- What a call does to the tables of the audits. -/
inductive AuditChange (s t : IssuanceDb) : Prop
  | same (hrequests : t.audit_requests = s.audit_requests) (hcertifications : t.audit_certifications = s.audit_certifications)
      (rows : List FindingRow) (hfindings : t.audit_findings = s.audit_findings ++ rows)
  | requested {row : Audit.AuditRequestRow} (hstatus : row.status = units "pending")
      (hnew : ∀ r ∈ s.audit_requests, r.audit_id ≠ row.audit_id) (ht : t = { s with audit_requests := s.audit_requests ++ [row] })
  | certified {c : Certification} (hstanding : c.revoked = false ∧ c.expires_at = none)
      (hnew : ∀ d ∈ s.audit_certifications, d.certification_id ≠ c.certification_id)
      (hknown : ∃ r ∈ s.audit_requests, r.audit_id = c.audit_id) (rows : List FindingRow)
      (ht : t = { s with
        audit_findings := s.audit_findings ++ rows
        audit_certifications := s.audit_certifications ++ [c]
        audit_requests := s.audit_requests.map fun r =>
          if r.audit_id = c.audit_id then { r with status := units "completed" } else r })

/-- Audits are completed with a certification, and certifications stay as they were issued. -/
structure Issued (s : IssuanceDb) : Prop where
  completed : ∀ r ∈ s.audit_requests, r.status = units "completed" → ∃ c ∈ s.audit_certifications, c.audit_id = r.audit_id
  known : ∀ c ∈ s.audit_certifications, ∃ r ∈ s.audit_requests, r.audit_id = c.audit_id
  settled : ∀ c ∈ s.audit_certifications, ∀ r ∈ s.audit_requests, r.audit_id = c.audit_id → r.status = units "completed"
  unique : (s.audit_certifications.map (·.certification_id)).Nodup
  standing : ∀ c ∈ s.audit_certifications, c.revoked = false ∧ c.expires_at = none

/-- Nothing is taken off the record. -/
def Extends (s t : IssuanceDb) : Prop :=
  s.audit_certifications <+: t.audit_certifications ∧ s.audit_findings <+: t.audit_findings

section
variable {s t : IssuanceDb}

theorem AuditChange.refl (s : IssuanceDb) : AuditChange s s := .same rfl rfl [] (List.append_nil _).symm

theorem AuditChange.recorded {auditId : Text} {findings : List AuditFinding} (h : Recorded auditId findings s t) :
    AuditChange s t := by
  obtain ⟨rows, -, -, rfl⟩ := h
  exact .same rfl rfl rows rfl

theorem createAuditRequest_change (auditId : Text) (input : Audit.AuditRequestInput) (l : Local backend) :
    (createAuditRequest auditId input).post everySite (fun _ t _ => AuditChange s t) s l := by
  apply Async.Transacts.committed_then (R := fun _ u => AuditChange s u) (E := anyError)
    (Async.transacts_query ?_ (fun _ => trivial) _) (fun _ => trivial) (fun _ _ => .refl s)
  · intro _ u hu
    rw [Async.post_bind, Async.post_emit]
    exact hu
  · simp only [insertAuditRequest, Stmt.statement]
    split
    · exact meets_error.mpr trivial
    · rename_i hnew
      exact meets_ok.mpr (.requested rfl (not_any_key.mp hnew) rfl)

/-- The certification is entered, and the request is not yet updated. -/
def Entered (auditId : Text) (u v : IssuanceDb) (c : Certification) : Prop :=
  c.audit_id = auditId ∧ (c.revoked = false ∧ c.expires_at = none) ∧
    (∀ d ∈ u.audit_certifications, d.certification_id ≠ c.certification_id) ∧ (∃ r ∈ u.audit_requests, r.audit_id = c.audit_id) ∧
    v = { u with audit_certifications := u.audit_certifications ++ [c] }

theorem meets_entered {certificationId auditId : Text} {certified : Bool} {score : JsNumber} {x : Unit} :
    Meets ((insertCertification certificationId auditId certified score).run x s)
      (fun o => ∃ c, Entered auditId s (o.2 s) c) anyError := by
  simp only [insertCertification, Stmt.statement]
  cases hn : integer score with
  | error e => exact meets_error.mpr trivial
  | ok n =>
    simp only [bind, Except.bind]
    split
    · exact meets_error.mpr trivial
    · rename_i hnew
      split
      · rename_i hknown
        exact meets_ok.mpr ⟨certification certificationId auditId certified n, rfl, ⟨rfl, rfl⟩, not_any_key.mp hnew,
          any_key.mp hknown, rfl⟩
      · exact meets_error.mpr trivial

theorem meets_completed {auditId : Text} {findings : List AuditFinding} {u v : IssuanceDb} {c : Certification} {x : Unit}
    (hrecorded : Recorded auditId findings s u) (h : Entered auditId u v c) :
    Meets ((completeRequest auditId).run x v) (fun o => AuditChange s (o.2 v)) anyError := by
  obtain ⟨rows, -, -, rfl⟩ := hrecorded
  obtain ⟨rfl, hstanding, hnew, hknown, rfl⟩ := h
  exact meets_ok.mpr (.certified hstanding hnew hknown rows rfl)

theorem completeAudit_change (certificationId auditId : Text) (findings : List AuditFinding) (score : JsNumber)
    (l : Local backend) :
    (completeAudit certificationId auditId findings score).post everySite (fun _ t _ => AuditChange s t) s l := by
  rw [completeAudit, Async.post_withClient]
  refine ⟨?_, fun _ _ => .refl s⟩
  rw [Async.post_orRollback, Async.post_bind, Async.post_begin]
  refine ⟨?_, fun _ f => Async.caught_rollback (fun _ => .refl s) (.refl s) _⟩
  rw [Async.next_ok, Async.post_bind]
  refine Async.post_mono (addFindings_post auditId findings _) fun r u l' hr => ?_
  obtain ⟨rfl, hr⟩ := hr
  cases r with
  | error e =>
    obtain ⟨-, rfl⟩ := hr.resolve_right fun h => by cases h.1
    exact Async.caught_rollback (fun _ => .refl u) (.refl u) _
  | ok _ =>
    -- From here the findings are on record, whatever fails.
    have hrecorded : Recorded auditId findings s u := (hr.resolve_left fun h => by cases h.1).2
    have hkept : AuditChange s u := .recorded hrecorded
    rw [Async.next_ok, Async.post_bind, Async.post_remote]
    refine ⟨fun _ => ?_, fun _ _ => Async.caught_rollback (fun _ => hkept) hkept _⟩
    rw [Async.next_ok, Async.post_bind, Async.post_remote]
    refine ⟨fun _ => ?_, fun _ _ => Async.caught_rollback (fun _ => hkept) hkept _⟩
    rw [Async.next_ok, Async.post_bind]
    refine (Async.transacts_query (R := fun _ v => ∃ c, Entered auditId u v c) meets_entered (fun _ => trivial) _).post rfl
      (fun _ x _ => Async.caught_rollback (fun _ => hkept) hkept x) fun _ held pending hv => ?_
    obtain ⟨c, hc⟩ := hv
    rw [Async.next_ok, Async.post_bind]
    refine (Async.transacts_query (R := fun _ v => AuditChange s v) (meets_completed hrecorded hc) (fun _ => trivial) _).post rfl
      (fun _ x _ => Async.caught_rollback (fun _ => hkept) hkept x) fun _ held pending hv => ?_
    rw [Async.next_ok, Async.post_bind, Async.post_commit]
    refine ⟨?_, fun _ _ => Async.caught_rollback (fun _ => hkept) hkept _⟩
    rw [Async.next_ok, Async.post_bind, Async.post_emit]
    exact hv

theorem IssuanceDb.Step.change {e : Performed} (hstep : IssuanceDb.Step s e t) : AuditChange s t := by
  have heffect := hstep.effect
  cases hstep with
  | @call _ _ call r l h =>
    cases call with
    | createAuditRequest auditId input =>
      apply h.sound
      rw [IssuanceCall.program, Async.post_bind]
      exact Async.post_mono (createAuditRequest_change auditId input _) fun r t l' h => by cases r <;> exact h
    | addFindings auditId findings =>
      rcases heffect with rfl | ⟨rows, -, rfl⟩
      · exact .refl t
      · exact .same rfl rfl rows rfl
    | completeAudit certificationId auditId findings score =>
      apply h.sound
      rw [IssuanceCall.program, Async.post_bind]
      exact Async.post_mono (completeAudit_change certificationId auditId findings score _) fun r t l' h => by
        cases r <;> exact h
    | createOffering now offeringId issuerId request =>
      rcases heffect with ⟨-, rfl⟩ | ⟨_, _, -, -, -, -, -, rfl⟩
      · exact .refl t
      · exact .same rfl rfl [] (List.append_nil _).symm
    | verifyAccreditation turn request =>
      have ht : t = { s with investors := t.investors } := heffect
      rw [ht]
      exact .same rfl rfl [] (List.append_nil _).symm
    | mintTokens turn request =>
      rcases heffect with ⟨-, rfl⟩ | ⟨_, _, _, _, -, -, -, -, -, rfl⟩
      · exact .refl t
      · exact .same rfl rfl [] (List.append_nil _).symm

/-! ### What holds throughout -/

/-- A new request is pending, and no certification is of its audit. -/
theorem Issued.request (h : Issued s) {row : Audit.AuditRequestRow} (hstatus : row.status = units "pending")
    (hnew : ∀ r ∈ s.audit_requests, r.audit_id ≠ row.audit_id) :
    Issued { s with audit_requests := s.audit_requests ++ [row] } where
  completed r hr hcompleted := by
    rcases List.mem_append.mp hr with hr | hr
    · exact h.completed r hr hcompleted
    · rw [List.mem_singleton.mp hr, hstatus] at hcompleted
      exact absurd hcompleted (by decide)
  known c hc := by
    obtain ⟨r, hr, hid⟩ := h.known c hc
    exact ⟨r, List.mem_append_left _ hr, hid⟩
  settled c hc r hr hid := by
    rcases List.mem_append.mp hr with hr | hr
    · exact h.settled c hc r hr hid
    · obtain ⟨r', hr', hid'⟩ := h.known c hc
      rw [List.mem_singleton.mp hr] at hid
      exact absurd (hid'.trans hid.symm) (hnew r' hr')
  unique := h.unique
  standing := h.standing

/-- The status a request has once the audit is completed. -/
abbrev completedRequest (auditId : Text) (r : Audit.AuditRequestRow) : Audit.AuditRequestRow :=
  if r.audit_id = auditId then { r with status := units "completed" } else r

theorem completedRequest_audit_id (auditId : Text) (r : Audit.AuditRequestRow) :
    (completedRequest auditId r).audit_id = r.audit_id := by
  rw [completedRequest]
  split <;> rfl

/-- A certification is entered along with the status of its audit. -/
theorem Issued.certify (h : Issued s) {c : Certification} (hstanding : c.revoked = false ∧ c.expires_at = none)
    (hnew : ∀ d ∈ s.audit_certifications, d.certification_id ≠ c.certification_id)
    (hknown : ∃ r ∈ s.audit_requests, r.audit_id = c.audit_id) (rows : List FindingRow) :
    Issued { s with
      audit_findings := s.audit_findings ++ rows
      audit_certifications := s.audit_certifications ++ [c]
      audit_requests := s.audit_requests.map (completedRequest c.audit_id) } where
  completed r hr hcompleted := by
    obtain ⟨r', hr', rfl⟩ := List.mem_map.mp hr
    rw [completedRequest_audit_id]
    by_cases hid : r'.audit_id = c.audit_id
    · exact ⟨c, List.mem_append_right _ (List.mem_singleton.mpr rfl), hid.symm⟩
    · rw [completedRequest, if_neg hid] at hcompleted
      obtain ⟨d, hd, hsame⟩ := h.completed r' hr' hcompleted
      exact ⟨d, List.mem_append_left _ hd, hsame⟩
  known d hd := by
    have hof : ∃ r ∈ s.audit_requests, r.audit_id = d.audit_id := by
      rcases List.mem_append.mp hd with hd | hd
      · exact h.known d hd
      · rw [List.mem_singleton.mp hd]
        exact hknown
    obtain ⟨r, hr, hid⟩ := hof
    exact ⟨_, List.mem_map_of_mem hr, (completedRequest_audit_id _ r).trans hid⟩
  settled d hd r hr hid := by
    obtain ⟨r', hr', rfl⟩ := List.mem_map.mp hr
    rw [completedRequest_audit_id] at hid
    by_cases hsame : r'.audit_id = c.audit_id
    · rw [completedRequest, if_pos hsame]
    · rw [completedRequest, if_neg hsame]
      rcases List.mem_append.mp hd with hd | hd
      · exact h.settled d hd r' hr' hid
      · rw [List.mem_singleton.mp hd] at hid
        exact absurd hid hsame
  unique := by
    rw [List.map_append, List.nodup_append]
    refine ⟨h.unique, List.nodup_singleton _, fun id hid id' hid' => ?_⟩
    obtain ⟨d, hd, rfl⟩ := List.mem_map.mp hid
    rw [List.mem_singleton.mp hid']
    exact hnew d hd
  standing d hd := by
    rcases List.mem_append.mp hd with hd | hd
    · exact h.standing d hd
    · rw [List.mem_singleton.mp hd]
      exact hstanding

theorem Issued.change (h : Issued s) (hc : AuditChange s t) : Issued t := by
  cases hc with
  | same hrequests hcertifications rows hfindings =>
    constructor
    · rw [hrequests, hcertifications]
      exact h.completed
    · rw [hrequests, hcertifications]
      exact h.known
    · rw [hrequests, hcertifications]
      exact h.settled
    · rw [hcertifications]
      exact h.unique
    · rw [hcertifications]
      exact h.standing
  | requested hstatus hnew ht =>
    subst ht
    exact h.request hstatus hnew
  | certified hstanding hnew hknown rows ht =>
    subst ht
    exact h.certify hstanding hnew hknown rows

theorem Extends.change {u : IssuanceDb} (h : Extends s t) (hc : AuditChange t u) : Extends s u := by
  obtain ⟨hcertifications, hfindings⟩ := h
  cases hc with
  | same hrequests hsame rows hadded =>
    rw [Extends, hsame, hadded]
    exact ⟨hcertifications, hfindings.trans (List.prefix_append _ _)⟩
  | requested hstatus hnew ht =>
    subst ht
    exact ⟨hcertifications, hfindings⟩
  | certified hstanding hnew hknown rows ht =>
    subst ht
    exact ⟨hcertifications.trans (List.prefix_append _ _), hfindings.trans (List.prefix_append _ _)⟩

theorem extends_run {history : List Performed} (hrun : Machine.Run IssuanceDb.Step s history t) : Extends s t :=
  hrun.invariant (P := Extends s) (fun _ _ _ h hs => h.change hs.change) ⟨List.prefix_rfl, List.prefix_rfl⟩

theorem Issued.run {history : List Performed} (h : Issued s) (hrun : Machine.Run IssuanceDb.Step s history t) : Issued t :=
  hrun.invariant (fun _ _ _ h hs => h.change hs.change) h

/-! ### What a status reports -/

theorem Issued.selectStatus {c : Certification} (h : Issued s) (hc : c ∈ s.audit_certifications) :
    selectStatus c.audit_id s = some (units "completed") := by
  obtain ⟨r, hr, hid⟩ := h.known c hc
  cases hfind : s.audit_requests.find? fun r => r.audit_id == c.audit_id with
  | none => exact absurd (beq_iff_eq.mpr hid) (by simpa using List.find?_eq_none.mp hfind r hr)
  | some r' =>
    have hsame : r'.audit_id = c.audit_id := beq_iff_eq.mp (List.find?_some hfind :)
    rw [Issuance.selectStatus, hfind, Option.map_some, h.settled c hc r' (List.mem_of_find?_eq_some hfind) hsame]

/-- A certification that is issued is found by its id. -/
theorem Issued.findCertification {c : Certification} (h : Issued s) (hc : c ∈ s.audit_certifications) :
    findCertification c.certification_id s = some c := by
  have hknown : (s.audit_requests.any fun r => r.audit_id == c.audit_id) = true := any_key.mpr (h.known c hc)
  cases hfind : Issuance.findCertification c.certification_id s with
  | none =>
    have hnot := List.find?_eq_none.mp hfind c hc
    exact absurd hknown (by simpa using hnot)
  | some d =>
    have hsame := List.find?_some hfind
    simp only [Bool.and_eq_true, beq_iff_eq] at hsame
    rw [List.inj_on_of_nodup_map h.unique (List.mem_of_find?_eq_some hfind) hc hsame.1]

theorem selectCertification_mem {newest : Newest} {auditId : Text} {c : Certification}
    (h : selectCertification newest auditId s = some c) : c ∈ s.audit_certifications ∧ c.audit_id = auditId := by
  have hmem := List.mem_filter.mp (newest.picked h)
  exact ⟨hmem.1, beq_iff_eq.mp hmem.2⟩

theorem selectCertification_none {newest : Newest} {auditId : Text} (h : selectCertification newest auditId s = none)
    {c : Certification} (hc : c ∈ s.audit_certifications) : c.audit_id ≠ auditId := by
  intro hid
  have hmem : c ∈ s.audit_certifications.filter fun c => c.audit_id == auditId := List.mem_filter.mpr ⟨hc, beq_iff_eq.mpr hid⟩
  rw [newest.empty h] at hmem
  cases hmem

end

/-- The status of an audit, read in three parts while calls of the services go on. One that is
completed comes with its certification; a certification that is reported is from then on the
one of a completed audit, and its verification says what was reported, at any time; one that
is certified has a score of 80 or more. The most severe findings come first, and none that
was on record at the start is missing. -/
theorem reported_certifications_verify {start s₁ s₂ s₃ t : IssuanceDb} {before first second after : List Performed}
    (newest : Newest) {auditId : Text} {report : AuditStatus} (hnone : start.audit_certifications = [])
    (hopen : ∀ r ∈ start.audit_requests, r.status ≠ units "completed") (hbefore : Machine.Run IssuanceDb.Step start before s₁)
    (hfirst : Machine.Run IssuanceDb.Step s₁ first s₂) (hsecond : Machine.Run IssuanceDb.Step s₂ second s₃)
    (hafter : Machine.Run IssuanceDb.Step s₃ after t) (hreport : getAuditStatus newest auditId s₁ s₂ s₃ = some report) :
    (report.status = units "completed" → report.certificationId ≠ none) ∧
      (first ++ second = [] → report.certificationId ≠ none → report.status = units "completed") ∧
      (∀ id, report.certificationId = some id → selectStatus auditId t = some (units "completed") ∧
        ∀ now, Audit.verification now ((findCertification id t).map (·.toAuditCertification)) = ⟨true, report.certified, false⟩) ∧
      (report.certified = true → report.certificationId ≠ none ∧ 80 ≤ report.complianceScore) ∧
      report.findings.Pairwise (fun f g => ∀ x ∈ f.severity, ∀ y ∈ g.severity, severityRank x ≤ severityRank y) ∧
      ∀ row ∈ s₁.audit_findings, row.audit_id = auditId → reportedFinding row ∈ report.findings := by
  have hstart : Issued start := by
    refine ⟨fun r hr hcompleted => absurd hcompleted (hopen r hr), ?_, ?_, ?_, ?_⟩
    all_goals rw [hnone]; simp
  have hissued₁ := hstart.run hbefore
  have hissued₃ := (hissued₁.run hfirst).run hsecond
  have hissued := hissued₃.run hafter
  have hunscored : Scored start := by
    intro c hc
    rw [hnone] at hc
    cases hc
  have hscored : Scored s₃ := ((hbefore.append hfirst).append hsecond).invariant (fun _ _ _ h hs => h.step hs) hunscored
  obtain ⟨status, hstatus, rfl⟩ := Option.map_eq_some_iff.mp hreport
  obtain ⟨r, hfind, rfl⟩ := Option.map_eq_some_iff.mp hstatus
  have hid : r.audit_id = auditId := beq_iff_eq.mp (List.find?_some hfind :)
  refine ⟨fun hcompleted hmissing => ?_, fun hquiet hsome => ?_, fun id hsome => ?_, fun hcertified => ?_, ?_, fun row hrow hof => ?_⟩
  · obtain ⟨c, hc, hsame⟩ := hissued₁.completed r (List.mem_of_find?_eq_some hfind) hcompleted
    have hlater : c ∈ s₃.audit_certifications := (extends_run (hfirst.append hsecond)).1.subset hc
    exact selectCertification_none (Option.map_eq_none_iff.mp hmissing) hlater (hsame.trans hid)
  · have hrun := hfirst.append hsecond
    rw [hquiet] at hrun
    cases hrun
    obtain ⟨id, hsome⟩ := Option.ne_none_iff_exists'.mp hsome
    obtain ⟨c, hpick, -⟩ := Option.map_eq_some_iff.mp hsome
    obtain ⟨hc, hof⟩ := selectCertification_mem hpick
    exact hissued₁.settled c hc r (List.mem_of_find?_eq_some hfind) (hid.trans hof.symm)
  · obtain ⟨c, hpick, rfl⟩ := Option.map_eq_some_iff.mp hsome
    obtain ⟨hc, rfl⟩ := selectCertification_mem hpick
    have hlater : c ∈ t.audit_certifications := (extends_run hafter).1.subset hc
    obtain ⟨hrevoked, hexpires⟩ := hissued.standing c hlater
    refine ⟨hissued.selectStatus hlater, fun now => ?_⟩
    rw [hissued.findCertification hlater]
    simp [Audit.verification, hrevoked, hexpires, hpick]
  · cases hpick : selectCertification newest auditId s₃ with
    | none => simp [hpick] at hcertified
    | some c =>
      obtain ⟨n, hn, hle⟩ := hscored c (selectCertification_mem hpick).1 (by simpa [hpick] using hcertified)
      exact ⟨by simp, by simpa [hn] using hle⟩
  · rw [List.pairwise_map]
    apply (ranked_pairwise _ _).imp
    intro a b hab x hx y hy
    cases hx
    cases hy
    exact hab
  · apply List.mem_map_of_mem
    apply (ranked_perm _ _).mem_iff.mpr
    exact List.mem_filter.mpr ⟨(extends_run hfirst).2.subset hrow, beq_iff_eq.mpr hof⟩

/-- The last of the certifications. -/
def lastEntered : Newest where
  pick := List.getLast?
  picked := List.mem_of_getLast?
  empty := List.getLast?_eq_none_iff.mp

/-- The status of an audit is read while it is completed. -/
theorem reported_certifications_verify_meanwhile :
    (getAuditStatus lastEntered (units "a1") requestedDb requestedDb completedDb).map (fun r => (r.status, r.certificationId)) =
        some (units "pending", some (units "c1")) ∧
      ∀ report, getAuditStatus lastEntered (units "a1") requestedDb requestedDb completedDb = some report →
        ∀ now, Audit.verification now ((findCertification (units "c1") disputedDb).map (·.toAuditCertification)) =
          ⟨true, report.certified, false⟩ := by
  refine ⟨by decide +kernel, fun report hreport now => ?_⟩
  have hid : report.certificationId = some (units "c1") := by
    have hboth : (getAuditStatus lastEntered (units "a1") requestedDb requestedDb completedDb).map (·.certificationId) =
        some (some (units "c1")) := by decide +kernel
    rw [hreport] at hboth
    exact Option.some.inj hboth
  exact ((reported_certifications_verify lastEntered rfl (fun _ h => absurd h List.not_mem_nil) (.cons requested_step (.nil _)) (.nil _)
    (.cons completed_step (.nil _)) (.cons found_step (.nil _)) hreport).2.2.1 _ hid).2 now

end GalaxiaAin.Issuance
