import GalaxiaAin.Issuance.Steps

/-! Offerings rest on certified audits. A certification looks at the findings passed with
it, so the critical findings on record stay outside it unless the calls keep them out. -/
namespace GalaxiaAin.Issuance
open GalaxiaAin.Library

/-- A critical finding of the audit is on record. -/
def CriticalOnRecord (auditId : Text) (s : IssuanceDb) : Prop :=
  ∃ f ∈ s.audit_findings, f.audit_id = auditId ∧ f.severity = units "critical"

/-- A certification of the audit is certified. -/
def CertifiedAudit (auditId : Text) (s : IssuanceDb) : Prop :=
  ∃ c ∈ s.audit_certifications, c.audit_id = auditId ∧ c.certified = true

def PassesCritical (findings : List AuditFinding) : Prop := ∃ f ∈ findings, f.severity = some (units "critical")

/-- Critical findings are passed for audits without a certification only, and an audit with
a critical finding on record is not completed with a certifying call. -/
def KeepsClean (s : IssuanceDb) : IssuanceCall → Prop
  | .addFindings auditId findings => PassesCritical findings → ¬ CertifiedAudit auditId s
  | .completeAudit _ auditId findings score =>
    (PassesCritical findings → ¬ CertifiedAudit auditId s) ∧
      (certifies findings score = true → ¬ CriticalOnRecord auditId s)
  | _ => True

/-- Certified audits have the score. -/
def Scored (s : IssuanceDb) : Prop :=
  ∀ c ∈ s.audit_certifications, c.certified = true → ∃ n, c.compliance_score = some n ∧ 80 ≤ n

/-- Certified audits have no critical finding on record. -/
def Clean (s : IssuanceDb) : Prop :=
  ∀ c ∈ s.audit_certifications, c.certified = true → ¬ CriticalOnRecord c.audit_id s

section
variable {s t : IssuanceDb}

/-- Findings and certifications are written by the calls on an audit only. -/
theorem IssuanceDb.Step.audits {e : Performed} (hstep : IssuanceDb.Step s e t) :
    (t.audit_findings = s.audit_findings ∧ t.audit_certifications = s.audit_certifications) ∨
      (∃ auditId findings, e.call = .addFindings auditId findings ∧ Found auditId findings s t) ∨
      ∃ certificationId auditId findings score u, e.call = .completeAudit certificationId auditId findings score ∧
        Found auditId findings s u ∧ (t = u ∨ Certified certificationId auditId findings score u t) := by
  have he := hstep.effect
  obtain ⟨call, r⟩ := e
  cases call with
  | createAuditRequest auditId input =>
    have ht : t = { s with audit_requests := t.audit_requests } := he
    rw [ht]
    exact .inl ⟨rfl, rfl⟩
  | addFindings auditId findings =>
    rcases he with rfl | hf
    · exact .inl ⟨rfl, rfl⟩
    · exact .inr (.inl ⟨auditId, findings, rfl, hf⟩)
  | completeAudit certificationId auditId findings score =>
    rcases he with rfl | ⟨u, hf, hc⟩
    · exact .inl ⟨rfl, rfl⟩
    · exact .inr (.inr ⟨certificationId, auditId, findings, score, u, rfl, hf, hc⟩)
  | createOffering now offeringId issuerId request =>
    rcases he with ⟨_, rfl⟩ | ⟨_, _, _, _, _, _, _, rfl⟩
    · exact .inl ⟨rfl, rfl⟩
    · exact .inl ⟨rfl, rfl⟩
  | verifyAccreditation turn request =>
    have ht : t = { s with investors := t.investors } := he
    rw [ht]
    exact .inl ⟨rfl, rfl⟩
  | mintTokens turn request =>
    rcases he with ⟨_, rfl⟩ | ⟨_, _, _, _, _, _, _, _, _, rfl⟩
    · exact .inl ⟨rfl, rfl⟩
    · exact .inl ⟨rfl, rfl⟩

theorem score_of_certifies {findings : List AuditFinding} {score : JsNumber} {n : Int}
    (h : certifies findings score = true) (hn : integer score = .ok n) : 80 ≤ n := by
  simp only [certifies, Bool.and_eq_true] at h
  cases score with
  | finite x =>
    have hx : 80 ≤ x := of_decide_eq_true h.2
    simp only [integer] at hn
    split at hn
    · rename_i hint
      obtain rfl := Except.ok.inj hn
      rw [← Rat.coe_int_num_of_den_eq_one hint.1] at hx
      exact_mod_cast hx
    · cases hn
  | posInfinity => cases hn
  | negInfinity => cases hn
  | nan => cases hn

theorem certifies_passes {findings : List AuditFinding} {score : JsNumber} (h : certifies findings score = true) :
    ¬ PassesCritical findings := by
  rintro ⟨f, hf, hs⟩
  simp only [certifies, Bool.and_eq_true, Bool.not_eq_true'] at h
  have := List.any_eq_false.mp h.1 f hf
  exact this (by rw [hs]; rfl)

theorem Scored.certify {certificationId auditId : Text} {findings : List AuditFinding} {score : JsNumber}
    (h : Scored s) (hc : Certified certificationId auditId findings score s t) : Scored t := by
  obtain ⟨n, hn, ht⟩ := hc
  intro c hmem hcertified
  rw [ht] at hmem
  rcases List.mem_append.mp hmem with hmem | hmem
  · exact h c hmem hcertified
  · obtain rfl := List.mem_singleton.mp hmem
    exact ⟨n, rfl, score_of_certifies hcertified hn⟩

theorem Scored.found {auditId : Text} {findings : List AuditFinding} (h : Scored s) (hf : Found auditId findings s t) :
    Scored t := by
  obtain ⟨rows, _, rfl⟩ := hf
  exact h

/-- Every call keeps it: certifications are only added, with a score of 80 or more. -/
theorem Scored.step (h : Scored s) {e : Performed} (hstep : IssuanceDb.Step s e t) : Scored t := by
  rcases hstep.audits with ⟨_, hcertifications⟩ | ⟨_, _, _, hf⟩ | ⟨_, _, _, _, u, _, hf, rfl | hc⟩
  · rw [Scored, hcertifications]
    exact h
  · exact h.found hf
  · exact h.found hf
  · exact (h.found hf).certify hc

/-- Findings that are not critical, or of an audit that is not certified. -/
theorem Clean.found {auditId : Text} {findings : List AuditFinding} (h : Clean s) (hf : Found auditId findings s t)
    (hg : PassesCritical findings → ¬ CertifiedAudit auditId s) : Clean t := by
  obtain ⟨rows, hrows, rfl⟩ := hf
  rintro c hmem hcertified ⟨f, hf, hid, hs⟩
  rcases List.mem_append.mp hf with hf | hf
  · exact h c hmem hcertified ⟨f, hf, hid, hs⟩
  · obtain ⟨haudit, g, hg', hseverity⟩ := hrows f hf
    refine hg ⟨g, hg', by rw [hseverity, hs]⟩ ⟨c, hmem, ?_, hcertified⟩
    rw [← hid, haudit]

theorem Clean.certify {certificationId auditId : Text} {findings : List AuditFinding} {score : JsNumber}
    (h : Clean s) (hc : Certified certificationId auditId findings score s t)
    (hg : certifies findings score = true → ¬ CriticalOnRecord auditId s) : Clean t := by
  obtain ⟨n, _, ht⟩ := hc
  intro c hmem hcertified hcritical
  rw [ht] at hmem
  have hbefore : CriticalOnRecord c.audit_id s := by rw [ht] at hcritical; exact hcritical
  rcases List.mem_append.mp hmem with hmem | hmem
  · exact h c hmem hcertified hbefore
  · obtain rfl := List.mem_singleton.mp hmem
    exact hg hcertified hbefore

/-- A critical finding passed with the call is none when the call certifies. -/
theorem CriticalOnRecord.found {auditId : Text} {findings : List AuditFinding} (hf : Found auditId findings s t)
    (hp : ¬ PassesCritical findings) (h : CriticalOnRecord auditId t) : CriticalOnRecord auditId s := by
  obtain ⟨rows, hrows, rfl⟩ := hf
  obtain ⟨f, hf, hid, hs⟩ := h
  rcases List.mem_append.mp hf with hf | hf
  · exact ⟨f, hf, hid, hs⟩
  · obtain ⟨_, g, hg, hseverity⟩ := hrows f hf
    exact absurd ⟨g, hg, by rw [hseverity, hs]⟩ hp

theorem Clean.step (h : Clean s) {e : Performed} (hg : KeepsClean s e.call) (hstep : IssuanceDb.Step s e t) : Clean t := by
  rcases hstep.audits with ⟨hfindings, hcertifications⟩ | ⟨_, _, he, hf⟩ | ⟨_, _, _, _, u, he, hf, hc⟩
  · simp only [Clean, CriticalOnRecord, hfindings, hcertifications]
    exact h
  · rw [he] at hg
    exact h.found hf hg
  · rw [he] at hg
    rcases hc with rfl | hc
    · exact h.found hf hg.1
    · exact (h.found hf hg.1).certify hc fun hcertifies hcritical =>
        hg.2 hcertifies (hcritical.found hf (certifies_passes hcertifies))

/-- In every run from tables without certifications, an offering that is created rests on a
certification with a score of at least 80, in force; and when every call of the run keeps
critical findings and certifications apart, its audit has no critical finding on record. -/
theorem offerings_rest_on_certified_audits {start s t : IssuanceDb} {history : List Performed} {now : Nat}
    {offeringId issuerId : Text} {request : OfferingRequest} (hstart : start.audit_certifications = [])
    (hrun : Machine.Run IssuanceDb.Step start history s)
    (hstep : IssuanceDb.Step s ⟨.createOffering now offeringId issuerId request, .ok ()⟩ t) :
    ∃ c ∈ t.audit_certifications, c.certification_id = request.auditCertificationId ∧ c.certified = true ∧
      (∃ n, c.compliance_score = some n ∧ 80 ≤ n) ∧ c.revoked = false ∧ (∀ e, c.expires_at = some e → now < e) ∧
      ((∀ pre e post u, history = pre ++ e :: post → Machine.Run IssuanceDb.Step start pre u → KeepsClean u e.call) →
        ¬ CriticalOnRecord c.audit_id t) := by
  have hscored : Scored s := hrun.invariant (fun _ _ _ h hs => h.step hs) (by rw [Scored, hstart]; nofun)
  rcases hstep.effect with ⟨hr, _⟩ | ⟨c, row, hc, hcertified, hrevoked, hexpires, _, rfl⟩
  · cases hr
  · have hmem : c ∈ s.audit_certifications := List.mem_of_find?_eq_some hc
    have hid : c.certification_id = request.auditCertificationId := by
      have := List.find?_some hc
      simp only [Bool.and_eq_true, beq_iff_eq] at this
      exact this.1
    refine ⟨c, hmem, hid, hcertified, hscored c hmem hcertified, hrevoked, hexpires, fun hguard => ?_⟩
    have hclean : Clean s := hrun.invariant_of (fun _ _ _ h hg hs => h.step hg hs) hguard (by rw [Clean, hstart]; nofun)
    exact hclean c hmem hcertified

/-- A call all of whose own calls are served. -/
theorem IssuanceDb.step_served (call : IssuanceCall) (s : IssuanceDb) :
    IssuanceDb.Step s ⟨call, (call.program.run [] s Local.empty).1⟩ (call.program.run [] s Local.empty).2.1 :=
  .call (Async.exec_nil everySite call.program s Local.empty)

end

def emptyDb : IssuanceDb := ⟨[], [], [], [], [], [], []⟩

def auditInput : Audit.AuditRequestInput where
  contractAddress := none
  contractCode := .str (units "code")
  blockchain := units "constellation"
  auditType := units "full"
  priority := none
  requestedBy := units "galaxia-issuance"
  complianceRequirements := none
  metadata := none

def criticalFinding : AuditFinding where
  severity := some (units "critical")
  category := some (units "reentrancy")
  description := some (units "d")
  recommendation := none
  codeLocation := none
  cweId := none
  remediation := none

def offeringInput : OfferingRequest where
  offeringType := units "reg-d"
  securityType := units "equity"
  issuerDetails := .obj []
  offeringAmount := 1000000
  tokenName := units "Test Token"
  tokenSymbol := units "TST"
  totalSupply := 1000000
  decimals := none
  transferRestrictions := .obj []
  auditCertificationId := units "c1"
  complianceDocuments := none
  metadata := none

/-- The tables after a call whose own calls are served. -/
def IssuanceDb.after (s : IssuanceDb) (call : IssuanceCall) : IssuanceDb := (call.program.run [] s Local.empty).2.1

def requestCall : IssuanceCall := .createAuditRequest (units "a1") auditInput
def completeCall : IssuanceCall := .completeAudit (units "c1") (units "a1") [] (.finite 90)
def findingCall : IssuanceCall := .addFindings (units "a1") [criticalFinding]
def offeringCall : IssuanceCall := .createOffering 0 (units "o1") (units "i1") offeringInput

def requestedDb : IssuanceDb := emptyDb.after requestCall
def completedDb : IssuanceDb := requestedDb.after completeCall
def disputedDb : IssuanceDb := completedDb.after findingCall

theorem requested_step : IssuanceDb.Step emptyDb ⟨requestCall, .ok ()⟩ requestedDb := by
  have h : (requestCall.program.run [] emptyDb Local.empty).1 = .ok () := by decide +kernel
  exact h ▸ IssuanceDb.step_served requestCall emptyDb

theorem completed_step : IssuanceDb.Step requestedDb ⟨completeCall, .ok ()⟩ completedDb := by
  have h : (completeCall.program.run [] requestedDb Local.empty).1 = .ok () := by decide +kernel
  exact h ▸ IssuanceDb.step_served completeCall requestedDb

theorem found_step : IssuanceDb.Step completedDb ⟨findingCall, .ok ()⟩ disputedDb := by
  have h : (findingCall.program.run [] completedDb Local.empty).1 = .ok () := by decide +kernel
  exact h ▸ IssuanceDb.step_served findingCall completedDb

theorem offered_step : IssuanceDb.Step completedDb ⟨offeringCall, .ok ()⟩ (completedDb.after offeringCall) := by
  have h : (offeringCall.program.run [] completedDb Local.empty).1 = .ok () := by decide +kernel
  exact h ▸ IssuanceDb.step_served offeringCall completedDb

theorem disputed_step : IssuanceDb.Step disputedDb ⟨offeringCall, .ok ()⟩ (disputedDb.after offeringCall) := by
  have h : (offeringCall.program.run [] disputedDb Local.empty).1 = .ok () := by decide +kernel
  exact h ▸ IssuanceDb.step_served offeringCall disputedDb

/-- The certification of the one audit that is completed before anything is found. -/
theorem offerings_rest_on_certified_audits_clean : ¬ CriticalOnRecord (units "a1") (completedDb.after offeringCall) := by
  have hrun : Machine.Run IssuanceDb.Step emptyDb [⟨requestCall, .ok ()⟩, ⟨completeCall, .ok ()⟩] completedDb :=
    .cons requested_step (.cons completed_step (.nil _))
  obtain ⟨c, hmem, _, _, _, _, _, hclean⟩ := offerings_rest_on_certified_audits rfl hrun offered_step
  have haudits : (completedDb.after offeringCall).audit_certifications.map (·.audit_id) = [units "a1"] := by decide +kernel
  have haudit : c.audit_id = units "a1" := by
    have hmap : c.audit_id ∈ (completedDb.after offeringCall).audit_certifications.map (·.audit_id) :=
      List.mem_map.mpr ⟨c, hmem, rfl⟩
    rw [haudits] at hmap
    exact List.mem_singleton.mp hmap
  rw [← haudit]
  refine hclean fun pre e post u he hu => ?_
  cases pre with
  | nil =>
    obtain ⟨rfl, _⟩ := List.cons.inj he
    exact trivial
  | cons e₁ pre =>
    cases pre with
    | nil =>
      simp only [List.cons_append, List.nil_append, List.cons.injEq] at he
      obtain ⟨rfl, rfl, _⟩ := he
      show (PassesCritical [] → ¬ CertifiedAudit (units "a1") u) ∧
        (certifies [] (.finite 90) = true → ¬ CriticalOnRecord (units "a1") u)
      refine ⟨fun ⟨f, hf, _⟩ => (nomatch hf), fun _ ⟨f, hf, _⟩ => ?_⟩
      cases hu with
      | cons hs hr =>
        cases hr
        have ht : u = { emptyDb with audit_requests := u.audit_requests } := hs.effect
        rw [ht] at hf
        cases hf
    | cons e₂ pre =>
      simp only [List.cons_append, List.cons.injEq] at he
      exact absurd he.2.2 (by simp)

/-- The audit is completed with a score of 90, a critical finding is added, and an offering
is created on the certification. -/
theorem offering_on_disputed_audit : ¬ ∀ (s t : IssuanceDb) (history : List Performed) (now : Nat)
    (offeringId issuerId : Text) (request : OfferingRequest), Machine.Run IssuanceDb.Step emptyDb history s →
    IssuanceDb.Step s ⟨.createOffering now offeringId issuerId request, .ok ()⟩ t →
    ∀ c ∈ t.audit_certifications, c.certification_id = request.auditCertificationId → ¬ CriticalOnRecord c.audit_id t := by
  intro h
  have hrun : Machine.Run IssuanceDb.Step emptyDb
      [⟨requestCall, .ok ()⟩, ⟨completeCall, .ok ()⟩, ⟨findingCall, .ok ()⟩] disputedDb :=
    .cons requested_step (.cons completed_step (.cons found_step (.nil _)))
  have hclean := h disputedDb _ _ _ _ _ _ hrun disputed_step
  have hids : (disputedDb.after offeringCall).audit_certifications.map (fun c => (c.certification_id, c.audit_id)) =
      [(units "c1", units "a1")] := by decide +kernel
  have hfound : (disputedDb.after offeringCall).audit_findings.map (fun f => (f.audit_id, f.severity)) =
      [(units "a1", units "critical")] := by decide +kernel
  obtain ⟨c, hc, hid⟩ : ∃ c ∈ (disputedDb.after offeringCall).audit_certifications,
      (c.certification_id, c.audit_id) = (units "c1", units "a1") := by
    rw [← List.mem_map, hids]
    exact List.mem_singleton.mpr rfl
  obtain ⟨f, hf, hseverity⟩ : ∃ f ∈ (disputedDb.after offeringCall).audit_findings,
      (f.audit_id, f.severity) = (units "a1", units "critical") := by
    rw [← List.mem_map, hfound]
    exact List.mem_singleton.mpr rfl
  obtain ⟨hc1, ha1⟩ := Prod.mk.inj hid
  obtain ⟨hfa, hfs⟩ := Prod.mk.inj hseverity
  exact hclean c hc hc1 ⟨f, hf, hfa.trans ha1.symm, hfs⟩

end GalaxiaAin.Issuance
