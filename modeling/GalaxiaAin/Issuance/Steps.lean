import GalaxiaAin.Issuance.Offerings
import GalaxiaAin.Library.Machine
import GalaxiaAin.Library.Table
import GalaxiaAin.Library.Transaction

/-! What each call of the services may do to the tables, whichever of its own calls fail,
and the runs of such calls. -/
namespace GalaxiaAin.Issuance
open GalaxiaAin.Library

/-- Any call may fail. -/
abbrev everySite : Site → Prop := fun _ => True

/-- Any error. -/
abbrev anyError : IssuanceFailure → Prop := fun _ => True

/-- Findings of the audit, with severities of the ones passed in, are on record. -/
def Found (auditId : Text) (findings : List AuditFinding) (s t : IssuanceDb) : Prop :=
  ∃ rows : List FindingRow, (∀ row ∈ rows, row.audit_id = auditId ∧ ∃ f ∈ findings, f.severity = some row.severity) ∧
    t = { s with audit_findings := s.audit_findings ++ rows }

/-- One row for each finding is on record, after the others. -/
def Recorded (auditId : Text) (findings : List AuditFinding) (s t : IssuanceDb) : Prop :=
  ∃ rows : List FindingRow, List.Forall₂ (fun f row => findingRow auditId f = .ok row) findings rows ∧
    (findings ≠ [] → ∃ r ∈ s.audit_requests, r.audit_id = auditId) ∧ t = { s with audit_findings := s.audit_findings ++ rows }

/-- The audit is completed: its findings and its certification are on record. -/
def Completed (certificationId auditId : Text) (findings : List AuditFinding) (score : JsNumber) (s t : IssuanceDb) : Prop :=
  ∃ u n, Recorded auditId findings s u ∧ integer score = .ok n ∧ t = { u with
    audit_certifications := u.audit_certifications ++
      [certification certificationId auditId (certifies findings score) n]
    audit_requests := t.audit_requests }

/-- The certification of the findings and score passed in is on record. -/
def Certified (certificationId auditId : Text) (findings : List AuditFinding) (score : JsNumber) (s t : IssuanceDb) : Prop :=
  ∃ n, integer score = .ok n ∧ t = { s with
    audit_certifications := s.audit_certifications ++
      [certification certificationId auditId (certifies findings score) n]
    audit_requests := t.audit_requests }

/-- The certification was in force, and the offering is on record. -/
def Offered (now : Nat) (request : OfferingRequest) (s t : IssuanceDb) : Prop :=
  ∃ c row, findCertification request.auditCertificationId s = some c ∧ c.certified = true ∧ c.revoked = false ∧
    (∀ e, c.expires_at = some e → now < e) ∧ row.status = units "ready_for_issuance" ∧
    t = { s with offerings := s.offerings ++ [row] }

/-- The investor of a mint: the one on record, or a new one. -/
inductive Holder (turn : MintTurn) (request : TokenMintRequest) (s : IssuanceDb) : Text → List InvestorRow → Prop
  | known {i : InvestorRow} (h : investorOf request.investorId s = some i) :
      Holder turn request s i.investor_id s.investors
  | created (h : investorOf request.investorId s = none) :
      Holder turn request s turn.investorId (s.investors ++ [unknownInvestor turn request])

/-- The offering was active, the investor accredited where that is asked for, and the
holding is on record. -/
def Minted (turn : MintTurn) (request : TokenMintRequest) (s t : IssuanceDb) : Prop :=
  ∃ o row investorId investors, offeringOf request.offeringId s = some o ∧ o.status = units "active" ∧
    (accreditedOnly (restrictionsOf (some o)) = true → accredited (investorOf request.investorId s) = true) ∧
    Holder turn request s investorId investors ∧
    holdingRow turn request investorId (restrictionsOf (some o)) = .ok row ∧
    t = { s with investors := investors, token_holdings := s.token_holdings ++ [row] }

/-- The offering that can be created: the certification is in force, and the id is new. -/
def OfferOf (now : Nat) (offeringId issuerId : Text) (request : OfferingRequest) (s : IssuanceDb) (row : OfferingRow) : Prop :=
  ∃ c, findCertification request.auditCertificationId s = some c ∧ c.certified = true ∧ c.revoked = false ∧
    (∀ e, c.expires_at = some e → now < e) ∧ offeringRow offeringId issuerId request = .ok row ∧
    ∀ o ∈ s.offerings, o.offering_id ≠ offeringId

/-- The mint that can be made: the offering is active, the investor accredited where that is
asked for, and the ids are new. -/
def MintOf (turn : MintTurn) (request : TokenMintRequest) (s : IssuanceDb) (investors : List InvestorRow) (row : HoldingRow) :
    Prop :=
  ∃ o investorId, offeringOf request.offeringId s = some o ∧ o.status = units "active" ∧
    (accreditedOnly (restrictionsOf (some o)) = true → accredited (investorOf request.investorId s) = true) ∧
    Holder turn request s investorId investors ∧ holdingRow turn request investorId (restrictionsOf (some o)) = .ok row ∧
    (∀ h ∈ s.token_holdings, h.holding_id ≠ row.holding_id) ∧
    (investorOf request.investorId s = none → ∀ i ∈ s.investors, i.investor_id ≠ turn.investorId)

/-- Only the investors change. -/
def Registers (s t : IssuanceDb) : Prop := t = { s with investors := t.investors }

/-- What a call may leave, with the answer it gives. -/
def Effect : IssuanceCall → Except IssuanceFailure Unit → IssuanceDb → IssuanceDb → Prop
  | .createAuditRequest _ _, _, s, t => t = { s with audit_requests := t.audit_requests }
  | .addFindings auditId findings, _, s, t => t = s ∨ Found auditId findings s t
  | .completeAudit certificationId auditId findings score, _, s, t =>
    t = s ∨ ∃ u, Found auditId findings s u ∧ (t = u ∨ Certified certificationId auditId findings score u t)
  | .createOffering now _ _ request, r, s, t => (r.isOk = false ∧ t = s) ∨ Offered now request s t
  | .verifyAccreditation _ _, _, s, t => Registers s t
  | .mintTokens turn request, r, s, t => (r.isOk = false ∧ t = s) ∨ Minted turn request s t

section
variable {s : IssuanceDb}

theorem createAuditRequest_post (auditId : Text) (input : Audit.AuditRequestInput) (l : Local backend) :
    (createAuditRequest auditId input).post everySite
      (fun _ t _ => t = { s with audit_requests := t.audit_requests }) s l := by
  refine Async.Transacts.committed_then
    (R := fun _ u => u = { s with audit_requests := s.audit_requests ++ [Audit.auditRequestRow auditId input] })
    (E := anyError) (Async.transacts_query ?_ (fun _ => trivial) _) (fun _ => trivial) (fun _ _ => rfl) ?_
  · simp only [insertAuditRequest, Stmt.statement]
    split
    · exact meets_error.mpr trivial
    · exact meets_ok.mpr rfl
  · rintro - u rfl
    rw [Async.post_bind, Async.post_emit]
    exact rfl

theorem findingRow_ok {auditId : Text} {finding : AuditFinding} {row : FindingRow}
    (h : findingRow auditId finding = .ok row) : row.audit_id = auditId ∧ finding.severity = some row.severity := by
  unfold findingRow required at h
  cases hs : finding.severity with
  | none => rw [hs] at h; cases h
  | some severity =>
    cases hc : finding.category with
    | none => rw [hs, hc] at h; cases h
    | some category =>
      cases hd : finding.description with
      | none => rw [hs, hc, hd] at h; cases h
      | some description =>
        rw [hs, hc, hd] at h
        cases h
        exact ⟨rfl, rfl⟩

theorem meets_insertFinding {auditId : Text} {finding : AuditFinding} {c : Unit} {db : IssuanceDb} :
    Meets ((insertFinding auditId finding).run c db) (fun o => Recorded auditId [finding] db (o.2 db)) anyError := by
  simp only [insertFinding, Stmt.statement]
  cases hr : findingRow auditId finding with
  | error e => exact meets_error.mpr trivial
  | ok row =>
    simp only [bind, Except.bind]
    split
    · rename_i hknown
      obtain ⟨r, hmem, hid⟩ := List.any_eq_true.mp hknown
      exact meets_ok.mpr ⟨[row], .cons hr .nil, fun _ => ⟨r, hmem, beq_iff_eq.mp hid⟩, rfl⟩
    · exact meets_error.mpr trivial

theorem Recorded.append {auditId : Text} {findings more : List AuditFinding} {t u : IssuanceDb}
    (h : Recorded auditId findings s t) (h' : Recorded auditId more t u) : Recorded auditId (findings ++ more) s u := by
  obtain ⟨rows, hrows, hknown, rfl⟩ := h
  obtain ⟨rows', hrows', hknown', rfl⟩ := h'
  refine ⟨rows ++ rows', List.rel_append hrows hrows', fun hne => ?_, by simp only [List.append_assoc]⟩
  by_cases hnil : findings = []
  · exact hknown' fun hmore => hne (by rw [hnil, hmore, List.append_nil])
  · exact hknown hnil

theorem Recorded.found {auditId : Text} {findings : List AuditFinding} {t : IssuanceDb} (h : Recorded auditId findings s t) :
    Found auditId findings s t := by
  obtain ⟨rows, hrows, -, rfl⟩ := h
  refine ⟨rows, ?_, rfl⟩
  induction hrows with
  | nil => exact fun _ hrow => absurd hrow List.not_mem_nil
  | cons hr _ ih =>
    intro row hrow
    rcases List.mem_cons.mp hrow with rfl | hrow
    · obtain ⟨hid, hs⟩ := findingRow_ok hr
      exact ⟨hid, _, .head _, hs⟩
    · obtain ⟨hid, f, hf, hs⟩ := ih row hrow
      exact ⟨hid, f, .tail _ hf, hs⟩

theorem insertFindings_transacts {auditId : Text} (findings : List AuditFinding) : ∀ t : IssuanceDb,
    (insertFindings auditId findings).Transacts everySite () s t (fun _ u => Recorded auditId findings t u) anyError := by
  induction findings with
  | nil => exact fun t => Async.transacts_pure ⟨[], .nil, fun h => absurd rfl h, by simp⟩
  | cons finding findings ih =>
    intro t
    refine Async.transacts_bind (Async.transacts_query (R := fun _ u => Recorded auditId [finding] t u) meets_insertFinding
      (fun _ => trivial) _) fun _ u hu => ?_
    exact (ih u).mono fun _ v hv => hu.append hv

/-- Findings are added all or none. -/
theorem addFindings_post (auditId : Text) (findings : List AuditFinding) (l : Local backend) :
    (addFindings auditId findings).post everySite
      (fun r t l' => l' = l ∧ ((r.isOk = false ∧ t = s) ∨ (r.isOk = true ∧ Recorded auditId findings s t))) s l :=
  Async.Transacts.committed (insertFindings_transacts findings s) (fun _ => trivial)
    (fun _ _ => ⟨rfl, .inl ⟨rfl, rfl⟩⟩) (fun _ _ h => ⟨rfl, .inr ⟨rfl, h⟩⟩) _ _ _ _

theorem meets_insertCertification {certificationId auditId : Text} {findings : List AuditFinding} {score : JsNumber}
    {c : Unit} {db : IssuanceDb} :
    Meets ((insertCertification certificationId auditId (certifies findings score) score).run c db)
      (fun o => Certified certificationId auditId findings score db (o.2 db)) anyError := by
  simp only [insertCertification, Stmt.statement]
  cases hn : integer score with
  | error e => exact meets_error.mpr trivial
  | ok n =>
    simp only [bind, Except.bind]
    split
    · exact meets_error.mpr trivial
    · split
      · exact meets_ok.mpr ⟨n, hn, rfl⟩
      · exact meets_error.mpr trivial

theorem meets_completeRequest {auditId : Text} {c : Unit} {db u : IssuanceDb} {certificationId : Text}
    {findings : List AuditFinding} {score : JsNumber} (h : Certified certificationId auditId findings score u db) :
    Meets ((completeRequest auditId).run c db)
      (fun o => Certified certificationId auditId findings score u (o.2 db)) anyError := by
  obtain ⟨n, hn, hdb⟩ := h
  exact meets_ok.mpr ⟨n, hn, by rw [hdb]⟩

/-- The findings stay on record when what follows them fails. -/
theorem completeAudit_post (certificationId auditId : Text) (findings : List AuditFinding) (score : JsNumber)
    (l : Local backend) : (completeAudit certificationId auditId findings score).post everySite
      (fun r t _ => (r.isOk = false ∧ (t = s ∨ Recorded auditId findings s t)) ∨
        (r.isOk = true ∧ Completed certificationId auditId findings score s t)) s l := by
  rw [completeAudit, Async.post_withClient]
  refine ⟨?_, fun _ _ => .inl ⟨rfl, .inl rfl⟩⟩
  rw [Async.post_orRollback, Async.post_bind, Async.post_begin]
  refine ⟨?_, fun _ f => Async.caught_rollback (fun _ => .inl ⟨rfl, .inl rfl⟩) (.inl ⟨rfl, .inl rfl⟩) _⟩
  rw [Async.next_ok, Async.post_bind]
  refine Async.post_mono (addFindings_post auditId findings _) fun r u l' hr => ?_
  obtain ⟨rfl, hr⟩ := hr
  cases r with
  | error e =>
    have hu : u = s := (hr.resolve_right fun h => by cases h.1).2
    exact Async.caught_rollback (fun _ => .inl ⟨rfl, .inl hu⟩) (.inl ⟨rfl, .inl hu⟩) _
  | ok _ =>
    have hrecorded : Recorded auditId findings s u := (hr.resolve_left fun h => by cases h.1).2
    have hkept (e : IssuanceFailure) : ((Except.error e : Except IssuanceFailure (Text × Bool)).isOk = false ∧
        (u = s ∨ Recorded auditId findings s u)) ∨ ((Except.error e : Except IssuanceFailure (Text × Bool)).isOk = true ∧
          Completed certificationId auditId findings score s u) := .inl ⟨rfl, .inr hrecorded⟩
    rw [Async.next_ok, Async.post_bind, Async.post_remote]
    refine ⟨fun _ => ?_, fun _ _ => Async.caught_rollback (fun _ => hkept _) (hkept _) _⟩
    rw [Async.next_ok, Async.post_bind, Async.post_remote]
    refine ⟨fun _ => ?_, fun _ _ => Async.caught_rollback (fun _ => hkept _) (hkept _) _⟩
    rw [Async.next_ok, Async.post_bind]
    refine (Async.transacts_query (R := fun _ v => Certified certificationId auditId findings score u v)
      meets_insertCertification (fun _ => trivial) _).post rfl
      (fun _ x _ => Async.caught_rollback (fun _ => hkept _) (hkept _) x) fun _ held pending hv => ?_
    rw [Async.next_ok, Async.post_bind]
    refine (Async.transacts_query (R := fun _ v => Certified certificationId auditId findings score u v)
      (meets_completeRequest hv) (fun _ => trivial) _).post rfl
      (fun _ x _ => Async.caught_rollback (fun _ => hkept _) (hkept _) x) fun _ held pending hv => ?_
    rw [Async.next_ok, Async.post_bind, Async.post_commit]
    refine ⟨?_, fun _ _ => Async.caught_rollback (fun _ => hkept _) (hkept _) _⟩
    rw [Async.next_ok, Async.post_bind, Async.post_emit]
    obtain ⟨n, hn, ht⟩ := hv
    exact .inr ⟨rfl, u, n, hrecorded, hn, ht⟩

/-! ### Offerings -/

theorem verification_sound {now : Nat} {c : Option Certification}
    (hvalid : (Audit.verification now (c.map (·.toAuditCertification))).valid = true)
    (hcertified : (Audit.verification now (c.map (·.toAuditCertification))).certified = true) :
    ∃ c', c = some c' ∧ c'.certified = true ∧ c'.revoked = false ∧ ∀ e, c'.expires_at = some e → now < e := by
  cases c with
  | none => cases hvalid
  | some c =>
    simp only [Option.map_some, Audit.verification, Bool.and_eq_true, Bool.not_eq_true'] at hvalid
    refine ⟨c, rfl, hcertified, hvalid.1, fun e he => ?_⟩
    rw [he] at hvalid
    exact of_decide_eq_true hvalid.2

theorem offeringRow_ok {offeringId issuerId : Text} {request : OfferingRequest} {row : OfferingRow}
    (h : offeringRow offeringId issuerId request = .ok row) :
    row.offering_id = offeringId ∧ row.status = units "ready_for_issuance" := by
  unfold offeringRow at h
  simp only [bind, Except.bind] at h
  repeat' split at h
  all_goals first | (cases h; done) | (cases h; exact ⟨rfl, rfl⟩)

theorem meets_insertOffering {offeringId issuerId : Text} {request : OfferingRequest} {c : Unit} {db : IssuanceDb} :
    Meets ((insertOffering offeringId issuerId request).run c db)
      (fun o => ∃ row, offeringRow offeringId issuerId request = .ok row ∧ (∀ o ∈ db.offerings, o.offering_id ≠ offeringId) ∧
        o.2 db = { db with offerings := db.offerings ++ [row] }) anyError := by
  simp only [insertOffering, Stmt.statement]
  cases hr : offeringRow offeringId issuerId request with
  | error e => exact meets_error.mpr trivial
  | ok row =>
    simp only [bind, Except.bind]
    split
    · exact meets_error.mpr trivial
    · split
      · exact meets_ok.mpr ⟨row, rfl, not_any_key.mp ‹_›, rfl⟩
      · exact meets_error.mpr trivial

theorem OfferOf.offered {now : Nat} {offeringId issuerId : Text} {request : OfferingRequest} {row : OfferingRow}
    (h : OfferOf now offeringId issuerId request s row) : Offered now request s { s with offerings := s.offerings ++ [row] } := by
  obtain ⟨c, hc, hcertified, hrevoked, hexpires, hrow, -⟩ := h
  exact ⟨c, row, hc, hcertified, hrevoked, hexpires, (offeringRow_ok hrow).2, rfl⟩

theorem offer_transacts (now : Nat) (offeringId issuerId : Text) (request : OfferingRequest) :
    (offer now offeringId issuerId request).Transacts everySite () s s (fun _ t => ∃ row,
      OfferOf now offeringId issuerId request s row ∧ t = { s with offerings := s.offerings ++ [row] }) anyError := by
  refine Async.transacts_bind (R := fun v t => t = s ∧ v = Audit.verification now
    ((findCertification request.auditCertificationId s).map (·.toAuditCertification))) ?_ ?_
  · exact Async.Observes.transacts fun l => Async.observes_pool (meets_ok.mpr ⟨rfl, rfl, rfl⟩) (fun _ => trivial) _
  · rintro v t ⟨rfl, rfl⟩
    refine Async.transacts_bind (R := fun _ u => u = t ∧ ∃ c, findCertification request.auditCertificationId t = some c ∧
      c.certified = true ∧ c.revoked = false ∧ ∀ e, c.expires_at = some e → now < e) ?_ ?_
    · refine Async.Observes.transacts fun l => Async.observes_onlyIf (fun _ => Async.observes_throw trivial) fun h => ?_
      simp only [Bool.or_eq_true, Bool.not_eq_true', not_or, Bool.not_eq_false] at h
      exact ⟨rfl, verification_sound h.1 h.2⟩
    · rintro - u ⟨rfl, c, hc, hcertified, hrevoked, hexpires⟩
      refine (Async.transacts_query (R := fun _ v => ∃ row, offeringRow offeringId issuerId request = .ok row ∧
        (∀ o ∈ u.offerings, o.offering_id ≠ offeringId) ∧ v = { u with offerings := u.offerings ++ [row] })
        meets_insertOffering (fun _ => trivial) _).mono fun _ v hv => ?_
      obtain ⟨row, hrow, hfresh, rfl⟩ := hv
      exact ⟨row, ⟨c, hc, hcertified, hrevoked, hexpires, hrow, hfresh⟩, rfl⟩

theorem createOffering_post (now : Nat) (offeringId issuerId : Text) (request : OfferingRequest) (l : Local backend) :
    (createOffering now offeringId issuerId request).post everySite
      (fun r t _ => (r.isOk = false ∧ t = s) ∨ Offered now request s t) s l := by
  refine Async.Transacts.committed_then (offer_transacts now offeringId issuerId request) (fun _ => trivial)
    (fun _ _ => .inl ⟨rfl, rfl⟩) ?_
  rintro - _ ⟨row, hrow, rfl⟩
  rw [Async.post_bind, Async.post_emit]
  change Async.post (B := backend) everySite _ _ _ _
  rw [getOffering, Async.post_pool]
  exact ⟨.inr hrow.offered, fun _ _ => Async.caught_rollback (fun _ => .inr hrow.offered) (.inr hrow.offered) _⟩

/-! ### Investors and mints -/

theorem getOrCreate_transacts (row : InvestorRow) : (getOrCreate row).Transacts everySite () s s
    (fun investorId t => (∃ i, investorOf row.galaxia_id_user_id s = some i ∧ investorId = i.investor_id ∧ t = s) ∨
      (investorOf row.galaxia_id_user_id s = none ∧ investorId = row.investor_id ∧
        (∀ i ∈ s.investors, i.investor_id ≠ row.investor_id) ∧ t = { s with investors := s.investors ++ [row] })) anyError := by
  refine Async.transacts_bind (R := fun r t => t = s ∧
    r = (investorOf row.galaxia_id_user_id s).map (·.investor_id)) ?_ ?_
  · exact Async.Observes.transacts fun l => Async.observes_pool (meets_ok.mpr ⟨rfl, rfl, rfl⟩) (fun _ => trivial) _
  · rintro r t ⟨rfl, rfl⟩
    cases hi : investorOf row.galaxia_id_user_id t with
    | some i => exact Async.transacts_pure (.inl ⟨i, rfl, rfl, rfl⟩)
    | none =>
      refine Async.transacts_bind (R := fun _ u => (∀ i ∈ t.investors, i.investor_id ≠ row.investor_id) ∧
        u = { t with investors := t.investors ++ [row] }) (Async.transacts_query ?_ (fun _ => trivial) _) ?_
      · simp only [insertInvestor, Stmt.statement]
        split
        · exact meets_error.mpr trivial
        · exact meets_ok.mpr ⟨not_any_key.mp ‹_›, rfl⟩
      · rintro - u ⟨hfresh, rfl⟩
        exact Async.transacts_pure (.inr ⟨rfl, rfl, hfresh, rfl⟩)

theorem accredit_transacts (turn : VerificationTurn) (request : AccreditationRequest) :
    (accredit turn request).Transacts everySite () s s (fun _ t => Registers s t) anyError := by
  refine Async.transacts_bind (getOrCreate_transacts (pendingInvestor turn request)) fun investorId t ht => ?_
  have hupdate : Meets ((updateInvestor turn request.verificationType investorId).run () t)
      (fun o => Registers t (o.2 t)) anyError := meets_ok.mpr rfl
  refine (Async.transacts_query (R := fun _ u => Registers t u) hupdate (fun _ => trivial) _).mono fun _ u hu => ?_
  rcases ht with ⟨_, _, _, rfl⟩ | ⟨_, _, _, rfl⟩
  · exact hu
  · exact hu

theorem verifyAccreditation_post (turn : VerificationTurn) (request : AccreditationRequest) (l : Local backend) :
    (verifyAccreditation turn request).post everySite (fun _ t _ => Registers s t) s l :=
  Async.Transacts.committed_then (accredit_transacts turn request) (fun _ => trivial) (fun _ _ => rfl) fun _ _ h => h

theorem meets_insertHolding {turn : MintTurn} {request : TokenMintRequest} {investorId : Text} {restrictions : Json}
    {c : Unit} {db : IssuanceDb} :
    Meets ((insertHolding turn request investorId restrictions).run c db)
      (fun o => ∃ row, holdingRow turn request investorId restrictions = .ok row ∧
        (∀ h ∈ db.token_holdings, h.holding_id ≠ row.holding_id) ∧
        o.2 db = { db with token_holdings := db.token_holdings ++ [row] }) anyError := by
  simp only [insertHolding, Stmt.statement]
  cases hr : holdingRow turn request investorId restrictions with
  | error e => exact meets_error.mpr trivial
  | ok row =>
    simp only [bind, Except.bind]
    split
    · exact meets_error.mpr trivial
    · exact meets_ok.mpr ⟨row, rfl, not_any_key.mp ‹_›, rfl⟩

private theorem looked {f : IssuanceDb → α} (σ : Site) : (Async.await (B := backend) σ (.pool (.select fun _ db => f db))).Transacts
    everySite () s s (fun r t => t = s ∧ r = f s) anyError :=
  Async.Observes.transacts fun _ => Async.observes_pool (meets_ok.mpr ⟨rfl, rfl, rfl⟩) (fun _ => trivial) _

private theorem guarded {condition : Prop} [Decidable condition] {e : IssuanceFailure} :
    (onlyIf (B := backend) condition (throw e)).Transacts everySite () s s (fun _ t => t = s ∧ ¬ condition) anyError :=
  Async.Observes.transacts fun _ => Async.observes_onlyIf (fun _ => Async.observes_throw trivial) fun h => ⟨rfl, h⟩

theorem MintOf.minted {turn : MintTurn} {request : TokenMintRequest} {investors : List InvestorRow} {row : HoldingRow}
    (h : MintOf turn request s investors row) :
    Minted turn request s { s with investors := investors, token_holdings := s.token_holdings ++ [row] } := by
  obtain ⟨o, investorId, ho, hactive, hneeded, hholder, hrow, -, -⟩ := h
  exact ⟨o, row, investorId, investors, ho, hactive, hneeded, hholder, hrow, rfl⟩

theorem mint_transacts (turn : MintTurn) (request : TokenMintRequest) :
    (mint turn request).Transacts everySite () s s (fun _ t => ∃ investors row, MintOf turn request s investors row ∧
      t = { s with investors := investors, token_holdings := s.token_holdings ++ [row] }) anyError := by
  refine Async.transacts_bind (looked .getOffering) ?_
  rintro offering t ⟨rfl, rfl⟩
  refine Async.transacts_bind guarded ?_
  rintro - u ⟨rfl, hactive⟩
  refine Async.transacts_bind (looked .accreditationStatus) ?_
  rintro accreditation t ⟨rfl, rfl⟩
  refine Async.transacts_bind (looked .selectRestrictions) ?_
  rintro restrictions u ⟨rfl, rfl⟩
  refine Async.transacts_bind guarded ?_
  rintro - t ⟨rfl, haccredited⟩
  cases ho : offeringOf request.offeringId t with
  | none => simp [ho] at hactive
  | some o =>
    simp only [ho, Option.any_some, Bool.not_eq_true, Bool.not_eq_false', beq_iff_eq] at hactive
    have hneeded : accreditedOnly (restrictionsOf (some o)) = true →
        accredited (investorOf request.investorId t) = true := by
      intro hr
      simpa [ho, hr] using haccredited
    refine Async.transacts_bind (getOrCreate_transacts (unknownInvestor turn request)) fun investorId u hu => ?_
    refine (Async.transacts_query (R := fun _ v => ∃ row, holdingRow turn request investorId (restrictionsOf (some o)) = .ok row ∧
      (∀ h ∈ u.token_holdings, h.holding_id ≠ row.holding_id) ∧ v = { u with token_holdings := u.token_holdings ++ [row] })
      meets_insertHolding (fun _ => trivial) _).mono fun _ v hv => ?_
    obtain ⟨row, hrow, hfresh, rfl⟩ := hv
    rcases hu with ⟨i, hi, rfl, rfl⟩ | ⟨hi, rfl, hnew, rfl⟩
    · refine ⟨_, row, ⟨o, _, ho, hactive, hneeded, .known hi, hrow, hfresh, fun hnone => ?_⟩, rfl⟩
      exact absurd (hi.symm.trans hnone) (by simp)
    · exact ⟨_, row, ⟨o, _, ho, hactive, hneeded, .created hi, hrow, hfresh, fun _ => hnew⟩, rfl⟩

theorem mintTokens_post (turn : MintTurn) (request : TokenMintRequest) (l : Local backend) :
    (mintTokens turn request).post everySite (fun r t _ => (r.isOk = false ∧ t = s) ∨ Minted turn request s t) s l := by
  refine Async.Transacts.committed_then (mint_transacts turn request) (fun _ => trivial)
    (fun _ _ => .inl ⟨rfl, rfl⟩) ?_
  rintro - _ ⟨investors, row, hrow, rfl⟩
  have hu := hrow.minted
  rw [Async.post_bind, Async.post_emit]
  change Async.post (B := backend) everySite _ _ _ _
  rw [Async.post_bind, getTokenHolding, Async.post_pool]
  refine ⟨?_, fun _ _ => Async.caught_rollback (fun _ => .inr hu) (.inr hu) _⟩
  rw [Stmt.reply_select, Async.next_ok]
  split
  · exact .inr hu
  · exact Async.caught_rollback (fun _ => .inr hu) (.inr hu) _

/-! ### Runs -/

/-- What a call of the services leaves and answers. -/
theorem program_post (call : IssuanceCall) (l : Local backend) :
    call.program.post everySite (fun r t _ => Effect call r s t) s l := by
  cases call with
  | createAuditRequest auditId input =>
    rw [IssuanceCall.program, Async.post_bind]
    exact Async.post_mono (createAuditRequest_post auditId input l) fun r t l' h => by cases r <;> exact h
  | addFindings auditId findings =>
    exact Async.post_mono (addFindings_post auditId findings l) fun r t l' h => h.2.imp (fun h => h.2) fun h => h.2.found
  | completeAudit certificationId auditId findings score =>
    rw [IssuanceCall.program, Async.post_bind]
    refine Async.post_mono (completeAudit_post certificationId auditId findings score l) fun r t l' h => ?_
    have heffect : Effect (.completeAudit certificationId auditId findings score) (r.map fun _ => ()) s t := by
      rcases h with ⟨-, rfl | hrecorded⟩ | ⟨-, u, n, hrecorded, hn, ht⟩
      · exact .inl rfl
      · exact .inr ⟨t, hrecorded.found, .inl rfl⟩
      · exact .inr ⟨u, hrecorded.found, .inr ⟨n, hn, ht⟩⟩
    cases r <;> exact heffect
  | createOffering now offeringId issuerId request =>
    rw [IssuanceCall.program, Async.post_bind]
    exact Async.post_mono (createOffering_post now offeringId issuerId request l) fun r t l' h => by cases r <;> exact h
  | verifyAccreditation turn request =>
    rw [IssuanceCall.program, Async.post_bind]
    exact Async.post_mono (verifyAccreditation_post turn request l) fun r t l' h => by cases r <;> exact h
  | mintTokens turn request =>
    rw [IssuanceCall.program, Async.post_bind]
    exact Async.post_mono (mintTokens_post turn request l) fun r t l' h => by cases r <;> exact h

/-- Calls one at a time, of whose own calls any may fail. -/
inductive IssuanceDb.Step : Machine IssuanceDb Performed
  | call {s t : IssuanceDb} {call : IssuanceCall} {r : Except IssuanceFailure Unit} {l : Local backend}
      (h : Async.Exec everySite call.program s Local.empty r t l) : IssuanceDb.Step s ⟨call, r⟩ t

theorem IssuanceDb.Step.effect {t : IssuanceDb} {e : Performed} (h : IssuanceDb.Step s e t) :
    Effect e.call e.result s t := by
  cases h with
  | call h => exact h.sound (program_post _ _)

end
end GalaxiaAin.Issuance
