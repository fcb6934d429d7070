import GalaxiaAin.Issuance.Certified
import GalaxiaAin.Issuance.TransferChecks
import GalaxiaAin.Library.Invariant

/-! Lockups: the end of a holding's lockup is that of the months its request gives, and the
check of a transfer looks at one holding of the sender. -/
namespace GalaxiaAin.Issuance
open GalaxiaAin.Library
open Async (Answers)

/-! ### What the pattern reads -/

/-- The months the pattern reads in a period; none where it does not match. -/
def monthsRead (period : Text) : Nat := (matchMonths period).elim 0 parseDigits

theorem lockupEndDate_some (now : Nat) {period : Text} (h : period ≠ []) :
    lockupEndDate now (some period) = some (onDay (addMonths (monthsRead period)) now) := by
  rw [lockupEndDate, orNull, Option.filter_some, if_pos (by simpa using h), Option.map_some, monthsRead]
  cases matchMonths period with
  | some months => rfl
  | none =>
    have hzero : addMonths 0 (now / msPerDay) = now / msPerDay := addMonths_zero _
    rw [Option.elim_none, onDay, hzero, Nat.div_add_mod']

theorem matchMonths_eq_none {t : Text} (h : 80 ∉ t) : matchMonths t = none := by
  induction t with
  | nil => rfl
  | cons c rest ih =>
    obtain ⟨hc, hrest⟩ := not_or.mp (mt List.mem_cons.mpr h)
    rw [matchMonths, if_neg fun hm => hc hm.1.symm, ih hrest]

/-- A duration is read where it begins: the months follow the `P` at once, or are not read. -/
theorem matchMonths_text (d : Duration) : matchMonths d.text = if d.years = none then d.months.map (·.text) else none := by
  obtain ⟨years, months, weeks, days⟩ := d
  have hnone : ∀ rest : Text, 80 ∉ rest → ¬ (rest.takeWhile isDigit ≠ [] ∧ (rest.dropWhile isDigit).head? = some 77) →
      matchMonths (80 :: rest) = none := by
    intro rest hmem hmatch
    rw [matchMonths, if_neg fun h => hmatch h.2, matchMonths_eq_none hmem]
  have htail : 80 ∉ Duration.component 87 weeks ++ Duration.component 68 days := by
    rw [List.mem_append, not_or]
    exact ⟨Duration.not_mem_component 87 (by decide) weeks, Duration.not_mem_component 68 (by decide) days⟩
  have hmonths : 80 ∉ Duration.component 77 months ++ (Duration.component 87 weeks ++ Duration.component 68 days) := by
    rw [List.mem_append, not_or]
    exact ⟨Duration.not_mem_component 77 (by decide) months, htail⟩
  have hother : ∀ (d : Digits) (c : UInt16) (rest : Text), isDigit c = false → c ≠ 77 →
      ¬ ((d.text ++ c :: rest).takeWhile isDigit ≠ [] ∧ ((d.text ++ c :: rest).dropWhile isDigit).head? = some 77) := by
    intro d c rest hc hne h
    rw [(Duration.digits_cut d hc rest).2] at h
    exact hne (Option.some.inj h.2)
  cases years with
  | some y =>
    rw [if_neg (by simp)]
    refine hnone _ ?_ ?_
    · rw [List.mem_append, not_or]
      exact ⟨Duration.not_mem_component 89 (by decide) (some y), hmonths⟩
    · rw [Duration.component, List.append_assoc]
      exact hother y 89 _ (by decide) (by decide)
  | none =>
    rw [if_pos rfl]
    cases months with
    | some m =>
      rw [Duration.text, Duration.component, List.nil_append, Duration.component, List.append_assoc, List.singleton_append,
        matchMonths, (Duration.digits_cut m (by decide) _).1, (Duration.digits_cut m (by decide) _).2,
        if_pos ⟨rfl, m.ne_nil, rfl⟩]
      rfl
    | none =>
      refine hnone (Duration.component 87 weeks ++ Duration.component 68 days) htail ?_
      cases weeks with
      | some w =>
        rw [Duration.component, List.append_assoc]
        exact hother w 87 _ (by decide) (by decide)
      | none =>
        cases days with
        | some k =>
          rw [Duration.component, List.nil_append]
          exact hother k 68 [] (by decide) (by decide)
        | none => exact fun h => h.1 rfl

/-- The lockup a duration gives is the duration's where it has months only. -/
theorem lockupEndDate_text {d : Duration} (hd : d.NonZero) (now : Nat) :
    lockupEndDate now (some d.text) = some (d.after now) ↔ d.years = none ∧ d.totalDays = 0 := by
  have hne : d.text ≠ [] := List.cons_ne_nil _ _
  rw [lockupEndDate_some now hne, Option.some.injEq, monthsRead, matchMonths_text]
  by_cases hy : d.years = none
  · rw [if_pos hy]
    have hmonths : d.totalMonths = (d.months.map (·.text)).elim 0 parseDigits := by
      rw [Duration.totalMonths, hy]
      cases d.months with
      | none => rfl
      | some m => simp [Duration.number, Digits.value]
    rw [Duration.after_eq_months hmonths]
    exact (and_iff_right hy).symm
  · rw [if_neg hy]
    refine ⟨fun h => absurd h ?_, fun h => absurd h.1 hy⟩
    have hnow : onDay (addMonths ((none : Option Text).elim 0 parseDigits)) now = now := by
      rw [Option.elim_none, onDay, addMonths_zero, Nat.div_add_mod']
    rw [hnow]
    exact (Duration.lt_after hd now).ne

/-! ### What stays on record -/

/-- The offering, the holder and the holding are on record. -/
structure OnRecord (o : OfferingRow) (row : HoldingRow) (s : IssuanceDb) : Prop where
  offering : offeringOf row.offering_id s = some o
  investor : ∃ i ∈ s.investors, i.investor_id = row.investor_id
  holding : row ∈ s.token_holdings

section
variable {o : OfferingRow} {row : HoldingRow}

theorem insertOffering_maintains (offeringId issuerId : Text) (request : OfferingRequest) :
    (insertOffering offeringId issuerId request).Maintains (OnRecord o row) := by
  refine Stmt.Maintains.of_run fun _ s _ w _ hrun t ht => ?_
  simp only [insertOffering, Stmt.statement] at hrun
  cases hrow : offeringRow offeringId issuerId request with
  | error e => rw [hrow] at hrun; cases hrun
  | ok more =>
    simp only [hrow, bind, Except.bind] at hrun
    split at hrun
    · cases hrun
    · split at hrun
      · cases hrun
        refine ⟨?_, ht.investor, ht.holding⟩
        rw [offeringOf, List.find?_append, show List.find? _ t.offerings = some o from ht.offering, Option.some_or]
      · cases hrun

theorem insertInvestor_maintains (more : InvestorRow) : (insertInvestor more).Maintains (OnRecord o row) := by
  refine Stmt.Maintains.of_run fun _ s _ w _ hrun t ht => ?_
  simp only [insertInvestor, Stmt.statement] at hrun
  split at hrun
  · cases hrun
  · cases hrun
    obtain ⟨i, hi, hid⟩ := ht.investor
    exact ⟨ht.offering, ⟨i, List.mem_append_left _ hi, hid⟩, ht.holding⟩

theorem updateInvestor_maintains (turn : VerificationTurn) (verificationType investorId : Text) :
    (updateInvestor turn verificationType investorId).Maintains (OnRecord o row) := by
  intro _ _ t _ ht
  obtain ⟨i, hi, hid⟩ := ht.investor
  refine ⟨ht.offering, ⟨_, List.mem_map_of_mem hi, ?_⟩, ht.holding⟩
  rw [← hid]
  split <;> rfl

theorem insertHolding_maintains (turn : MintTurn) (request : TokenMintRequest) (investorId : Text) (restrictions : Json) :
    (insertHolding turn request investorId restrictions).Maintains (OnRecord o row) := by
  refine Stmt.Maintains.of_run fun _ s _ w _ hrun t ht => ?_
  simp only [insertHolding, Stmt.statement] at hrun
  cases hrow : holdingRow turn request investorId restrictions with
  | error e => rw [hrow] at hrun; cases hrun
  | ok more =>
    simp only [hrow, bind, Except.bind] at hrun
    split at hrun
    · cases hrun
    · cases hrun
      exact ⟨ht.offering, ht.investor, List.mem_append_left _ ht.holding⟩

/-- A statement of an audit. -/
theorem maintains_audit {ρ : Type} {q : Stmt backend ρ}
    (h : ∀ s r w, q.run () s = .ok (r, w) → ∀ t : IssuanceDb, w t = { t with
      audit_requests := (w t).audit_requests, audit_findings := (w t).audit_findings
      audit_certifications := (w t).audit_certifications }) : q.Maintains (OnRecord o row) := by
  refine Stmt.Maintains.of_run fun _ s r w _ hrun t ht => ?_
  rw [h s r w hrun t]
  exact ⟨ht.offering, ht.investor, ht.holding⟩

theorem insertAuditRequest_maintains (request : Audit.AuditRequestRow) :
    (insertAuditRequest request).Maintains (OnRecord o row) := by
  refine maintains_audit fun s r w hrun t => ?_
  simp only [insertAuditRequest, Stmt.statement] at hrun
  split at hrun <;> cases hrun
  rfl

theorem insertFinding_maintains (auditId : Text) (finding : AuditFinding) :
    (insertFinding auditId finding).Maintains (OnRecord o row) := by
  refine maintains_audit fun s r w hrun t => ?_
  simp only [insertFinding, Stmt.statement] at hrun
  cases hrow : findingRow auditId finding with
  | error e => rw [hrow] at hrun; cases hrun
  | ok more =>
    simp only [hrow, bind, Except.bind] at hrun
    split at hrun <;> cases hrun
    rfl

theorem insertCertification_maintains (certificationId auditId : Text) (certified : Bool) (score : JsNumber) :
    (insertCertification certificationId auditId certified score).Maintains (OnRecord o row) := by
  refine maintains_audit fun s r w hrun t => ?_
  simp only [insertCertification, Stmt.statement] at hrun
  cases hscore : integer score with
  | error e => rw [hscore] at hrun; cases hrun
  | ok n =>
    simp only [hscore, bind, Except.bind] at hrun
    split at hrun
    · cases hrun
    · split at hrun <;> cases hrun
      rfl

theorem insertFindings_preserves (auditId : Text) (findings : List AuditFinding) :
    Async.Preserves (OnRecord o row) (insertFindings auditId findings) := by
  induction findings with
  | nil => exact Async.preserves_pure ()
  | cons finding findings ih => exact Async.preserves_bind (Async.preserves_query (insertFinding_maintains auditId finding) _) fun _ => ih

private theorem call_preserves {ρ : Type} {c : Call backend ρ} (σ : Site) (hc : c.Maintains (OnRecord o row)) :
    Async.Preserves (OnRecord o row) (Async.await σ c) := Async.preserves_await hc σ

/-- A read. -/
theorem preserves_read {α : Type} (f : IssuanceDb → α) (σ : Site) :
    Async.Preserves (OnRecord o row) (Async.await (B := backend) σ (.pool (.select fun _ db => f db))) :=
  call_preserves σ (c := .pool _) (Stmt.maintains_select (B := backend) fun _ db => f db)

/-- A transaction of its own. -/
theorem preserves_transaction {α : Type} {p : Async backend Unit} {k : Async backend α}
    (hp : Async.Preserves (OnRecord o row) p) (hk : Async.Preserves (OnRecord o row) k) :
    Async.Preserves (OnRecord o row) (Async.withClient (B := backend) .connect <| Async.orRollback .rollback do
      Async.await .begin .begin
      p
      Async.await .commit .commit
      k) := by
  refine Async.preserves_withClient (Async.preserves_orRollback ?_ _) _
  refine Async.preserves_bind (call_preserves _ trivial) fun _ => ?_
  refine Async.preserves_bind hp fun _ => ?_
  exact Async.preserves_bind (call_preserves _ trivial) fun _ => hk

theorem getOrCreate_preserves (investor : InvestorRow) : Async.Preserves (OnRecord o row) (getOrCreate investor) := by
  refine Async.preserves_bind (preserves_read _ _) fun found => ?_
  cases found with
  | some investorId => exact Async.preserves_pure investorId
  | none => exact Async.preserves_bind (Async.preserves_query (insertInvestor_maintains investor) _) fun _ => Async.preserves_pure _

theorem addFindings_preserves (auditId : Text) (findings : List AuditFinding) :
    Async.Preserves (OnRecord o row) (addFindings auditId findings) :=
  preserves_transaction (insertFindings_preserves auditId findings) (Async.preserves_pure ())

theorem completeAudit_preserves (certificationId auditId : Text) (findings : List AuditFinding) (score : JsNumber) :
    Async.Preserves (OnRecord o row) (completeAudit certificationId auditId findings score) := by
  refine Async.preserves_withClient (Async.preserves_orRollback ?_ _) _
  refine Async.preserves_bind (call_preserves _ trivial) fun _ => ?_
  refine Async.preserves_bind (addFindings_preserves auditId findings) fun _ => ?_
  refine Async.preserves_bind (call_preserves _ trivial) fun _ => ?_
  refine Async.preserves_bind (call_preserves _ trivial) fun _ => ?_
  refine Async.preserves_bind (Async.preserves_query (insertCertification_maintains _ _ _ _) _) fun _ => ?_
  refine Async.preserves_bind (Async.preserves_query (maintains_audit fun _ _ _ h _ => ?_) _) fun _ => ?_
  · cases h
    rfl
  · refine Async.preserves_bind (call_preserves _ trivial) fun _ => ?_
    exact Async.preserves_bind (Async.preserves_emit _) fun _ => Async.preserves_pure _

theorem createOffering_preserves (now : Nat) (offeringId issuerId : Text) (request : OfferingRequest) :
    Async.Preserves (OnRecord o row) (createOffering now offeringId issuerId request) := by
  refine preserves_transaction ?_ (Async.preserves_bind (Async.preserves_emit _) fun _ => preserves_read _ _)
  refine Async.preserves_bind (preserves_read _ _) fun _ => ?_
  exact Async.preserves_bind (Async.preserves_onlyIf (Async.preserves_throw _)) fun _ =>
    Async.preserves_query (insertOffering_maintains offeringId issuerId request) _

theorem verifyAccreditation_preserves (turn : VerificationTurn) (request : AccreditationRequest) :
    Async.Preserves (OnRecord o row) (verifyAccreditation turn request) :=
  preserves_transaction (Async.preserves_bind (getOrCreate_preserves _) fun investorId =>
    Async.preserves_query (updateInvestor_maintains turn request.verificationType investorId) _) (Async.preserves_pure _)

theorem mintTokens_preserves (turn : MintTurn) (request : TokenMintRequest) :
    Async.Preserves (OnRecord o row) (mintTokens turn request) := by
  refine preserves_transaction ?_ (Async.preserves_bind (Async.preserves_emit _) fun _ =>
    Async.preserves_bind (preserves_read _ _) fun holding => ?_)
  · refine Async.preserves_bind (preserves_read _ _) fun _ => ?_
    refine Async.preserves_bind (Async.preserves_onlyIf (Async.preserves_throw _)) fun _ => ?_
    refine Async.preserves_bind (preserves_read _ _) fun _ => ?_
    refine Async.preserves_bind (preserves_read _ _) fun restrictions => ?_
    refine Async.preserves_bind (Async.preserves_onlyIf (Async.preserves_throw _)) fun _ => ?_
    exact Async.preserves_bind (getOrCreate_preserves _) fun investorId =>
      Async.preserves_query (insertHolding_maintains turn request investorId restrictions) _
  · cases holding with
    | some holding => exact Async.preserves_pure holding
    | none => exact Async.preserves_throw _

/-- What is on record stays there, whatever is called and fails. -/
theorem OnRecord.step {s t : IssuanceDb} {e : Performed} (h : OnRecord o row s) (hstep : IssuanceDb.Step s e t) :
    OnRecord o row t := by
  cases hstep with
  | @call _ _ call _ _ hexec =>
    refine Async.Preserves.exec ?_ hexec h
    cases call with
    | createAuditRequest auditId input =>
      refine Async.preserves_bind (preserves_transaction (Async.preserves_query (insertAuditRequest_maintains _) _) ?_) fun _ =>
        Async.preserves_pure ()
      exact Async.preserves_bind (Async.preserves_emit _) fun _ => Async.preserves_pure _
    | addFindings auditId findings => exact addFindings_preserves auditId findings
    | completeAudit certificationId auditId findings score =>
      exact Async.preserves_bind (completeAudit_preserves certificationId auditId findings score) fun _ => Async.preserves_pure ()
    | createOffering now offeringId issuerId request =>
      exact Async.preserves_bind (createOffering_preserves now offeringId issuerId request) fun _ => Async.preserves_pure ()
    | verifyAccreditation turn request =>
      exact Async.preserves_bind (verifyAccreditation_preserves turn request) fun _ => Async.preserves_pure ()
    | mintTokens turn request => exact Async.preserves_bind (mintTokens_preserves turn request) fun _ => Async.preserves_pure ()

end

/-! ### Checks of the holder -/

section
variable {s t u : IssuanceDb} {turn : MintTurn} {request : TokenMintRequest} {o : OfferingRow} {row : HoldingRow}
  {offeringId investorId : Text} {n : Nat}

/-- The checks of a transfer of the sender report a lockup from one time until another. -/
def ReportsLockup (offeringId fromInvestorId : Text) (start stop : Nat) (s : IssuanceDb) : Prop :=
  ∀ (turn : TransferTurn) (toInvestorId : Text) (tokenAmount : ℚ), start ≤ turn.now → turn.now < stop →
    Answers (checkTransferRestrictions turn offeringId fromInvestorId toInvestorId tokenAmount)
      (fun c => units "lockup-period-active" ∈ c.restrictions) s

theorem lockup_reported {turn : TransferTurn} {toInvestorId : Text} :
    units "lockup-period-active" ∈ (verdict (appliedTo turn offeringId investorId toInvestorId o s)).restrictions ↔
      ∃ h, limitOne turn.picked (holdingsBy offeringId investorId s) = some h ∧ h.lockedAt turn.now = true := by
  have haccredited : units "lockup-period-active" ∉ accreditedApplied (restrictionsOf (some o)) (investorOf toInvestorId s) := by
    rw [accreditedApplied]
    split <;> decide
  have hjurisdiction : units "lockup-period-active" ∉
      jurisdictionApplied (restrictionsOf (some o)) (investorOf toInvestorId s) := by
    rw [jurisdictionApplied]
    split <;> decide
  rw [verdict, appliedTo, List.mem_append, List.mem_append, or_iff_left hjurisdiction, or_iff_left haccredited, lockupApplied]
  cases limitOne turn.picked (holdingsBy offeringId investorId s) with
  | none => simp
  | some h => cases hl : h.lockedAt turn.now <;> simp [hl]

/-- The holding is one of the holder's. -/
theorem OnRecord.mem (h : OnRecord o row s) : row ∈ holdingsBy row.offering_id row.investor_id s :=
  List.mem_filter.mpr ⟨h.holding, by simp⟩

/-- The lockup is reported all the time exactly when every holding of the holder is locked
that long: any of them may be the one that is looked at. -/
theorem OnRecord.reportsLockup_iff (hr : OnRecord o row s) {start stop : Nat} (hlt : start < stop) :
    ReportsLockup row.offering_id row.investor_id start stop s ↔
      ∀ h ∈ holdingsBy row.offering_id row.investor_id s, ∃ e, h.lockup_end_date = some e ∧ stop ≤ e := by
  constructor
  · intro hreports h hmem
    obtain ⟨picked, hpicked⟩ := limitOne_any hmem
    have hlocked : ∀ now, start ≤ now → now < stop → h.lockedAt now = true := by
      intro now hstart hstop
      have hlog : Loggable row.investor_id row.investor_id 0 s := ⟨⟨0, by decide +kernel⟩, hr.investor, hr.investor⟩
      obtain ⟨h', hpicked', hlocked⟩ := lockup_reported.mp
        ((check_answers hr.offering).mp (hreports ⟨now, picked⟩ row.investor_id 0 hstart hstop) hlog)
      rw [hpicked] at hpicked'
      rwa [Option.some.inj hpicked']
    cases he : h.lockup_end_date with
    | none =>
      have := hlocked start (Nat.le_refl _) hlt
      rw [HoldingRow.lockedAt, he] at this
      cases this
    | some e =>
      refine ⟨e, rfl, ?_⟩
      have hlast := hlocked (stop - 1) (by omega) (by omega)
      rw [HoldingRow.lockedAt, he, Option.any_some, decide_eq_true_eq] at hlast
      omega
  · intro hall turn toInvestorId tokenAmount _ hstop
    refine (check_answers hr.offering).mpr fun _ => lockup_reported.mpr ?_
    obtain ⟨h, hpicked⟩ := limitOne_isSome (List.ne_nil_of_mem hr.mem) turn.picked
    obtain ⟨e, he, hle⟩ := hall h (limitOne_mem hpicked)
    refine ⟨h, hpicked, ?_⟩
    rw [HoldingRow.lockedAt, he, Option.any_some, decide_eq_true_eq]
    omega

/-! ### Mints -/

/-- The `lockupPeriod` of the offering. -/
def Restricts (o : OfferingRow) (d : Duration) : Prop :=
  (restrictionsOf (some o)).get (units "lockupPeriod") = some (.str d.text)

/-- The request or the offering states a lockup. -/
def States (request : TokenMintRequest) (o : OfferingRow) : Prop :=
  (∃ d : Duration, d.NonZero ∧ request.lockupPeriod = some d.text) ∨ ∃ d, Restricts o d

/-- The lockup of a holding lasts as it is stated, and is reported until it ends. -/
structure LastsAsStated (now : Nat) (request : TokenMintRequest) (o : OfferingRow) (row : HoldingRow) (u : IssuanceDb) : Prop where
  requested : ∀ d : Duration, d.NonZero → request.lockupPeriod = some d.text → row.lockup_end_date = some (d.after now)
  restricted : ∀ d, Restricts o d → ∃ e, row.lockup_end_date = some e ∧ d.after now ≤ e
  reported : States request o → ∀ e, row.lockup_end_date = some e →
    ReportsLockup row.offering_id row.investor_id now e u

/-- The period of the request is of months only, it has the months that the offering asks for,
and no other holding of the holder ends its lockup before. -/
structure OfMonths (now : Nat) (request : TokenMintRequest) (o : OfferingRow) (row : HoldingRow) (u : IssuanceDb) : Prop where
  requested : ∀ d : Duration, d.NonZero → request.lockupPeriod = some d.text → d.years = none ∧ d.totalDays = 0
  restricted : ∀ d, Restricts o d → ∃ period, request.lockupPeriod = some period ∧ period ≠ [] ∧
    d.after now ≤ onDay (addMonths (monthsRead period)) now
  reported : States request o → ∀ e, row.lockup_end_date = some e → now < e →
    ∀ h ∈ holdingsBy row.offering_id row.investor_id u, ∃ e', h.lockup_end_date = some e' ∧ e ≤ e'

theorem validDate_ok {date date' : Option Nat} (h : validDate date = .ok date') : date' = date := by
  unfold validDate at h
  split at h <;> cases h
  rfl

theorem holdingRow_lockup {restrictions : Json} (h : holdingRow turn request investorId restrictions = .ok row) :
    row.lockup_end_date = lockupEndDate turn.now request.lockupPeriod := by
  obtain ⟨amount, price, lockup, -, hlockup, rfl⟩ := holdingRow_made h
  exact validDate_ok hlockup

/-- What a mint leaves is on record. -/
theorem Minted.onRecord (h : Minted turn request s t) : ∃ o row, offeringOf request.offeringId s = some o ∧
    t.token_holdings = s.token_holdings ++ [row] ∧ OnRecord o row t ∧
    row.lockup_end_date = lockupEndDate turn.now request.lockupPeriod := by
  obtain ⟨o, row, investorId, investors, ho, -, -, hholder, hrow, rfl⟩ := h
  obtain ⟨hoffering, hinvestor, -⟩ := holdingRow_ok hrow
  refine ⟨o, row, ho, rfl, ⟨?_, ?_, List.mem_append_right _ (List.mem_singleton.mpr rfl)⟩, holdingRow_lockup hrow⟩
  · rw [hoffering]
    exact ho
  · rw [hinvestor]
    cases hholder with
    | known hi => exact ⟨_, List.mem_of_find?_eq_some hi, rfl⟩
    | created _ => exact ⟨_, List.mem_append_right _ (List.mem_singleton.mpr rfl), rfl⟩

/-- A lockup lasts as it is stated where it is of months. -/
theorem lasts_iff_ofMonths (hr : OnRecord o row u) (hend : row.lockup_end_date = lockupEndDate n request.lockupPeriod) :
    LastsAsStated n request o row u ↔ OfMonths n request o row u := by
  constructor
  · intro h
    refine ⟨fun d hd hp => ?_, fun d hd => ?_, fun hstates e he hlt => (hr.reportsLockup_iff hlt).mp (h.reported hstates e he)⟩
    · have hrequested := h.requested d hd hp
      rw [hend, hp] at hrequested
      exact (lockupEndDate_text hd n).mp hrequested
    · obtain ⟨e, he, hle⟩ := h.restricted d hd
      rw [hend] at he
      cases hp : request.lockupPeriod with
      | none => rw [hp] at he; cases he
      | some period =>
        rw [hp] at he
        have hne : period ≠ [] := by
          rintro rfl
          cases he
        rw [lockupEndDate_some n hne] at he
        exact ⟨period, rfl, hne, by rwa [Option.some.inj he]⟩
  · intro h
    refine ⟨fun d hd hp => ?_, fun d hd => ?_, fun hstates e he => ?_⟩
    · rw [hend, hp]
      exact (lockupEndDate_text hd n).mpr (h.requested d hd hp)
    · obtain ⟨period, hp, hne, hle⟩ := h.restricted d hd
      refine ⟨_, ?_, hle⟩
      rw [hend, hp, lockupEndDate_some n hne]
    · by_cases hlt : n < e
      · exact (hr.reportsLockup_iff hlt).mpr (h.reported hstates e he hlt)
      · exact fun check _ _ hstart hstop => absurd (Nat.lt_of_le_of_lt hstart hstop) hlt

/-- After any run that follows a mint, the holding's lockup lasts as stated exactly where it is
a number of months. -/
theorem lockup_lasts_iff {history : List Performed} (hstep : IssuanceDb.Step s ⟨.mintTokens turn request, .ok ()⟩ t)
    (hrun : Machine.Run IssuanceDb.Step t history u) : ∃ o row, offeringOf request.offeringId s = some o ∧
      t.token_holdings = s.token_holdings ++ [row] ∧
      (LastsAsStated turn.now request o row u ↔ OfMonths turn.now request o row u) := by
  rcases hstep.effect with ⟨hr, _⟩ | hm
  · cases hr
  · obtain ⟨o, row, ho, hholdings, hrecord, hend⟩ := hm.onRecord
    have hlater : OnRecord o row u := hrun.invariant (fun _ _ _ h hs => h.step hs) hrecord
    exact ⟨o, row, ho, hholdings, lasts_iff_ofMonths hlater hend⟩

end

/-- A mint of an offering without restrictions, with a lockup. -/
def lockedMint (lockupPeriod : Text) : IssuanceCall :=
  .mintTokens ⟨units "v2", units "h1", 5⟩ ⟨units "o1", units "u1", 5, none, some lockupPeriod, 100, none, units "0x1"⟩

def openDb : IssuanceDb := ⟨[], [], [], [openOffering], [accreditedInvestor], [], []⟩

def lockedDb (lockupPeriod : Text) : IssuanceDb := openDb.after (lockedMint lockupPeriod)

theorem locked_step {lockupPeriod : Text} (h : ((lockedMint lockupPeriod).program.run [] openDb Local.empty).1 = .ok ()) :
    IssuanceDb.Step openDb ⟨lockedMint lockupPeriod, .ok ()⟩ (lockedDb lockupPeriod) :=
  h ▸ IssuanceDb.step_served (lockedMint lockupPeriod) openDb

/-- The offering restricts no transfer. -/
theorem openOffering_restricts (d : Duration) : ¬ Restricts openOffering d := fun h => by cases h

/-- Six months. -/
theorem lockup_lasts_six_months : ∃ row, (lockedDb (units "P6M")).token_holdings = [row] ∧
    LastsAsStated 5 ⟨units "o1", units "u1", 5, none, some (units "P6M"), 100, none, units "0x1"⟩ openOffering row
      (lockedDb (units "P6M")) := by
  obtain ⟨o, row, ho, hholdings, hiff⟩ := lockup_lasts_iff (locked_step (by decide +kernel)) (.nil (lockedDb (units "P6M")))
  obtain rfl : openOffering = o := Option.some.inj ho
  refine ⟨row, hholdings, hiff.mpr ⟨fun d _ hp => ?_, fun d hd => absurd hd (openOffering_restricts d), fun _ e he _ h hmem => ?_⟩⟩
  · have hnot (c : UInt16) (hc : c ∈ [89, 87, 68]) : c ∉ d.text := by
      have hunits : ([89, 87, 68] : List UInt16).all fun c => !(units "P6M").contains c := by decide
      rw [← Option.some.inj hp]
      simpa using List.all_eq_true.mp hunits c hc
    obtain ⟨years, months, weeks, days⟩ := d
    have hy : years = none := by
      cases years with
      | none => rfl
      | some y => exact absurd (by simp [Duration.text, Duration.component]) (hnot 89 (by decide))
    have hw : weeks = none := by
      cases weeks with
      | none => rfl
      | some w => exact absurd (by simp [Duration.text, Duration.component]) (hnot 87 (by decide))
    have hk : days = none := by
      cases days with
      | none => rfl
      | some k => exact absurd (by simp [Duration.text, Duration.component]) (hnot 68 (by decide))
    subst hy hw hk
    exact ⟨rfl, rfl⟩
  · have hone := List.mem_of_mem_filter hmem
    rw [hholdings] at hone
    obtain rfl := List.mem_singleton.mp hone
    exact ⟨e, he, Nat.le_refl _⟩

/-- A lockup of a year is over at once. -/
theorem year_not_locked : ¬ ∀ (s t u : IssuanceDb) (turn : MintTurn) (request : TokenMintRequest) (o : OfferingRow)
    (row : HoldingRow) (history : List Performed), IssuanceDb.Step s ⟨.mintTokens turn request, .ok ()⟩ t →
    offeringOf request.offeringId s = some o → t.token_holdings = s.token_holdings ++ [row] →
    Machine.Run IssuanceDb.Step t history u → LastsAsStated turn.now request o row u := by
  intro h
  let year : Duration := ⟨some ⟨units "1", by decide, List.all_eq_true.mp (by decide)⟩, none, none, none⟩
  have hnonzero : year.NonZero := .inl (by decide)
  have hstep : IssuanceDb.Step openDb ⟨lockedMint (units "P1Y"), .ok ()⟩ (lockedDb (units "P1Y")) := locked_step (by decide +kernel)
  rcases hstep.effect with ⟨hr, _⟩ | hm
  · cases hr
  · obtain ⟨o, row, ho, hholdings, -, hend⟩ := hm.onRecord
    have hyear := (h _ _ _ _ _ o row [] hstep ho hholdings (.nil _)).requested year hnonzero rfl
    rw [hend] at hyear
    have hread : year.years = none := ((lockupEndDate_text hnonzero 5).mp hyear).1
    cases hread

end GalaxiaAin.Issuance
