import GalaxiaAin.Library.Answers
import GalaxiaAin.Library.Table
import GalaxiaAin.Library.Truth
import GalaxiaAin.Payments.Payment
import Mathlib.Data.List.ReduceOption

/-! `monitorTransaction`: six checks of a payment that is committed, and the alerts they raise. -/
namespace GalaxiaAin.Payments
open GalaxiaAin.Library
open Async (Reads reads_pure reads_bind reads_selection)

structure TransactionAlert where
  id : Uuid
  user_id : UuidText
  alert_type : AlertType
  severity : AlertSeverity
  status : AlertStatus
  rule_triggered : Text
  detection_score : Nat
  pattern_details : PatternDetails

/-- What a call finds around it: the time of each query, the uuid each check draws, which of
the latest screenings is given, and AVG and STDDEV of amounts as the database rounds them. -/
structure Monitor where
  now : Site → Nat
  drawn : Site → Uuid
  picked : Nat
  average : List Int → Option ℚ
  deviation : List Int → Option ℚ

/-- The microseconds of an hour. -/
def hour : Nat := 3600000000

/-- A completed transaction of the user after `NOW()` less an interval. -/
def recent (userId : Uuid) (now interval : Nat) (t : TokenTransaction) : Bool :=
  t.user_id == some userId && decide (now < t.created_at + interval) && t.status == .completed

/-- The amounts of the transactions that are counted. -/
def selectAmounts (userId : UuidText) (counted : Uuid → TokenTransaction → Bool) : Stmt backend (List Int) :=
  .selection fun db => userId.read.map fun id => (db.token_transactions.filter (counted id)).map (·.amount)

/-- `parseFloat(total || 0)` of `SUM(amount)`. -/
def sumOf (amounts : List Int) : ℚ := parseFloat amounts.sum

variable (m : Monitor) (userId : UuidText) (amount : ℚ) (transactionType : TransactionType)

/-! ### The checks -/

/-- What `checkVelocity` makes of the last day. -/
def velocityAlert (amounts : List Int) : Option TransactionAlert :=
  if 50 < amounts.length then
    some ⟨m.drawn .velocity, userId, .velocity_check, .high, .open, units "high_velocity_transactions",
      min 100 (amounts.length * 2), .velocity amounts.length (units "24 hours") (sumOf amounts)⟩
  else none

/-- What it makes of the last thirty days, and of the limit of the user's profile. -/
def monthlyAlert (monthlyTotal : ℚ) : Option Int → Option TransactionAlert
  | none => none
  | some limit =>
    let monthlyLimit := parseFloat limit
    if 0 < monthlyLimit ∧ monthlyLimit * (3 / 2) < monthlyTotal then
      some ⟨m.drawn .velocity, userId, .limit_exceeded, .medium, .open, units "monthly_limit_exceeded", 75,
        .monthly monthlyTotal monthlyLimit (monthlyTotal - monthlyLimit)⟩
    else none

def selectMonthlyLimit : Stmt backend (Option Int) :=
  .selection fun db => userId.read.map fun id => (profileOf db id).map (·.monthly_limit)

def checkVelocity : Async backend (Option TransactionAlert) := do
  let amounts ← Async.await .velocity <| .pool <| selectAmounts userId fun id t =>
    recent id (m.now .velocity) (24 * hour) t && t.transaction_type == transactionType
  match velocityAlert m userId amounts with
  | some alert => pure (some alert)
  | none => do
    let monthly ← Async.await .monthlyTotal <| .pool <| selectAmounts userId fun id =>
      recent id (m.now .monthlyTotal) (30 * 24 * hour)
    let limit ← Async.await .monthlyLimit (.pool (selectMonthlyLimit userId))
    pure (monthlyAlert m userId (sumOf monthly) limit)

def structuringAlert (amounts : List Int) : Option TransactionAlert :=
  if 3 ≤ amounts.length ∧ 10000 ≤ sumOf amounts then
    some ⟨m.drawn .structuring, userId, .structuring, .high, .open, units "potential_structuring", 85,
      .structuring amounts.length (sumOf amounts) 10000 (units "1 hour")⟩
  else none

/-- Payments just below the reporting threshold. -/
def checkStructuring : Async backend (Option TransactionAlert) :=
  if 9000 ≤ amount ∧ amount < 10000 then do
    let amounts ← Async.await .structuring <| .pool <| selectAmounts userId fun id t =>
      recent id (m.now .structuring) hour t && decide (9000 ≤ parseFloat t.amount) && decide (parseFloat t.amount < 10000)
    pure (structuringAlert m userId amounts)
  else pure none

def highRiskCountries : List Text := [units "AFG", units "IRN", units "PRK", units "SYR", units "YEM"]

def highRiskAlert : Option (Option Text × Option Bool) → Option TransactionAlert
  | none => none
  | some (country, highRisk) =>
    if highRisk == some true || country.any highRiskCountries.contains then
      some ⟨m.drawn .highRiskJurisdiction, userId, .high_risk_jurisdiction, .medium, .open,
        units "high_risk_jurisdiction_detected", 60, .jurisdiction country (units "high")⟩
    else none

/-- `SELECT detected_country, high_risk_jurisdiction`; an error where there is no such column. -/
def selectHighRisk : Stmt backend (Option (Option Text × Option Bool)) :=
  .selection fun db =>
    if db.has_high_risk_jurisdiction then
      userId.read.map fun id => (db.user_jurisdictions.find? fun j => j.user_id == id).map fun j =>
        (j.detected_country, j.high_risk_jurisdiction)
    else .error .undefinedColumn

def checkHighRiskJurisdiction : Async backend (Option TransactionAlert) := do
  pure (highRiskAlert m userId (← Async.await .highRiskJurisdiction (.pool (selectHighRisk userId))))

def unusualAlert (amounts : List Int) : Option TransactionAlert :=
  (m.average amounts).bind fun avgAmount =>
    let stddev := (m.deviation amounts).getD 0
    if 0 < stddev ∧ 3 * stddev < |amount - avgAmount| then
      some ⟨m.drawn .unusualPatterns, userId, .unusual_pattern, .medium, .open, units "statistical_anomaly", 70,
        .anomaly amount avgAmount stddev (|amount - avgAmount| / stddev)⟩
    else none

def checkUnusualPatterns : Async backend (Option TransactionAlert) := do
  let amounts ← Async.await .unusualPatterns <| .pool <| selectAmounts userId fun id t =>
    recent id (m.now .unusualPatterns) (90 * 24 * hour) t && t.transaction_type == transactionType
  pure (unusualAlert m userId amount amounts)

/-- `match_found = true AND review_decision != 'false_positive'`, of a user's row. -/
def sanctioned (id : Uuid) (r : SanctionsScreening) : Bool :=
  Sql.kept (Sql.both (Sql.equals (some r.user_id) (some id))
    (Sql.both (Sql.equals r.match_found (some true)) (Sql.differs r.review_decision (some (units "false_positive")))))

/-- `ORDER BY screened_at DESC`, where NULL comes first. -/
def screenedKey (r : SanctionsScreening) : WithTop Nat := r.screened_at

def sanctionsAlert (screening : Option SanctionsScreening) : Option TransactionAlert :=
  screening.map fun r => ⟨m.drawn .sanctionsMatch, userId, .sanctions_match, .critical, .open, units "sanctions_list_match", 100,
    .sanctions r.list_name r.match_score⟩

def selectSanctions : Stmt backend (Option SanctionsScreening) :=
  .selection fun db => userId.read.map fun id =>
    limitOneBy screenedKey m.picked (db.sanctions_screening.filter (sanctioned id))

def checkSanctionsMatch : Async backend (Option TransactionAlert) := do
  pure (sanctionsAlert m userId (← Async.await .sanctionsMatch (.pool (selectSanctions m userId))))

/-- `parseFloat(threshold || standard)`. -/
def reportingThreshold (standard : ℚ) (threshold : Option Int) : ℚ := threshold.elim standard parseFloat

def largeAlert : Option (Option ComplianceConfig) → Option TransactionAlert
  | none => none
  | some config =>
    let ctrThreshold := reportingThreshold 10000 (config.bind (·.ctr_threshold))
    let ltrThreshold := reportingThreshold 100000 (config.bind (·.ltr_threshold))
    if ltrThreshold ≤ amount then
      some ⟨m.drawn .largeTransaction, userId, .large_transaction, .high, .open, units "ltr_threshold_exceeded", 90,
        .large amount ltrThreshold (units "LTR")⟩
    else if ctrThreshold ≤ amount then
      some ⟨m.drawn .largeTransaction, userId, .large_transaction, .medium, .open, units "ctr_threshold_exceeded", 70,
        .large amount ctrThreshold (units "CTR")⟩
    else none

/-- The configuration of the user's country. -/
def selectReporting : Stmt backend (Option (Option ComplianceConfig)) :=
  .selection fun db => userId.read.map fun id => (db.user_jurisdictions.find? fun j => j.user_id == id).map fun j =>
    db.compliance_config.find? fun c => some c.jurisdiction == j.detected_country

def checkLargeTransaction : Async backend (Option TransactionAlert) := do
  pure (largeAlert m userId amount (← Async.await .largeTransaction (.pool (selectReporting userId))))

/-! ### The alerts -/

def TransactionAlert.row (alert : TransactionAlert) (userId transactionId : Uuid) : AlertRow :=
  ⟨alert.id, userId, transactionId, alert.alert_type, alert.severity, alert.status, alert.rule_triggered,
    alert.detection_score, alert.pattern_details⟩

def insertAlert (alert : TransactionAlert) (transactionId : Uuid) : Stmt backend Uuid :=
  .statement fun db => do
    let userId ← alert.user_id.read
    if db.transaction_alerts.any fun a => a.id == alert.id then .error .uniqueViolation
    else if (db.users userId).isSome && db.token_transactions.any fun t => t.id == transactionId then
      .ok (alert.id, fun db => { db with transaction_alerts := db.transaction_alerts ++ [alert.row userId transactionId] })
    else .error .foreignKeyViolation

def storeAlert (alert : TransactionAlert) (transactionId : Uuid) : Async backend Uuid :=
  Async.await .storeAlert (.pool (insertAlert alert transactionId))

def storeAlerts (transactionId : Uuid) : List TransactionAlert → Async backend Unit
  | [] => pure ()
  | alert :: alerts => do
    let _ ← storeAlert alert transactionId
    storeAlerts transactionId alerts

/-- Monitor transaction for suspicious activity. -/
def monitorTransaction (transactionId : Uuid) : Async backend (List TransactionAlert) := do
  let velocityAlert ← checkVelocity m userId transactionType
  let structuringAlert ← checkStructuring m userId amount
  let jurisdictionAlert ← checkHighRiskJurisdiction m userId
  let patternAlert ← checkUnusualPatterns m userId amount transactionType
  let sanctionsAlert ← checkSanctionsMatch m userId
  let largeTransactionAlert ← checkLargeTransaction m userId amount
  let alerts := [velocityAlert, structuringAlert, jurisdictionAlert, patternAlert, sanctionsAlert, largeTransactionAlert].reduceOption
  storeAlerts transactionId alerts
  pure alerts

/-! ### What the checks raise -/

section
variable {m : Monitor} {s : PaymentDb} {userId : UuidText} {key transactionId : Uuid} {amount : ℚ}
  {transactionType : TransactionType}

/-- An alert of one of the checks; those about sanctions are of the check of screenings. -/
structure RaisedBy (m : Monitor) (userId : UuidText) (σ : Site) (a : TransactionAlert) : Prop where
  id : a.id = m.drawn σ
  user_id : a.user_id = userId
  alert_type : (a.alert_type == .sanctions_match) = (σ == .sanctionsMatch)

/-- An alert that is raised on a condition. -/
theorem raisedBy_ite {condition : Prop} [Decidable condition] {σ : Site} {alert : TransactionAlert} {other : Option TransactionAlert}
    (h : RaisedBy m userId σ alert) (hother : ∀ a ∈ other, RaisedBy m userId σ a) :
    ∀ a ∈ (if condition then some alert else other), RaisedBy m userId σ a := by
  intro a ha
  split at ha
  · exact Option.some.inj ha ▸ h
  · exact hother a ha

theorem raisedBy_none {σ : Site} : ∀ a ∈ (none : Option TransactionAlert), RaisedBy m userId σ a := fun _ h => (nomatch h)

theorem velocityAlert_raised (amounts : List Int) : ∀ a ∈ velocityAlert m userId amounts, RaisedBy m userId .velocity a :=
  raisedBy_ite ⟨rfl, rfl, rfl⟩ raisedBy_none

theorem monthlyAlert_raised (monthlyTotal : ℚ) (limit : Option Int) :
    ∀ a ∈ monthlyAlert m userId monthlyTotal limit, RaisedBy m userId .velocity a := by
  cases limit with
  | none => exact raisedBy_none
  | some limit => exact raisedBy_ite ⟨rfl, rfl, rfl⟩ raisedBy_none

theorem structuringAlert_raised (amounts : List Int) :
    ∀ a ∈ structuringAlert m userId amounts, RaisedBy m userId .structuring a :=
  raisedBy_ite ⟨rfl, rfl, rfl⟩ raisedBy_none

theorem highRiskAlert_raised (row : Option (Option Text × Option Bool)) :
    ∀ a ∈ highRiskAlert m userId row, RaisedBy m userId .highRiskJurisdiction a := by
  cases row with
  | none => exact raisedBy_none
  | some row => exact raisedBy_ite ⟨rfl, rfl, rfl⟩ raisedBy_none

theorem unusualAlert_raised (amounts : List Int) :
    ∀ a ∈ unusualAlert m userId amount amounts, RaisedBy m userId .unusualPatterns a := by
  unfold unusualAlert
  cases m.average amounts with
  | none => exact raisedBy_none
  | some avgAmount => exact raisedBy_ite ⟨rfl, rfl, rfl⟩ raisedBy_none

theorem sanctionsAlert_raised (screening : Option SanctionsScreening) :
    ∀ a ∈ sanctionsAlert m userId screening, RaisedBy m userId .sanctionsMatch a := by
  cases screening with
  | none => exact raisedBy_none
  | some r =>
    intro a ha
    obtain rfl := Option.some.inj ha
    exact ⟨rfl, rfl, rfl⟩

theorem largeAlert_raised (config : Option (Option ComplianceConfig)) :
    ∀ a ∈ largeAlert m userId amount config, RaisedBy m userId .largeTransaction a := by
  cases config with
  | none => exact raisedBy_none
  | some config => exact raisedBy_ite ⟨rfl, rfl, rfl⟩ (raisedBy_ite ⟨rfl, rfl, rfl⟩ raisedBy_none)

/-! ### What the checks read -/

theorem selectAmounts_reads (σ : Site) (counted : Uuid → TokenTransaction → Bool) :
    Reads (Async.await σ (.pool (selectAmounts (.uuid key) counted)))
      ((s.token_transactions.filter (counted key)).map (·.amount)) s := reads_selection rfl

/-- A check without a failing call raises an alert of its own or none. -/
def Checks (m : Monitor) (key : Uuid) (σ : Site) (s : PaymentDb) (p : Async backend (Option TransactionAlert)) : Prop :=
  ∃ o, Reads p o s ∧ ∀ a ∈ o, RaisedBy m (.uuid key) σ a

theorem checks_pure {σ : Site} {o : Option TransactionAlert} (h : ∀ a ∈ o, RaisedBy m (.uuid key) σ a) :
    Checks m key σ s (pure o) := ⟨o, reads_pure o, h⟩

theorem Checks.bind {σ : Site} {α : Type} {p : Async backend α} {k : α → Async backend (Option TransactionAlert)} {a : α}
    (hp : Reads p a s) (hk : Checks m key σ s (k a)) : Checks m key σ s (p >>= k) := by
  obtain ⟨o, ho, h⟩ := hk
  exact ⟨o, reads_bind hp ho, h⟩

theorem checkVelocity_checks : Checks m key .velocity s (checkVelocity m (.uuid key) transactionType) := by
  refine .bind (selectAmounts_reads _ _) ?_
  split
  · rename_i alert halert
    exact checks_pure (halert ▸ velocityAlert_raised _)
  · exact .bind (selectAmounts_reads _ _) (.bind (reads_selection rfl) (checks_pure (monthlyAlert_raised _ _)))

theorem checkStructuring_checks : Checks m key .structuring s (checkStructuring m (.uuid key) amount) := by
  unfold checkStructuring
  split
  · exact .bind (selectAmounts_reads _ _) (checks_pure (structuringAlert_raised _))
  · exact checks_pure raisedBy_none

theorem checkHighRiskJurisdiction_checks (h : s.has_high_risk_jurisdiction = true) :
    Checks m key .highRiskJurisdiction s (checkHighRiskJurisdiction m (.uuid key)) := by
  refine .bind (a := (s.user_jurisdictions.find? fun j => j.user_id == key).map fun j =>
    (j.detected_country, j.high_risk_jurisdiction)) (reads_selection ?_) (checks_pure (highRiskAlert_raised _))
  rw [if_pos h]
  rfl

theorem checkUnusualPatterns_checks :
    Checks m key .unusualPatterns s (checkUnusualPatterns m (.uuid key) amount transactionType) :=
  .bind (selectAmounts_reads _ _) (checks_pure (unusualAlert_raised _))

theorem checkSanctionsMatch_reads : Reads (checkSanctionsMatch m (.uuid key))
    (sanctionsAlert m (.uuid key) (limitOneBy screenedKey m.picked (s.sanctions_screening.filter (sanctioned key)))) s :=
  reads_bind (reads_selection rfl) (reads_pure _)

theorem checkLargeTransaction_checks : Checks m key .largeTransaction s (checkLargeTransaction m (.uuid key) amount) :=
  .bind (reads_selection rfl) (checks_pure (largeAlert_raised _))

/-! ### Storing -/

/-- The alert can be stored. -/
theorem insertAlert_run {alert : TransactionAlert} (huserId : alert.user_id = .uuid key) (huser : (s.users key).isSome = true)
    (htransaction : ∃ t ∈ s.token_transactions, t.id = transactionId)
    (hfresh : ∀ a ∈ s.transaction_alerts, a.id ≠ alert.id) :
    (insertAlert alert transactionId).run () s = .ok (alert.id, fun db =>
      { db with transaction_alerts := db.transaction_alerts ++ [alert.row key transactionId] }) := by
  have hnone : ¬ (s.transaction_alerts.any fun a => a.id == alert.id) = true := not_any_key.mpr hfresh
  have hrefers : ((s.users key).isSome && s.token_transactions.any fun t => t.id == transactionId) = true := by
    rw [huser, Bool.true_and]
    exact any_key.mpr htransaction
  simp only [insertAlert, Stmt.statement, huserId, UuidText.read, bind, Except.bind]
  rw [if_neg hnone, if_pos hrefers]

/-- Alerts with uuids of their own are all stored. -/
theorem storeAlerts_post {alerts : List TransactionAlert} {l : Local backend} (huser : (s.users key).isSome = true)
    (htransaction : ∃ t ∈ s.token_transactions, t.id = transactionId) (huserId : ∀ a ∈ alerts, a.user_id = .uuid key)
    (hnodup : (alerts.map (·.id)).Nodup) (hfresh : ∀ a ∈ alerts, ∀ row ∈ s.transaction_alerts, row.id ≠ a.id) :
    (storeAlerts transactionId alerts).post (fun _ => False) (fun r t _ => r = .ok () ∧ t = { s with
      transaction_alerts := s.transaction_alerts ++ alerts.map fun a => a.row key transactionId }) s l := by
  induction alerts generalizing s with
  | nil => exact ⟨rfl, by rw [List.map_nil, List.append_nil]⟩
  | cons alert alerts ih =>
    have hrun := insertAlert_run (huserId alert List.mem_cons_self) huser htransaction (hfresh alert List.mem_cons_self)
    rw [List.map_cons, List.nodup_cons] at hnodup
    rw [storeAlerts, storeAlert, Async.post_bind, Async.post_pool, Stmt.reply_ok hrun, Stmt.effect_ok hrun]
    refine ⟨?_, fun h => h.elim⟩
    have hrest := ih (s := { s with transaction_alerts := s.transaction_alerts ++ [alert.row key transactionId] }) huser htransaction
      (fun a ha => huserId a (List.mem_cons_of_mem _ ha)) hnodup.2 fun a ha row hrow => ?_
    · refine Async.post_mono hrest fun r t _ h => ⟨h.1, h.2.trans ?_⟩
      rw [List.append_assoc, List.map_cons, List.singleton_append]
    · rcases List.mem_append.mp hrow with hrow | hrow
      · exact hfresh a (List.mem_cons_of_mem _ ha) row hrow
      · obtain rfl := List.mem_singleton.mp hrow
        exact fun hid => hnodup.1 (List.mem_map.mpr ⟨a, ha, hid.symm⟩)

/-! ### Sanctions -/

/-- A match that is not reviewed as a false positive. -/
def Outstanding (key : Uuid) (r : SanctionsScreening) : Prop :=
  r.user_id = key ∧ r.match_found = some true ∧ r.review_decision ≠ some (units "false_positive")

/-- The query drops the rows that are not reviewed. -/
theorem sanctioned_iff {r : SanctionsScreening} : sanctioned key r = true ↔ Outstanding key r ∧ r.review_decision ≠ none := by
  simp only [sanctioned, Sql.kept_both, Bool.and_eq_true, Sql.kept_equals, Sql.kept_differs, Option.some.injEq, Outstanding]
  tauto

/-- An alert about sanctions is raised when the query gives a row. -/
theorem sanctionsAlert_isSome : (∃ a, sanctionsAlert m userId (limitOneBy screenedKey m.picked
    (s.sanctions_screening.filter (sanctioned key))) = some a) ↔ ∃ r ∈ s.sanctions_screening, Outstanding key r ∧ r.review_decision ≠ none := by
  constructor
  · rintro ⟨a, ha⟩
    obtain ⟨r, hr, -⟩ := Option.map_eq_some_iff.mp ha
    obtain ⟨hmem, hsanctioned⟩ := List.mem_filter.mp (limitOneBy_mem hr)
    exact ⟨r, hmem, sanctioned_iff.mp hsanctioned⟩
  · rintro ⟨r, hmem, hr⟩
    obtain ⟨r', hr'⟩ := limitOneBy_isSome screenedKey
      (List.ne_nil_of_mem (List.mem_filter.mpr ⟨hmem, sanctioned_iff.mpr hr⟩)) m.picked
    exact ⟨_, by rw [sanctionsAlert, hr', Option.map_some]⟩

/-- The checks that draw a uuid. -/
def alertSites : List Site :=
  [.velocity, .structuring, .highRiskJurisdiction, .unusualPatterns, .sanctionsMatch, .largeTransaction]

/-- The uuids that are drawn are new. -/
structure Draws (m : Monitor) (s : PaymentDb) : Prop where
  nodup : (alertSites.map m.drawn).Nodup
  fresh : ∀ σ ∈ alertSites, ∀ row ∈ s.transaction_alerts, row.id ≠ m.drawn σ

/-- Alerts of several checks, in their order. -/
theorem raised_ids {sites : List Site} {alerts : List (Option TransactionAlert)}
    (h : List.Forall₂ (fun o σ => ∀ a ∈ o, RaisedBy m userId σ a) alerts sites) :
    (alerts.reduceOption.map (·.id)).Sublist (sites.map m.drawn) ∧
      ∀ a ∈ alerts.reduceOption, ∃ σ ∈ sites, RaisedBy m userId σ a := by
  induction h with
  | nil => exact ⟨List.Sublist.refl _, fun _ h => (nomatch h)⟩
  | @cons o σ alerts sites ho _ ih =>
    cases o with
    | none =>
      rw [List.reduceOption_cons_of_none]
      refine ⟨ih.1.cons _, fun a ha => ?_⟩
      obtain ⟨τ, hτ, hraised⟩ := ih.2 a ha
      exact ⟨τ, List.mem_cons_of_mem _ hτ, hraised⟩
    | some alert =>
      have halert := ho alert rfl
      rw [List.reduceOption_cons_of_some, List.map_cons, List.map_cons, halert.id]
      refine ⟨ih.1.cons_cons _, fun a ha => ?_⟩
      rcases List.mem_cons.mp ha with rfl | ha
      · exact ⟨σ, List.mem_cons_self, halert⟩
      · obtain ⟨τ, hτ, hraised⟩ := ih.2 a ha
        exact ⟨τ, List.mem_cons_of_mem _ hτ, hraised⟩

/-! ### Whole calls -/

/-- The check of screenings raises an alert exactly for a match that is reviewed otherwise than
as a false positive. -/
theorem checkSanctionsMatch_checks : ∃ o, Reads (checkSanctionsMatch m (.uuid key)) o s ∧
    (∀ a ∈ o, RaisedBy m (.uuid key) .sanctionsMatch a) ∧
    ((∃ a, o = some a) ↔ ∃ r ∈ s.sanctions_screening, Outstanding key r ∧ r.review_decision ≠ none) :=
  ⟨_, checkSanctionsMatch_reads, sanctionsAlert_raised _, sanctionsAlert_isSome⟩

/-- Where the column exists and no query fails, what the checks raise is stored. -/
theorem monitorTransaction_post {l : Local backend} (hcolumn : s.has_high_risk_jurisdiction = true) (hdraws : Draws m s)
    (huser : (s.users key).isSome = true) (htransaction : ∃ t ∈ s.token_transactions, t.id = transactionId) :
    (monitorTransaction m (.uuid key) amount transactionType transactionId).post (fun _ => False) (fun _ t _ =>
      ∃ alerts : List TransactionAlert, t = { s with
        transaction_alerts := s.transaction_alerts ++ alerts.map fun a => a.row key transactionId } ∧
      ((∃ a ∈ alerts, a.alert_type = .sanctions_match) ↔
        ∃ r ∈ s.sanctions_screening, Outstanding key r ∧ r.review_decision ≠ none)) s l := by
  have hchecks : Checks m key .velocity s (checkVelocity m (.uuid key) transactionType) := checkVelocity_checks
  obtain ⟨velocity, hvelocity, hraised₁⟩ := hchecks
  have hchecks : Checks m key .structuring s (checkStructuring m (.uuid key) amount) := checkStructuring_checks
  obtain ⟨structuring, hstructuring, hraised₂⟩ := hchecks
  have hchecks : Checks m key .highRiskJurisdiction s (checkHighRiskJurisdiction m (.uuid key)) :=
    checkHighRiskJurisdiction_checks hcolumn
  obtain ⟨jurisdiction, hjurisdiction, hraised₃⟩ := hchecks
  have hchecks : Checks m key .unusualPatterns s (checkUnusualPatterns m (.uuid key) amount transactionType) :=
    checkUnusualPatterns_checks
  obtain ⟨pattern, hpattern, hraised₄⟩ := hchecks
  have hsanctions : ∃ o, Reads (checkSanctionsMatch m (.uuid key)) o s ∧ (∀ a ∈ o, RaisedBy m (.uuid key) .sanctionsMatch a) ∧
      ((∃ a, o = some a) ↔ ∃ r ∈ s.sanctions_screening, Outstanding key r ∧ r.review_decision ≠ none) :=
    checkSanctionsMatch_checks
  obtain ⟨sanctions, hsanctions, hraised₅, hmatch⟩ := hsanctions
  have hchecks : Checks m key .largeTransaction s (checkLargeTransaction m (.uuid key) amount) := checkLargeTransaction_checks
  obtain ⟨large, hlarge, hraised₆⟩ := hchecks
  refine hvelocity.post_bind (hstructuring.post_bind (hjurisdiction.post_bind (hpattern.post_bind
    (hsanctions.post_bind (hlarge.post_bind ?_)))))
  have hraised : List.Forall₂ (fun o σ => ∀ a ∈ o, RaisedBy m (.uuid key) σ a)
      [velocity, structuring, jurisdiction, pattern, sanctions, large] alertSites :=
    .cons hraised₁ (.cons hraised₂ (.cons hraised₃ (.cons hraised₄ (.cons hraised₅ (.cons hraised₆ .nil)))))
  obtain ⟨hids, hsites⟩ := raised_ids hraised
  rw [Async.post_bind]
  refine Async.post_mono (storeAlerts_post huser htransaction (fun a ha => ?_) (hdraws.nodup.sublist hids) fun a ha row hrow => ?_)
    fun r t l' h => ?_
  · obtain ⟨σ, -, hσ⟩ := hsites a ha
    exact hσ.user_id
  · obtain ⟨σ, hmem, hσ⟩ := hsites a ha
    exact hσ.id ▸ hdraws.fresh σ hmem row hrow
  · obtain ⟨rfl, rfl⟩ := h
    refine ⟨_, rfl, Iff.trans ⟨?_, ?_⟩ hmatch⟩
    · rintro ⟨a, ha, htype⟩
      have hother {σ : Site} (hσ : RaisedBy m (.uuid key) σ a) (hne : (σ == Site.sanctionsMatch) = false) : False := by
        have := hσ.alert_type
        rw [hne, htype] at this
        cases this
      have hmem := List.reduceOption_mem_iff.mp ha
      simp only [List.mem_cons, List.not_mem_nil, or_false] at hmem
      rcases hmem with h | h | h | h | h | h
      · exact (hother (hraised₁ a h.symm) rfl).elim
      · exact (hother (hraised₂ a h.symm) rfl).elim
      · exact (hother (hraised₃ a h.symm) rfl).elim
      · exact (hother (hraised₄ a h.symm) rfl).elim
      · exact ⟨a, h.symm⟩
      · exact (hother (hraised₆ a h.symm) rfl).elim
    · rintro ⟨a, rfl⟩
      exact ⟨a, List.reduceOption_mem_iff.mpr (by simp), beq_iff_eq.mp (hraised₅ a rfl).alert_type⟩

/-- Without the column nothing is stored: the check of the jurisdiction fails. -/
theorem monitorTransaction_undefined {l : Local backend} (hcolumn : s.has_high_risk_jurisdiction = false) :
    (monitorTransaction m (.uuid key) amount transactionType transactionId).post (fun _ => False)
      (fun r t _ => r = .error .undefinedColumn ∧ t = s) s l := by
  have hchecks : Checks m key .velocity s (checkVelocity m (.uuid key) transactionType) := checkVelocity_checks
  obtain ⟨velocity, hvelocity, -⟩ := hchecks
  have hchecks : Checks m key .structuring s (checkStructuring m (.uuid key) amount) := checkStructuring_checks
  obtain ⟨structuring, hstructuring, -⟩ := hchecks
  have hrun : (selectHighRisk (.uuid key)).run () s = .error .undefinedColumn := by
    simp only [selectHighRisk, Stmt.selection, Stmt.statement, hcolumn, Bool.false_eq_true, if_false, Except.map]
  refine hvelocity.post_bind (hstructuring.post_bind ?_)
  rw [checkHighRiskJurisdiction, Async.post_bind, Async.post_bind, Async.post_pool, Stmt.reply_error hrun, Stmt.effect_error hrun]
  exact ⟨⟨rfl, rfl⟩, fun h => h.elim⟩

/-- An alert about sanctions is stored for the user's transaction. -/
def AlertStored (key transactionId : Uuid) (s t : PaymentDb) : Prop := ∃ added,
  t.transaction_alerts = s.transaction_alerts ++ added ∧
    ∃ a ∈ added, a.alert_type = .sanctions_match ∧ a.user_id = key ∧ a.transaction_id = transactionId

/-- An alert is stored for the users with an outstanding match, and for them only, exactly where
there is none, or one that is reviewed and the jurisdiction can be looked up. -/
theorem sanctions_alert_iff {t : PaymentDb} {r : Except PaymentFailure (List TransactionAlert)} {l : Local backend}
    (huser : (s.users key).isSome = true) (htransaction : ∃ t ∈ s.token_transactions, t.id = transactionId)
    (hdraws : Draws m s) (hexec : Async.Exec (fun _ => False)
      (monitorTransaction m (.uuid key) amount transactionType transactionId) s Local.empty r t l) :
    (AlertStored key transactionId s t ↔ ∃ row ∈ s.sanctions_screening, Outstanding key row) ↔
      (¬ ∃ row ∈ s.sanctions_screening, Outstanding key row) ∨ (s.has_high_risk_jurisdiction = true ∧
        ∃ row ∈ s.sanctions_screening, Outstanding key row ∧ row.review_decision ≠ none) := by
  have hreviewed : (∃ row ∈ s.sanctions_screening, Outstanding key row ∧ row.review_decision ≠ none) →
      ∃ row ∈ s.sanctions_screening, Outstanding key row := fun ⟨row, hmem, hrow⟩ => ⟨row, hmem, hrow.1⟩
  have hstored : AlertStored key transactionId s t ↔ s.has_high_risk_jurisdiction = true ∧
      ∃ row ∈ s.sanctions_screening, Outstanding key row ∧ row.review_decision ≠ none := by
    cases hcolumn : s.has_high_risk_jurisdiction with
    | true =>
      obtain ⟨alerts, rfl, hmatch⟩ := hexec.sound (monitorTransaction_post hcolumn hdraws huser htransaction)
      rw [← hmatch]
      constructor
      · rintro ⟨added, hadded, row, hrow, htype, -⟩
        obtain rfl := List.append_cancel_left hadded
        obtain ⟨a, ha, rfl⟩ := List.mem_map.mp hrow
        exact ⟨rfl, a, ha, htype⟩
      · rintro ⟨-, a, ha, htype⟩
        exact ⟨_, rfl, _, List.mem_map.mpr ⟨a, ha, rfl⟩, htype, rfl, rfl⟩
    | false =>
      obtain ⟨-, rfl⟩ := hexec.sound (monitorTransaction_undefined hcolumn)
      refine ⟨?_, fun h => (by cases h.1)⟩
      rintro ⟨added, hadded, row, hrow, -⟩
      obtain rfl : added = [] := List.self_eq_append_right.mp hadded
      cases hrow
  rw [hstored]
  by_cases houtstanding : ∃ row ∈ s.sanctions_screening, Outstanding key row
  · simp only [houtstanding, iff_true, not_true_eq_false, false_or]
  · simp only [houtstanding, iff_false, not_false_eq_true, true_or, iff_true]
    exact fun h => houtstanding (hreviewed h.2)

end

/-- A user with a payment and one match, under a schema with the column or without it. -/
def screenedDb (column : Bool) (decision : Option Text) : PaymentDb where
  users := fun key => if key = 3 then some ⟨none, 0, 0⟩ else none
  nodes := fun _ => none
  tasks := []
  token_transactions := [⟨1, some 3, none, none, 10000000000, .payment, .completed, 0, none, none⟩]
  direct_payments := []
  kyc_profiles := []
  user_jurisdictions := []
  compliance_config := []
  travel_rule_records := []
  audit_logs := []
  sanctions_screening := [⟨3, some true, some 9500, some (units "ofac"), decision, some 0⟩]
  has_high_risk_jurisdiction := column

def screenedMonitor : Monitor := ⟨fun _ => 0, fun σ => 100 + alertSites.idxOf σ, 0, fun _ => none, fun _ => none⟩

/-- What a call of the payment leaves. -/
def monitoredDb (column : Bool) (decision : Option Text) : PaymentDb :=
  ((monitorTransaction screenedMonitor (.uuid 3) 100 .payment 1).run [] (screenedDb column decision) Local.empty).2.1

/-- A confirmed match raises an alert. -/
theorem sanctions_alert_confirmed : AlertStored 3 1 (screenedDb true (some (units "confirmed_match")))
      (monitoredDb true (some (units "confirmed_match"))) ↔
    ∃ row ∈ (screenedDb true (some (units "confirmed_match"))).sanctions_screening, Outstanding 3 row := by
  have hdraws : Draws screenedMonitor (screenedDb true (some (units "confirmed_match"))) :=
    ⟨by decide, fun _ _ _ h => (nomatch h)⟩
  have hexec := Async.exec_nil (fun _ => False) (monitorTransaction screenedMonitor (.uuid 3) 100 .payment 1)
    (screenedDb true (some (units "confirmed_match"))) Local.empty
  have hmatch : ∃ row ∈ (screenedDb true (some (units "confirmed_match"))).sanctions_screening,
      Outstanding 3 row ∧ row.review_decision ≠ none :=
    ⟨_, List.mem_cons_self, ⟨rfl, rfl, by decide⟩, by decide⟩
  have huser : ((screenedDb true (some (units "confirmed_match"))).users 3).isSome = true := rfl
  have htransaction : ∃ t ∈ (screenedDb true (some (units "confirmed_match"))).token_transactions, t.id = 1 :=
    ⟨_, List.mem_cons_self, rfl⟩
  exact (sanctions_alert_iff huser htransaction hdraws hexec).mpr (.inr ⟨rfl, hmatch⟩)

/-- A match that nobody has reviewed raises none, and without the column neither does one that
is confirmed. -/
theorem unreviewed_match_unalerted :
    ((∃ row ∈ (screenedDb true none).sanctions_screening, Outstanding 3 row) ∧
      ¬ AlertStored 3 1 (screenedDb true none) (monitoredDb true none)) ∧
    ((∃ row ∈ (screenedDb false (some (units "confirmed_match"))).sanctions_screening, Outstanding 3 row) ∧
      ¬ AlertStored 3 1 (screenedDb false (some (units "confirmed_match"))) (monitoredDb false (some (units "confirmed_match")))) := by
  have hnone {s t : PaymentDb} (h : t.transaction_alerts = s.transaction_alerts) : ¬ AlertStored 3 1 s t := by
    rintro ⟨added, hadded, row, hrow, -⟩
    obtain rfl : added = [] := List.self_eq_append_right.mp (h.symm.trans hadded)
    cases hrow
  exact ⟨⟨⟨_, List.mem_cons_self, rfl, rfl, by decide⟩, hnone (by decide +kernel)⟩,
    ⟨_, List.mem_cons_self, rfl, rfl, by decide⟩, hnone (by decide +kernel)⟩

end GalaxiaAin.Payments
