import GalaxiaAin.Library.Invariant
import GalaxiaAin.Payments.Bookkeeping

/-! Travel Rule records. The record is made with the threshold of the originator's country,
which is passed where the user's id is expected, so that no record is ever made. -/
namespace GalaxiaAin.Payments
open GalaxiaAin.Library
open GalaxiaAin.Library.Async hiding bind

/-- The tables with these Travel Rule records. -/
def HasRecords (records : List TravelRuleRecord) (db : PaymentDb) : Prop := db.travel_rule_records = records

section
variable {records : List TravelRuleRecord} {turn : Turn} {request : PaymentRequest}

/-! ### Statements -/

/-- The changes that leave the records alone. -/
def recordsFrame : Frame backend := Frame.of (·.travel_rule_records)

theorem updateUser_records (userId : UuidText) (set : User → Except PaymentFailure User) :
    (updateUser userId set).Keeps recordsFrame := by
  refine Stmt.keeps_statement fun s => ?_
  cases userId.read with
  | error e => exact meets_error.mpr trivial
  | ok key =>
    dsimp only
    cases s.users key with
    | none => exact meets_ok.mpr fun _ => rfl
    | some user => exact Meets.map meets_any fun _ _ _ => rfl

theorem updateNode_records (nodeId : Option UuidText) (earnings : Node → Except PaymentFailure Int) :
    (updateNode nodeId earnings).Keeps recordsFrame := by
  refine Stmt.keeps_statement fun s => ?_
  rcases readOptional nodeId with e | _ | key
  · exact meets_error.mpr trivial
  · exact meets_ok.mpr fun _ => rfl
  · dsimp only
    cases s.nodes key with
    | none => exact meets_ok.mpr fun _ => rfl
    | some node => exact Meets.map meets_any fun _ _ _ => rfl

theorem insertUser_records (userId : UuidText) (tokenBalance : ℚ) (walletAddress : Option Text) :
    (insertUser userId tokenBalance walletAddress).Keeps recordsFrame := by
  refine Stmt.keeps_statement fun s => Meets.bind meets_any fun _ _ =>
    Meets.bind meets_any fun _ _ => ?_
  split
  · exact meets_error.mpr trivial
  · exact meets_ok.mpr fun _ => rfl

theorem insertTransaction_records : (insertTransaction turn request).Keeps recordsFrame := by
  refine Stmt.keeps_statement fun s => Meets.bind meets_any fun _ _ =>
    Meets.bind meets_any fun _ _ =>
    Meets.bind meets_any fun _ _ =>
    Meets.bind meets_any fun _ _ => ?_
  split
  · exact meets_error.mpr trivial
  · split
    · exact meets_ok.mpr fun _ => rfl
    · exact meets_error.mpr trivial

theorem insertAuditLog_records : (insertAuditLog turn request).Keeps recordsFrame := by
  refine Stmt.keeps_statement fun s => Meets.bind meets_any fun _ _ => ?_
  split
  · exact meets_ok.mpr fun _ => rfl
  · exact meets_error.mpr trivial

theorem updateTransaction_records (set : TokenTransaction → TokenTransaction) : (updateTransaction turn set).Keeps recordsFrame :=
  Stmt.keeps_statement fun _ => meets_ok.mpr fun _ => rfl

/-! ### Programs -/

private theorem looks_records {ρ : Type} (f : PaymentDb → Except PaymentFailure ρ) (σ : Site) :
    Preserves (HasRecords records) (await (B := backend) σ (.pool (.selection f))) := by
  have hpool : Call.Maintains (HasRecords records) (.pool (B := backend) (.selection f)) :=
    Stmt.maintains_selection (B := backend) f
  exact preserves_await hpool σ

private theorem queries_records {ρ : Type} (f : PaymentDb → Except PaymentFailure ρ) (σ : Site) :
    Preserves (HasRecords records) (query (B := backend) σ (.selection f)) :=
  preserves_query (Stmt.maintains_selection (B := backend) f) σ

private theorem asks_records (σ : Site) (r : Remote) : Preserves (HasRecords records) (remote σ r) :=
  preserves_await (show (Call.remote (B := backend) r).Maintains _ from trivial) σ

theorem complianceChecks_records : Preserves (HasRecords records) (complianceChecks turn request) := by
  refine preserves_bind (preserves_onlyIf ?_) fun _ => preserves_onlyIf ?_
  · refine preserves_bind (preserves_bind (looks_records _ _) fun _ => preserves_pure _) fun _ => ?_
    exact preserves_onlyIf (preserves_throw _)
  · refine preserves_bind (preserves_bind (looks_records _ _) fun _ => preserves_pure _) fun _ => ?_
    refine preserves_bind (preserves_onlyIf (preserves_bind (looks_records _ _) fun _ => preserves_throw _)) fun _ => ?_
    refine preserves_bind (preserves_bind (looks_records _ _) fun _ => preserves_pure _) fun _ => ?_
    refine preserves_bind (preserves_onlyIf (preserves_throw _)) fun _ => ?_
    exact preserves_bind (queries_records _ _) fun _ => preserves_onlyIf (preserves_throw _)

theorem checkGXABalance_records (wallet : Option Text) (amount : ℚ) :
    Preserves (HasRecords records) (checkGXABalance amount wallet) := by
  cases wallet with
  | none => exact preserves_pure ()
  | some address =>
    refine preserves_handle (preserves_bind (preserves_handle (asks_records _ _) fun _ => preserves_pure _) fun _ => ?_)
      fun _ => preserves_pure ()
    exact preserves_bind (preserves_ofExcept _) fun _ => preserves_onlyIf (preserves_throw _)

theorem deposit_records (row : Option User) : Preserves (HasRecords records) (deposit request row) := by
  refine preserves_bind (checkGXABalance_records _ _) fun _ => ?_
  cases row with
  | none => exact preserves_query (Stmt.Keeps.maintains_of (insertUser_records _ _ _)) _
  | some user => exact preserves_query (Stmt.Keeps.maintains_of (updateUser_records _ _)) _

theorem applyPayment_records (row : Option User) : Preserves (HasRecords records) (applyPayment request row) := by
  cases row with
  | none =>
    rw [applyPayment]
    split
    case isTrue => exact deposit_records none
    case isFalse => exact preserves_throw _
  | some user =>
    rw [applyPayment]
    cases request.transaction_type with
    | deposit => exact deposit_records (some user)
    | payment =>
      exact preserves_bind (preserves_onlyIf (preserves_throw _)) fun _ =>
        preserves_query (Stmt.Keeps.maintains_of (updateUser_records _ _)) _
    | payout =>
      refine preserves_bind (queries_records _ _) fun node => ?_
      cases node with
      | none => exact preserves_throw _
      | some node => exact preserves_query (Stmt.Keeps.maintains_of (updateNode_records _ _)) _
    | refund => exact preserves_query (Stmt.Keeps.maintains_of (updateUser_records _ _)) _

theorem nodeInfo_records (site : Site) : Preserves (HasRecords records) (nodeInfo site request) := by
  unfold nodeInfo
  split
  · exact queries_records _ _
  · exact preserves_pure none

/-- No record is made: the country is no id of a user. -/
theorem createTravelRuleRecord_records (data : TravelRuleData) :
    Preserves (HasRecords records) (createTravelRuleRecord turn data) := by
  intro s l h
  rw [createTravelRuleRecord, isTravelRuleRequired, post_bind, post_bind, post_pool]
  exact ⟨h, fun _ _ => h⟩

theorem travelRule_records : Preserves (HasRecords records) (travelRule turn request) := by
  refine preserves_bind (preserves_bind (looks_records _ _) fun _ => preserves_pure _) fun _ => preserves_onlyIf ?_
  refine preserves_bind (queries_records _ _) fun user => preserves_bind (nodeInfo_records _) fun node => ?_
  unfold recordTravelRule
  split
  · exact createTravelRuleRecord_records _
  · exact preserves_pure ()

theorem submitToClearing_records : Preserves (HasRecords records) (submitToClearing turn request) := by
  refine preserves_bind (asks_records _ _) fun _ => preserves_bind (queries_records _ _) fun user => ?_
  refine preserves_bind (nodeInfo_records _) fun node => preserves_bind (asks_records _ _) fun result => ?_
  refine preserves_bind (preserves_query (Stmt.Keeps.maintains_of (updateTransaction_records _)) _) fun _ => ?_
  exact preserves_onlyIf (preserves_emit _)

theorem writeToBlockchain_records : Preserves (HasRecords records) (writeToBlockchain turn request) := by
  refine preserves_bind (asks_records _ _) fun _ => preserves_bind (queries_records _ _) fun user => ?_
  unfold sendToBlockchain
  split
  · exact preserves_pure ()
  · exact preserves_bind (asks_records _ _) fun _ => preserves_query (Stmt.Keeps.maintains_of (updateTransaction_records _)) _

theorem settle_records : Preserves (HasRecords records) (settle turn request) := by
  have hlogged {p : Async backend Unit} (h : Preserves (HasRecords records) p) : Preserves (HasRecords records) (logged p) :=
    preserves_handle h fun _ => preserves_pure ()
  refine preserves_bind (preserves_onlyIf (preserves_emit _)) fun _ => ?_
  refine preserves_bind (preserves_onlyIf (hlogged travelRule_records)) fun _ => ?_
  refine preserves_bind (preserves_onlyIf (hlogged submitToClearing_records)) fun _ => ?_
  refine preserves_bind (preserves_onlyIf (hlogged writeToBlockchain_records)) fun _ => ?_
  exact hlogged (preserves_query (Stmt.Keeps.maintains_of insertAuditLog_records) _)

/-- A payment leaves the records as they are, whatever fails. -/
theorem processPayment_records : Preserves (HasRecords records) (processPayment turn request) := by
  have hcall {c : Call backend Unit} (σ : Site) (hc : c.Maintains (HasRecords records)) :
      Preserves (HasRecords records) (await σ c) := preserves_await hc σ
  refine preserves_withClient (preserves_orRollback ?_ _) _
  refine preserves_bind complianceChecks_records fun _ => preserves_bind (hcall _ trivial) fun _ => ?_
  refine preserves_bind (queries_records _ _) fun row => preserves_bind (applyPayment_records row) fun _ => ?_
  refine preserves_bind (preserves_query (Stmt.Keeps.maintains_of insertTransaction_records) _) fun _ => ?_
  refine preserves_bind (hcall _ trivial) fun _ => preserves_bind settle_records fun _ => preserves_pure _

end
/-! ### The check and the records -/

/-- The records are those the check calls for. -/
def Agrees (check : TravelRuleCheck) (records : List TravelRuleRecord) : Prop :=
  if check.required then ∃ r, records = [r] ∧ r.threshold_exceeded = check.required ∧
    parseFloat r.threshold_amount = check.threshold ∧ r.jurisdiction = check.jurisdiction
  else records = []

/-- The threshold that is configured for the country of a user. -/
def thresholdOf (db : PaymentDb) (key : Uuid) : ℚ :=
  (((db.user_jurisdictions.find? fun j => j.user_id == key).bind fun j =>
    db.compliance_config.find? fun c => some c.jurisdiction == j.detected_country).bind
      (·.travel_rule_threshold)).elim 3000 parseFloat

/-- The check calls for a record from the threshold on. -/
theorem isTravelRuleRequired_required {s : PaymentDb} {site : Site} {key : Uuid} {amount : ℚ} {check : TravelRuleCheck}
    (h : ((isTravelRuleRequired site amount (.uuid key)).run [] s Local.empty).1 = .ok check) :
    check.required = decide (thresholdOf s key ≤ amount) := by
  have hcheck : travelRuleCheck amount ((s.user_jurisdictions.find? fun j => j.user_id == key).map fun j =>
      (j.detected_country, (s.compliance_config.find? fun c => some c.jurisdiction == j.detected_country).bind
        (·.travel_rule_threshold))) = check := Except.ok.inj h
  rw [← hcheck, thresholdOf]
  cases s.user_jurisdictions.find? fun j => j.user_id == key with
  | none => rfl
  | some j => rfl

/-- No record is of a transaction yet to come. -/
theorem no_record {s : PaymentDb} {turn : Turn}
    (hrefs : ∀ row ∈ s.travel_rule_records, ∃ tx ∈ s.token_transactions, tx.id = row.transaction_id)
    (hfresh : ∀ tx ∈ s.token_transactions, tx.id ≠ turn.transactionId) :
    s.travel_rule_records.filter (fun row => row.transaction_id == turn.transactionId) = [] := by
  refine List.filter_eq_nil_iff.mpr fun row hrow hid => ?_
  obtain ⟨tx, htx, heq⟩ := hrefs row hrow
  exact hfresh tx htx (heq.trans (beq_iff_eq.mp hid))

/-- A payment that is committed, whatever fails, has the records that the check of the user
calls for exactly when it is below the threshold of the user's country. -/
theorem travel_rule_agrees_iff {s t : PaymentDb} {turn : Turn} {request : PaymentRequest} {key id : Uuid}
    {l : Local backend} {check : TravelRuleCheck}
    (hrefs : ∀ row ∈ s.travel_rule_records, ∃ tx ∈ s.token_transactions, tx.id = row.transaction_id)
    (huser : request.user_id = .uuid key)
    (hcheck : ((isTravelRuleRequired .travelRule request.amount request.user_id).run [] s Local.empty).1 = .ok check)
    (hexec : Async.Exec anySite (processPayment turn request) s Local.empty (.ok id) t l) :
    Agrees check (t.travel_rule_records.filter fun row => row.transaction_id == id) ↔ request.amount < thresholdOf s key := by
  have hsame : HasRecords s.travel_rule_records t := processPayment_records.exec hexec rfl
  have hnone : t.travel_rule_records.filter (fun row => row.transaction_id == id) = [] := by
    rcases (hexec.sound (processPayment_commits (ledger_settlesIn turn) request s Local.empty)).1 with
      ⟨e, he, -⟩ | ⟨hid, -, u, ⟨_, _, _, _, _, -, -, -, -, hrecord, -⟩, -⟩
    · cases he
    · obtain rfl := Except.ok.inj hid
      exact hsame.symm ▸ no_record hrefs hrecord.fresh
  rw [huser] at hcheck
  have hrequired := isTravelRuleRequired_required hcheck
  rw [hnone, Agrees, hrequired]
  by_cases hbelow : request.amount < thresholdOf s key
  · simp only [hbelow, not_le.mpr hbelow, decide_false, Bool.false_eq_true, if_false]
  · simp [not_lt.mp hbelow]

/-- A user with 9000 GXA, verified at tier 3, and a node. -/
def travelDb : PaymentDb where
  users := fun key => if key = 3 then some ⟨none, 900000000000, 0⟩ else none
  nodes := fun key => if key = 4 then some ⟨units "0xnode", 0⟩ else none
  tasks := []
  token_transactions := []
  direct_payments := []
  kyc_profiles := [⟨11, 3, none, none, none, none, some (units "USA"), none, none, .advanced, .approved, 3, 10000000000000,
    100000000000000, 1000000000000000, 5000000000000⟩]
  user_jurisdictions := [{ user_id := 3, geo_blocked := some false, detected_country := some (units "USA") }]
  compliance_config := [{ jurisdiction := units "USA", travel_rule_threshold := some 300000000000 }]
  travel_rule_records := []
  audit_logs := []

def travelPayment (amount : ℚ) : PaymentRequest := ⟨.uuid 3, amount, none, some (.uuid 4), .payment, none⟩

/-- The database once the payment is made. -/
def travelledDb (amount : ℚ) : PaymentDb := ((processPayment ⟨1, 0, 0, none⟩ (travelPayment amount)).run [] travelDb Local.empty).2.1

/-- What the check makes of that user. -/
def travelCheck (amount : ℚ) : TravelRuleCheck := travelRuleCheck amount (some (some (units "USA"), some 300000000000))

theorem travel_rule_agrees_small : Agrees (travelCheck 100)
    ((travelledDb 100).travel_rule_records.filter fun row => row.transaction_id == 1) ↔ 100 < thresholdOf travelDb 3 := by
  have hrefs : ∀ row ∈ travelDb.travel_rule_records, ∃ tx ∈ travelDb.token_transactions, tx.id = row.transaction_id :=
    fun _ h => (nomatch h)
  have hpaid : ((processPayment ⟨1, 0, 0, none⟩ (travelPayment 100)).run [] travelDb Local.empty).1 = .ok 1 := by decide +kernel
  have hexec := Async.exec_nil anySite (processPayment ⟨1, 0, 0, none⟩ (travelPayment 100)) travelDb Local.empty
  rw [hpaid] at hexec
  have huser : (travelPayment 100).user_id = .uuid 3 := rfl
  have hcheck : ((isTravelRuleRequired .travelRule (travelPayment 100).amount (travelPayment 100).user_id).run [] travelDb
      Local.empty).1 = .ok (travelCheck 100) := rfl
  exact travel_rule_agrees_iff hrefs huser hcheck hexec

/-- A payment of 5000 GXA over a threshold of 3000 is reported to require a record, and has none. -/
theorem travel_rule_unrecorded : ∃ t l check, Async.Exec anySite (processPayment ⟨1, 0, 0, none⟩ (travelPayment 5000)) travelDb
      Local.empty (.ok 1) t l ∧
    ((isTravelRuleRequired .travelRule 5000 (.uuid 3)).run [] travelDb Local.empty).1 = .ok check ∧ check.required = true ∧
    t.travel_rule_records = [] ∧ ¬ Agrees check (t.travel_rule_records.filter fun row => row.transaction_id == 1) := by
  have hpaid : ((processPayment ⟨1, 0, 0, none⟩ (travelPayment 5000)).run [] travelDb Local.empty).1 = .ok 1 := by decide +kernel
  have hexec := Async.exec_nil anySite (processPayment ⟨1, 0, 0, none⟩ (travelPayment 5000)) travelDb Local.empty
  rw [hpaid] at hexec
  have hnone : (travelledDb 5000).travel_rule_records = [] := List.eq_nil_of_length_eq_zero (by decide +kernel)
  refine ⟨travelledDb 5000, _, travelCheck 5000, hexec, rfl, by decide +kernel, hnone, ?_⟩
  rw [hnone, Agrees, if_pos (by decide +kernel)]
  rintro ⟨r, hr, -⟩
  cases hr

end GalaxiaAin.Payments
