import GalaxiaAin.Issuance.Certified
import GalaxiaAin.Issuance.Minting

/-! The cap table of an offering: it lists the holdings beside aggregates over all of them,
so it adds up where nobody holds twice. -/
namespace GalaxiaAin.Issuance
open GalaxiaAin.Library

structure VestingStatus where
  vested : ℚ
  unvested : ℚ
  nextVestDate : Option Nat

/-- A percentage of none is no number. -/
structure CapTableHolder where
  investorId : Text
  shares : ℚ
  percentage : Option ℚ
  vestingStatus : Option VestingStatus
  restrictions : Json
  purchaseDate : Nat

structure CapTable where
  totalShares : ℚ
  totalHolders : Nat
  holders : List CapTableHolder

/-- A row of the query. -/
structure CapTableRow where
  holding : HoldingRow
  total_shares : Int
  total_holders : Nat

/-- The aggregates are windows over all rows; COUNT(DISTINCT ...) counts distinct investors. -/
def selectCapTable (offeringId : Text) : Stmt backend (List CapTableRow) :=
  .select fun _ db => (holdingsOf offeringId db).map fun h => ⟨h, held offeringId db, (holders offeringId db).length⟩

/-- The vesting of a holding; a recorded schedule has no next date. -/
def vestingStatus (shares : ℚ) (schedule : VestingRow) : VestingStatus where
  vested := schedule.vestedAmount
  unvested := if schedule.unvestedAmount = 0 then shares else schedule.unvestedAmount
  nextVestDate := none

def capTableHolder (totalShares : ℚ) (h : HoldingRow) : CapTableHolder where
  investorId := h.investor_id
  shares := tokenFormat.value h.token_amount
  percentage := if totalShares = 0 then none else some (tokenFormat.value h.token_amount / totalShares * 100)
  vestingStatus := h.vesting_schedule.map (vestingStatus (tokenFormat.value h.token_amount))
  restrictions := orElse (h.transfer_restrictions.get (units "restrictions")) (.arr [])
  purchaseDate := h.purchase_date

def getCapTable (offeringId : Text) : Async backend CapTable := do
  let rows ← Async.await .capTable (.pool (selectCapTable offeringId))
  match rows with
  | [] =>
    let totalSupply ← Async.await .totalSupply (.pool (.select fun _ db => (offeringOf offeringId db).map (·.total_supply)))
    pure ⟨tokenFormat.value (totalSupply.getD 0), 0, []⟩
  | row :: _ =>
    let totalShares := tokenFormat.value row.total_shares
    pure ⟨totalShares, row.total_holders, rows.map fun row => capTableHolder totalShares row.holding⟩

/-- One entry for each investor, with the sum of the investor's holdings; and the totals are
those of the entries. -/
structure AddsUp (table : CapTable) (rows : List HoldingRow) : Prop where
  entries : ∀ i ∈ rows.map (·.investor_id), ∃ e, table.holders.filter (·.investorId = i) = [e] ∧
    e.shares = tokenFormat.value ((rows.filter (·.investor_id = i)).map (·.token_amount)).sum
  known : ∀ e ∈ table.holders, e.investorId ∈ rows.map (·.investor_id)
  count : table.holders.length = table.totalHolders
  shares : rows ≠ [] → (table.holders.map (·.shares)).sum = table.totalShares
  percentages : rows ≠ [] → ∃ ps : List ℚ, table.holders.map (·.percentage) = ps.map some ∧ ps.sum = 100

/-- The cap table that is returned adds up. -/
def CapTableAddsUp (offeringId : Text) (s : IssuanceDb) : Prop :=
  (getCapTable offeringId).post everySite (fun r _ _ => ∀ table, r = .ok table → AddsUp table (holdingsOf offeringId s)) s Local.empty

/-- The cap table of holdings. -/
def capTableOf (rows : List HoldingRow) : CapTable where
  totalShares := tokenFormat.value (rows.map (·.token_amount)).sum
  totalHolders := (rows.map (·.investor_id)).dedup.length
  holders := rows.map (capTableHolder (tokenFormat.value (rows.map (·.token_amount)).sum))

section
variable {offeringId : Text} {s t : IssuanceDb}

theorem addsUp_none {table : CapTable} (hcount : table.totalHolders = 0) (hholders : table.holders = []) : AddsUp table [] where
  entries i hi := by cases hi
  known e he := by rw [hholders] at he; cases he
  count := by rw [hcount, hholders]; rfl
  shares h := absurd rfl h
  percentages h := absurd rfl h

theorem capTableAddsUp_none (h : holdingsOf offeringId s = []) : CapTableAddsUp offeringId s := by
  rw [CapTableAddsUp, getCapTable, Async.post_bind, Async.post_pool]
  refine ⟨?_, fun _ _ _ he => by cases he⟩
  rw [selectCapTable, Stmt.reply_select, h, Async.next_ok]
  simp only [List.map_nil]
  rw [Async.post_bind, Async.post_pool]
  refine ⟨fun table he => ?_, fun _ _ _ he => by cases he⟩
  obtain rfl := Except.ok.inj he
  exact addsUp_none rfl rfl

theorem capTableAddsUp_some (h : holdingsOf offeringId s ≠ []) :
    CapTableAddsUp offeringId s ↔ AddsUp (capTableOf (holdingsOf offeringId s)) (holdingsOf offeringId s) := by
  rw [CapTableAddsUp, getCapTable, Async.post_bind, Async.post_pool, selectCapTable, Stmt.reply_select, Async.next_ok]
  have htable : (⟨tokenFormat.value (held offeringId s), (holders offeringId s).length, ((holdingsOf offeringId s).map fun h =>
      (⟨h, held offeringId s, (holders offeringId s).length⟩ : CapTableRow)).map fun row =>
        capTableHolder (tokenFormat.value (held offeringId s)) row.holding⟩ : CapTable) = capTableOf (holdingsOf offeringId s) := by
    rw [List.map_map]
    rfl
  rw [← htable]
  obtain ⟨row, rows, hrows⟩ := List.exists_cons_of_ne_nil h
  rw [hrows]
  constructor
  · exact fun hpost => hpost.1 _ rfl
  · refine fun hadds => ⟨fun table he => ?_, fun _ _ _ he => by cases he⟩
    obtain rfl := Except.ok.inj he
    exact hadds

/-! ### The totals -/

theorem value_sum (format : Fixed) (amounts : List Int) : (amounts.map format.value).sum = format.value amounts.sum := by
  induction amounts with
  | nil => simp
  | cons a amounts ih => rw [List.map_cons, List.sum_cons, List.sum_cons, ih, format.value_add]

theorem sum_percentages (shares : List ℚ) (total : ℚ) : (shares.map fun x => x / total * 100).sum = shares.sum / total * 100 := by
  induction shares with
  | nil => simp
  | cons x shares ih =>
    rw [List.map_cons, List.sum_cons, List.sum_cons, ih]
    ring

/-- The rows of an investor who holds once. -/
theorem filter_investor (rows : List HoldingRow) (i : Text) :
    ((rows.filter (·.investor_id = i)).length = (rows.map (·.investor_id)).count i) := by
  rw [List.count_eq_countP, List.countP_map, List.countP_eq_length_filter]
  refine congrArg (fun p => (rows.filter p).length) (funext fun row => ?_)
  simp [Bool.beq_eq_decide_eq]

theorem capTableOf_filter (rows : List HoldingRow) (i : Text) : (capTableOf rows).holders.filter (·.investorId = i) =
    (rows.filter (·.investor_id = i)).map (capTableHolder (capTableOf rows).totalShares) := by
  rw [capTableOf, List.filter_map]
  rfl

/-- It adds up exactly where nobody holds twice. -/
theorem addsUp_iff {rows : List HoldingRow} (hpositive : ∀ h ∈ rows, 0 < h.token_amount) :
    AddsUp (capTableOf rows) rows ↔ (rows.map (·.investor_id)).Nodup := by
  constructor
  · intro h
    refine List.nodup_iff_count_le_one.mpr fun i => ?_
    by_cases hi : i ∈ rows.map (·.investor_id)
    · obtain ⟨e, he, -⟩ := h.entries i hi
      rw [capTableOf_filter, List.map_eq_singleton_iff] at he
      obtain ⟨row, hrow, -⟩ := he
      rw [← filter_investor, hrow]
      rfl
    · rw [List.count_eq_zero_of_not_mem hi]
      exact Nat.zero_le 1
  · intro hnodup
    have hshares : ((capTableOf rows).holders.map (·.shares)).sum = (capTableOf rows).totalShares := by
      rw [capTableOf, List.map_map, ← value_sum, List.map_map]
      rfl
    refine ⟨fun i hi => ?_, fun e he => ?_, ?_, fun _ => hshares, fun hne => ?_⟩
    · have hone : (rows.filter (·.investor_id = i)).length = 1 := by
        rw [filter_investor, List.count_eq_one_of_mem hnodup hi]
      obtain ⟨row, hrow⟩ := List.length_eq_one_iff.mp hone
      rw [capTableOf_filter, hrow]
      refine ⟨_, rfl, ?_⟩
      rw [List.map_singleton, List.sum_singleton]
      rfl
    · obtain ⟨row, hrow, rfl⟩ := List.mem_map.mp he
      exact List.mem_map.mpr ⟨row, hrow, rfl⟩
    · rw [capTableOf, List.length_map, hnodup.dedup, List.length_map]
    · have htotal : (capTableOf rows).totalShares ≠ 0 := by
        have hsum : 0 < (rows.map (·.token_amount)).sum := by
          refine List.sum_pos _ (fun x hx => ?_) (by simpa using hne)
          obtain ⟨row, hrow, rfl⟩ := List.mem_map.mp hx
          exact hpositive row hrow
        have hvalue : tokenFormat.value 0 < (capTableOf rows).totalShares := tokenFormat.value_lt.mpr hsum
        rw [tokenFormat.value_zero] at hvalue
        exact hvalue.ne'
      refine ⟨((capTableOf rows).holders.map (·.shares)).map fun x => x / (capTableOf rows).totalShares * 100, ?_, ?_⟩
      · rw [List.map_map, List.map_map, capTableOf, List.map_map, List.map_map]
        refine List.map_congr_left fun row _ => ?_
        exact if_neg htotal
      · rw [sum_percentages, hshares, div_self htotal, one_mul]

/-! ### Runs -/

/-- Holdings come from mints only. -/
theorem IssuanceDb.Step.mints {e : Performed} (hstep : IssuanceDb.Step s e t) : t.token_holdings = s.token_holdings ∨
    ∃ turn request, e.call = .mintTokens turn request ∧ Minted turn request s t := by
  have he := hstep.effect
  obtain ⟨call, r⟩ := e
  cases call with
  | createAuditRequest auditId input =>
    have ht : t = { s with audit_requests := t.audit_requests } := he
    rw [ht]
    exact .inl rfl
  | addFindings auditId findings =>
    rcases he with rfl | ⟨_, _, rfl⟩
    · exact .inl rfl
    · exact .inl rfl
  | completeAudit certificationId auditId findings score =>
    rcases he with rfl | ⟨u, ⟨_, _, rfl⟩, rfl | ⟨_, _, ht⟩⟩
    · exact .inl rfl
    · exact .inl rfl
    · rw [ht]
      exact .inl rfl
  | createOffering now offeringId issuerId request =>
    rcases he with ⟨_, rfl⟩ | ⟨_, _, _, _, _, _, _, rfl⟩
    · exact .inl rfl
    · exact .inl rfl
  | verifyAccreditation turn request =>
    have ht : t = { s with investors := t.investors } := he
    rw [ht]
    exact .inl rfl
  | mintTokens turn request =>
    rcases he with ⟨_, rfl⟩ | hm
    · exact .inl rfl
    · exact .inr ⟨turn, request, rfl, hm⟩

/-- A mint of the offering is of a positive amount. -/
def PositiveMint (offeringId : Text) : IssuanceCall → Prop
  | .mintTokens _ request =>
    request.offeringId = offeringId → ∀ amount, tokenFormat.assign request.tokenAmount = some amount → 0 < amount
  | _ => True

/-- A mint of the offering is for an investor who holds none of it. -/
def FirstMint (offeringId : Text) (s : IssuanceDb) : IssuanceCall → Prop
  | .mintTokens turn request => request.offeringId = offeringId → ∀ investorId investors,
    Holder turn request s investorId investors → investorId ∉ holders offeringId s
  | _ => True

/-- What a step adds to the holdings of the offering. -/
theorem IssuanceDb.Step.holdingsOf {e : Performed} (hstep : IssuanceDb.Step s e t) (offeringId : Text) :
    Issuance.holdingsOf offeringId t = Issuance.holdingsOf offeringId s ∨ ∃ turn request row investors,
      e.call = .mintTokens turn request ∧ request.offeringId = offeringId ∧ Holder turn request s row.investor_id investors ∧
      tokenFormat.assign request.tokenAmount = some row.token_amount ∧
      Issuance.holdingsOf offeringId t = Issuance.holdingsOf offeringId s ++ [row] := by
  rcases hstep.mints with hsame | ⟨turn, request, hcall, o, row, investorId, investors, -, -, -, hholder, hrow, ht⟩
  · left
    rw [Issuance.holdingsOf, hsame]
    rfl
  · obtain ⟨hoffering, rfl, hamount⟩ := holdingRow_ok hrow
    have hholdings : t.token_holdings = s.token_holdings ++ [row] := by rw [ht]
    by_cases hid : row.offering_id = offeringId
    · exact .inr ⟨turn, request, row, investors, hcall, hoffering.symm.trans hid, hholder, hamount, holdingsOf_minted hid hholdings⟩
    · exact .inl (holdingsOf_other hid hholdings)

/-- In every run of which the mints of an offering are positive, its cap table adds up exactly
where nobody holds twice, which is the case when each of the mints is the investor's first. -/
theorem cap_table_iff {start : IssuanceDb} {history : List Performed} (hstart : holdingsOf offeringId start = [])
    (hrun : Machine.Run IssuanceDb.Step start history s) (hpositive : ∀ e ∈ history, PositiveMint offeringId e.call) :
    (CapTableAddsUp offeringId s ↔ ((holdingsOf offeringId s).map (·.investor_id)).Nodup) ∧
      ((∀ pre e post u, history = pre ++ e :: post → Machine.Run IssuanceDb.Step start pre u → FirstMint offeringId u e.call) →
        CapTableAddsUp offeringId s) := by
  have hamounts : ∀ h ∈ holdingsOf offeringId s, 0 < h.token_amount := by
    have hguard : ∀ pre e post u, history = pre ++ e :: post → Machine.Run IssuanceDb.Step start pre u →
        PositiveMint offeringId e.call :=
      fun pre e post _ he _ => hpositive e (he ▸ List.mem_append_right _ List.mem_cons_self)
    refine hrun.invariant_of (P := fun u => ∀ h ∈ holdingsOf offeringId u, 0 < h.token_amount)
      (fun u e v hu hg hstep => ?_) hguard ?_
    · rcases hstep.holdingsOf offeringId with hsame | ⟨turn, request, row, _, hcall, hid, -, hamount, hmore⟩
      · rwa [hsame]
      · rw [hcall] at hg
        intro h hmem
        rw [hmore] at hmem
        rcases List.mem_append.mp hmem with hmem | hmem
        · exact hu h hmem
        · rw [List.mem_singleton.mp hmem]
          exact hg hid _ hamount
    · rw [hstart]
      exact fun h hmem => absurd hmem List.not_mem_nil
  have hiff : CapTableAddsUp offeringId s ↔ ((holdingsOf offeringId s).map (·.investor_id)).Nodup := by
    by_cases hnone : holdingsOf offeringId s = []
    · rw [hnone]
      exact ⟨fun _ => List.nodup_nil, fun _ => capTableAddsUp_none hnone⟩
    · rw [capTableAddsUp_some hnone]
      exact addsUp_iff hamounts
  refine ⟨hiff, fun hfirst => hiff.mpr ?_⟩
  refine hrun.invariant_of (P := fun u => ((holdingsOf offeringId u).map (·.investor_id)).Nodup)
    (fun u e v hu hg hstep => ?_) hfirst ?_
  · rcases hstep.holdingsOf offeringId with hsame | ⟨turn, request, row, investors, hcall, hid, hholder, -, hmore⟩
    · rwa [hsame]
    · rw [hcall] at hg
      have hnew : row.investor_id ∉ (holdingsOf offeringId u).map (·.investor_id) :=
        fun hmem => hg hid _ _ hholder (List.mem_dedup.mpr hmem)
      rw [hmore, List.map_append, List.map_singleton, List.nodup_append_comm]
      exact List.nodup_cons.mpr ⟨hnew, hu⟩
  · rw [hstart]
    exact List.nodup_nil

end

/-- A mint of the active offering for its investor, under a holding id of its own. -/
def mintUnder (holdingId : Text) : IssuanceCall :=
  .mintTokens ⟨units "v2", holdingId, 5⟩ ⟨units "o1", units "u1", 5, none, none, 100, none, units "0x1"⟩

def heldOnce : IssuanceDb := activeWorld.db.after (mintUnder (units "h1"))
def heldTwice : IssuanceDb := heldOnce.after (mintUnder (units "h2"))

theorem positiveMint_under (holdingId : Text) : PositiveMint (units "o1") (mintUnder holdingId) := by
  intro _ amount h
  obtain rfl : 500000000 = amount := Option.some.inj ((by decide +kernel : tokenFormat.assign 5 = some 500000000).symm.trans h)
  decide

theorem cap_table_of_one : CapTableAddsUp (units "o1") heldOnce := by
  have hrun : Machine.Run IssuanceDb.Step activeWorld.db [_] heldOnce :=
    .cons (IssuanceDb.step_served (mintUnder (units "h1")) activeWorld.db) (.nil heldOnce)
  have hinvestors : (holdingsOf (units "o1") heldOnce).map (·.investor_id) = [units "v1"] := by decide +kernel
  refine (cap_table_iff (by decide +kernel) hrun fun e he => ?_).1.mpr ?_
  · rw [List.mem_singleton.mp he]
    exact positiveMint_under (units "h1")
  · rw [hinvestors]
    exact List.nodup_singleton _

/-- Two mints for one investor are two entries, and one holder. -/
theorem cap_table_of_two : ¬ ∀ (s : IssuanceDb) (history : List Performed) (offeringId : Text),
    Machine.Run IssuanceDb.Step activeWorld.db history s → (∀ e ∈ history, PositiveMint offeringId e.call) →
      CapTableAddsUp offeringId s := by
  intro h
  have hrun : Machine.Run IssuanceDb.Step activeWorld.db _ heldTwice :=
    .cons (IssuanceDb.step_served (mintUnder (units "h1")) activeWorld.db)
      (.cons (IssuanceDb.step_served (mintUnder (units "h2")) heldOnce) (.nil _))
  have hadds := h heldTwice _ (units "o1") hrun fun e he => by
    rcases List.mem_cons.mp he with rfl | he
    · exact positiveMint_under _
    · rw [List.mem_singleton.mp he]
      exact positiveMint_under _
  have hsome : holdingsOf (units "o1") heldTwice ≠ [] := by decide +kernel
  have hcount := ((capTableAddsUp_some hsome).mp hadds).count
  rw [capTableOf] at hcount
  exact absurd hcount (by decide +kernel)

end GalaxiaAin.Issuance
