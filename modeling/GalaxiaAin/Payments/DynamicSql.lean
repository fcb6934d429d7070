import GalaxiaAin.Library.Sql
import GalaxiaAin.Network.Nodes

/-! The statements that are put together from what is given: the UPDATE of a KYC profile and
the SELECT of the active nodes. Placeholders and values are counted apart. -/
namespace GalaxiaAin.Payments
open GalaxiaAin.Library

/-! ### The KYC profile -/

/-- The keys of `KYCProfile`. -/
inductive ProfileKey where
  | id | user_id | kyc_level | kyc_status | verification_tier | first_name | last_name | date_of_birth | nationality
  | country_of_residence | entity_name | entity_type | government_id_verified | address_verified | source_of_funds_verified
  | pep_check_completed | sanctions_check_completed | pep_status | sanctions_match | daily_limit | monthly_limit
  | annual_limit | single_transaction_limit | high_risk_jurisdiction | requires_enhanced_due_diligence | verified_at
  | expires_at | sanctions_status | last_screened_at | risk_score | risk_level | risk_factors
  deriving DecidableEq, Repr

def ProfileKey.name : ProfileKey → Text
  | .id => units "id"
  | .user_id => units "user_id"
  | .kyc_level => units "kyc_level"
  | .kyc_status => units "kyc_status"
  | .verification_tier => units "verification_tier"
  | .first_name => units "first_name"
  | .last_name => units "last_name"
  | .date_of_birth => units "date_of_birth"
  | .nationality => units "nationality"
  | .country_of_residence => units "country_of_residence"
  | .entity_name => units "entity_name"
  | .entity_type => units "entity_type"
  | .government_id_verified => units "government_id_verified"
  | .address_verified => units "address_verified"
  | .source_of_funds_verified => units "source_of_funds_verified"
  | .pep_check_completed => units "pep_check_completed"
  | .sanctions_check_completed => units "sanctions_check_completed"
  | .pep_status => units "pep_status"
  | .sanctions_match => units "sanctions_match"
  | .daily_limit => units "daily_limit"
  | .monthly_limit => units "monthly_limit"
  | .annual_limit => units "annual_limit"
  | .single_transaction_limit => units "single_transaction_limit"
  | .high_risk_jurisdiction => units "high_risk_jurisdiction"
  | .requires_enhanced_due_diligence => units "requires_enhanced_due_diligence"
  | .verified_at => units "verified_at"
  | .expires_at => units "expires_at"
  | .sanctions_status => units "sanctions_status"
  | .last_screened_at => units "last_screened_at"
  | .risk_score => units "risk_score"
  | .risk_level => units "risk_level"
  | .risk_factors => units "risk_factors"

section Update
variable {α : Type}

/-- The variables of the loop over the profile. -/
structure Building (α : Type) where
  updateFields : List Text
  values : List α
  paramIndex : Nat

/-- One entry; `none` is undefined. -/
def Building.add (b : Building α) (entry : ProfileKey × Option α) : Building α :=
  match entry.2 with
  | some value =>
    if entry.1 ≠ .id ∧ entry.1 ≠ .user_id then
      { updateFields := b.updateFields ++ [entry.1.name ++ units " = $" ++ decimal b.paramIndex]
        values := b.values ++ [value]
        paramIndex := b.paramIndex + 1 }
    else b
  | none => b

/-- `texts.join(separator)`. -/
def join (separator : Text) : List Text → Text
  | [] => []
  | [t] => t
  | t :: rest => t ++ separator ++ join separator rest

/-- The text of the UPDATE and the values that are sent with it. -/
def updateQuery (userId : α) (profileData : List (ProfileKey × Option α)) : Text × List α :=
  let b := profileData.foldl Building.add ⟨[], [], 1⟩
  let updateFields := b.updateFields ++ [units "updated_at = CURRENT_TIMESTAMP"]
  (units "\n        UPDATE kyc_profiles \n        SET " ++ join (units ", ") updateFields ++
      units "\n        WHERE user_id = $" ++ decimal b.paramIndex ++ units "\n        RETURNING *\n      ",
    b.values ++ [userId])

/-- The columns that are supplied, other than `id` and `user_id`. -/
def supplied (profileData : List (ProfileKey × Option α)) : List (ProfileKey × α) :=
  profileData.filterMap fun entry =>
    match entry.2 with
    | some value => if entry.1 ≠ .id ∧ entry.1 ≠ .user_id then some (entry.1, value) else none
    | none => none

/-- The UPDATE sets every supplied column to its value and `updated_at` to the time, and
nothing else, in the row of the user. -/
def UpdatesSupplied (userId now : α) (profileData : List (ProfileKey × Option α)) : Prop :=
  ∃ u, Sql.readUpdate (updateQuery userId profileData).1 = some u ∧
    u.table = units "kyc_profiles" ∧
    u.set.map (fun a => (a.1, a.2.value (updateQuery userId profileData).2 now)) =
      (supplied profileData).map (fun s => (s.1.name, some s.2)) ++ [(units "updated_at", some now)] ∧
    u.column = units "user_id" ∧ u.term.value (updateQuery userId profileData).2 now = some userId

end Update

/-! ### The active nodes -/

/-- A value of the SELECT. -/
inductive FilterValue where
  | number (x : ℚ)
  | text (t : Text)
  deriving DecidableEq

/-- The variables of `getActiveNodes`. -/
structure Query where
  query : Text
  params : List FilterValue
  paramIndex : Nat

def Query.compare (q : Query) (condition : String) (v : FilterValue) : Query :=
  ⟨q.query ++ units condition ++ decimal q.paramIndex, q.params ++ [v], q.paramIndex + 1⟩

/-- The filters that are neither undefined nor falsy. -/
def truthyReputation (filters : Option Network.NodeFilters) : Option ℚ := (filters.bind (·.minReputation)).filter (· ≠ 0)

def truthyRegion (filters : Option Network.NodeFilters) : Option Text := (filters.bind (·.region)).filter (· ≠ [])

/-- The text of the SELECT and its values, for the filters that are truthy. -/
def activeNodesText (minReputation : Option ℚ) (region : Option Text) : Text × List FilterValue :=
  let q : Query := ⟨units "SELECT * FROM nodes WHERE status = 'online' AND last_seen > NOW() - INTERVAL '5 minutes'", [], 1⟩
  let q := match minReputation with
    | some least => q.compare " AND reputation >= $" (.number least)
    | none => q
  let q := match region with
    | some region => q.compare " AND location->>'region' = $" (.text region)
    | none => q
  (q.query ++ units " ORDER BY reputation DESC, current_load ASC", q.params)

def activeNodesQuery (filters : Option Network.NodeFilters) : Text × List FilterValue :=
  activeNodesText (truthyReputation filters) (truthyRegion filters)

/-- The query has the condition that an expression compares so with a value. -/
def Compares (query : Text × List FilterValue) (expression operator : Text) (v : FilterValue) : Prop :=
  ∃ t n, [expression, operator, t] ∈ Sql.conditions query.1 ∧ Sql.readTerm t = some (.parameter n) ∧
    (Sql.Term.parameter n).value query.2 v = some v

/-- Every filter that is given is compared. -/
def ComparesGiven (filters : Option Network.NodeFilters) : Prop :=
  (∀ least, filters.bind (·.minReputation) = some least →
    Compares (activeNodesQuery filters) (units "reputation") (units ">=") (.number least)) ∧
  ∀ region, filters.bind (·.region) = some region →
    Compares (activeNodesQuery filters) (units "location->>'region'") (units "=") (.text region)

/-! ### The loop -/

section Loop
variable {α : Type}

/-- What the loop has after a number of supplied columns. -/
def built (first : Nat) (columns : List (ProfileKey × α)) : List Text :=
  (columns.zipIdx first).map fun c => c.1.1.name ++ units " = $" ++ decimal c.2

theorem foldl_add (profileData : List (ProfileKey × Option α)) (b : Building α) : profileData.foldl Building.add b =
    ⟨b.updateFields ++ built b.paramIndex (supplied profileData), b.values ++ (supplied profileData).map Prod.snd,
      b.paramIndex + (supplied profileData).length⟩ := by
  induction profileData generalizing b with
  | nil => simp [supplied, built]
  | cons entry rest ih =>
    obtain ⟨key, value⟩ := entry
    rw [List.foldl_cons, ih]
    cases value with
    | none => rfl
    | some value =>
      by_cases hkey : key ≠ .id ∧ key ≠ .user_id
      · have hadd : b.add (key, some value) =
            ⟨b.updateFields ++ [key.name ++ units " = $" ++ decimal b.paramIndex], b.values ++ [value], b.paramIndex + 1⟩ :=
          if_pos hkey
        have hsupplied : supplied ((key, some value) :: rest) = (key, value) :: supplied rest := by
          rw [supplied, List.filterMap_cons]
          simp only [if_pos hkey]
          rfl
        rw [hadd, hsupplied]
        simp only [built, List.zipIdx_cons, List.map_cons, List.length_cons, List.append_assoc, List.singleton_append]
        rw [Nat.add_assoc, Nat.add_comm 1]
      · have hadd : b.add (key, some value) = b := if_neg hkey
        have hsupplied : supplied ((key, some value) :: rest) = supplied rest := by
          rw [supplied, List.filterMap_cons]
          simp only [if_neg hkey]
          rfl
        rw [hadd, hsupplied]

theorem join_append (separator last : Text) (texts : List Text) :
    join separator (texts ++ [last]) = (texts.flatMap fun t => t ++ separator) ++ last := by
  induction texts with
  | nil => rfl
  | cons t texts ih =>
    obtain ⟨u, rest, hrest⟩ := List.exists_cons_of_ne_nil (show texts ++ [last] ≠ [] by simp)
    rw [List.cons_append, List.flatMap_cons, List.append_assoc, ← ih, hrest, join]
    intro h
    cases h

/-- The tokens of an assignment and the comma after it. -/
def assignmentTokens (c : (ProfileKey × α) × Nat) : List Text := [c.1.1.name, units "=", 36 :: decimal c.2, units ","]

theorem name_word (key : ProfileKey) : key.name ≠ [] ∧ ∀ c ∈ key.name, Sql.plain c = true := by
  have hall : key.name ≠ [] ∧ key.name.all Sql.plain = true := by cases key <;> decide
  exact ⟨hall.1, List.all_eq_true.mp hall.2⟩

theorem lex_assignment (ts : List Text) (c : (ProfileKey × α) × Nat) :
    Sql.lex ⟨ts, [], false⟩ (c.1.1.name ++ units " = $" ++ decimal c.2 ++ units ", ") = ⟨ts ++ assignmentTokens c, [], false⟩ := by
  obtain ⟨hne, hplain⟩ := name_word c.1.1
  have hequals : units " = $" = units " " ++ (units "=" ++ (units " " ++ units "$")) := by decide
  have hequal : ∀ c ∈ units "=", Sql.plain c = true := List.all_eq_true.mp (by decide)
  have hdollar : ∀ c ∈ units "$", Sql.plain c = true := List.all_eq_true.mp (by decide)
  rw [hequals]
  simp only [Sql.lex_append]
  rw [Sql.lex_plain hplain, List.nil_append, Sql.lex_space _ hne, Sql.lex_plain hequal, List.nil_append,
    Sql.lex_space _ (by decide), Sql.lex_plain hdollar, List.nil_append, Sql.lex_plain (Sql.plain_decimal _),
    Sql.lex_comma _ (by simp [units])]
  simp only [List.append_assoc, List.cons_append, List.nil_append]
  rfl

theorem lex_assignments (ts : List Text) (columns : List ((ProfileKey × α) × Nat)) :
    Sql.lex ⟨ts, [], false⟩ ((columns.map fun c => c.1.1.name ++ units " = $" ++ decimal c.2).flatMap fun t => t ++ units ", ") =
      ⟨ts ++ columns.flatMap assignmentTokens, [], false⟩ := by
  induction columns generalizing ts with
  | nil => rw [List.flatMap_nil, List.append_nil]; rfl
  | cons c rest ih =>
    rw [List.map_cons, List.flatMap_cons, Sql.lex_append, lex_assignment, ih, List.flatMap_cons, List.append_assoc]

theorem readSet_assignments (columns : List ((ProfileKey × α) × Nat)) (rest : List Text) (o : List (Text × Sql.Term) × List Text)
    (h : Sql.readSet rest = some o) :
    Sql.readSet (columns.flatMap assignmentTokens ++ rest) = some (columns.map (fun c => (c.1.1.name, .parameter c.2)) ++ o.1, o.2) := by
  induction columns with
  | nil => exact h
  | cons c columns ih =>
    rw [List.flatMap_cons, List.append_assoc, assignmentTokens]
    simp only [List.cons_append, List.nil_append]
    rw [Sql.readSet, if_pos rfl, Sql.readTerm_placeholder]
    simp only [if_true]
    rw [ih]
    rfl

theorem tokens_updateQuery (userId : α) (profileData : List (ProfileKey × Option α)) :
    Sql.tokens (updateQuery userId profileData).1 = ["UPDATE", "kyc_profiles", "SET"].map units ++
      (((supplied profileData).zipIdx 1).flatMap assignmentTokens ++
        (["updated_at", "=", "CURRENT_TIMESTAMP", "WHERE", "user_id", "="].map units ++
          [36 :: decimal (1 + (supplied profileData).length), units "RETURNING", units "*"])) := by
  have hfront : Sql.lex ⟨[], [], false⟩ (units "\n        UPDATE kyc_profiles \n        SET ") =
      ⟨["UPDATE", "kyc_profiles", "SET"].map units, [], false⟩ := by decide +kernel
  have hmiddle : Sql.lex ⟨[], [], false⟩ (units "updated_at = CURRENT_TIMESTAMP" ++ units "\n        WHERE user_id = $") =
      ⟨["updated_at", "=", "CURRENT_TIMESTAMP", "WHERE", "user_id", "="].map units, units "$", false⟩ := by decide +kernel
  have hback : Sql.lex ⟨[], [], false⟩ (units "        RETURNING *\n      ") = ⟨["RETURNING", "*"].map units, [], false⟩ := by
    decide +kernel
  have hbreak : units "\n        RETURNING *\n      " = units "\n" ++ units "        RETURNING *\n      " := by decide
  simp only [updateQuery, foldl_add, List.nil_append]
  rw [join_append, hbreak, built, Sql.tokens]
  simp only [Sql.lex_append]
  rw [hfront, lex_assignments, ← Sql.lex_append _ (units "updated_at = CURRENT_TIMESTAMP"), Sql.lex_fixed hmiddle,
    Sql.lex_plain (Sql.plain_decimal _), Sql.lex_newline _ (by simp [units]), Sql.lex_fixed hback]
  simp only [Sql.flush, if_true, List.append_assoc]
  rfl

/-- The values stand in the order of the placeholders. -/
theorem values_assignments (columns : List (ProfileKey × α)) (more : List α) (now : α) :
    ((columns.zipIdx 1).map fun c => (c.1.1.name, (Sql.Term.parameter c.2).value (columns.map Prod.snd ++ more) now)) =
      columns.map fun s => (s.1.name, some s.2) := by
  have hvalue : ∀ c ∈ columns.zipIdx 1, (c.1.1.name, (Sql.Term.parameter c.2).value (columns.map Prod.snd ++ more) now) =
      (c.1.1.name, some c.1.2) := by
    intro c hc
    obtain ⟨⟨key, value⟩, i⟩ := c
    obtain ⟨hle, hget⟩ := List.mk_mem_zipIdx_iff_le_and_getElem?_sub.mp hc
    obtain ⟨j, rfl⟩ := Nat.exists_eq_add_of_le hle
    rw [Nat.add_sub_cancel_left] at hget
    rw [Nat.add_comm 1 j, Sql.Term.value, List.getElem?_append_left]
    · rw [List.getElem?_map, hget]
      rfl
    · rw [List.length_map]
      exact (List.getElem?_eq_some_iff.mp hget).1
  rw [List.map_congr_left hvalue]
  calc (columns.zipIdx 1).map (fun c => (c.1.1.name, some c.1.2))
      = ((columns.zipIdx 1).map Prod.fst).map (fun s => (s.1.name, some s.2)) := by rw [List.map_map]; rfl
    _ = columns.map (fun s => (s.1.name, some s.2)) := by rw [List.zipIdx_map_fst]

/-- The UPDATE reads back as the assignments of the supplied columns. -/
theorem updateQuery_updates (userId now : α) (profileData : List (ProfileKey × Option α)) :
    UpdatesSupplied userId now profileData := by
  have hend : Sql.readSet (["updated_at", "=", "CURRENT_TIMESTAMP", "WHERE", "user_id", "="].map units ++
      [36 :: decimal (1 + (supplied profileData).length), units "RETURNING", units "*"]) =
      some ([(units "updated_at", .currentTimestamp)], [units "WHERE", units "user_id", units "=",
        36 :: decimal (1 + (supplied profileData).length), units "RETURNING", units "*"]) := rfl
  have hread := readSet_assignments ((supplied profileData).zipIdx 1) _ _ hend
  have hvalues : (updateQuery userId profileData).2 = (supplied profileData).map Prod.snd ++ [userId] := by
    simp only [updateQuery, foldl_add, List.nil_append]
  refine ⟨⟨units "kyc_profiles", ((supplied profileData).zipIdx 1).map (fun c => (c.1.1.name, Sql.Term.parameter c.2)) ++
    [(units "updated_at", .currentTimestamp)], units "user_id", .parameter (1 + (supplied profileData).length)⟩, ?_, rfl, ?_, rfl, ?_⟩
  · rw [Sql.readUpdate, tokens_updateQuery]
    simp only [List.map_cons, List.map_nil, List.cons_append, List.nil_append] at hread ⊢
    simp only [and_self, if_true]
    rw [hread]
    simp only [and_self, if_true, Sql.readTerm_placeholder]
    rfl
  · rw [hvalues, List.map_append, List.map_map]
    exact congrArg₂ (· ++ ·) (values_assignments (supplied profileData) [userId] now) rfl
  · rw [hvalues, Nat.add_comm 1, Sql.Term.value, List.getElem?_append_right (by rw [List.length_map]), List.length_map, Nat.sub_self]
    rfl

end Loop

/-! ### Both statements -/

/-- The conditions of the SELECT and its values: the second filter has the second placeholder
or the first. -/
theorem activeNodesText_eq (minReputation : Option ℚ) (region : Option Text) :
    Sql.conditions (activeNodesText minReputation region).1 =
      [[units "status", units "=", units "'online'"],
        [units "last_seen", units ">", units "NOW()", units "-", units "INTERVAL", units "'5 minutes'"]] ++
      (minReputation.toList.map fun _ => [units "reputation", units ">=", units "$1"]) ++
      (region.toList.map fun _ =>
        [units "location->>'region'", units "=", if minReputation.isSome then units "$2" else units "$1"]) ∧
    (activeNodesText minReputation region).2 = minReputation.toList.map .number ++ region.toList.map .text := by
  -- the values are not in the text, so any will do to cut it
  cases minReputation with
  | none => cases region with
    | none => exact ⟨by decide +kernel, rfl⟩
    | some region =>
      have htext : (activeNodesText none (some region)).1 = (activeNodesText none (some [])).1 := rfl
      refine ⟨?_, rfl⟩
      rw [htext]
      simp only [Option.toList_some, Option.toList_none, List.map_cons, List.map_nil, Option.isSome_none]
      decide +kernel
  | some least => cases region with
    | none =>
      have htext : (activeNodesText (some least) none).1 = (activeNodesText (some 1) none).1 := rfl
      refine ⟨?_, rfl⟩
      rw [htext]
      simp only [Option.toList_some, Option.toList_none, List.map_cons, List.map_nil]
      decide +kernel
    | some region =>
      have htext : (activeNodesText (some least) (some region)).1 = (activeNodesText (some 1) (some [])).1 := rfl
      refine ⟨?_, rfl⟩
      rw [htext]
      simp only [Option.toList_some, List.map_cons, List.map_nil, Option.isSome_some]
      decide +kernel

theorem filter_eq_none {β : Type} [DecidableEq β] {o : Option β} {falsy : β} (h : o = some falsy) : o.filter (· ≠ falsy) = none := by
  subst h
  simp

theorem filter_eq_some {β : Type} [DecidableEq β] {o : Option β} {falsy v : β} (h : o = some v) (hne : o ≠ some falsy) :
    o.filter (· ≠ falsy) = some v := by
  subst h
  have hv : v ≠ falsy := fun he => hne (congrArg some he)
  simp [hv]

theorem comparesGiven_iff (filters : Option Network.NodeFilters) :
    ComparesGiven filters ↔ filters.bind (·.minReputation) ≠ some 0 ∧ filters.bind (·.region) ≠ some [] := by
  obtain ⟨hconditions, hvalues⟩ := activeNodesText_eq (truthyReputation filters) (truthyRegion filters)
  rw [← activeNodesQuery] at hconditions hvalues
  constructor
  · intro h
    refine ⟨fun hzero => ?_, fun hempty => ?_⟩
    · obtain ⟨t, n, hmem, -, -⟩ := h.1 0 hzero
      have hnone : truthyReputation filters = none := filter_eq_none hzero
      rw [hconditions, hnone] at hmem
      cases htruthy : truthyRegion filters with
      | none => rw [htruthy] at hmem; simp [units] at hmem
      | some region => rw [htruthy] at hmem; simp [units] at hmem
    · obtain ⟨t, n, hmem, -, -⟩ := h.2 [] hempty
      have hnone : truthyRegion filters = none := filter_eq_none hempty
      rw [hconditions, hnone] at hmem
      cases htruthy : truthyReputation filters with
      | none => rw [htruthy] at hmem; simp [units] at hmem
      | some least => rw [htruthy] at hmem; simp [units] at hmem
  · rintro ⟨hzero, hempty⟩
    refine ⟨fun least hleast => ?_, fun region hregion => ?_⟩
    · have htruthy : truthyReputation filters = some least := filter_eq_some hleast hzero
      refine ⟨units "$1", 1, ?_, rfl, ?_⟩
      · rw [hconditions, htruthy]
        simp
      · rw [hvalues, htruthy]
        rfl
    · have htruthy : truthyRegion filters = some region := filter_eq_some hregion hempty
      cases hleast : truthyReputation filters with
      | none =>
        refine ⟨units "$1", 1, ?_, rfl, ?_⟩
        · rw [hconditions, htruthy, hleast]
          simp
        · rw [hvalues, htruthy, hleast]
          rfl
      | some least =>
        refine ⟨units "$2", 2, ?_, rfl, ?_⟩
        · rw [hconditions, htruthy, hleast]
          simp
        · rw [hvalues, htruthy, hleast]
          rfl

/-- The UPDATE assigns what is supplied, always; the SELECT compares with the filters that are
given exactly where these are not 0 and not empty. -/
theorem parameters_line_up {α : Type} (userId now : α) (profileData : List (ProfileKey × Option α))
    (filters : Option Network.NodeFilters) : (UpdatesSupplied userId now profileData ∧ ComparesGiven filters) ↔
      filters.bind (·.minReputation) ≠ some 0 ∧ filters.bind (·.region) ≠ some [] := by
  rw [comparesGiven_iff, and_iff_right (updateQuery_updates userId now profileData)]

/-- A least reputation of 0 is not compared. -/
theorem parameters_line_up_zero : ¬ (UpdatesSupplied (units "u1") [] [(.first_name, some (units "Ada")), (.last_name, none)] ∧
    ComparesGiven (some ⟨none, some 0⟩)) := by
  rintro ⟨-, h⟩
  exact ((comparesGiven_iff (some ⟨none, some 0⟩)).mp h).1 rfl

end GalaxiaAin.Payments
