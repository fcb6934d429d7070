import GalaxiaAin.Network.Grouping
import GalaxiaAin.Network.Served

/-! The row of a tiebreaker. Its output is one of the most common ones, and its agreeing nodes
are all that reported. -/
namespace GalaxiaAin.Network
open GalaxiaAin.Library
open GalaxiaAin.Library.Async hiding bind

/-! ### The common output -/

theorem commonOutput_eq (results : List PendingResult) : commonOutput results =
    (((OutputMap.gather (fun r : PendingResult => r.output_data) (fun _ n => n.getD 0 + 1) results).largest id).map
      Prod.fst).getD [] := rfl

/-- What is counted under an output was returned. -/
theorem mem_of_counted {results : List PendingResult} {output : Text} {n : Nat}
    (h : (OutputMap.gather (fun r : PendingResult => r.output_data) (fun _ n => n.getD 0 + 1) results).lookup output = some n) :
    ∃ r ∈ results, r.output_data = output := by
  rw [OutputMap.lookup_gather] at h
  cases hfilter : results.filter fun r => r.output_data = output with
  | nil => rw [hfilter] at h; cases h
  | cons r rest =>
    have hmem : r ∈ results.filter fun r => r.output_data = output := by rw [hfilter]; exact List.mem_cons_self
    obtain ⟨hr, hout⟩ := List.mem_filter.mp hmem
    exact ⟨r, hr, of_decide_eq_true hout⟩

/-- An output that was returned is counted. -/
theorem counted_pos {results : List PendingResult} {r : PendingResult} (h : r ∈ results) :
    ∃ n, 0 < n ∧ (OutputMap.gather (fun r : PendingResult => r.output_data) (fun _ n => n.getD 0 + 1) results).lookup
      r.output_data = some n := by
  have hcount (xs : List PendingResult) (n : Nat) :
      xs.foldl (fun found _ => some (found.getD 0 + 1)) (some n) = some (n + xs.length) := by
    induction xs generalizing n with
    | nil => rfl
    | cons x xs ih => rw [List.foldl_cons, Option.getD_some, ih, List.length_cons]; congr 1; omega
  have hmem : r ∈ results.filter fun x => x.output_data = r.output_data := List.mem_filter.mpr ⟨h, decide_eq_true rfl⟩
  rw [OutputMap.lookup_gather]
  cases hfilter : results.filter fun x => x.output_data = r.output_data with
  | nil => rw [hfilter] at hmem; cases hmem
  | cons x xs =>
    rw [List.foldl_cons, Option.getD_none, hcount]
    exact ⟨_, by omega, rfl⟩

/-- The common output is one of the results'. -/
theorem commonOutput_mem {results : List PendingResult} (hne : results ≠ []) :
    ∃ r ∈ results, r.output_data = commonOutput results := by
  obtain ⟨first, hfirst⟩ := List.exists_mem_of_ne_nil results hne
  obtain ⟨n, hn, hlookup⟩ := counted_pos hfirst
  obtain ⟨hmem, hmax⟩ := OutputMap.largest_spec (α := Nat) id
    (OutputMap.gather (fun r : PendingResult => r.output_data) (fun _ n => n.getD 0 + 1) results)
  have hle := hmax _ (OutputMap.mem_of_lookup hlookup)
  rw [commonOutput_eq]
  cases hlargest : (OutputMap.gather (fun r : PendingResult => r.output_data) (fun _ n => n.getD 0 + 1) results).largest id with
  | none =>
    rw [hlargest] at hle
    exact absurd (hn.trans_le hle) (lt_irrefl 0)
  | some entry => exact mem_of_counted (OutputMap.lookup_of_mem (OutputMap.nodup_gather results) (hmem entry hlargest).1)

/-! ### The row -/

/-- Whatever fails, a tiebreaker adds its row or none. -/
theorem runTiebreaker_rows {db : NetworkDb} {l : Local backend} (key : Uuid) (results : List PendingResult) :
    (runTiebreaker key results).post anywhere (fun _ u _ => u.consensus_results = db.consensus_results ∨
      u.consensus_results = db.consensus_results ++ [tiebreakerResult key results]) db l := by
  rw [runTiebreaker, post_withClient, post_bind, post_query_idle]
  refine ⟨⟨?_, fun _ _ => .inl rfl⟩, fun _ _ => .inl rfl⟩
  have htask : (selectTask (.uuid key)).reply () db = .ok ((db.tasks.get? key).map fun task => (key, task)) := rfl
  have hsame : (selectTask (.uuid key)).effect () db db = db := rfl
  rw [show backend.initial = () from rfl, htask, hsame, next_ok]
  cases db.tasks.get? key with
  | none => exact .inl rfl
  | some task =>
    change (query (B := backend) Site.selectTiebreakers (selectTiebreakers (results.map (·.node_id))) >>= _).post anywhere _ db _
    rw [post_bind, post_query_idle]
    refine ⟨?_, fun _ _ => .inl rfl⟩
    rw [selectTiebreakers, Stmt.reply_select, Stmt.effect_select, next_ok]
    split
    · rw [post_bind, post_query_idle]
      exact ⟨.inl rfl, fun _ _ => .inl rfl⟩
    · rw [post_bind, post_query_idle]
      refine ⟨?_, fun _ _ => .inl rfl⟩
      rw [Stmt.reply, Stmt.effect]
      simp only [insertConsensus, Stmt.statement, id_eq]
      by_cases hmissing : (db.tasks.get? (tiebreakerResult key results).task_id).isNone = true
      · rw [if_pos hmissing]
        exact .inl rfl
      · rw [if_neg hmissing, next_ok, post_bind, post_query_idle]
        exact ⟨.inr rfl, fun _ _ => .inr rfl⟩

/-- The execution of a tiebreaker adds the row. -/
def Breaks (key : Uuid) (results : List PendingResult) (row : ConsensusResult) : Prop :=
  ∃ (db u : NetworkDb) (l m : Local backend) (r : Except NetworkError Verification),
    Exec anywhere (runTiebreaker key results) db l r u m ∧ u.consensus_results = db.consensus_results ++ [row]

theorem Breaks.row {key : Uuid} {results : List PendingResult} {row : ConsensusResult} (h : Breaks key results row) :
    row = tiebreakerResult key results := by
  obtain ⟨db, u, l, m, r, hexec, hrow⟩ := h
  rcases hexec.sound (runTiebreaker_rows key results) with hsame | hnew
  · exact absurd (hrow.symm.trans hsame) (by simp)
  · exact List.singleton_inj.mp (List.append_cancel_left (hrow.symm.trans hnew))

/-- The agreeing nodes returned the output, all others disagree, and the output does not
depend on the order of the results. -/
structure Honest (key : Uuid) (results : List PendingResult) (row : ConsensusResult) : Prop where
  agreeing : ∀ nodeId ∈ row.agreeing_nodes, ∃ r ∈ results, r.node_id = nodeId ∧ r.output_data = row.final_output
  disagreeing : ∀ r ∈ results, r.node_id ∉ row.agreeing_nodes → r.node_id ∈ row.disagreeing_nodes
  order : ∀ (results' : List PendingResult) (row' : ConsensusResult), results'.Perm results → Breaks key results' row' →
    row'.final_output = row.final_output

/-- A tiebreaker's row is honest exactly when there was nothing to break. -/
theorem tiebreaker_honest_iff {key : Uuid} {results : List PendingResult} {row : ConsensusResult}
    (hnodes : (results.map (·.node_id)).Nodup) (h : Breaks key results row) :
    Honest key results row ↔ ∀ r ∈ results, ∀ r' ∈ results, r.output_data = r'.output_data := by
  obtain rfl := h.row
  constructor
  · intro hhonest
    have hfinal (r : PendingResult) (hr : r ∈ results) : r.output_data = commonOutput results := by
      obtain ⟨r', hr', hid, hout⟩ := hhonest.agreeing r.node_id (List.mem_map_of_mem hr)
      rw [← List.inj_on_of_nodup_map hnodes hr' hr hid]
      exact hout
    exact fun r hr r' hr' => (hfinal r hr).trans (hfinal r' hr').symm
  · intro hall
    have hfinal {results' : List PendingResult} (hperm : results'.Perm results) (r : PendingResult) (hr : r ∈ results) :
        r.output_data = commonOutput results' := by
      have hne : results' ≠ [] := List.ne_nil_of_mem (hperm.mem_iff.mpr hr)
      obtain ⟨r', hr', hout⟩ := commonOutput_mem hne
      exact (hall r hr r' (hperm.mem_iff.mp hr')).trans hout
    refine ⟨fun nodeId hmem => ?_, fun r hr hno => absurd (List.mem_map_of_mem hr) hno, fun results' row' hperm hrow' => ?_⟩
    · obtain ⟨r, hr, rfl⟩ := List.mem_map.mp hmem
      exact ⟨r, hr, rfl, hfinal (.refl _) r hr⟩
    · obtain rfl := hrow'.row
      rcases List.eq_nil_or_concat results with rfl | ⟨rest, r, hlast⟩
      · rw [hperm.eq_nil]
      · have hr : r ∈ results := by rw [hlast]; simp
        exact (hfinal hperm r hr).symm.trans (hfinal (.refl _) r hr)

/-! ### Two different results -/

/-- Two nodes that can break a tie. -/
def tieDb : NetworkDb where
  nodes := (Table.empty.insert (units "a") ⟨units "da", ⟨false, none, none⟩, none, some 10000, some 9000, some 0, some 0, .online,
    some 0, some 0, some 3⟩).insert (units "b") ⟨units "db", ⟨false, none, none⟩, none, some 10000, some 9000, some 0, some 0,
      .online, some 0, some 0, some 3⟩
  tasks := Table.empty.insert (units "t") ⟨units "whisper", units "a", .audio, .standard, units "auto", [], .assigned, none, none,
    some 0⟩
  task_results := Table.empty
  consensus_results := []
  models := Table.empty
  privacy_settings := Table.empty
  users _ := none

theorem tie_breaks {results : List PendingResult} (h : 2 ≤ (tiebreakers tieDb (results.map (·.node_id))).length) :
    Breaks (units "t") results (tiebreakerResult (units "t") results) := by
  have hexec := Async.exec_nil never (runTiebreaker (units "t") results) tieDb Local.empty
  have htask : (tieDb.tasks.get? (units "t")).isSome := by decide
  have hserved := hexec.sound (runTiebreaker_served htask)
  rw [if_pos h] at hserved
  exact ⟨tieDb, _, _, _, _, hexec.mono fun _ h => h.elim, hserved.2.2⟩

/-- The one result of a task agrees with itself. -/
theorem tiebreaker_honest_single : Honest (units "t") [⟨units "n", units "hi"⟩]
    (tiebreakerResult (units "t") [⟨units "n", units "hi"⟩]) :=
  (tiebreaker_honest_iff (by decide) (tie_breaks (by decide +kernel))).mpr (by simp)

theorem tiebreaker_dishonest : ¬ ∀ (key : Uuid) (results : List PendingResult) (row : ConsensusResult),
    (results.map (·.node_id)).Nodup → Breaks key results row → Honest key results row := by
  intro hall
  have h := hall (units "t") [⟨units "n", units "hi"⟩, ⟨units "n2", units "ho"⟩] _ (by decide) (tie_breaks (by decide +kernel))
  obtain ⟨r, hr, hid, hout⟩ := h.agreeing (units "n2") (by decide)
  rcases List.mem_cons.mp hr with rfl | hr
  · exact absurd hid (by decide)
  · rw [List.mem_singleton.mp hr] at hout
    exact absurd hout (by decide)

end GalaxiaAin.Network
