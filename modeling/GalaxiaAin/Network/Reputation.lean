import GalaxiaAin.Network.Loads
import GalaxiaAin.Network.Registration
import GalaxiaAin.Network.Served

/-! The reputation of a node. A verified result computes it anew from the counters of the node
and its uptime; a disagreement and a failure reduce it. -/
namespace GalaxiaAin.Network
open GalaxiaAin.Library
open GalaxiaAin.Library.Async hiding bind

/-! ### Events -/

/-- The verification that a node disagrees with: an exact match or a similarity. -/
inductive Disagreement where
  | exactMatch | similarity
  deriving DecidableEq

/-- By how much it reduces the reputation, in hundredths. -/
def Disagreement.penalty : Disagreement → Int
  | .exactMatch => 500
  | .similarity => 300

inductive NodeEvent where
  | verified
  | disagreed (kind : Disagreement)
  | failed
  deriving DecidableEq

def NodeEvent.Misbehaves (e : NodeEvent) : Prop := e ≠ .verified

instance (e : NodeEvent) : Decidable e.Misbehaves := inferInstanceAs (Decidable (e ≠ .verified))

/-- What the handlers write of the node. -/
def NodeEvent.writes (nodeId : Uuid) : NodeEvent → Async backend Unit
  | .verified => rewardNodes [nodeId]
  | .disagreed kind => penalizeNodes kind.penalty [nodeId]
  | .failed => do
    Async.query .failNode (failNode nodeId)
    Async.query .reduceReputation (reduceReputation nodeId 200)

/-- The tables after events of a node. -/
def afterEvents (nodeId : Uuid) (events : List NodeEvent) (db : NetworkDb) : NetworkDb :=
  events.foldl (fun db e => ((Async.withClient Site.connect (e.writes nodeId)).run [] db Local.empty).2.1) db

def reputationOf (db : NetworkDb) (nodeId : Uuid) : Option Int := (db.nodes.get? nodeId).bind (·.reputation)

/-! ### What an event does to the row -/

/-- `GREATEST(0, current_load - 1)`, where it is in range. -/
def lowerLoad (load : Option Int32) : Option Int32 := ((addInteger (-1) load).toOption.map greatestInteger).getD load

def NodeRow.count (row : NodeRow) : NodeRow := { row with tasks_completed := row.tasks_completed.map (· + 1) }

def NodeRow.after (row : NodeRow) : NodeEvent → NodeRow
  | .verified => { row.count with reputation := some (scoreFormat.units (computeReputation row.count)) }
  | .disagreed kind => { row with reputation := reduceScore kind.penalty row.reputation }
  | .failed => { row with
      current_load := lowerLoad row.current_load
      tasks_failed := row.tasks_failed.map (· + 1)
      reputation := reduceScore 200 row.reputation }

/-- The load is not negative. -/
def NodeRow.Loaded (row : NodeRow) : Prop := ∀ load, row.current_load = some load → 0 ≤ load.toInt

section Rows
variable {db : NetworkDb} {nodeId : Uuid} {row : NodeRow}

theorem NodeRow.Loaded.lower (h : row.Loaded) : ∃ load, addInteger (-1) row.current_load = .ok load ∧
    lowerLoad row.current_load = greatestInteger load := by
  cases hload : row.current_load with
  | none => exact ⟨none, rfl, rfl⟩
  | some x =>
    have hnonneg := h x hload
    have hlt := Int32.toInt_lt x
    have hint : addInteger (-1) (some x) = .ok (some (Int32.ofInt (x.toInt + -1))) := by
      rw [addInteger, integer, if_pos (by omega)]
      rfl
    exact ⟨_, hint, by rw [lowerLoad, hint]; rfl⟩

theorem NodeRow.Loaded.after (h : row.Loaded) (e : NodeEvent) : (row.after e).Loaded := by
  cases e with
  | verified => exact h
  | disagreed kind => exact h
  | failed =>
    obtain ⟨load, -, hlower⟩ := h.lower
    intro x hx
    change lowerLoad row.current_load = some x at hx
    rw [hlower, greatestInteger] at hx
    obtain rfl := Option.some.inj hx
    cases load with
    | none => decide
    | some y =>
      simp only [Option.elim_some]
      split
      · decide
      · omega

theorem assignScore_units {x : ℚ} {u : Int} (h : assignScore x = .ok u) : u = scoreFormat.units x := by
  rw [assignScore] at h
  cases hx : scoreFormat.assign x with
  | none => rw [hx] at h; cases h
  | some v =>
    rw [hx] at h
    obtain rfl := Except.ok.inj h
    exact scoreFormat.assign_eq hx

/-- A verified result is counted, and the reputation computed. -/
theorem reward_row (h : db.nodes.get? nodeId = some row) (rest : List (Session backend)) (out : List Effect) :
    (rewardNodes [nodeId]).post never (fun r u _ => r = .ok () ∧ u.nodes.get? nodeId = some (row.after .verified)) db
      ⟨.idle :: rest, out⟩ := by
  obtain ⟨u, hu⟩ := assignScore_ok (computeReputation_range row.count).1 (computeReputation_range row.count).2
  rw [rewardNodes, post_bind]
  refine updateNode_post (fun row => ⟨_, rfl⟩) (fun hnone => by rw [h] at hnone; cases hnone) fun row₁ row₂ h₁ h₂ => ?_
  obtain rfl := Option.some.inj (h.symm.trans h₁)
  obtain rfl : row.count = row₂ := Except.ok.inj h₂
  have hcounted : (db.nodes.modify nodeId fun _ => row.count).get? nodeId = some row.count := by
    rw [Table.get?_modify_self, h]
    rfl
  have hreply : (selectNodeRow nodeId).reply () { db with nodes := db.nodes.modify nodeId fun _ => row.count } = .ok (some row.count) := by
    rw [← hcounted]
    rfl
  have hset (row' : NodeRow) : (assignScore (computeReputation row.count)).map (fun u => { row' with reputation := some u }) =
      .ok { row' with reputation := some u } := by
    rw [hu]
    rfl
  rw [next_ok, post_bind, updateNodeReputation, post_withClient]
  refine ⟨?_, fun h => h.elim⟩
  rw [post_bind, post_query_idle]
  refine ⟨?_, fun h => h.elim⟩
  rw [show backend.initial = () from rfl, hreply, next_ok]
  refine updateNode_post (fun row' => ⟨_, hset row'⟩) (fun hnone => ?_) fun row₁ row₂ h₁ h₂ => ?_
  · change (db.nodes.modify nodeId fun _ => row.count).get? nodeId = none at hnone
    rw [hcounted] at hnone
    cases hnone
  · obtain rfl := Option.some.inj (hcounted.symm.trans h₁)
    rw [hset] at h₂
    obtain rfl := Except.ok.inj h₂
    refine ⟨rfl, ?_⟩
    change ((db.nodes.modify nodeId fun _ => row.count).modify nodeId fun _ => _).get? nodeId = _
    rw [Table.get?_modify_self, hcounted, assignScore_units hu]
    rfl

/-- A failure is counted, and the reputation reduced. -/
theorem failure_row (h : db.nodes.get? nodeId = some row) (hload : row.Loaded) (rest : List (Session backend)) (out : List Effect) :
    (NodeEvent.failed.writes nodeId).post never (fun r u _ => r = .ok () ∧ u.nodes.get? nodeId = some (row.after .failed)) db
      ⟨.idle :: rest, out⟩ := by
  obtain ⟨load, hadd, hlower⟩ := hload.lower
  have hset : (do .ok { row with
      current_load := greatestInteger (← addInteger (-1) row.current_load)
      tasks_failed := row.tasks_failed.map (· + 1) } : Except NetworkError NodeRow) =
      .ok { row with current_load := lowerLoad row.current_load, tasks_failed := row.tasks_failed.map (· + 1) } := by
    rw [hadd, hlower]
    rfl
  obtain ⟨hreply, heffect⟩ : (failNode nodeId).reply () db = .ok () ∧ ∀ t, (failNode nodeId).effect () db t = _ := updateNode_ok h hset
  change (Async.query Site.failNode (failNode nodeId) >>= fun _ => _).post never _ db _
  rw [post_bind, post_query_idle]
  refine ⟨?_, fun h => h.elim⟩
  rw [show backend.initial = () from rfl, hreply, heffect, next_ok]
  refine updateNode_post (fun row => ⟨_, rfl⟩) (fun hnone => ?_) fun row₁ row₂ h₁ h₂ => ?_
  · change (db.nodes.modify nodeId fun _ => _).get? nodeId = none at hnone
    rw [Table.get?_modify_self, h] at hnone
    cases hnone
  · change (db.nodes.modify nodeId fun _ => _).get? nodeId = some row₁ at h₁
    rw [Table.get?_modify_self, h] at h₁
    obtain rfl := Option.some.inj h₁
    obtain rfl := Except.ok.inj h₂
    refine ⟨rfl, ?_⟩
    change ((db.nodes.modify nodeId fun _ => _).modify nodeId fun _ => _).get? nodeId = _
    rw [Table.get?_modify_self, Table.get?_modify_self, h]
    rfl

/-- An event that is served does to the row what `after` says. -/
theorem writes_row (h : db.nodes.get? nodeId = some row) (hload : row.Loaded) (e : NodeEvent) (rest : List (Session backend))
    (out : List Effect) : (e.writes nodeId).post never (fun r u _ => r = .ok () ∧ u.nodes.get? nodeId = some (row.after e)) db
      ⟨.idle :: rest, out⟩ := by
  cases e with
  | verified => exact reward_row h rest out
  | disagreed kind =>
    change (Async.query (B := backend) Site.penalize (reduceReputation nodeId kind.penalty) >>= fun _ => pure ()).post never _ db _
    rw [post_bind]
    refine updateNode_post (fun row => ⟨_, rfl⟩) (fun hnone => by rw [h] at hnone; cases hnone) fun row₁ row₂ h₁ h₂ => ?_
    obtain rfl := Option.some.inj (h.symm.trans h₁)
    obtain rfl := Except.ok.inj h₂
    exact ⟨rfl, by rw [Table.get?_modify_self, h]; rfl⟩
  | failed => exact failure_row h hload rest out

theorem afterEvents_row (h : db.nodes.get? nodeId = some row) (hload : row.Loaded) (events : List NodeEvent) :
    (afterEvents nodeId events db).nodes.get? nodeId = some (events.foldl NodeRow.after row) := by
  induction events generalizing db row with
  | nil => exact h
  | cons e rest ih =>
    have hpost : (Async.withClient Site.connect (e.writes nodeId)).post never
        (fun _ u _ => u.nodes.get? nodeId = some (row.after e)) db Local.empty := by
      rw [post_withClient]
      exact ⟨post_mono (writes_row h hload e [] []) fun _ _ _ hu => hu.2, fun h => h.elim⟩
    exact ih (run_nil_post hpost) (hload.after e)

end Rows

/-! ### Scores -/

/-- The units of the reputation that the counters and the uptime make. -/
def earnedScore (uptime : Option Int) (completed failed : Nat) : Int :=
  scoreFormat.units (max 0 (min 100 ((completed : ℚ) / (completed + failed : Nat) * 100 * (4 / 10) +
    (uptime.map scoreFormat.value).getD 0 * (4 / 10) + 20)))

/-- The counters and the reputation of the row are set, the reputation is one of 0..100, and the load is not
negative. -/
structure NodeRow.Scored (row : NodeRow) (completed failed : Nat) (reputation : Int) : Prop where
  completed_eq : row.tasks_completed = some completed
  failed_eq : row.tasks_failed = some failed
  reputation_eq : row.reputation = some reputation
  nonneg : 0 ≤ reputation
  le_hundred : reputation ≤ 10000
  loaded : row.Loaded

section Scores
variable {row row' : NodeRow} {c f f' : Nat} {r r' : Int}

theorem registered_scored (data : Registration) (capabilities : NodeCapabilities) : (data.row capabilities).Scored 0 0 5000 where
  completed_eq := rfl
  failed_eq := rfl
  reputation_eq := rfl
  nonneg := by decide
  le_hundred := by decide
  loaded := fun load hload => by
    obtain rfl := Option.some.inj hload
    decide

theorem earnedScore_range (uptime : Option Int) (c f : Nat) : 0 ≤ earnedScore uptime c f ∧ earnedScore uptime c f ≤ 10000 := by
  constructor
  · refine le_roundHalfAway ?_
    rw [Int.cast_zero]
    exact mul_nonneg (le_max_left _ _) scoreFormat.pow_pos.le
  · refine scoreFormat.units_le (max_le ?_ ((min_le_left _ _).trans ?_)) <;> norm_num [Fixed.value, scoreFormat]

/-- More failures do not make a better score. -/
theorem earnedScore_anti (uptime : Option Int) (hc : 0 < c) (h : f ≤ f') : earnedScore uptime c f' ≤ earnedScore uptime c f := by
  have hratio : (c : ℚ) / (c + f' : Nat) ≤ (c : ℚ) / (c + f : Nat) := by
    have hpos : (0 : ℚ) < (c + f : Nat) := by exact_mod_cast (by omega : 0 < c + f)
    have hle : ((c + f : Nat) : ℚ) ≤ (c + f' : Nat) := by exact_mod_cast (by omega : c + f ≤ c + f')
    exact div_le_div_of_nonneg_left (by positivity) hpos hle
  refine scoreFormat.units_mono (max_le_max le_rfl (min_le_min le_rfl ?_))
  linarith

theorem NodeRow.Scored.verified (h : row.Scored c f r) : (row.after .verified).Scored (c + 1) f (earnedScore row.uptime_score (c + 1) f) where
  completed_eq := by
    change row.tasks_completed.map (· + 1) = _
    rw [h.completed_eq]
    rfl
  failed_eq := h.failed_eq
  reputation_eq := by
    change some (scoreFormat.units (computeReputation row.count)) = _
    have hcompleted : row.count.tasks_completed.getD 0 = c + 1 := by
      rw [NodeRow.count, h.completed_eq]
      rfl
    have hfailed : row.count.tasks_failed.getD 0 = f := by
      rw [NodeRow.count, h.failed_eq]
      rfl
    rw [computeReputation, hcompleted, hfailed, if_neg (by omega)]
    rfl
  nonneg := (earnedScore_range _ _ _).1
  le_hundred := (earnedScore_range _ _ _).2
  loaded := h.loaded

theorem reduceScore_some (d r : Int) : reduceScore d (some r) = some (max 0 (r - d)) := rfl

theorem NodeRow.Scored.disagreed (h : row.Scored c f r) (kind : Disagreement) :
    (row.after (.disagreed kind)).Scored c f (max 0 (r - kind.penalty)) where
  completed_eq := h.completed_eq
  failed_eq := h.failed_eq
  reputation_eq := by
    change reduceScore kind.penalty row.reputation = _
    rw [h.reputation_eq, reduceScore_some]
  nonneg := le_max_left _ _
  le_hundred := by
    have := h.le_hundred
    cases kind <;> simp only [Disagreement.penalty] <;> omega
  loaded := h.loaded

theorem NodeRow.Scored.failed (h : row.Scored c f r) : (row.after .failed).Scored c (f + 1) (max 0 (r - 200)) where
  completed_eq := h.completed_eq
  failed_eq := by
    change row.tasks_failed.map (· + 1) = _
    rw [h.failed_eq]
    rfl
  reputation_eq := by
    change reduceScore 200 row.reputation = _
    rw [h.reputation_eq, reduceScore_some]
  nonneg := le_max_left _ _
  le_hundred := by
    have := h.le_hundred
    omega
  loaded := h.loaded.after .failed

theorem NodeRow.Scored.after (h : row.Scored c f r) (e : NodeEvent) : ∃ c' f' r', (row.after e).Scored c' f' r' := by
  cases e with
  | verified => exact ⟨_, _, _, h.verified⟩
  | disagreed kind => exact ⟨_, _, _, h.disagreed kind⟩
  | failed => exact ⟨_, _, _, h.failed⟩

theorem NodeRow.Scored.events (h : row.Scored c f r) (events : List NodeEvent) :
    ∃ c' f' r', (events.foldl NodeRow.after row).Scored c' f' r' := by
  induction events generalizing row c f r with
  | nil => exact ⟨_, _, _, h⟩
  | cons e rest ih =>
    obtain ⟨c₁, f₁, r₁, h₁⟩ := h.after e
    exact ih h₁

/-- No event changes the uptime. -/
theorem after_uptime (row : NodeRow) (e : NodeEvent) : (row.after e).uptime_score = row.uptime_score := by cases e <;> rfl

theorem events_uptime (row : NodeRow) (events : List NodeEvent) : (events.foldl NodeRow.after row).uptime_score = row.uptime_score := by
  induction events generalizing row with
  | nil => rfl
  | cons e rest ih => exact (ih _).trans (after_uptime row e)

/-! ### A worse record -/

/-- A record with the same completed tasks and the same uptime, at least as many failures and at most the
reputation. -/
def Worse (row row' : NodeRow) : Prop :=
  ∃ c f r f' r', row.Scored c f r ∧ row'.Scored c f' r' ∧ f ≤ f' ∧ r' ≤ r ∧ row'.uptime_score = row.uptime_score

/-- A record stays worse, whatever happens to both: a penalty takes the same of both, and a verified result makes
a score of counters that are worse. -/
theorem Worse.after (h : Worse row row') (e : NodeEvent) : Worse (row.after e) (row'.after e) := by
  obtain ⟨c, f, r, f', r', hrow, hrow', hf, hr, huptime⟩ := h
  have huptime' : (row'.after e).uptime_score = (row.after e).uptime_score := by
    rw [after_uptime, after_uptime, huptime]
  cases e with
  | verified =>
    refine ⟨_, _, _, _, _, hrow.verified, hrow'.verified, hf, ?_, huptime'⟩
    rw [huptime]
    exact earnedScore_anti _ c.succ_pos hf
  | disagreed kind => exact ⟨_, _, _, _, _, hrow.disagreed kind, hrow'.disagreed kind, hf, by omega, huptime'⟩
  | failed => exact ⟨_, _, _, _, _, hrow.failed, hrow'.failed, by omega, by omega, huptime'⟩

theorem Worse.events (h : Worse row row') (events : List NodeEvent) :
    Worse (events.foldl NodeRow.after row) (events.foldl NodeRow.after row') :=
  List.foldl_rel h fun e _ _ _ hworse => hworse.after e

/-- Misbehaving makes the record worse. -/
theorem NodeRow.Scored.worse (h : row.Scored c f r) {e : NodeEvent} (hbad : e.Misbehaves) : Worse row (row.after e) := by
  have hnonneg := h.nonneg
  cases e with
  | verified => exact absurd rfl hbad
  | disagreed kind =>
    refine ⟨_, _, _, _, _, h, h.disagreed kind, le_rfl, ?_, after_uptime _ _⟩
    cases kind <;> simp only [Disagreement.penalty] <;> omega
  | failed => exact ⟨_, _, _, _, _, h, h.failed, by omega, by omega, after_uptime _ _⟩

end Scores

section Claims
variable {db : NetworkDb} {nodeId : Uuid} {row : NodeRow} {c f : Nat} {r : Int}

theorem reputationOf_events (h : db.nodes.get? nodeId = some row) (hrow : row.Scored c f r) (events : List NodeEvent)
    {c' f' : Nat} {r' : Int} (h' : (events.foldl NodeRow.after row).Scored c' f' r') :
    reputationOf (afterEvents nodeId events db) nodeId = some r' := by
  rw [reputationOf, afterEvents_row h hrow.loaded, Option.bind_some, h'.reputation_eq]

/-- A node that disagrees or fails once more, at any place of its record, ends with at most the reputation, and the
reputation is always one of 0..100. -/
theorem misbehaving_never_pays (h : db.nodes.get? nodeId = some row) (hrow : row.Scored c f r) (before rest : List NodeEvent)
    {bad : NodeEvent} (hbad : bad.Misbehaves) :
    (∃ u u', reputationOf (afterEvents nodeId (before ++ rest) db) nodeId = some u ∧
      reputationOf (afterEvents nodeId (before ++ bad :: rest) db) nodeId = some u' ∧ u' ≤ u) ∧
    ∀ events, ∃ u, reputationOf (afterEvents nodeId events db) nodeId = some u ∧ 0 ≤ u ∧ u ≤ 10000 := by
  constructor
  · obtain ⟨c₁, f₁, r₁, h₁⟩ := hrow.events before
    obtain ⟨c₂, f₂, u, f₃, u', hwithout, hwith, -, hu, -⟩ := (h₁.worse hbad).events rest
    rw [← List.foldl_append] at hwithout
    rw [← List.foldl_cons, ← List.foldl_append] at hwith
    exact ⟨u, u', reputationOf_events h hrow _ hwithout, reputationOf_events h hrow _ hwith, hu⟩
  · intro events
    obtain ⟨c₁, f₁, u, hu⟩ := hrow.events events
    exact ⟨u, reputationOf_events h hrow _ hu, hu.nonneg, hu.le_hundred⟩

/-! ### One more verified result -/

/-- The reputation is at most what one more completed task makes of the counters, where the uptime is 0. -/
def NodeRow.Underrated (row : NodeRow) : Prop :=
  ∃ c f r, row.tasks_completed = some c ∧ row.tasks_failed = some f ∧ row.reputation = some r ∧
    (2 * r - 4001) * (c + 1 + f) ≤ 8000 * (c + 1)

theorem le_earnedScore (c f : Nat) (r : Int) : r ≤ earnedScore (some 0) (c + 1) f ↔ (2 * r - 4001) * (c + 1 + f) ≤ 8000 * (c + 1) := by
  have hpos : (0 : ℚ) < c + 1 + f := by positivity
  have hratio : 0 ≤ ((c : ℚ) + 1) / (c + 1 + f) ∧ ((c : ℚ) + 1) / (c + 1 + f) ≤ 1 :=
    ⟨by positivity, (div_le_one hpos).mpr (by linarith [(Nat.cast_nonneg f : (0 : ℚ) ≤ f)])⟩
  have hscore : earnedScore (some 0) (c + 1) f = roundHalfAway (((c : ℚ) + 1) / (c + 1 + f) * 4000 + 2000) := by
    rw [earnedScore, Option.map_some, Option.getD_some, Fixed.value_zero, Fixed.units]
    congr 1
    push_cast
    rw [min_eq_right (by linarith [hratio.2]), max_eq_right (by linarith [hratio.1])]
    norm_num [scoreFormat]
    ring
  rw [hscore, le_roundHalfAway_iff (by linarith [hratio.1])]
  rw [← Int.cast_le (R := ℚ)]
  push_cast
  constructor
  · intro h
    have hmul : (2 * (r : ℚ) - 4001) ≤ 8000 * (((c : ℚ) + 1) / (c + 1 + f)) := by linarith
    have := mul_le_mul_of_nonneg_right hmul hpos.le
    rwa [mul_assoc, div_mul_cancel₀ _ hpos.ne'] at this
  · intro h
    have hdiv : (2 * (r : ℚ) - 4001) ≤ 8000 * (((c : ℚ) + 1) / (c + 1 + f)) := by
      rw [← mul_div_assoc, le_div_iff₀ hpos]
      exact h
    linarith

/-- After any events of a registered node, one more verified result does not lower its reputation, exactly when it
is at most what the counters make. -/
theorem verified_keeps_iff {data : Registration} {capabilities : NodeCapabilities}
    (h : db.nodes.get? nodeId = some (data.row capabilities)) (events : List NodeEvent) :
    (∃ u u', reputationOf (afterEvents nodeId events db) nodeId = some u ∧
      reputationOf (afterEvents nodeId (events ++ [.verified]) db) nodeId = some u' ∧ u ≤ u') ↔
    ∃ row, (afterEvents nodeId events db).nodes.get? nodeId = some row ∧ row.Underrated := by
  have hrow := registered_scored data capabilities
  obtain ⟨c, f, u, hu⟩ := hrow.events events
  have hnext : ((events ++ [NodeEvent.verified]).foldl NodeRow.after (data.row capabilities)).Scored (c + 1) f
      (earnedScore (some 0) (c + 1) f) := by
    have hverified := hu.verified
    rw [events_uptime] at hverified
    rw [List.foldl_append]
    exact hverified
  have hbefore := reputationOf_events h hrow events hu
  have hafter := reputationOf_events h hrow (events ++ [.verified]) hnext
  constructor
  · rintro ⟨v, v', hv, hv', hle⟩
    obtain rfl := Option.some.inj (hbefore.symm.trans hv)
    obtain rfl := Option.some.inj (hafter.symm.trans hv')
    exact ⟨_, afterEvents_row h hrow.loaded events, c, f, u, hu.completed_eq, hu.failed_eq, hu.reputation_eq,
      (le_earnedScore c f u).mp hle⟩
  · rintro ⟨last, hlast, c', f', r', hc', hf', hr', hle⟩
    obtain rfl := Option.some.inj ((afterEvents_row h hrow.loaded events).symm.trans hlast)
    obtain rfl := Option.some.inj (hu.completed_eq.symm.trans hc')
    obtain rfl := Option.some.inj (hu.failed_eq.symm.trans hf')
    obtain rfl := Option.some.inj (hu.reputation_eq.symm.trans hr')
    exact ⟨u, _, hbefore, hafter, (le_earnedScore c f u).mpr hle⟩

end Claims

/-- A registration, and the tables after it. -/
def newcomer : Registration where
  device_id := units "d"
  wallet_address := units "w"
  capabilities := some ⟨false, none, none⟩
  location := none
  located := none
  id := units "n"
  now := 0

def newcomerDb : NetworkDb where
  nodes := Table.empty.insert newcomer.id (newcomer.row ⟨false, none, none⟩)
  tasks := Table.empty
  task_results := Table.empty
  consensus_results := []
  models := Table.empty
  privacy_settings := Table.empty
  users _ := none

/-- The first result of a node raises its reputation. -/
theorem first_result_raises : ∃ u u', reputationOf (afterEvents newcomer.id [] newcomerDb) newcomer.id = some u ∧
    reputationOf (afterEvents newcomer.id ([] ++ [.verified]) newcomerDb) newcomer.id = some u' ∧ u ≤ u' :=
  (verified_keeps_iff rfl []).mpr ⟨_, rfl, 0, 0, 5000, rfl, rfl, rfl, by decide⟩

/-- After a failure the first verified result lowers it: the score of one completed and one failed task is less
than 48. -/
theorem late_result_lowers : ∃ u u', reputationOf (afterEvents newcomer.id [.failed] newcomerDb) newcomer.id = some u ∧
    reputationOf (afterEvents newcomer.id ([.failed] ++ [.verified]) newcomerDb) newcomer.id = some u' ∧ u' < u := by
  have hrow := registered_scored newcomer ⟨false, none, none⟩
  have hget : newcomerDb.nodes.get? newcomer.id = some (newcomer.row ⟨false, none, none⟩) := rfl
  have hbefore := reputationOf_events hget hrow [.failed] hrow.failed
  have hafter := reputationOf_events hget hrow ([NodeEvent.failed] ++ [NodeEvent.verified]) hrow.failed.verified
  refine ⟨_, _, hbefore, hafter, lt_of_not_ge fun hle => ?_⟩
  have hbound := (le_earnedScore 0 1 _).mp hle
  norm_num at hbound

/-- A failure before two verified results does not pay. -/
theorem early_failure_never_pays :
    (∃ u u', reputationOf (afterEvents newcomer.id ([] ++ [.verified, .verified]) newcomerDb) newcomer.id = some u ∧
      reputationOf (afterEvents newcomer.id ([] ++ .failed :: [.verified, .verified]) newcomerDb) newcomer.id = some u' ∧ u' ≤ u) ∧
    ∀ events, ∃ u, reputationOf (afterEvents newcomer.id events newcomerDb) newcomer.id = some u ∧ 0 ≤ u ∧ u ≤ 10000 :=
  misbehaving_never_pays rfl (registered_scored newcomer ⟨false, none, none⟩) [] [.verified, .verified] (by decide)

end GalaxiaAin.Network
