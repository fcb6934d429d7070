import GalaxiaAin.Network.Reports

/-! A verification with every call served: what it records, and what it makes of the nodes'
reputations. -/
namespace GalaxiaAin.Network
open GalaxiaAin.Library
open GalaxiaAin.Library.Async hiding bind

/-- No call fails. -/
abbrev never : Site → Prop := fun _ => False

/-! ### Scores -/

/-- A score of at most 100 has a place in its column. -/
theorem assignScore_ok {x : ℚ} (h0 : 0 ≤ x) (h : x ≤ 100) : ∃ u, assignScore x = .ok u := by
  have hlow : (0 : Int) ≤ scoreFormat.units x := le_roundHalfAway (by
    have : (0 : ℚ) ≤ x * 10 ^ scoreFormat.scale := mul_nonneg h0 scoreFormat.pow_pos.le
    simpa using this)
  have hhigh : scoreFormat.units x ≤ 10000 := scoreFormat.units_le (h.trans_eq (by norm_num [Fixed.value, scoreFormat]))
  have hsmall : (scoreFormat.units x).natAbs < 10 ^ scoreFormat.precision := by
    rw [show 10 ^ scoreFormat.precision = 100000 from rfl]; omega
  rw [assignScore, Fixed.assign, if_pos hsmall]
  exact ⟨_, rfl⟩

theorem computeReputation_range (row : NodeRow) : 0 ≤ computeReputation row ∧ computeReputation row ≤ 100 := by
  simp only [computeReputation]
  split
  · norm_num
  · exact ⟨le_max_left _ _, max_le (by norm_num) (min_le_left _ _)⟩

/-! ### The nodes -/

/-- Every node is as it was, or has the reputation that its counters make. -/
def Fair (s t : Table Uuid NodeRow) : Prop :=
  ∀ nodeId row, s.get? nodeId = some row → ∃ row', t.get? nodeId = some row' ∧
    (row' = row ∨ ∃ u, assignScore (computeReputation row') = .ok u ∧ row'.reputation = some u)

theorem Fair.refl (s : Table Uuid NodeRow) : Fair s s := fun _ row h => ⟨row, h, .inl rfl⟩

theorem Fair.trans {s t u : Table Uuid NodeRow} (h : Fair s t) (h' : Fair t u) : Fair s u := by
  intro nodeId row hrow
  obtain ⟨row', hrow', hcase⟩ := h nodeId row hrow
  obtain ⟨row'', hrow'', hcase'⟩ := h' nodeId row' hrow'
  refine ⟨row'', hrow'', ?_⟩
  rcases hcase' with rfl | hnew
  · exact hcase
  · exact .inr hnew

/-- A program that succeeds, and changes the nodes only, as the relation says. -/
def OnNodes (R : Table Uuid NodeRow → Table Uuid NodeRow → Prop) (p : Async backend Unit) : Prop :=
  ∀ (db : NetworkDb) (rest : List (Session backend)) (out : List Effect),
    p.post never (fun r u l => r = .ok () ∧ (∃ nodes, u = { db with nodes := nodes } ∧ R db.nodes nodes) ∧
      l = ⟨.idle :: rest, out⟩) db ⟨.idle :: rest, out⟩

section Nodes
variable {R : Table Uuid NodeRow → Table Uuid NodeRow → Prop}

theorem onNodes_pure (hrefl : ∀ s, R s s) : OnNodes R (pure ()) :=
  fun db _ _ => ⟨rfl, ⟨db.nodes, rfl, hrefl _⟩, rfl⟩

theorem onNodes_bind (htrans : ∀ s t u, R s t → R t u → R s u) {p q : Async backend Unit} (hp : OnNodes R p) (hq : OnNodes R q) :
    OnNodes R (p >>= fun _ => q) := by
  intro db rest out
  rw [post_bind]
  refine post_mono (hp db rest out) fun r u l h => ?_
  obtain ⟨rfl, ⟨nodes, rfl, hR⟩, rfl⟩ := h
  rw [next_ok]
  refine post_mono (hq _ rest out) fun r u l h => ?_
  obtain ⟨rfl, ⟨nodes', rfl, hR'⟩, rfl⟩ := h
  exact ⟨rfl, ⟨nodes', rfl, htrans _ _ _ hR hR'⟩, rfl⟩

/-- An update of a node whose values fit their columns. -/
theorem updateNode_post {nodeId : Uuid} {set : NodeRow → Except NetworkError NodeRow} (hset : ∀ row, ∃ row', set row = .ok row')
    {Q : Post backend Unit} {db : NetworkDb} {rest : List (Session backend)} {out : List Effect} {σ : Site}
    (hnone : db.nodes.get? nodeId = none → Q (.ok ()) db ⟨.idle :: rest, out⟩)
    (hsome : ∀ row row', db.nodes.get? nodeId = some row → set row = .ok row' →
      Q (.ok ()) { db with nodes := db.nodes.modify nodeId fun _ => row' } ⟨.idle :: rest, out⟩) :
    (Async.query σ (updateNode nodeId set)).post never Q db ⟨.idle :: rest, out⟩ := by
  rw [post_query_idle]
  refine ⟨?_, fun h => h.elim⟩
  rw [Stmt.reply, Stmt.effect]
  simp only [updateNode]
  cases hget : db.nodes.get? nodeId with
  | none => exact hnone hget
  | some row =>
    obtain ⟨row', hrow'⟩ := hset row
    simp only [hrow']
    exact hsome row row' hget hrow'

theorem penalizeNodes_onNodes (penalty : Int) (nodeIds : List Uuid) : OnNodes (fun _ _ => True) (penalizeNodes penalty nodeIds) := by
  induction nodeIds with
  | nil => exact onNodes_pure fun _ => trivial
  | cons nodeId rest ih =>
    refine onNodes_bind (fun _ _ _ _ _ => trivial) (fun db rest out => ?_) ih
    refine updateNode_post (fun row => ⟨_, rfl⟩) (fun _ => ?_) fun row row' _ _ => ?_
    · exact ⟨rfl, ⟨_, rfl, trivial⟩, rfl⟩
    · exact ⟨rfl, ⟨_, rfl, trivial⟩, rfl⟩

/-- A node whose count goes up has its reputation computed from it. -/
theorem reward_onNodes (nodeId : Uuid) : OnNodes Fair (do
    Async.query .countCompleted (countCompleted nodeId)
    updateNodeReputation nodeId) := by
  intro db rest out
  rw [post_bind]
  have hsame (s : NetworkDb) : (selectNodeRow nodeId).effect () s s = s := rfl
  have hnone (h : db.nodes.get? nodeId = none) : (updateNodeReputation nodeId).post never (fun r u l => r = .ok () ∧
      (∃ nodes, u = { db with nodes := nodes } ∧ Fair db.nodes nodes) ∧ l = ⟨.idle :: rest, out⟩) db ⟨.idle :: rest, out⟩ := by
    rw [updateNodeReputation, post_withClient]
    refine ⟨?_, fun h => h.elim⟩
    rw [post_bind, post_query_idle]
    refine ⟨?_, fun h => h.elim⟩
    have hreply : (selectNodeRow nodeId).reply () db = .ok none := by rw [← h]; rfl
    rw [show backend.initial = () from rfl, hreply, hsame, next_ok]
    exact ⟨rfl, ⟨db.nodes, rfl, .refl _⟩, rfl⟩
  refine updateNode_post (fun row => ⟨_, rfl⟩) (fun h => hnone h) fun row row' hget hset => ?_
  obtain rfl := Except.ok.inj hset
  rw [next_ok, updateNodeReputation, post_withClient]
  refine ⟨?_, fun h => h.elim⟩
  rw [post_bind, post_query_idle]
  refine ⟨?_, fun h => h.elim⟩
  have hcounted : (db.nodes.modify nodeId fun _ => { row with tasks_completed := row.tasks_completed.map (· + 1) }).get? nodeId =
      some { row with tasks_completed := row.tasks_completed.map (· + 1) } := by
    rw [Table.get?_modify_self, hget]; rfl
  have hreply : (selectNodeRow nodeId).reply () { db with nodes := db.nodes.modify nodeId fun _ =>
      { row with tasks_completed := row.tasks_completed.map (· + 1) } } =
        .ok (some { row with tasks_completed := row.tasks_completed.map (· + 1) }) := by rw [← hcounted]; rfl
  rw [show backend.initial = () from rfl, hreply, hsame, next_ok]
  obtain ⟨u, hu⟩ := assignScore_ok (computeReputation_range { row with tasks_completed := row.tasks_completed.map (· + 1) }).1
    (computeReputation_range { row with tasks_completed := row.tasks_completed.map (· + 1) }).2
  have hset (row : NodeRow) (x : ℚ) (hx : assignScore x = .ok u) : (assignScore x).map (fun u => { row with reputation := some u }) =
      .ok { row with reputation := some u } := by rw [hx]; rfl
  refine updateNode_post (fun row' => ⟨_, hset row' _ hu⟩) (fun h => ?_) fun row₁ row₂ h₁ h₂ => ?_
  · rw [hcounted] at h; cases h
  · rw [hcounted] at h₁
    obtain rfl := Option.some.inj h₁
    rw [hset _ _ hu] at h₂
    obtain rfl := Except.ok.inj h₂
    refine ⟨rfl, ⟨_, rfl, fun nodeId' old hold => ?_⟩, rfl⟩
    by_cases hn : nodeId' = nodeId
    · subst hn
      rw [hget] at hold
      obtain rfl := Option.some.inj hold
      refine ⟨{ row with tasks_completed := row.tasks_completed.map (· + 1), reputation := some u }, ?_, .inr ⟨u, hu, rfl⟩⟩
      rw [Table.get?_modify_self, hcounted]
      rfl
    · exact ⟨old, by rw [Table.get?_modify_ne _ _ hn, Table.get?_modify_ne _ _ hn, hold], .inl rfl⟩

theorem rewardNodes_onNodes (nodeIds : List Uuid) : OnNodes Fair (rewardNodes nodeIds) := by
  induction nodeIds with
  | nil => exact onNodes_pure Fair.refl
  | cons nodeId rest ih =>
    have h : OnNodes Fair _ := onNodes_bind (fun _ _ _ h h' => h.trans h') (reward_onNodes nodeId) ih
    intro db rest' out
    have hpost := h db rest' out
    simp only [post_bind] at hpost
    rw [rewardNodes, post_bind]
    refine post_mono hpost fun r u l hr => ?_
    cases r with
    | error e => exact hr
    | ok a => rw [next_ok, post_bind]; exact hr

end Nodes

/-! ### What a verification records -/

section Recording
variable {db : NetworkDb} {rest : List (Session backend)} {out : List Effect} {key : Uuid} {results : List PendingResult}

theorem insertConsensus_post {result : ConsensusResult} (htask : (db.tasks.get? result.task_id).isSome)
    {Q : Post backend Unit} {σ : Site}
    (h : Q (.ok ()) { db with consensus_results := db.consensus_results ++ [result] } ⟨.idle :: rest, out⟩) :
    (Async.query σ (insertConsensus result)).post never Q db ⟨.idle :: rest, out⟩ := by
  rw [post_query_idle]
  refine ⟨?_, fun h => h.elim⟩
  have hnone : ¬ (db.tasks.get? result.task_id).isNone := by simpa using Option.isSome_iff_ne_none.mp htask
  rw [Stmt.reply, Stmt.effect]
  simp only [insertConsensus, Stmt.statement]
  rw [if_neg hnone]
  exact h

/-- A majority is recorded, and returned. -/
theorem reachConsensus_post (htask : (db.tasks.get? key).isSome) (kind : VerificationKind) (majorityOutput : Text)
    {majorityNodes : List Uuid} (hne : results ≠ []) (hle : majorityNodes.length ≤ results.length) :
    (reachConsensus kind key results majorityOutput majorityNodes).post never
      (fun r u _ => ∃ confidence, assignScore ((majorityNodes.length : ℚ) / results.length * 100) = .ok confidence ∧
        r = .ok ⟨true, some majorityOutput, some ((majorityNodes.length : ℚ) / results.length * 100),
          some (majorityResult key results majorityOutput majorityNodes confidence).consensus_type⟩ ∧
        u.consensus_results = db.consensus_results ++ [majorityResult key results majorityOutput majorityNodes confidence] ∧
        (disagreeingNodes results majorityNodes = [] → Fair db.nodes u.nodes)) db ⟨.idle :: rest, out⟩ := by
  have hpos : (0 : ℚ) < results.length := by exact_mod_cast List.length_pos_iff.mpr hne
  have hshare : (majorityNodes.length : ℚ) / results.length * 100 ≤ 100 := by
    have hone : (majorityNodes.length : ℚ) / results.length ≤ 1 := (div_le_one hpos).mpr (by exact_mod_cast hle)
    linarith
  obtain ⟨confidence, hconfidence⟩ := assignScore_ok (by positivity) hshare
  rw [reachConsensus, post_bind, post_query_idle]
  refine ⟨?_, fun h => h.elim⟩
  have hreply : (markResults key majorityNodes kind.scores).reply () db = .ok () := rfl
  rw [show backend.initial = () from rfl, hreply, next_ok, post_bind]
  refine post_mono (rewardNodes_onNodes majorityNodes _ rest out) fun r u l h => ?_
  obtain ⟨rfl, ⟨nodes, rfl, hfair⟩, rfl⟩ := h
  rw [next_ok, post_bind]
  have hpenalty : (penalizeNodes kind.penalty (disagreeingNodes results majorityNodes)).post never (fun r u l => r = .ok () ∧
      (∃ nodes', u = { (markResults key majorityNodes kind.scores).effect () db db with nodes := nodes' } ∧
        (disagreeingNodes results majorityNodes = [] → nodes' = nodes)) ∧ l = ⟨.idle :: rest, out⟩)
      { (markResults key majorityNodes kind.scores).effect () db db with nodes := nodes } ⟨.idle :: rest, out⟩ := by
    by_cases hnil : disagreeingNodes results majorityNodes = []
    · rw [hnil]
      exact ⟨rfl, ⟨nodes, rfl, fun _ => rfl⟩, rfl⟩
    · refine post_mono (penalizeNodes_onNodes kind.penalty _ _ rest out) fun r u l h => ?_
      obtain ⟨hr, ⟨nodes', hu, -⟩, hl⟩ := h
      exact ⟨hr, ⟨nodes', hu, fun h => absurd h hnil⟩, hl⟩
  refine post_mono hpenalty fun r u l h => ?_
  obtain ⟨rfl, ⟨nodes', rfl, hnodes⟩, rfl⟩ := h
  rw [next_ok]
  dsimp only
  rw [hconfidence, post_bind, post_ofExcept, next_ok, post_bind]
  refine insertConsensus_post htask ?_
  rw [next_ok, post_bind, post_query_idle]
  refine ⟨?_, fun h => h.elim⟩
  exact ⟨confidence, rfl, rfl, rfl, fun hnil => (hnodes hnil).symm ▸ hfair⟩

/-- A tiebreaker is recorded where there are two nodes for it; otherwise the task fails. -/
theorem runTiebreaker_served {l : Local backend} (htask : (db.tasks.get? key).isSome) :
    (runTiebreaker key results).post never (fun r u _ => u.nodes = db.nodes ∧
      if 2 ≤ (tiebreakers db (results.map (·.node_id))).length then
        r = .ok ⟨true, some (commonOutput results), some 60, some .tiebreaker⟩ ∧
          u.consensus_results = db.consensus_results ++ [tiebreakerResult key results]
      else r = .ok noConsensus ∧ u.consensus_results = db.consensus_results) db l := by
  rw [runTiebreaker, post_withClient]
  refine ⟨?_, fun h => h.elim⟩
  rw [post_bind, post_query_idle]
  refine ⟨?_, fun h => h.elim⟩
  have hreply : (selectTask (.uuid key)).reply () db = .ok ((db.tasks.get? key).map fun task => (key, task)) := rfl
  have hsame : (selectTask (.uuid key)).effect () db db = db := rfl
  rw [show backend.initial = () from rfl, hreply, hsame, next_ok]
  obtain ⟨task, hget⟩ := Option.isSome_iff_exists.mp htask
  rw [hget]
  change (query (B := backend) Site.selectTiebreakers (selectTiebreakers (results.map (·.node_id))) >>= _).post never _ db _
  rw [post_bind, post_query_idle]
  refine ⟨?_, fun h => h.elim⟩
  rw [selectTiebreakers, Stmt.reply_select, Stmt.effect_select, next_ok]
  by_cases hfew : 2 ≤ (tiebreakers db (results.map (·.node_id))).length
  · rw [if_neg (by omega), post_bind]
    refine insertConsensus_post htask ?_
    rw [next_ok, post_bind, post_query_idle]
    refine ⟨?_, fun h => h.elim⟩
    exact ⟨rfl, by rw [if_pos hfew]; exact ⟨rfl, rfl⟩⟩
  · rw [if_pos (by omega), post_bind, post_query_idle]
    refine ⟨?_, fun h => h.elim⟩
    exact ⟨rfl, by rw [if_neg hfew]; exact ⟨rfl, rfl⟩⟩

end Recording

end GalaxiaAin.Network
