import GalaxiaAin.Library.EditDistance
import GalaxiaAin.Network.Majority
import GalaxiaAin.Network.Tiebreak

/-! Similarity. The matrix gives the edit distance, so similarity is symmetric; and the greedy
pass leaves every node after its first pair, so a cluster is one pair of similar results. -/
namespace GalaxiaAin.Network
open GalaxiaAin.Library
open GalaxiaAin.Library.Async hiding bind

/-! ### The matrix -/

theorem fill_row (char : UInt16) (xs ys rest : Text) :
    nextRow.fill char rest (editDistance xs ys) (editDistance (char :: xs) ys) (EditDistance.row xs ys rest) =
      EditDistance.row (char :: xs) ys rest := by
  induction rest generalizing ys with
  | nil => rfl
  | cons c rest ih =>
    rw [EditDistance.row, EditDistance.row, nextRow.fill, ← EditDistance.cons_cons, ih]

theorem nextRow_row (char : UInt16) (xs str1 : Text) : nextRow char str1 (editDistance xs [] :: EditDistance.row xs [] str1) =
    editDistance (char :: xs) [] :: EditDistance.row (char :: xs) [] str1 := by
  have hcorner : editDistance xs [] + 1 = editDistance (char :: xs) [] := by
    rw [EditDistance.nil_right, EditDistance.nil_right, List.length_cons]
  rw [nextRow, hcorner, fill_row]

/-- After a prefix of the second text, its row. -/
theorem matrix_row (str1 str2 : Text) : str2.foldl (fun row char => nextRow char str1 row) (List.range (str1.length + 1)) =
    editDistance str2.reverse [] :: EditDistance.row str2.reverse [] str1 := by
  induction str2 using List.reverseRecOn with
  | nil =>
    rw [List.foldl_nil, List.reverse_nil, EditDistance.row_nil, List.range_succ_eq_map, EditDistance.nil_left]
    refine congrArg₂ _ rfl (List.map_congr_left fun i _ => ?_)
    rw [List.length_nil]; omega
  | append_singleton str2 char ih =>
    rw [List.foldl_append, ih, List.foldl_cons, List.foldl_nil, nextRow_row, List.reverse_append]
    rfl

theorem levenshteinDistance_eq (str1 str2 : Text) : levenshteinDistance str1 str2 = editDistance str2.reverse str1.reverse := by
  rw [levenshteinDistance, matrix_row, EditDistance.getLastD_row, List.append_nil]

theorem levenshteinDistance_comm (str1 str2 : Text) : levenshteinDistance str1 str2 = levenshteinDistance str2 str1 := by
  rw [levenshteinDistance_eq, levenshteinDistance_eq, EditDistance.comm]

theorem levenshteinDistance_self (str : Text) : levenshteinDistance str str = 0 := by
  rw [levenshteinDistance_eq, EditDistance.self]

/-- The similarity depends on the length of the longer text. -/
theorem calculateSimilarity_eq (str1 str2 : Text) : calculateSimilarity str1 str2 =
    if max str1.length str2.length = 0 then 100
    else max 0 (min 100 (((max str1.length str2.length : Nat) - (levenshteinDistance str1 str2 : ℚ)) /
      (max str1.length str2.length : Nat) * 100)) := by
  have hlonger : (if str2.length < str1.length then str1 else str2).length = max str1.length str2.length := by
    split <;> omega
  simp only [calculateSimilarity, hlonger]

theorem calculateSimilarity_comm (str1 str2 : Text) : calculateSimilarity str1 str2 = calculateSimilarity str2 str1 := by
  rw [calculateSimilarity_eq, calculateSimilarity_eq, max_comm, levenshteinDistance_comm]

theorem calculateSimilarity_self (str : Text) : calculateSimilarity str str = 100 := by
  rw [calculateSimilarity_eq, levenshteinDistance_self, max_self]
  split
  · rfl
  case isFalse h =>
    have hne : (str.length : ℚ) ≠ 0 := by exact_mod_cast h
    rw [Nat.cast_zero, sub_zero, div_self hne]
    norm_num

theorem levenshteinDistance_isLeast (str1 str2 : Text) : IsLeast {n | Edits n str1 str2} (levenshteinDistance str1 str2) := by
  rw [levenshteinDistance_eq, EditDistance.comm]
  simpa only [Edits.reverse_iff] using EditDistance.isLeast str1.reverse str2.reverse

theorem levenshteinDistance_le (str1 str2 : Text) : levenshteinDistance str1 str2 ≤ max str1.length str2.length := by
  rw [levenshteinDistance_eq, EditDistance.comm]
  simpa only [List.length_reverse] using EditDistance.le_max_length str1.reverse str2.reverse

theorem levenshteinDistance_eq_zero {str1 str2 : Text} : levenshteinDistance str1 str2 = 0 ↔ str1 = str2 := by
  rw [levenshteinDistance_eq, EditDistance.comm, EditDistance.eq_zero_iff, List.reverse_inj]

/-- The similarity of two texts before it is clamped. -/
def unclamped (str1 str2 : Text) : ℚ :=
  ((max str1.length str2.length : Nat) - (levenshteinDistance str1 str2 : ℚ)) / (max str1.length str2.length : Nat) * 100

theorem unclamped_mem (str1 str2 : Text) : 0 ≤ unclamped str1 str2 ∧ unclamped str1 str2 ≤ 100 := by
  have hdistance : (levenshteinDistance str1 str2 : ℚ) ≤ (max str1.length str2.length : Nat) := by
    exact_mod_cast levenshteinDistance_le str1 str2
  have hlonger : (0 : ℚ) ≤ (max str1.length str2.length : Nat) := Nat.cast_nonneg _
  have hpositive : (0 : ℚ) ≤ levenshteinDistance str1 str2 := Nat.cast_nonneg _
  have hratio : 0 ≤ ((max str1.length str2.length : Nat) - (levenshteinDistance str1 str2 : ℚ)) / (max str1.length str2.length : Nat) ∧
      ((max str1.length str2.length : Nat) - (levenshteinDistance str1 str2 : ℚ)) / (max str1.length str2.length : Nat) ≤ 1 :=
    ⟨div_nonneg (sub_nonneg.mpr hdistance) hlonger, div_le_one_of_le₀ (by linarith only [hpositive]) hlonger⟩
  rw [unclamped]
  constructor
  · linarith only [hratio.1]
  · linarith only [hratio.2]

/-- The clamp changes nothing. -/
theorem calculateSimilarity_unclamped (str1 str2 : Text) :
    calculateSimilarity str1 str2 = if max str1.length str2.length = 0 then 100 else unclamped str1 str2 := by
  obtain ⟨hlow, hhigh⟩ := unclamped_mem str1 str2
  rw [calculateSimilarity_eq, ← unclamped, min_eq_right hhigh, max_eq_right hlow]

theorem calculateSimilarity_eq_100 {str1 str2 : Text} : calculateSimilarity str1 str2 = 100 ↔ str1 = str2 := by
  refine ⟨fun h => ?_, fun h => by rw [h, calculateSimilarity_self]⟩
  rw [calculateSimilarity_unclamped] at h
  split at h
  case isTrue hempty =>
    have h1 : str1.length = 0 := by omega
    have h2 : str2.length = 0 := by omega
    rw [List.length_eq_zero_iff.mp h1, List.length_eq_zero_iff.mp h2]
  case isFalse hlonger =>
    have hne : ((max str1.length str2.length : Nat) : ℚ) ≠ 0 := by exact_mod_cast hlonger
    rw [unclamped, sub_div, div_self hne] at h
    have hzero : (levenshteinDistance str1 str2 : ℚ) / (max str1.length str2.length : Nat) = 0 := by linarith only [h]
    rcases div_eq_zero_iff.mp hzero with hd | hd
    · exact levenshteinDistance_eq_zero.mp (by exact_mod_cast hd)
    · exact absurd hd hne

/-- The matrix gives the least number of insertions, deletions and substitutions, and the
similarity is what that number leaves of the longer text. -/
theorem similarity_by_edits (str1 str2 : Text) :
    IsLeast {n | Edits n str1 str2} (levenshteinDistance str1 str2) ∧
      calculateSimilarity str1 str2 = calculateSimilarity str2 str1 ∧
      (0 ≤ unclamped str1 str2 ∧ unclamped str1 str2 ≤ 100 ∧
        calculateSimilarity str1 str2 = if max str1.length str2.length = 0 then 100 else unclamped str1 str2) ∧
      (calculateSimilarity str1 str2 = 100 ↔ str1 = str2) := by
  obtain ⟨hlow, hhigh⟩ := unclamped_mem str1 str2
  exact ⟨levenshteinDistance_isLeast str1 str2, calculateSimilarity_comm str1 str2,
    ⟨hlow, hhigh, calculateSimilarity_unclamped str1 str2⟩, calculateSimilarity_eq_100⟩

example : levenshteinDistance (units "kitten") (units "sitting") = 3 := by decide

/-! ### Clusters -/

/-- Two results in the order of the list whose outputs are similar. -/
def SimilarPair (results : List PendingResult) (p : Uuid × Uuid) : Prop :=
  ∃ r r', [r, r'].Sublist results ∧ 90 ≤ calculateSimilarity r.output_data r'.output_data ∧ p = (r.node_id, r'.node_id)

theorem mem_similarPairs {results : List PendingResult} {p : Uuid × Uuid} (h : p ∈ similarPairs results) :
    SimilarPair results p := by
  induction results with
  | nil => cases h
  | cons r rest ih =>
    rw [similarPairs] at h
    rcases List.mem_append.mp h with h | h
    · obtain ⟨r', hr', hsome⟩ := List.mem_filterMap.mp h
      split at hsome
      case isTrue hsimilar =>
        exact ⟨r, r', (List.singleton_sublist.mpr hr').cons_cons r, hsimilar, (Option.some.inj hsome).symm⟩
      case isFalse => cases hsome
    · obtain ⟨x, y, hsub, hsimilar, hp⟩ := ih h
      exact ⟨x, y, hsub.cons r, hsimilar, hp⟩

/-- A pair of nodes of no cluster is a cluster of its own. -/
theorem addPair_new {node1 node2 : Uuid} {clusters : List (List Uuid)}
    (h : ∀ cluster ∈ clusters, node1 ∉ cluster ∧ node2 ∉ cluster) :
    addPair node1 node2 clusters = clusters ++ [addNode [node1] node2] := by
  induction clusters with
  | nil => rfl
  | cons cluster rest ih =>
    obtain ⟨h1, h2⟩ := h cluster List.mem_cons_self
    rw [addPair, if_neg (by simp [h1, h2]), ih fun c hc => h c (List.mem_cons_of_mem _ hc), List.cons_append]

/-- The pass adds one cluster for a pair, and keeps what it has. -/
theorem mem_findClusters {clusters : List (List Uuid)} {processed : List Uuid} {pairs : List (Uuid × Uuid)}
    (hprocessed : ∀ cluster ∈ clusters, ∀ node ∈ cluster, node ∈ processed) {cluster : List Uuid}
    (h : cluster ∈ findClusters clusters processed pairs) : cluster ∈ clusters ∨ ∃ p ∈ pairs, cluster = addNode [p.1] p.2 := by
  induction pairs generalizing clusters processed with
  | nil => exact .inl h
  | cons p rest ih =>
    obtain ⟨node1, node2⟩ := p
    rw [findClusters] at h
    have hlater : (∃ p ∈ rest, cluster = addNode [p.1] p.2) → ∃ p ∈ (node1, node2) :: rest, cluster = addNode [p.1] p.2 :=
      fun ⟨p, hp, hc⟩ => ⟨p, List.mem_cons_of_mem _ hp, hc⟩
    split at h
    · exact (ih hprocessed h).imp_right hlater
    case isFalse hnew =>
      simp only [Bool.or_eq_true, List.contains_iff_mem, not_or] at hnew
      have hfree : ∀ cluster ∈ clusters, node1 ∉ cluster ∧ node2 ∉ cluster := fun c hc =>
        ⟨fun hmem => hnew.1 (hprocessed c hc _ hmem), fun hmem => hnew.2 (hprocessed c hc _ hmem)⟩
      rw [addPair_new hfree] at h
      have hnext : ∀ c ∈ clusters ++ [addNode [node1] node2], ∀ node ∈ c, node ∈ node2 :: node1 :: processed := by
        intro c hc node hnode
        rcases List.mem_append.mp hc with hc | hc
        · exact List.mem_cons_of_mem _ (List.mem_cons_of_mem _ (hprocessed c hc node hnode))
        · rw [List.mem_singleton.mp hc, addNode] at hnode
          split at hnode
          · rw [List.mem_singleton.mp hnode]
            exact List.mem_cons_of_mem _ List.mem_cons_self
          · rcases List.mem_cons.mp hnode with rfl | hnode
            · exact List.mem_cons_of_mem _ List.mem_cons_self
            · rw [List.mem_singleton.mp hnode]
              exact List.mem_cons_self
      rcases ih hnext h with hmem | hmem
      · rcases List.mem_append.mp hmem with hmem | hmem
        · exact .inl hmem
        · exact .inr ⟨_, List.mem_cons_self, List.mem_singleton.mp hmem⟩
      · exact .inr (hlater hmem)

theorem findClusters_ne_nil {clusters : List (List Uuid)} (processed : List Uuid) (pairs : List (Uuid × Uuid))
    (h : clusters ≠ []) : findClusters clusters processed pairs ≠ [] := by
  induction pairs generalizing clusters processed with
  | nil => exact h
  | cons p rest ih =>
    rw [findClusters]
    split
    · exact ih _ h
    · refine ih _ ?_
      cases clusters with
      | nil => exact absurd rfl h
      | cons cluster clusters => rw [addPair]; split <;> simp

/-- The largest cluster, where there is one. -/
def sortedClusters (results : List PendingResult) : List (List Uuid) :=
  (findClusters [] [] (similarPairs results)).mergeSort fun a b => decide (b.length ≤ a.length)

/-- Every cluster is a pair of similar results. -/
theorem cluster_pair {results : List PendingResult} (hnodes : (results.map (·.node_id)).Nodup) {cluster : List Uuid}
    (h : cluster ∈ sortedClusters results) : ∃ r r', [r, r'].Sublist results ∧
      90 ≤ calculateSimilarity r.output_data r'.output_data ∧ r.node_id ≠ r'.node_id ∧ cluster = [r.node_id, r'.node_id] := by
  have hmem : cluster ∈ findClusters [] [] (similarPairs results) := (List.mergeSort_perm _ _).mem_iff.mp h
  rcases mem_findClusters (by simp) hmem with hnone | ⟨p, hp, hcluster⟩
  · cases hnone
  · obtain ⟨r, r', hsub, hsimilar, rfl⟩ := mem_similarPairs hp
    have hne : r.node_id ≠ r'.node_id := by
      have hpair := hnodes.sublist (hsub.map (·.node_id))
      simpa using hpair
    refine ⟨r, r', hsub, hsimilar, hne, ?_⟩
    rw [hcluster, addNode, if_neg (by simpa using Ne.symm hne)]
    rfl

/-! ### Soundness -/

/-- The output of the first result whose node is in the cluster. -/
def clusterOutput (results : List PendingResult) (cluster : List Uuid) : Text :=
  ((results.find? fun r => cluster.contains r.node_id).map (·.output_data)).getD []

/-- Of a pair in the list's order it is the output of the first. -/
theorem clusterOutput_pair {results : List PendingResult} (hnodes : (results.map (·.node_id)).Nodup) {r r' : PendingResult}
    (hsub : [r, r'].Sublist results) : clusterOutput results [r.node_id, r'.node_id] = r.output_data := by
  have hfound : results.find? (fun x => [r.node_id, r'.node_id].contains x.node_id) = some r := by
    induction results with
    | nil => cases hsub
    | cons x rest ih =>
      rw [List.map_cons, List.nodup_cons] at hnodes
      rw [List.find?_cons]
      cases hsub with
      | cons _ hsub =>
        have hr : r ∈ rest := hsub.subset List.mem_cons_self
        have hr' : r' ∈ rest := hsub.subset (List.mem_cons_of_mem _ List.mem_cons_self)
        have hout : [r.node_id, r'.node_id].contains x.node_id = false := by
          have h1 : x.node_id ≠ r.node_id := fun he => hnodes.1 (he ▸ List.mem_map_of_mem hr)
          have h2 : x.node_id ≠ r'.node_id := fun he => hnodes.1 (he ▸ List.mem_map_of_mem hr')
          simp [h1, h2]
        rw [hout]
        exact ih hnodes.2 hsub
      | cons_cons _ hsub => simp
  rw [clusterOutput, hfound]
  rfl

/-- The rows and the nodes that a consensus other than a tiebreaker's must have. -/
structure Sound (results : List PendingResult) (row : ConsensusResult) : Prop where
  distinct : row.agreeing_nodes.Nodup
  threshold : consensusThreshold results.length ≤ row.agreeing_nodes.length
  similar : ∀ r ∈ results, ∀ r' ∈ results, r.node_id ∈ row.agreeing_nodes → r'.node_id ∈ row.agreeing_nodes →
    90 ≤ calculateSimilarity r.output_data r'.output_data
  final_similar : ∀ r ∈ results, r.node_id ∈ row.agreeing_nodes → 90 ≤ calculateSimilarity r.output_data row.final_output
  final_theirs : ∃ r ∈ results, r.node_id ∈ row.agreeing_nodes ∧ r.output_data = row.final_output
  partition : (row.agreeing_nodes ++ row.disagreeing_nodes).Perm (results.map (·.node_id))

/-- The nodes outside a cluster of reporting nodes are the others. -/
theorem disagreeing_partition {results : List PendingResult} {cluster : List Uuid} (hdistinct : cluster.Nodup)
    (hnodes : (results.map (·.node_id)).Nodup) (hsub : ∀ node ∈ cluster, node ∈ results.map (·.node_id)) :
    (cluster ++ disagreeingNodes results cluster).Perm (results.map (·.node_id)) := by
  have hsplit : ((results.map (·.node_id)).filter (cluster.contains ·) ++ (results.map (·.node_id)).filter
      (!cluster.contains ·)).Perm (results.map (·.node_id)) := List.filter_append_perm _ _
  have hothers : disagreeingNodes results cluster = (results.map (·.node_id)).filter (!cluster.contains ·) := by
    rw [disagreeingNodes, List.filter_map]; rfl
  have hmembers : cluster.Perm ((results.map (·.node_id)).filter (cluster.contains ·)) := by
    refine (List.perm_ext_iff_of_nodup hdistinct (hnodes.filter _)).mpr fun node => ?_
    rw [List.mem_filter, List.contains_iff_mem]
    exact ⟨fun h => ⟨hsub node h, h⟩, fun h => h.2⟩
  rw [hothers]
  exact (hmembers.append_right _).trans hsplit

/-- The row of a cluster that reaches the threshold. -/
theorem cluster_sound {results : List PendingResult} (hnodes : (results.map (·.node_id)).Nodup) {cluster : List Uuid}
    (hcluster : cluster ∈ sortedClusters results) (hreached : consensusThreshold results.length ≤ cluster.length)
    (key : Uuid) (confidence : Int) :
    Sound results (majorityResult key results (clusterOutput results cluster) cluster confidence) := by
  obtain ⟨r, r', hsub, hsimilar, hne, rfl⟩ := cluster_pair hnodes hcluster
  have hr : r ∈ results := hsub.subset List.mem_cons_self
  have hr' : r' ∈ results := hsub.subset (List.mem_cons_of_mem _ List.mem_cons_self)
  have hdistinct : [r.node_id, r'.node_id].Nodup := by simpa using hne
  have hmember (x : PendingResult) (hx : x ∈ results) (hmem : x.node_id ∈ [r.node_id, r'.node_id]) : x = r ∨ x = r' := by
    rcases List.mem_cons.mp hmem with he | he
    · exact .inl (List.inj_on_of_nodup_map hnodes hx hr he)
    · exact .inr (List.inj_on_of_nodup_map hnodes hx hr' (List.mem_singleton.mp he))
  have hself (x : PendingResult) : 90 ≤ calculateSimilarity x.output_data x.output_data := by
    rw [calculateSimilarity_self]; norm_num
  have hsimilar' : 90 ≤ calculateSimilarity r'.output_data r.output_data := by rwa [calculateSimilarity_comm]
  have houtput : (majorityResult key results (clusterOutput results [r.node_id, r'.node_id]) [r.node_id, r'.node_id]
      confidence).final_output = r.output_data := clusterOutput_pair hnodes hsub
  refine ⟨hdistinct, hreached, fun x hx y hy hmem hmem' => ?_, fun x hx hmem => ?_, ⟨r, hr, List.mem_cons_self, houtput.symm⟩,
    disagreeing_partition hdistinct hnodes fun node hnode => ?_⟩
  · rcases hmember x hx hmem with rfl | rfl <;> rcases hmember y hy hmem' with rfl | rfl
    · exact hself _
    · exact hsimilar
    · exact hsimilar'
    · exact hself _
  · rw [houtput]
    rcases hmember x hx hmem with rfl | rfl
    · exact hself _
    · exact hsimilar'
  · rcases List.mem_cons.mp hnode with rfl | hnode
    · exact List.mem_map_of_mem hr
    · rw [List.mem_singleton.mp hnode]
      exact List.mem_map_of_mem hr'

/-! ### Whatever fails -/

/-- A program that changes the nodes only, whatever fails in it. -/
def NodesOnly (p : Async backend Unit) : Prop :=
  ∀ (db : NetworkDb) (rest : List (Session backend)) (out : List Effect),
    p.post anywhere (fun _ u l => (∃ nodes, u = { db with nodes := nodes }) ∧ l = ⟨.idle :: rest, out⟩) db ⟨.idle :: rest, out⟩

theorem nodesOnly_pure : NodesOnly (pure ()) := fun db _ _ => ⟨⟨db.nodes, rfl⟩, rfl⟩

theorem nodesOnly_bind {p : Async backend Unit} {f : Unit → Async backend Unit} (hp : NodesOnly p) (hf : ∀ a, NodesOnly (f a)) :
    NodesOnly (p >>= f) := by
  intro db rest out
  rw [post_bind]
  refine post_mono (hp db rest out) fun r u l h => ?_
  obtain ⟨⟨nodes, rfl⟩, rfl⟩ := h
  cases r with
  | error e => exact ⟨⟨nodes, rfl⟩, rfl⟩
  | ok a =>
    rw [next_ok]
    refine post_mono (hf a _ rest out) fun r u l h => ?_
    obtain ⟨⟨nodes', rfl⟩, rfl⟩ := h
    exact ⟨⟨nodes', rfl⟩, rfl⟩

theorem nodesOnly_updateNode (σ : Site) (nodeId : Uuid) (set : NodeRow → Except NetworkError NodeRow) :
    NodesOnly (Async.query σ (updateNode nodeId set)) := by
  intro db rest out
  rw [post_query_idle]
  exact ⟨⟨updateNode_effect nodeId set db db, rfl⟩, fun _ _ => ⟨⟨db.nodes, rfl⟩, rfl⟩⟩

theorem nodesOnly_updateNodeReputation (nodeId : Uuid) : NodesOnly (updateNodeReputation nodeId) := by
  intro db rest out
  rw [updateNodeReputation, post_withClient, post_bind, post_query_idle]
  refine ⟨⟨?_, fun _ _ => ⟨⟨db.nodes, rfl⟩, rfl⟩⟩, fun _ _ => ⟨⟨db.nodes, rfl⟩, rfl⟩⟩
  have hreply : (selectNodeRow nodeId).reply () db = .ok (db.nodes.get? nodeId) := rfl
  have hsame : (selectNodeRow nodeId).effect () db db = db := rfl
  rw [show backend.initial = () from rfl, hreply, hsame, next_ok]
  cases db.nodes.get? nodeId with
  | none => exact ⟨⟨db.nodes, rfl⟩, rfl⟩
  | some row =>
    refine post_mono (nodesOnly_updateNode .updateReputation nodeId _ db (.idle :: rest) out) fun r u l h => ?_
    obtain ⟨hu, rfl⟩ := h
    exact ⟨hu, rfl⟩

theorem nodesOnly_rewardNodes (nodeIds : List Uuid) : NodesOnly (rewardNodes nodeIds) := by
  induction nodeIds with
  | nil => exact nodesOnly_pure
  | cons nodeId rest ih =>
    exact nodesOnly_bind (nodesOnly_updateNode _ _ _) fun _ => nodesOnly_bind (nodesOnly_updateNodeReputation nodeId) fun _ => ih

theorem nodesOnly_penalizeNodes (penalty : Int) (nodeIds : List Uuid) : NodesOnly (penalizeNodes penalty nodeIds) := by
  induction nodeIds with
  | nil => exact nodesOnly_pure
  | cons nodeId rest ih => exact nodesOnly_bind (nodesOnly_updateNode _ _ _) fun _ => ih

/-- An insertion is refused, or appends its row. -/
theorem insertConsensus_cases (result : ConsensusResult) (db : NetworkDb) :
    ((insertConsensus result).reply () db = .ok () ∧
      (insertConsensus result).effect () db db = { db with consensus_results := db.consensus_results ++ [result] }) ∨
    ∃ e, (insertConsensus result).reply () db = .error e ∧ (insertConsensus result).effect () db db = db := by
  rw [Stmt.reply, Stmt.effect]
  simp only [insertConsensus, Stmt.statement]
  by_cases hmissing : (db.tasks.get? result.task_id).isNone = true
  · rw [if_pos hmissing]
    exact .inr ⟨_, rfl, rfl⟩
  · rw [if_neg hmissing]
    exact .inl ⟨rfl, rfl⟩

section Rows
variable {db : NetworkDb} {rest : List (Session backend)} {out : List Effect} {key : Uuid} {results : List PendingResult}

/-- A majority adds its row or none. -/
theorem reachConsensus_rows (kind : VerificationKind) (majorityOutput : Text) (majorityNodes : List Uuid) :
    (reachConsensus kind key results majorityOutput majorityNodes).post anywhere (fun _ u _ =>
      u.consensus_results = db.consensus_results ∨ ∃ confidence, u.consensus_results =
        db.consensus_results ++ [majorityResult key results majorityOutput majorityNodes confidence]) db ⟨.idle :: rest, out⟩ := by
  rw [reachConsensus, post_bind, post_query_idle]
  refine ⟨?_, fun _ _ => .inl rfl⟩
  have hreply : (markResults key majorityNodes kind.scores).reply () db = .ok () := rfl
  rw [show backend.initial = () from rfl, hreply, next_ok, post_bind]
  refine post_mono (nodesOnly_rewardNodes majorityNodes _ rest out) fun r u l h => ?_
  obtain ⟨⟨nodes, rfl⟩, rfl⟩ := h
  cases r with
  | error e => exact .inl rfl
  | ok a =>
    rw [next_ok, post_bind]
    refine post_mono (nodesOnly_penalizeNodes kind.penalty _ _ rest out) fun r u l h => ?_
    obtain ⟨⟨nodes', rfl⟩, rfl⟩ := h
    cases r with
    | error e => exact .inl rfl
    | ok a =>
      rw [next_ok]
      dsimp only
      rw [post_bind, post_ofExcept]
      cases assignScore ((majorityNodes.length : ℚ) / results.length * 100) with
      | error e => exact .inl rfl
      | ok confidence =>
        rw [next_ok, post_bind, post_query_idle]
        refine ⟨?_, fun _ _ => .inl rfl⟩
        rw [show backend.initial = () from rfl]
        obtain ⟨hinsert, hrow⟩ | ⟨e, hinsert, hrow⟩ := insertConsensus_cases
          (majorityResult key results majorityOutput majorityNodes confidence)
          { (markResults key majorityNodes kind.scores).effect () db db with nodes := nodes' }
        · rw [hinsert, hrow, next_ok, post_bind, post_query_idle]
          exact ⟨.inr ⟨confidence, rfl⟩, fun _ _ => .inr ⟨confidence, rfl⟩⟩
        · rw [hinsert, hrow]
          exact .inl rfl

/-- Whatever fails, the similarity check adds the row of a cluster that reaches the threshold,
the row of a tiebreaker, or none. -/
theorem verifyNonDeterministicResults_rows {l : Local backend} : (verifyNonDeterministicResults key results).post anywhere
    (fun _ u _ => u.consensus_results = db.consensus_results ∨
      u.consensus_results = db.consensus_results ++ [tiebreakerResult key results] ∨
      ∃ cluster ∈ sortedClusters results, consensusThreshold results.length ≤ cluster.length ∧ ∃ confidence,
        u.consensus_results = db.consensus_results ++
          [majorityResult key results (clusterOutput results cluster) cluster confidence]) db l := by
  have htie (l : Local backend) : (runTiebreaker key results).post anywhere (fun _ u _ =>
      u.consensus_results = db.consensus_results ∨
      u.consensus_results = db.consensus_results ++ [tiebreakerResult key results] ∨
      ∃ cluster ∈ sortedClusters results, consensusThreshold results.length ≤ cluster.length ∧ ∃ confidence,
        u.consensus_results = db.consensus_results ++
          [majorityResult key results (clusterOutput results cluster) cluster confidence]) db l :=
    post_mono (runTiebreaker_rows key results) fun _ _ _ h => h.imp_right .inl
  rw [verifyNonDeterministicResults, post_withClient]
  refine ⟨?_, fun _ _ => .inl rfl⟩
  rw [show ((findClusters [] [] (similarPairs results)).mergeSort fun a b => decide (b.length ≤ a.length)) =
    sortedClusters results from rfl]
  generalize sortedClusters results = clusters at htie ⊢
  cases clusters with
  | nil => exact htie _
  | cons cluster others =>
    dsimp only
    split
    case isTrue hreached =>
      refine post_mono (reachConsensus_rows _ _ _) fun r u l' h => ?_
      rcases h with h | ⟨confidence, h⟩
      · exact .inl h
      · exact .inr (.inr ⟨cluster, List.mem_cons_self, hreached, confidence, h⟩)
    case isFalse => exact htie _

end Rows

/-- A consensus by similarity is that of a pair of similar results, which are enough of all. -/
theorem similarity_consensus_sound {key : Uuid} {results : List PendingResult} {db u : NetworkDb} {l m : Local backend}
    {r : Except NetworkError Verification} {row : ConsensusResult} (hnodes : (results.map (·.node_id)).Nodup)
    (h : Exec anywhere (verifyNonDeterministicResults key results) db l r u m) (hrow : Recorded db u row) :
    Sound results row := by
  rcases h.sound verifyNonDeterministicResults_rows with hnone | htie | ⟨cluster, hcluster, hreached, confidence, hnew⟩
  · exact absurd (hrow.1.symm.trans hnone) (by simp)
  · have heq : row = tiebreakerResult key results := List.singleton_inj.mp (List.append_cancel_left (hrow.1.symm.trans htie))
    exact absurd (by rw [heq]; rfl) hrow.2
  · obtain rfl := List.singleton_inj.mp (List.append_cancel_left (hrow.1.symm.trans hnew))
    exact cluster_sound hnodes hcluster hreached key confidence

/-- Two of three results are alike. -/
def alikeResults : List PendingResult :=
  [⟨units "n", units "hi"⟩, ⟨units "n2", units "ho"⟩, ⟨units "n3", units "hi"⟩]

def alikeVerified : NetworkDb := ((verifyNonDeterministicResults (units "t") alikeResults).run [] tieDb Local.empty).2.1

theorem similarity_consensus_alike : ∃ row, Recorded tieDb alikeVerified row ∧ Sound alikeResults row := by
  have hrows : alikeVerified.consensus_results.map (·.consensus_type) = [.majority] := by decide +kernel
  obtain ⟨row, hrow, htype⟩ := List.map_eq_singleton_iff.mp hrows
  have hrecorded : Recorded tieDb alikeVerified row := ⟨hrow, by rw [htype]; exact fun h => nomatch h⟩
  exact ⟨row, hrecorded, similarity_consensus_sound (by decide)
    (Async.exec_nil anywhere (verifyNonDeterministicResults (units "t") alikeResults) tieDb Local.empty) hrecorded⟩

/-! ### Unanimity -/

theorem sortedClusters_ne_nil {results : List PendingResult} (hlen : 2 ≤ results.length)
    (hsimilar : results.Pairwise fun r r' => 90 ≤ calculateSimilarity r.output_data r'.output_data) :
    sortedClusters results ≠ [] := by
  have hpairs : findClusters [] [] (similarPairs results) ≠ [] := by
    cases results with
    | nil => exact absurd hlen (by simp)
    | cons r rest =>
      cases rest with
      | nil => exact absurd hlen (by simp)
      | cons r' rest =>
        have h := (List.pairwise_cons.mp hsimilar).1 r' List.mem_cons_self
        rw [similarPairs, List.filterMap_cons, if_pos h]
        dsimp only [List.cons_append]
        rw [findClusters, if_neg (by simp)]
        exact findClusters_ne_nil _ _ (by simp [addPair])
  intro hnil
  have hlength := (List.mergeSort_perm (findClusters [] [] (similarPairs results)) fun a b => decide (b.length ≤ a.length)).length_eq
  rw [show ((findClusters [] [] (similarPairs results)).mergeSort fun a b => decide (b.length ≤ a.length)) =
    sortedClusters results from rfl, hnil] at hlength
  exact hpairs (List.length_eq_zero_iff.mp hlength.symm)

/-- With every call served, similar results get the consensus of a pair of them while the pair
is enough, and a tiebreaker otherwise. -/
theorem verifyNonDeterministicResults_served {key : Uuid} {results : List PendingResult} {db : NetworkDb} {l : Local backend}
    (hlen : 2 ≤ results.length) (hnodes : (results.map (·.node_id)).Nodup)
    (hsimilar : results.Pairwise fun r r' => 90 ≤ calculateSimilarity r.output_data r'.output_data)
    (htask : (db.tasks.get? key).isSome) : ∃ cluster ∈ sortedClusters results,
      (verifyNonDeterministicResults key results).post never (fun _ u _ =>
        if results.length ≤ 3 then ∃ confidence, u.consensus_results = db.consensus_results ++
            [majorityResult key results (clusterOutput results cluster) cluster confidence] ∧
          (disagreeingNodes results cluster = [] → Fair db.nodes u.nodes)
        else u.nodes = db.nodes ∧ if 2 ≤ (tiebreakers db (results.map (·.node_id))).length then
            u.consensus_results = db.consensus_results ++ [tiebreakerResult key results]
          else u.consensus_results = db.consensus_results) db l := by
  cases hclusters : sortedClusters results with
  | nil => exact absurd hclusters (sortedClusters_ne_nil hlen hsimilar)
  | cons cluster others =>
    refine ⟨cluster, List.mem_cons_self, ?_⟩
    have hmem : cluster ∈ sortedClusters results := by rw [hclusters]; exact List.mem_cons_self
    obtain ⟨r, r', -, -, -, hpair⟩ := cluster_pair hnodes hmem
    have htwo : cluster.length = 2 := by rw [hpair]; rfl
    have hreached : consensusThreshold results.length ≤ cluster.length ↔ results.length ≤ 3 := by
      rw [htwo]; unfold consensusThreshold; omega
    rw [verifyNonDeterministicResults, post_withClient]
    refine ⟨?_, fun h => h.elim⟩
    rw [show ((findClusters [] [] (similarPairs results)).mergeSort fun a b => decide (b.length ≤ a.length)) =
      sortedClusters results from rfl, hclusters]
    dsimp only
    by_cases hfew : results.length ≤ 3
    · rw [if_pos (hreached.mpr hfew)]
      have hne : results ≠ [] := by rintro rfl; exact absurd hlen (by simp)
      refine post_mono (reachConsensus_post htask _ _ hne (by omega)) fun _ u _ h => ?_
      obtain ⟨confidence, -, -, hrow, hfair⟩ := h
      rw [if_pos hfew]
      exact ⟨confidence, hrow, hfair⟩
    · rw [if_neg (mt hreached.mp hfew)]
      refine post_mono (runTiebreaker_served htask) fun _ u _ h => ?_
      rw [if_neg hfew]
      refine ⟨h.1, ?_⟩
      have hrest := h.2
      split at hrest
      case isTrue h2 => rw [if_pos h2]; exact hrest.2
      case isFalse h2 => rw [if_neg h2]; exact hrest.2

/-- All nodes are recorded as agreeing, and none loses reputation for disagreeing. -/
def Unanimous (results : List PendingResult) (s t : NetworkDb) : Prop :=
  ∃ row, t.consensus_results = s.consensus_results ++ [row] ∧ row.agreeing_nodes.Perm (results.map (·.node_id)) ∧
    Fair s.nodes t.nodes

/-- The nodes of similar results all agree exactly when there are two of them, or when there
are more than three and a tiebreaker decides. -/
theorem unanimity_recognised_iff {key : Uuid} {results : List PendingResult} {db u : NetworkDb} {l m : Local backend}
    {r : Except NetworkError Verification} (hlen : 2 ≤ results.length) (hnodes : (results.map (·.node_id)).Nodup)
    (hsimilar : results.Pairwise fun r r' => 90 ≤ calculateSimilarity r.output_data r'.output_data)
    (htask : (db.tasks.get? key).isSome) (h : Exec never (verifyNonDeterministicResults key results) db l r u m) :
    Unanimous results db u ↔
      results.length = 2 ∨ 4 ≤ results.length ∧ 2 ≤ (tiebreakers db (results.map (·.node_id))).length := by
  obtain ⟨cluster, hcluster, hpost⟩ := @verifyNonDeterministicResults_served key results db l hlen hnodes hsimilar htask
  have hserved := h.sound hpost
  by_cases hfew : results.length ≤ 3
  · rw [if_pos hfew] at hserved
    obtain ⟨confidence, hrow, hfair⟩ := hserved
    obtain ⟨x, y, hsub, -, hne, hpair⟩ := cluster_pair hnodes hcluster
    have htwo : cluster.length = 2 := by rw [hpair]; rfl
    have hdistinct : cluster.Nodup := by rw [hpair]; simpa using hne
    have hpartition := disagreeing_partition hdistinct hnodes fun node hnode => by
      rw [hpair] at hnode
      exact (hsub.map (·.node_id)).subset hnode
    have hcount := hpartition.length_eq
    rw [List.length_append, List.length_map, htwo] at hcount
    constructor
    · rintro ⟨row, hu, hperm, -⟩
      obtain rfl := List.singleton_inj.mp (List.append_cancel_left (hu.symm.trans hrow))
      have hall : cluster.length = results.length := hperm.length_eq.trans (List.length_map _)
      exact .inl (by omega)
    · rintro (h2 | ⟨h4, -⟩)
      · have hnil : disagreeingNodes results cluster = [] := List.length_eq_zero_iff.mp (by omega)
        refine ⟨_, hrow, ?_, hfair hnil⟩
        rwa [hnil, List.append_nil] at hpartition
      · omega
  · rw [if_neg hfew] at hserved
    obtain ⟨hsame, hrow⟩ := hserved
    split at hrow
    case isTrue hties =>
      exact ⟨fun _ => .inr ⟨by omega, hties⟩, fun _ => ⟨_, hrow, .refl _, hsame ▸ .refl _⟩⟩
    case isFalse hties =>
      constructor
      · rintro ⟨row, hu, -⟩
        exact absurd (hu.symm.trans hrow) (by simp)
      · rintro (h2 | ⟨-, h2⟩)
        · omega
        · exact absurd h2 hties

/-! ### Equal results -/

/-- The results of these nodes are all "hi". -/
def equalResults (nodeIds : List Uuid) : List PendingResult := nodeIds.map fun nodeId => ⟨nodeId, units "hi"⟩

/-- The tables after the verification of equal results. -/
def equalVerified (nodeIds : List Uuid) : NetworkDb :=
  ((verifyNonDeterministicResults (units "t") (equalResults nodeIds)).run [] tieDb Local.empty).2.1

theorem equal_pairwise (nodeIds : List Uuid) : (equalResults nodeIds).Pairwise fun r r' =>
    90 ≤ calculateSimilarity r.output_data r'.output_data := by
  refine List.pairwise_map.mpr (List.pairwise_of_forall fun _ _ => ?_)
  rw [calculateSimilarity_self]
  norm_num

theorem unanimity_recognised_two : Unanimous (equalResults [units "n", units "n2"]) tieDb (equalVerified [units "n", units "n2"]) :=
  (unanimity_recognised_iff (by decide) (by decide) (equal_pairwise _) (by decide)
    (Async.exec_nil never (verifyNonDeterministicResults (units "t") (equalResults [units "n", units "n2"])) tieDb
      Local.empty)).mpr (.inl rfl)

/-- Of three equal results one disagrees. -/
theorem unanimity_missed : ¬ ∀ (key : Uuid) (results : List PendingResult) (db u : NetworkDb) (l m : Local backend)
    (r : Except NetworkError Verification), 2 ≤ results.length → (results.map (·.node_id)).Nodup →
    (results.Pairwise fun r r' => 90 ≤ calculateSimilarity r.output_data r'.output_data) → (db.tasks.get? key).isSome →
    Exec never (verifyNonDeterministicResults key results) db l r u m → Unanimous results db u := by
  intro hall
  have hexec := Async.exec_nil never (verifyNonDeterministicResults (units "t") (equalResults [units "n", units "n2", units "n3"]))
    tieDb Local.empty
  obtain ⟨row, hrow, hperm, -⟩ := hall _ _ _ _ _ _ _ (by decide) (by decide) (equal_pairwise _) (by decide) hexec
  have hrows : (equalVerified [units "n", units "n2", units "n3"]).consensus_results.map (·.agreeing_nodes) =
      [[units "n", units "n2"]] := by decide +kernel
  rw [show (equalVerified [units "n", units "n2", units "n3"]).consensus_results = [row] from hrow, List.map_singleton] at hrows
  rw [List.singleton_inj.mp hrows] at hperm
  exact absurd hperm.length_eq (by decide)

end GalaxiaAin.Network
