import GalaxiaAin.Network.Grouping
import GalaxiaAin.Network.Quorum
import GalaxiaAin.Network.Served

/-! Exact match. More than half of the nodes must share an output, so at most one output is
shared, and the first of the largest groups is its group. -/
namespace GalaxiaAin.Network
open GalaxiaAin.Library
open GalaxiaAin.Library.Async hiding bind

/-- The nodes that returned an output, up to the white space around it. -/
def nodesReturning (results : List PendingResult) (output : Text) : List Uuid :=
  (results.filter fun r => trim r.output_data = output).map (·.node_id)

/-- The other nodes. -/
def nodesNotReturning (results : List PendingResult) (output : Text) : List Uuid :=
  (results.filter fun r => trim r.output_data ≠ output).map (·.node_id)

/-- The threshold of the nodes returned the output. -/
def Shared (results : List PendingResult) (output : Text) : Prop :=
  consensusThreshold results.length ≤ (nodesReturning results output).length

/-! ### Counting -/

theorem nodesReturning_le (results : List PendingResult) (output : Text) :
    (nodesReturning results output).length ≤ results.length := by
  rw [nodesReturning, List.length_map]
  exact List.length_filter_le _ _

/-- Two outputs are returned by different nodes. -/
theorem nodesReturning_add {output output' : Text} (h : output' ≠ output) (results : List PendingResult) :
    (nodesReturning results output).length + (nodesReturning results output').length ≤ results.length := by
  simp only [nodesReturning, List.length_map]
  induction results with
  | nil => exact le_rfl
  | cons r results ih =>
    simp only [List.filter_cons, List.length_cons]
    by_cases hr : trim r.output_data = output
    · have hr' : trim r.output_data ≠ output' := fun he => h (he.symm.trans hr)
      simp only [hr, decide_true, if_true, List.length_cons, decide_eq_true_eq, Ne.symm h, if_false]
      omega
    · rw [if_neg (by simpa using hr)]
      split
      · rw [List.length_cons]; omega
      · omega

theorem consensusThreshold_pos {n : Nat} (h : 0 < n) : 0 < consensusThreshold n := by
  unfold consensusThreshold; omega

theorem Shared.unique {results : List PendingResult} (hne : results ≠ []) {output output' : Text} (h : Shared results output)
    (h' : Shared results output') : output' = output := by
  by_contra hdiffer
  have hpos := List.length_pos_iff.mpr hne
  have hadd := nodesReturning_add hdiffer results
  unfold Shared consensusThreshold at h h'
  omega

/-! ### The groups -/

theorem outputGroups_eq (results : List PendingResult) : outputGroups results =
    OutputMap.gather (fun r => trim r.output_data) (fun r nodeIds => nodeIds.getD [] ++ [r.node_id]) results := rfl

/-- The group of an output has the nodes that returned it. -/
theorem lookup_outputGroups (results : List PendingResult) (output : Text) : (outputGroups results).lookup output =
    if nodesReturning results output = [] then none else some (nodesReturning results output) := by
  have hsome (xs : List PendingResult) (nodeIds : List Uuid) :
      xs.foldl (fun found r => some (found.getD [] ++ [r.node_id])) (some nodeIds) = some (nodeIds ++ xs.map (·.node_id)) := by
    induction xs generalizing nodeIds with
    | nil => rw [List.map_nil, List.append_nil]; rfl
    | cons r xs ih => rw [List.foldl_cons, Option.getD_some, ih, List.map_cons, List.append_assoc]; rfl
  rw [outputGroups_eq, OutputMap.lookup_gather, nodesReturning]
  cases results.filter fun r => trim r.output_data = output with
  | nil => rfl
  | cons r xs => rw [List.foldl_cons, Option.getD_none, hsome]; rfl

theorem nodup_outputGroups (results : List PendingResult) : ((outputGroups results).map Prod.fst).Nodup :=
  OutputMap.nodup_gather results

/-- The largest group, or none. -/
def largestGroup (results : List PendingResult) : Text × List Uuid :=
  ((outputGroups results).largest List.length).getD ([], [])

/-- It is the group of its output. -/
theorem largest_entry {results : List PendingResult} {entry : Text × List Uuid}
    (h : (outputGroups results).largest List.length = some entry) : entry.2 = nodesReturning results entry.1 := by
  have hmem := (OutputMap.largest_spec List.length (outputGroups results)).1 entry h
  have hlookup := OutputMap.lookup_of_mem (nodup_outputGroups results) hmem.1
  rw [lookup_outputGroups] at hlookup
  split at hlookup
  · cases hlookup
  · exact (Option.some.inj hlookup).symm

/-- With the threshold the output of the largest group is shared. -/
theorem largestGroup_shared {results : List PendingResult} (hne : results ≠ [])
    (h : consensusThreshold results.length ≤ (largestGroup results).2.length) : Shared results (largestGroup results).1 := by
  rw [largestGroup] at h ⊢
  cases hlargest : (outputGroups results).largest List.length with
  | none =>
    rw [hlargest] at h
    exact absurd ((consensusThreshold_pos (List.length_pos_iff.mpr hne)).trans_le h) (lt_irrefl 0)
  | some entry =>
    rw [hlargest, Option.getD_some, largest_entry hlargest] at h
    exact h

/-- A shared output is that of the largest group. -/
theorem Shared.largestGroup {results : List PendingResult} (hne : results ≠ []) {output : Text} (h : Shared results output) :
    largestGroup results = (output, nodesReturning results output) := by
  have hpos := (consensusThreshold_pos (List.length_pos_iff.mpr hne)).trans_le h
  have hfound : (output, nodesReturning results output) ∈ outputGroups results := by
    refine OutputMap.mem_of_lookup ?_
    rw [lookup_outputGroups, if_neg (List.length_pos_iff.mp hpos)]
  have hle := (OutputMap.largest_spec List.length (outputGroups results)).2 _ hfound
  rw [GalaxiaAin.Network.largestGroup]
  cases hlargest : (outputGroups results).largest List.length with
  | none =>
    rw [hlargest] at hle
    exact absurd (hpos.trans_le hle) (lt_irrefl 0)
  | some entry =>
    rw [hlargest, Option.elim_some, largest_entry hlargest] at hle
    have heq : entry.1 = output := h.unique hne (h.trans hle)
    rw [Option.getD_some, ← heq, ← largest_entry hlargest]

/-! ### What is recorded -/

/-- A consensus row and what is returned with it, for an output that is shared. -/
structure Records (key : Uuid) (results : List PendingResult) (output : Text) (row : ConsensusResult) (v : Verification) :
    Prop where
  task : row.task_id = key
  final_output : row.final_output = output
  agreeing : row.agreeing_nodes = nodesReturning results output
  disagreeing : row.disagreeing_nodes = nodesNotReturning results output
  type : row.consensus_type = if ∀ r ∈ results, trim r.output_data = output then .unanimous else .majority
  confidence : assignScore ((nodesReturning results output).length / results.length * 100) = .ok row.confidence_score
  returned : v = ⟨true, some output, some ((nodesReturning results output).length / results.length * 100),
    some row.consensus_type⟩

/-- Without a shared output the nodes that are left over have a tiebreaker. -/
theorem disagreeingNodes_eq {results : List PendingResult} (hnodes : (results.map (·.node_id)).Nodup) (output : Text) :
    disagreeingNodes results (nodesReturning results output) = nodesNotReturning results output := by
  rw [disagreeingNodes, nodesNotReturning]
  refine congrArg _ (List.filter_congr fun r hr => ?_)
  have hmem : r.node_id ∈ nodesReturning results output ↔ trim r.output_data = output := by
    constructor
    · intro h
      obtain ⟨r', hr', hid⟩ := List.mem_map.mp h
      obtain ⟨hr', hout⟩ := List.mem_filter.mp hr'
      have heq : r' = r := List.inj_on_of_nodup_map hnodes hr' hr hid
      exact heq ▸ of_decide_eq_true hout
    · exact fun h => List.mem_map.mpr ⟨r, List.mem_filter.mpr ⟨hr, decide_eq_true h⟩, rfl⟩
  rw [Bool.eq_iff_iff]
  simp [hmem]

theorem majorityResult_records {key : Uuid} {results : List PendingResult} (hnodes : (results.map (·.node_id)).Nodup)
    {output : Text} {confidence : Int}
    (h : assignScore ((nodesReturning results output).length / results.length * 100) = .ok confidence) :
    Records key results output (majorityResult key results output (nodesReturning results output) confidence)
      ⟨true, some output, some ((nodesReturning results output).length / results.length * 100),
        some (majorityResult key results output (nodesReturning results output) confidence).consensus_type⟩ where
  task := rfl
  final_output := rfl
  agreeing := rfl
  disagreeing := disagreeingNodes_eq hnodes output
  type := by
    have hall : (nodesReturning results output).length = results.length ↔ ∀ r ∈ results, trim r.output_data = output := by
      rw [nodesReturning, List.length_map, List.length_filter_eq_length_iff]
      exact forall₂_congr fun r _ => decide_eq_true_iff
    simp only [majorityResult, hall]
  confidence := h
  returned := rfl

/-- The consensus a verification adds, other than that of a tiebreaker. -/
def Recorded (s t : NetworkDb) (row : ConsensusResult) : Prop :=
  t.consensus_results = s.consensus_results ++ [row] ∧ row.consensus_type ≠ .tiebreaker

theorem Recorded.unique {s t : NetworkDb} {row row' : ConsensusResult} (h : Recorded s t row) (h' : Recorded s t row') :
    row' = row := by
  have heq := h'.1.symm.trans h.1
  exact List.singleton_inj.mp (List.append_cancel_left heq)

theorem Records.recorded_type {key : Uuid} {results : List PendingResult} {output : Text} {row : ConsensusResult}
    {v : Verification} (h : Records key results output row v) : row.consensus_type ≠ .tiebreaker := by
  rw [h.type]
  split <;> exact fun he => nomatch he

section Verification
variable {results : List PendingResult} {key : Uuid} {db : NetworkDb} {l : Local backend}

/-- A shared output is recorded; without one nothing is but by a tiebreaker. -/
theorem verifyDeterministicResults_post (hne : results ≠ []) (hnodes : (results.map (·.node_id)).Nodup)
    (htask : (db.tasks.get? key).isSome) : (verifyDeterministicResults key results).post never (fun r u _ =>
      (∀ output, Shared results output → ∃ row v, r = .ok v ∧ Recorded db u row ∧ Records key results output row v) ∧
      ∀ row, Recorded db u row → ∃ output, Shared results output) db l := by
  rw [verifyDeterministicResults, post_withClient]
  refine ⟨?_, fun h => h.elim⟩
  dsimp only
  rw [show ((outputGroups results).largest List.length).getD ([], []) = largestGroup results from rfl]
  split
  case isTrue hreached =>
    have hshared := largestGroup_shared hne hreached
    rw [hshared.largestGroup hne]
    refine post_mono (reachConsensus_post htask _ _ hne (nodesReturning_le _ _)) fun r u l' h => ?_
    obtain ⟨confidence, hconfidence, hr, hu, -⟩ := h
    have hrecords := @majorityResult_records key _ hnodes _ _ hconfidence
    refine ⟨fun output houtput => ?_, fun row _ => ⟨_, hshared⟩⟩
    obtain rfl : output = (largestGroup results).1 := hshared.unique hne houtput
    exact ⟨_, _, hr, ⟨hu, hrecords.recorded_type⟩, hrecords⟩
  case isFalse hmissed =>
    refine post_mono (runTiebreaker_served htask) fun r u l' h => ?_
    refine ⟨fun output houtput => absurd ?_ hmissed, fun row hrow => ?_⟩
    · rw [houtput.largestGroup hne]
      exact houtput
    · have hrest := h.2
      split at hrest
      · have heq : row = tiebreakerResult key results :=
          List.singleton_inj.mp (List.append_cancel_left (hrow.1.symm.trans hrest.2))
        exact absurd (by rw [heq]; rfl) hrow.2
      · have hnil := hrow.1.symm.trans hrest.2
        exact absurd hnil (by simp)

end Verification

/-! ### The order of the results -/

theorem nodesReturning_perm {results results' : List PendingResult} (h : results'.Perm results) (output : Text) :
    (nodesReturning results' output).Perm (nodesReturning results output) :=
  (h.filter _).map _

theorem shared_perm {results results' : List PendingResult} (h : results'.Perm results) (output : Text) :
    Shared results' output ↔ Shared results output := by
  rw [Shared, Shared, h.length_eq, (nodesReturning_perm h output).length_eq]

/-- The same but for the order of the nodes. -/
structure SameRow (row row' : ConsensusResult) : Prop where
  final_output : row'.final_output = row.final_output
  agreeing : row'.agreeing_nodes.Perm row.agreeing_nodes
  disagreeing : row'.disagreeing_nodes.Perm row.disagreeing_nodes
  type : row'.consensus_type = row.consensus_type
  confidence : row'.confidence_score = row.confidence_score

theorem Records.same {key key' : Uuid} {results results' : List PendingResult} (hperm : results'.Perm results) {output : Text}
    {row row' : ConsensusResult} {v v' : Verification} (h : Records key results output row v)
    (h' : Records key' results' output row' v') : SameRow row row' ∧ v' = v := by
  have hcount := (nodesReturning_perm hperm output).length_eq
  have hall : (∀ r ∈ results', trim r.output_data = output) ↔ ∀ r ∈ results, trim r.output_data = output :=
    forall_congr' fun r => by rw [hperm.mem_iff]
  have htype : row'.consensus_type = row.consensus_type := by rw [h'.type, h.type]; simp only [hall]
  refine ⟨⟨?_, ?_, ?_, htype, ?_⟩, ?_⟩
  · rw [h'.final_output, h.final_output]
  · rw [h'.agreeing, h.agreeing]
    exact nodesReturning_perm hperm output
  · rw [h'.disagreeing, h.disagreeing]
    exact (hperm.filter _).map _
  · have hsame := h'.confidence
    rw [hcount, hperm.length_eq, h.confidence] at hsame
    exact (Except.ok.inj hsame).symm
  · rw [h'.returned, h.returned, hcount, hperm.length_eq, htype]

/-- The verification of exact results records a majority exactly when an output is shared,
records that output and its nodes, and does so for every order of the results. -/
theorem deterministic_consensus {results results' : List PendingResult} {key : Uuid} {db db' : NetworkDb}
    (hne : results ≠ []) (hnodes : (results.map (·.node_id)).Nodup) (hperm : results'.Perm results)
    (htask : (db.tasks.get? key).isSome) (htask' : (db'.tasks.get? key).isSome) {r r' : Except NetworkError Verification}
    {u u' : NetworkDb} {l m l' m' : Local backend} (h : Exec never (verifyDeterministicResults key results) db l r u m)
    (h' : Exec never (verifyDeterministicResults key results') db' l' r' u' m') :
    ((∃ row, Recorded db u row) ↔ ∃ output, Shared results output) ∧
    (∀ output, Shared results output → (∀ output', Shared results output' → output' = output) ∧
      ∃ row v, r = .ok v ∧ Recorded db u row ∧ Records key results output row v) ∧
    ((∃ row, Recorded db' u' row) ↔ ∃ row, Recorded db u row) ∧
    ∀ row row', Recorded db u row → Recorded db' u' row' → SameRow row row' ∧ r' = r := by
  have hne' : results' ≠ [] := fun he => hne (by rw [he] at hperm; exact hperm.nil_eq.symm)
  have hnodes' : (results'.map (·.node_id)).Nodup := (hperm.map _).nodup_iff.mpr hnodes
  obtain ⟨hrecords, hshared⟩ := h.sound (verifyDeterministicResults_post hne hnodes htask)
  obtain ⟨hrecords', hshared'⟩ := h'.sound (verifyDeterministicResults_post hne' hnodes' htask')
  have hiff : (∃ row, Recorded db u row) ↔ ∃ output, Shared results output := by
    constructor
    · rintro ⟨row, hrow⟩
      exact hshared row hrow
    · rintro ⟨output, houtput⟩
      obtain ⟨row, v, -, hrow, -⟩ := hrecords output houtput
      exact ⟨row, hrow⟩
  have hiff' : (∃ row, Recorded db' u' row) ↔ ∃ output, Shared results output := by
    constructor
    · rintro ⟨row, hrow⟩
      obtain ⟨output, houtput⟩ := hshared' row hrow
      exact ⟨output, (shared_perm hperm output).mp houtput⟩
    · rintro ⟨output, houtput⟩
      obtain ⟨row, v, -, hrow, -⟩ := hrecords' output ((shared_perm hperm output).mpr houtput)
      exact ⟨row, hrow⟩
  refine ⟨hiff, fun output houtput => ⟨fun output' houtput' => houtput.unique hne houtput', hrecords output houtput⟩,
    hiff'.trans hiff.symm, fun row row' hrow hrow' => ?_⟩
  obtain ⟨output, houtput⟩ := hshared row hrow
  obtain ⟨row₁, v, hr, hrow₁, h₁⟩ := hrecords output houtput
  obtain ⟨row₂, v', hr', hrow₂, h₂⟩ := hrecords' output ((shared_perm hperm output).mpr houtput)
  obtain rfl := hrow.unique hrow₁
  obtain rfl := hrow'.unique hrow₂
  obtain ⟨hsame, rfl⟩ := h₁.same hperm h₂
  exact ⟨hsame, hr'.trans hr.symm⟩

/-- Two of three nodes agree. -/
def splitResults : List PendingResult :=
  [⟨units "n", units "hi"⟩, ⟨units "n2", units "ho"⟩, ⟨units "n3", units " hi"⟩]

theorem deterministic_consensus_split : ∃ row v,
    ((verifyDeterministicResults (units "t") splitResults).run [] (audioDb []) Local.empty).1 = .ok v ∧
      Recorded (audioDb []) ((verifyDeterministicResults (units "t") splitResults).run [] (audioDb []) Local.empty).2.1 row ∧
      Records (units "t") splitResults (units "hi") row v := by
  have h := Async.exec_nil never (verifyDeterministicResults (units "t") splitResults) (audioDb []) Local.empty
  have h' := Async.exec_nil never (verifyDeterministicResults (units "t") splitResults.reverse) (audioDb []) Local.empty
  have hall := deterministic_consensus (by decide) (by decide) (List.reverse_perm splitResults) (by decide) (by decide) h h'
  exact (hall.2.1 (units "hi") (by unfold Shared; decide)).2

end GalaxiaAin.Network
