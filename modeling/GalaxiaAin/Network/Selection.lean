import GalaxiaAin.Library.Ranking
import GalaxiaAin.Network.Workload
import Mathlib.Data.Set.Card

/-! The nodes that a task is assigned to: the best three of those that suit it, with their loads
raised by one. A load that is NULL is read as 0 but is not raised. -/
namespace GalaxiaAin.Network
open GalaxiaAin.Library
open GalaxiaAin.Library.Async hiding bind

/-! ### Nodes that suit a task -/

/-- The load of a node, where NULL counts as 0. -/
def NodeRow.load (row : NodeRow) : Int := row.current_load.elim 0 Int32.toInt

/-- The capacity of a node, where 0 and NULL count as 3. -/
def NodeRow.capacity (row : NodeRow) : Int := row.max_concurrent_tasks.elim 3 fun c => if c.toInt = 0 then 3 else c.toInt

/-- The node lists its models, and says how much memory it has. -/
structure NodeCapabilities.WellFormed (capabilities : NodeCapabilities) : Prop where
  models : ∃ models, capabilities.models = some models
  ram_gb : ∃ ram, capabilities.ram_gb = some ram ∧ 0 ≤ ram

def WellFormedNodes (db : NetworkDb) : Prop := ∀ n row, db.nodes.get? n = some row → row.capabilities.WellFormed

/-- What a task asks of the node that gets it. -/
structure Suits (now : Nat) (requirements : TaskRequirements) (row : NodeRow) : Prop where
  online : row.status = .online
  seen : ∃ seen, row.last_seen = some seen ∧ now < seen + 300000
  reputed : ∃ reputation, row.reputation = some reputation ∧ 30 ≤ scoreFormat.value reputation
  near : ∀ region, requirements.region = some region → region ≠ [] → row.region = some region
  memory : ∀ least, requirements.min_ram_gb = some least → ∃ ram, row.capabilities.ram_gb = some ram ∧ least ≤ ram
  gpu : requirements.requires_gpu = true → row.capabilities.gpu = true
  listed : ∃ models, row.capabilities.models = some models ∧ requirements.model_id ∈ models
  room : row.load < row.capacity

/-- The nodes that a task can be assigned to. -/
def Eligible (db : NetworkDb) (now : Nat) (requirements : TaskRequirements) : Set Uuid :=
  {n | ∃ row, db.nodes.get? n = some row ∧ Suits now requirements row}

/-- What the nodes are ranked by. -/
def rating (requirements : TaskRequirements) (row : NodeRow) : ℚ :=
  4 / 10 * (row.reputation.map scoreFormat.value).getD 0 + (if requirements.region.any (· != []) then 30 else 15) +
    30 * (1 - (row.load : ℚ) / row.capacity)

/-- The rows that pass both filters, in the order of the query. -/
def candidates (db : NetworkDb) (now : Nat) (requirements : TaskRequirements) : List (Uuid × NodeRow) :=
  (activeRows ⟨requirements.region, some 30⟩ now db).filter fun r =>
    (eligible requirements (mapRowToNode r.1 r.2)).toOption.getD false

/-- Three other candidates are ranked before this one. -/
def Outclassed (db : NetworkDb) (now : Nat) (requirements : TaskRequirements) (r : Uuid × NodeRow) : Prop :=
  ∃ others : List (Uuid × NodeRow), others.Nodup ∧ others.length = 3 ∧ ∀ a ∈ others, a ∈ candidates db now requirements ∧
    a ≠ r ∧ Outranks (fun r => rating requirements r.2) (candidates db now requirements) a r

/-- The candidates that are chosen. -/
def topRated (db : NetworkDb) (now : Nat) (requirements : TaskRequirements) : List (Uuid × NodeRow) :=
  best 3 (fun r => rating requirements r.2) (candidates db now requirements)

section Candidates
variable {db : NetworkDb} {now : Nat} {requirements : TaskRequirements}

theorem mapRowToNode_load (n : Uuid) (row : NodeRow) : (mapRowToNode n row).current_load = row.load := by
  simp only [mapRowToNode, NodeRow.load]
  cases row.current_load with
  | none => rfl
  | some load =>
    simp only [Option.map_some, orDefault, Option.elim_some]
    split
    case isTrue h => exact h.symm
    case isFalse => rfl

theorem mapRowToNode_capacity (n : Uuid) (row : NodeRow) : (mapRowToNode n row).max_concurrent_tasks = row.capacity := by
  simp only [mapRowToNode, NodeRow.capacity]
  cases row.max_concurrent_tasks <;> rfl

theorem NodeRow.capacity_ne_zero (row : NodeRow) : row.capacity ≠ 0 := by
  rw [NodeRow.capacity]
  cases row.max_concurrent_tasks with
  | none => decide
  | some c =>
    simp only [Option.elim_some]
    split
    case isTrue => decide
    case isFalse h => exact h

/-- The filter answers for every node that lists its models. -/
theorem eligible_ok (requirements : TaskRequirements) {node : Node} (h : ∃ models, node.capabilities.models = some models) :
    ∃ keep, eligible requirements node = .ok keep := by
  obtain ⟨models, hmodels⟩ := h
  rw [eligible, hmodels]
  split
  · exact ⟨_, rfl⟩
  split
  · exact ⟨_, rfl⟩
  exact ⟨_, rfl⟩

theorem eligibleNodes_filter {nodes : List Node} (h : ∀ node ∈ nodes, ∃ models, node.capabilities.models = some models) :
    eligibleNodes requirements nodes = .ok (nodes.filter fun node => (eligible requirements node).toOption.getD false) := by
  induction nodes with
  | nil => rfl
  | cons node rest ih =>
    obtain ⟨keep, hkeep⟩ := eligible_ok requirements (h node List.mem_cons_self)
    rw [eligibleNodes, hkeep, ih fun x hx => h x (List.mem_cons_of_mem _ hx), List.filter_cons, hkeep]
    rfl

/-- The filter of the query. -/
theorem admits_iff (requirements : TaskRequirements) {row : NodeRow} : (⟨requirements.region, some 30⟩ : NodeFilters).admits now row = true ↔
    row.status = .online ∧ (∃ seen, row.last_seen = some seen ∧ now < seen + 300000) ∧
      (∃ reputation, row.reputation = some reputation ∧ 30 ≤ scoreFormat.value reputation) ∧
      ∀ region, requirements.region = some region → region ≠ [] → row.region = some region := by
  have hregion : (requirements.region.all fun region => region == [] || row.region == some region) = true ↔
      ∀ region, requirements.region = some region → region ≠ [] → row.region = some region := by
    cases requirements.region with
    | none => simp
    | some region => simp [or_iff_not_imp_left]
  rw [NodeFilters.admits, Bool.and_eq_true, Bool.and_eq_true, Bool.and_eq_true, hregion]
  simp [Option.any_eq_true, and_assoc]

/-- The filter of the rows. -/
theorem eligible_iff {n : Uuid} {row : NodeRow} (h : row.capabilities.WellFormed) :
    (eligible requirements (mapRowToNode n row)).toOption.getD false = true ↔
      (∀ least, requirements.min_ram_gb = some least → ∃ ram, row.capabilities.ram_gb = some ram ∧ least ≤ ram) ∧
      (requirements.requires_gpu = true → row.capabilities.gpu = true) ∧
      (∃ models, row.capabilities.models = some models ∧ requirements.model_id ∈ models) ∧ row.load < row.capacity := by
  obtain ⟨ram, hram, hnonneg⟩ := h.ram_gb
  obtain ⟨models, hmodels⟩ := h.models
  have hmemory : (requirements.min_ram_gb.any fun least => least != 0 && row.capabilities.ram_gb.any fun ram => decide (ram < least)) = true ↔
      ¬ ∀ least, requirements.min_ram_gb = some least → ∃ ram, row.capabilities.ram_gb = some ram ∧ least ≤ ram := by
    cases requirements.min_ram_gb with
    | none => simp
    | some least =>
      simp only [Option.any_some, hram, Bool.and_eq_true, bne_iff_ne, decide_eq_true_eq, Option.some.injEq, forall_eq',
        exists_eq_left', not_le]
      constructor
      · exact And.right
      · exact fun hlt => ⟨fun h0 => absurd hlt (not_lt.mpr (h0 ▸ hnonneg)), hlt⟩
  have hcapabilities : (mapRowToNode n row).capabilities = row.capabilities := rfl
  rw [eligible, mapRowToNode_load, mapRowToNode_capacity, hcapabilities, hmodels]
  by_cases hm : ∀ least, requirements.min_ram_gb = some least → ∃ ram, row.capabilities.ram_gb = some ram ∧ least ≤ ram
  · rw [if_neg (by rw [hmemory]; exact not_not.mpr hm), and_iff_right hm]
    cases requirements.requires_gpu <;> cases row.capabilities.gpu <;> simp [Except.toOption]
  · rw [if_pos (hmemory.mpr hm), iff_false_intro hm]
    simp [Except.toOption]

theorem mem_candidates (hdb : WellFormedNodes db) {n : Uuid} {row : NodeRow} :
    (n, row) ∈ candidates db now requirements ↔ db.nodes.get? n = some row ∧ Suits now requirements row := by
  rw [candidates, List.mem_filter, activeRows, List.mem_mergeSort, List.mem_filter, ← Table.get?_eq_some, and_assoc]
  refine and_congr_right fun hrow => ?_
  rw [admits_iff, eligible_iff (hdb n row hrow)]
  constructor
  · rintro ⟨⟨honline, hseen, hreputed, hnear⟩, hmemory, hgpu, hlisted, hroom⟩
    exact ⟨honline, hseen, hreputed, hnear, hmemory, hgpu, hlisted, hroom⟩
  · exact fun h => ⟨⟨h.online, h.seen, h.reputed, h.near⟩, h.memory, h.gpu, h.listed, h.room⟩

theorem candidates_nodup : ((candidates db now requirements).map Prod.fst).Nodup := by
  have hperm := (List.mergeSort_perm (db.nodes.rows.filter fun r => (⟨requirements.region, some 30⟩ : NodeFilters).admits now r.2)
    fun a b => a.2.precedes b.2).map Prod.fst
  have hactive : ((activeRows ⟨requirements.region, some 30⟩ now db).map Prod.fst).Nodup :=
    hperm.nodup_iff.mpr (db.nodes.unique.sublist (List.filter_sublist.map Prod.fst))
  exact hactive.sublist (List.filter_sublist.map Prod.fst)

/-- There are as many candidates as eligible nodes. -/
theorem candidates_length (hdb : WellFormedNodes db) :
    (candidates db now requirements).length = (Eligible db now requirements).ncard := by
  have hset : Eligible db now requirements = ↑((candidates db now requirements).map Prod.fst).toFinset := by
    ext n
    simp only [Eligible, Set.mem_ofPred_eq, List.coe_toFinset, List.mem_map, Prod.exists, exists_and_right, exists_eq_right,
      mem_candidates hdb]
  rw [hset, Set.ncard_coe_finset, List.toFinset_card_of_nodup candidates_nodup, List.length_map]

/-! ### The selection -/

theorem topRated_subset {r : Uuid × NodeRow} (h : r ∈ topRated db now requirements) : r ∈ candidates db now requirements :=
  best_subset _ _ _ r h

/-- No candidate that is left out has a higher rating. -/
theorem topRated_optimal {a b : Uuid × NodeRow} (ha : a ∈ topRated db now requirements) (hb : b ∈ candidates db now requirements)
    (hout : b ∉ topRated db now requirements) : rating requirements b.2 ≤ rating requirements a.2 :=
  @best_optimal _ _ _ (fun r : Uuid × NodeRow => rating requirements r.2) _ _ _ _ ha hb hout

theorem not_mem_topRated {r : Uuid × NodeRow} (h : r ∈ candidates db now requirements) :
    r ∉ topRated db now requirements ↔ Outclassed db now requirements r :=
  not_mem_best (List.Nodup.of_map _ candidates_nodup) h

/-- The score of a node with reputation 30 or more is its rating. -/
theorem score_eq {n : Uuid} {row : NodeRow} (h : ∃ reputation, row.reputation = some reputation ∧ 30 ≤ scoreFormat.value reputation) :
    score requirements (mapRowToNode n row) = rating requirements row := by
  obtain ⟨reputation, hreputation, hleast⟩ := h
  have hread : (mapRowToNode n row).reputation = scoreFormat.value reputation := by
    simp only [mapRowToNode, hreputation, Option.map_some, orDefault]
    exact if_neg fun h0 => absurd hleast (by rw [h0]; norm_num)
  rw [score, rating, mapRowToNode_load, mapRowToNode_capacity, hread, hreputation, Option.map_some, Option.getD_some]
  ring

/-- Where every node that is offered lists its models, the three best candidates are chosen. -/
theorem selectNodes_best (hlisted : ∀ node ∈ offeredNodes db now requirements, ∃ models, node.capabilities.models = some models) :
    selectNodes requirements (offeredNodes db now requirements) =
      if candidates db now requirements = [] then .error .noEligibleNodes else .ok ((topRated db now requirements).map Prod.fst) := by
  have hchosen : (offeredNodes db now requirements).filter (fun node => (eligible requirements node).toOption.getD false) =
      (candidates db now requirements).map fun r => mapRowToNode r.1 r.2 := by
    rw [offeredNodes, List.filter_map]
    rfl
  have hscore (r : Uuid × NodeRow) (hr : r ∈ candidates db now requirements) :
      score requirements (mapRowToNode r.1 r.2) = rating requirements r.2 := by
    have hactive := (List.mem_filter.mp (List.mem_mergeSort.mp (List.mem_filter.mp hr).1)).2
    exact score_eq ((admits_iff requirements).mp hactive).2.2.1
  have hranked : rankNodes requirements ((candidates db now requirements).map fun r => mapRowToNode r.1 r.2) =
      (ranked (fun r => rating requirements r.2) (candidates db now requirements)).map fun r => mapRowToNode r.1 r.2 := by
    refine (List.map_mergeSort fun a ha b hb => ?_).symm
    rw [hscore a ha, hscore b hb]
  rw [selectNodes, eligibleNodes_filter hlisted, hchosen]
  change (if ((candidates db now requirements).map fun r => mapRowToNode r.1 r.2).isEmpty then Except.error NetworkError.noEligibleNodes
    else .ok (((rankNodes requirements ((candidates db now requirements).map fun r => mapRowToNode r.1 r.2)).take 3).map (·.id))) = _
  rw [hranked, ← List.map_take, List.map_map]
  simp only [List.isEmpty_iff, List.map_eq_nil_iff]
  rfl

theorem offered_listed (hdb : WellFormedNodes db) :
    ∀ node ∈ offeredNodes db now requirements, ∃ models, node.capabilities.models = some models := by
  intro node hnode
  obtain ⟨r, hr, rfl⟩ := List.mem_map.mp hnode
  exact (hdb r.1 r.2 (Table.get?_eq_some.mpr (List.mem_filter.mp (List.mem_mergeSort.mp hr)).1)).models

end Candidates

/-! ### The assignment -/

/-- Three of the eligible nodes, or all where there are fewer, and no better ones. -/
structure Best (db : NetworkDb) (now : Nat) (requirements : TaskRequirements) (ids : List Uuid) : Prop where
  distinct : ids.Nodup
  count : ids.length = min 3 (Eligible db now requirements).ncard
  eligible : ∀ n ∈ ids, n ∈ Eligible db now requirements
  optimal : ∀ n ∈ ids, ∀ m ∈ Eligible db now requirements, m ∉ ids → ∀ row other, db.nodes.get? n = some row →
    db.nodes.get? m = some other → rating requirements other ≤ rating requirements row

/-- The task is given to these nodes, and their loads are raised by one. -/
structure Given (db : NetworkDb) (key : Uuid) (ids : List Uuid) (u : NetworkDb) : Prop where
  task : ∀ task, db.tasks.get? key = some task → u.tasks.get? key = some { task with assigned_nodes := ids, status := .assigned }
  raised : ∀ n ∈ ids, (u.nodes.get? n).map NodeRow.load = (db.nodes.get? n).map fun row => row.load + 1
  others : ∀ n, n ∉ ids → loadOf u n = loadOf db n

/-- What an assignment returns, and the tables it leaves. -/
structure AssignsBest (db : NetworkDb) (now : Nat) (key : Uuid) (requirements : TaskRequirements)
    (result : Except NetworkError (List Uuid)) (u : NetworkDb) : Prop where
  refused : Eligible db now requirements = ∅ → (∃ e, result = .error e) ∧ u.tasks = db.tasks ∧ u.nodes = db.nodes
  divisors : ∀ n row, db.nodes.get? n = some row → Suits now requirements row → (mapRowToNode n row).max_concurrent_tasks ≠ 0
  assigned : (Eligible db now requirements).Nonempty → ∃ ids, result = .ok ids ∧ Best db now requirements ids ∧ Given db key ids u

/-- An eligible node whose load is NULL is outranked by three others. -/
def LoadsKnown (db : NetworkDb) (now : Nat) (requirements : TaskRequirements) : Prop :=
  ∀ r ∈ candidates db now requirements, r.2.current_load = none → Outclassed db now requirements r

section Assignment
variable {db : NetworkDb} {now : Nat} {requirements : TaskRequirements}

theorem get?_load (db : NetworkDb) (n : Uuid) : (db.nodes.get? n).map NodeRow.load = (loadOf db n).map (·.getD 0) := by
  rw [loadOf, Option.map_map]
  congr 1
  funext row
  rw [NodeRow.load, Function.comp_apply]
  cases row.current_load <;> rfl

theorem eligible_nonempty (hdb : WellFormedNodes db) : (Eligible db now requirements).Nonempty ↔ candidates db now requirements ≠ [] := by
  constructor
  · rintro ⟨n, row, h⟩
    exact List.ne_nil_of_mem ((mem_candidates hdb).mpr h)
  · intro h
    obtain ⟨⟨n, row⟩, hr⟩ := List.exists_mem_of_ne_nil _ h
    exact ⟨n, row, (mem_candidates hdb).mp hr⟩

/-- The three best candidates are the best of the eligible nodes. -/
theorem best_candidates (hdb : WellFormedNodes db) : Best db now requirements
    ((topRated db now requirements).map Prod.fst) := by
  have hrow {n : Uuid} {row : NodeRow} (hn : n ∈ (topRated db now requirements).map Prod.fst)
      (hget : db.nodes.get? n = some row) : (n, row) ∈ topRated db now requirements := by
    obtain ⟨⟨n, row'⟩, hr, rfl⟩ := List.mem_map.mp hn
    obtain ⟨hget', -⟩ := (mem_candidates hdb).mp (topRated_subset hr)
    obtain rfl := Option.some.inj (hget.symm.trans hget')
    exact hr
  refine ⟨?_, ?_, ?_, ?_⟩
  · have hranked : ((ranked (fun r => rating requirements r.2) (candidates db now requirements)).map Prod.fst).Nodup :=
      ((ranked_perm _ _).map Prod.fst).nodup_iff.mpr candidates_nodup
    exact hranked.sublist ((List.take_sublist _ _).map _)
  · rw [List.length_map, topRated, best_length, candidates_length hdb]
  · intro n hn
    obtain ⟨⟨n, row⟩, hr, rfl⟩ := List.mem_map.mp hn
    exact ⟨row, (mem_candidates hdb).mp (topRated_subset hr)⟩
  · intro n hn m hm hout row other hget hother
    obtain ⟨other', hget', hsuits⟩ := hm
    obtain rfl := Option.some.inj (hother.symm.trans hget')
    have hleft : (m, other) ∉ topRated db now requirements := fun h => hout (List.mem_map.mpr ⟨(m, other), h, rfl⟩)
    exact topRated_optimal (a := (n, row)) (b := (m, other)) (hrow hn hget) ((mem_candidates hdb).mpr ⟨hother, hsuits⟩) hleft

/-- A task is assigned to the best eligible nodes and their loads are raised, exactly when no
node that is chosen has a load that is NULL. -/
theorem assigned_best_iff (hdb : WellFormedNodes db) (key : Uuid) :
    AssignsBest db now key requirements ((assignTask now (.uuid key) requirements).run [] db Local.empty).1
      ((assignTask now (.uuid key) requirements).run [] db Local.empty).2.1 ↔ LoadsKnown db now requirements := by
  have hdivisors (n : Uuid) (row : NodeRow) : (mapRowToNode n row).max_concurrent_tasks ≠ 0 := by
    rw [mapRowToNode_capacity]
    exact row.capacity_ne_zero
  by_cases hnone : candidates db now requirements = []
  · have hempty : Eligible db now requirements = ∅ :=
      Set.not_nonempty_iff_eq_empty.mp fun h => (eligible_nonempty hdb).mp h hnone
    have hselect : selectNodes requirements (offeredNodes db now requirements) = .error .noEligibleNodes := by
      rw [selectNodes_best (offered_listed hdb), if_pos hnone]
    have hrefused : (assignTask now (.uuid key) requirements).post (fun _ => False) _ db Local.empty := assignTask_refused hselect
    obtain ⟨herror, hsame, -⟩ := run_nil_post hrefused
    have hknown : LoadsKnown db now requirements := fun r hr => absurd hr (by rw [hnone]; exact List.not_mem_nil)
    refine iff_of_true ⟨fun _ => ⟨herror, by rw [hsame], by rw [hsame]⟩, fun n row _ _ => hdivisors n row, fun h => ?_⟩ hknown
    exact absurd hempty h.ne_empty
  have hselect : selectNodes requirements (offeredNodes db now requirements) =
      .ok ((topRated db now requirements).map Prod.fst) := by
    rw [selectNodes_best (offered_listed hdb), if_neg hnone]
  have hassigned : (assignTask now (.uuid key) requirements).post (fun _ => False) _ db Local.empty :=
    assignTask_assigns (fun _ => id) hselect
  have hrun := run_nil_post hassigned
  generalize (assignTask now (.uuid key) requirements).run [] db Local.empty = o at hrun
  obtain ⟨hids, -, ⟨nodes, htables⟩, hloads⟩ := hrun
  have hnonempty : (Eligible db now requirements).Nonempty := (eligible_nonempty hdb).mpr hnone
  have hraised (r : Uuid × NodeRow) (hr : r ∈ topRated db now requirements) :
      (o.2.1.nodes.get? r.1).map NodeRow.load = some ((r.2.current_load.map fun x => x.toInt + 1).getD 0) ∧
        db.nodes.get? r.1 = some r.2 := by
    have hrow := ((mem_candidates hdb).mp (topRated_subset hr)).1
    refine ⟨?_, hrow⟩
    rw [get?_load, hloads, if_pos (List.mem_map.mpr ⟨r, hr, rfl⟩), loadOf, hrow]
    cases hload : r.2.current_load <;> simp [hload]
  constructor
  · intro h r hr hnull
    obtain ⟨ids, hok, -, hgiven⟩ := h.assigned hnonempty
    obtain rfl := Except.ok.inj (hids.symm.trans hok)
    refine (not_mem_topRated hr).mp fun hbest => ?_
    obtain ⟨hread, hrow⟩ := hraised r hbest
    have hclaimed := hgiven.raised r.1 (List.mem_map.mpr ⟨r, hbest, rfl⟩)
    rw [hread, hrow, hnull] at hclaimed
    simp [NodeRow.load, hnull] at hclaimed
  · intro hknown
    refine ⟨fun h => absurd h hnonempty.ne_empty, fun n row _ _ => hdivisors n row, fun _ => ?_⟩
    refine ⟨_, hids, best_candidates hdb, ?_, ?_, ?_⟩
    · intro task htask
      rw [htables]
      simp [htask]
    · intro n hn
      obtain ⟨r, hr, rfl⟩ := List.mem_map.mp hn
      obtain ⟨hread, hrow⟩ := hraised r hr
      rw [hread, hrow]
      cases hload : r.2.current_load with
      | some x => simp [NodeRow.load, hload]
      | none =>
        have hin := topRated_subset hr
        exact absurd hr ((not_mem_topRated hin).mpr (hknown r hin hload))
    · intro n hn
      rw [hloads, if_neg hn]

end Assignment

/-! ### One node for a task -/

/-- A node with eight gigabytes, and this load. -/
def fitNode (load : Option Int32) : NodeRow :=
  { smallNode with capabilities := ⟨false, some 8, some [units "m"]⟩, current_load := load }

def fitDb (load : Option Int32) : NetworkDb := { smallDb with nodes := Table.empty.insert (units "n") (fitNode load) }

/-- What the task asks for. -/
def fitRequirements : TaskRequirements := ⟨units "m", some 4, false, none, none⟩

theorem fitDb_node {load : Option Int32} {n : Uuid} {row : NodeRow} (h : (fitDb load).nodes.get? n = some row) :
    n = units "n" ∧ row = fitNode load := by
  have hmem : (n, row) ∈ [(units "n", fitNode load)] := Table.get?_eq_some.mp h
  exact Prod.mk.inj (List.mem_singleton.mp hmem)

theorem fitDb_wellFormed (load : Option Int32) : WellFormedNodes (fitDb load) := by
  intro n row h
  obtain ⟨-, rfl⟩ := fitDb_node h
  exact ⟨⟨_, rfl⟩, 8, rfl, by norm_num⟩

/-- A node without tasks gets its first. -/
theorem fit_node_assigned : AssignsBest (fitDb (some 0)) 0 (units "t") fitRequirements
    ((assignTask 0 (.uuid (units "t")) fitRequirements).run [] (fitDb (some 0)) Local.empty).1
    ((assignTask 0 (.uuid (units "t")) fitRequirements).run [] (fitDb (some 0)) Local.empty).2.1 := by
  refine (assigned_best_iff (fitDb_wellFormed _) _).mpr fun r hr hnull => ?_
  obtain ⟨-, hrow⟩ := fitDb_node ((mem_candidates (fitDb_wellFormed _)).mp hr).1
  rw [hrow] at hnull
  cases hnull

/-- A node whose load is NULL gets the task, and its load stays NULL. -/
theorem null_load_kept : ¬ ∀ (db : NetworkDb) (now : Nat) (key : Uuid) (requirements : TaskRequirements), WellFormedNodes db →
    AssignsBest db now key requirements ((assignTask now (.uuid key) requirements).run [] db Local.empty).1
      ((assignTask now (.uuid key) requirements).run [] db Local.empty).2.1 := by
  intro hall
  have hsuits : Suits 0 fitRequirements (fitNode none) := by
    refine ⟨rfl, ⟨0, rfl, by decide⟩, ⟨5000, rfl, by decide +kernel⟩, nofun, ?_, nofun, ⟨_, rfl, List.mem_cons_self⟩, by decide⟩
    rintro least hleast
    obtain rfl := Option.some.inj hleast
    exact ⟨8, rfl, by norm_num⟩
  obtain ⟨ids, hids, -, hgiven⟩ := (hall (fitDb none) 0 (units "t") fitRequirements (fitDb_wellFormed none)).assigned
    ⟨units "n", _, rfl, hsuits⟩
  have hresult : ((assignTask 0 (.uuid (units "t")) fitRequirements).run [] (fitDb none) Local.empty).1.toOption = some [units "n"] := by
    decide +kernel
  rw [hids] at hresult
  obtain rfl := Option.some.inj hresult
  have hload : (((assignTask 0 (.uuid (units "t")) fitRequirements).run [] (fitDb none) Local.empty).2.1.nodes.get? (units "n")).map
      NodeRow.load = some 0 := by decide +kernel
  have hraised := hgiven.raised (units "n") List.mem_cons_self
  rw [hload] at hraised
  exact absurd hraised (by decide +kernel)

end GalaxiaAin.Network
