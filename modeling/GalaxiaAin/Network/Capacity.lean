import GalaxiaAin.Library.Noted
import GalaxiaAin.Network.Distribution

/-! Concurrent calls of `assignTask` on the load of a node. A call chooses nodes by the rows
its SELECT read, and raises their loads later, one statement at a time. -/
namespace GalaxiaAin.Network
open GalaxiaAin.Library

/-- The load is at most the capacity, where the row has both. -/
def NodeRow.Within (row : NodeRow) : Prop :=
  ∀ load, row.current_load = some load → ∀ capacity, row.max_concurrent_tasks = some capacity → load.toInt ≤ capacity.toInt

def WithinCapacity (db : NetworkDb) : Prop := ∀ n row, db.nodes.get? n = some row → row.Within

/-- The load is below the capacity, where the row has both. -/
def NodeRow.HasRoom (row : NodeRow) : Prop :=
  ∀ load, row.current_load = some load → ∀ capacity, row.max_concurrent_tasks = some capacity → load.toInt < capacity.toInt

/-- By the rows read the node is below its capacity, as `mapRowToNode` reads both. -/
def OfferedRoom (read : NetworkDb) (n : Uuid) : Prop :=
  ∃ row, read.nodes.get? n = some row ∧ (mapRowToNode n row).current_load < (mapRowToNode n row).max_concurrent_tasks

/-- A call notes the tables its SELECT of the nodes read, and raises the loads of nodes that were offered to it then. -/
def assigning : Noting backend (Option NetworkDb) where
  note read site db := if site = .selectNodes then some db else read
  may read site db db' := db'.nodes = db.nodes ∨
    ∃ n rows, site = .incrementLoad n ∧ read = some rows ∧ OfferedRoom rows n ∧ db' = (incrementLoad n).effect () db db

/-! ### A call -/

/-- The eligible nodes are among those offered, in their order, and the filter accepts each. -/
theorem eligibleNodes_ok {requirements : TaskRequirements} {nodes chosen : List Node}
    (h : eligibleNodes requirements nodes = .ok chosen) :
    chosen.Sublist nodes ∧ ∀ node ∈ chosen, eligible requirements node = .ok true := by
  induction nodes generalizing chosen with
  | nil =>
    cases h
    exact ⟨List.Sublist.refl _, fun _ hmem => (List.not_mem_nil hmem).elim⟩
  | cons node rest ih =>
    rw [eligibleNodes] at h
    cases hkeep : eligible requirements node with
    | error e => rw [hkeep] at h; cases h
    | ok keep =>
      cases hothers : eligibleNodes requirements rest with
      | error e => rw [hkeep, hothers] at h; cases h
      | ok others =>
        rw [hkeep, hothers] at h
        obtain ⟨hsub, haccepted⟩ := ih hothers
        obtain rfl := Except.ok.inj h
        cases keep with
        | false => exact ⟨hsub.cons node, haccepted⟩
        | true => exact ⟨hsub.cons_cons node, List.forall_mem_cons.mpr ⟨hkeep, haccepted⟩⟩

theorem eligible_room {requirements : TaskRequirements} {node : Node} (h : eligible requirements node = .ok true) :
    node.current_load < node.max_concurrent_tasks := by
  rw [eligible] at h
  split at h
  · cases h
  split at h
  · cases h
  split at h
  · cases h
  · have hboth := Except.ok.inj h
    rw [Bool.and_eq_true] at hboth
    exact of_decide_eq_true hboth.2

/-- The nodes selected are the first three of the eligible ones, by their rank. -/
theorem selectNodes_ok {requirements : TaskRequirements} {nodes : List Node} {ids : List Uuid}
    (h : selectNodes requirements nodes = .ok ids) :
    ∃ chosen, eligibleNodes requirements nodes = .ok chosen ∧ ids = ((rankNodes requirements chosen).take 3).map (·.id) := by
  rw [selectNodes] at h
  cases heligible : eligibleNodes requirements nodes with
  | error e => rw [heligible] at h; cases h
  | ok chosen =>
    rw [heligible] at h
    change (if chosen.isEmpty then Except.error NetworkError.noEligibleNodes
      else .ok (((rankNodes requirements chosen).take 3).map (·.id))) = .ok ids at h
    split at h
    · cases h
    · exact ⟨chosen, rfl, (Except.ok.inj h).symm⟩

theorem selectNodes_room {requirements : TaskRequirements} {nodes : List Node} {ids : List Uuid}
    (h : selectNodes requirements nodes = .ok ids) :
    ∀ id ∈ ids, ∃ node ∈ nodes, node.id = id ∧ node.current_load < node.max_concurrent_tasks := by
  obtain ⟨chosen, heligible, rfl⟩ := selectNodes_ok h
  obtain ⟨hsub, haccepted⟩ := eligibleNodes_ok heligible
  intro id hid
  obtain ⟨node, hnode, rfl⟩ := List.mem_map.mp hid
  have hmem : node ∈ chosen := List.mem_mergeSort.mp (List.mem_of_mem_take hnode)
  exact ⟨node, hsub.subset hmem, rfl, eligible_room (haccepted node hmem)⟩

theorem offeredRoom_of_active {filters : NodeFilters} {now : Nat} {db : NetworkDb} {node : Node}
    (h : node ∈ (activeRows filters now db).map fun r => mapRowToNode r.1 r.2)
    (hroom : node.current_load < node.max_concurrent_tasks) : OfferedRoom db node.id := by
  obtain ⟨⟨id, row⟩, hr, rfl⟩ := List.mem_map.mp h
  have hrow : (id, row) ∈ db.nodes.rows := (List.mem_filter.mp (List.mem_mergeSort.mp hr)).1
  exact ⟨row, Table.get?_eq_some.mpr hrow, hroom⟩

theorem getActiveNodes_noted (filters : NodeFilters) (now : Nat) (g : Option NetworkDb) :
    (getActiveNodes filters now).Noted assigning (fun r g => ∀ nodes, r = .ok nodes →
      ∃ db, g = some db ∧ nodes = (activeRows filters now db).map fun r => mapRowToNode r.1 r.2) g := by
  refine Async.noted_withClient (fun _ => rfl) (fun e nodes h => (nomatch h)) ?_
  refine Async.noted_query (fun db => .inl rfl) fun db r hr nodes hnodes => ⟨db, rfl, ?_⟩
  rcases hr with rfl | ⟨f, rfl⟩
  · exact (Except.ok.inj hnodes).symm
  · cases hnodes

theorem incrementLoads_noted {rows : NetworkDb} (ids : List Uuid) (h : ∀ id ∈ ids, OfferedRoom rows id) :
    (incrementLoads ids).Noted assigning (fun _ _ => True) (some rows) := by
  induction ids with
  | nil => trivial
  | cons id rest ih =>
    refine Async.noted_bind (Async.noted_query (fun db => .inr ⟨id, rows, rfl, rfl, h id List.mem_cons_self, rfl⟩)
      fun db r _ => ?_)
    cases r with
    | error e => trivial
    | ok u => exact ih fun id hid => h id (List.mem_cons_of_mem _ hid)

theorem assignNodes_nodes (taskId : UuidText) (ids : List Uuid) (db : NetworkDb) :
    ((assignNodes taskId ids).effect () db db).nodes = db.nodes := by
  cases taskId <;> rfl

theorem assignTask_noted (now : Nat) (taskId : UuidText) (requirements : TaskRequirements) (g : Option NetworkDb) :
    (assignTask now taskId requirements).Noted assigning (fun _ _ => True) g := by
  refine Async.noted_withClient (fun _ => rfl) (fun _ => trivial) (Async.noted_bind ?_)
  refine Async.noted_mono (getActiveNodes_noted _ now g) fun r g hr => ?_
  cases r with
  | error e => trivial
  | ok nodes =>
    obtain ⟨db, rfl, hnodes⟩ := hr nodes rfl
    refine Async.noted_bind (Async.noted_ofExcept ?_)
    cases hselect : selectNodes requirements nodes with
    | error e => trivial
    | ok ids =>
      have hroom : ∀ id ∈ ids, OfferedRoom db id := by
        intro id hid
        obtain ⟨node, hnode, rfl, hlt⟩ := selectNodes_room hselect id hid
        rw [hnodes] at hnode
        exact offeredRoom_of_active hnode hlt
      refine Async.noted_bind (Async.noted_query (fun db => .inl (assignNodes_nodes _ _ _)) fun db' r _ => ?_)
      cases r with
      | error e => trivial
      | ok u =>
        refine Async.noted_bind (Async.noted_mono (incrementLoads_noted ids hroom) fun r g _ => ?_)
        cases r <;> trivial

/-! ### Runs -/

/-- What a call of `assignTask` is given. -/
structure Assignment where
  now : Nat
  taskId : UuidText
  requirements : TaskRequirements

def Assignment.program (call : Assignment) : Async backend (List Uuid) :=
  assignTask call.now call.taskId call.requirements

/-- Concurrent calls before their first statement. -/
def assignments {ι : Type} (calls : ι → Assignment) (db : NetworkDb) : Config backend ι (List Uuid) :=
  ⟨db, fun i => Thread.start (calls i).program⟩

/-- Every call may be served and may fail. -/
def anyAnswer : Policy backend := fun _ _ _ _ => True

/-- A node's load is raised while it has room: it is as the call's SELECT read it and the
capacity is not 0, which is read as the default, or it is below the capacity. -/
def RoomLeft {ι : Type} (read : ι → Option NetworkDb) (cfg : Config backend ι (List Uuid)) (i : ι) (a : Answer backend) :
    Prop :=
  ¬ a.Faulty → ∀ n, cfg.site i = some (.incrementLoad n) → ∀ rows, read i = some rows → ∀ seen, rows.nodes.get? n = some seen →
    ∀ row, cfg.store.nodes.get? n = some row →
      (row.max_concurrent_tasks ≠ some 0 ∧ row.current_load = seen.current_load) ∨ row.HasRoom

def capacities (db : NetworkDb) (n : Uuid) : Option (Option Int32) := (db.nodes.get? n).map (·.max_concurrent_tasks)

theorem integer_toInt {x : Int} {y : Int32} (h : integer x = .ok y) : y.toInt = x := by
  rw [integer] at h
  split at h
  · obtain rfl := Except.ok.inj h
    exact Int32.toInt_ofInt_of_le (by omega) (by omega)
  · cases h

theorem incrementLoad_effect (n : Uuid) (db : NetworkDb) : (incrementLoad n).effect () db db = db ∨
    ∃ row load, db.nodes.get? n = some row ∧ addInteger 1 row.current_load = .ok load ∧
      (incrementLoad n).effect () db db = { db with nodes := db.nodes.modify n fun _ => { row with current_load := load } } := by
  cases hrow : db.nodes.get? n with
  | none =>
    refine .inl ?_
    simp [incrementLoad, updateNode, Stmt.effect, hrow]
  | some row =>
    cases hload : addInteger 1 row.current_load with
    | error e =>
      refine .inl ?_
      simp [incrementLoad, updateNode, Stmt.effect, hrow, hload, bind, Except.bind, Except.map]
    | ok load =>
      refine .inr ⟨row, load, rfl, hload, ?_⟩
      simp [incrementLoad, updateNode, Stmt.effect, hrow, hload, bind, Except.bind, Except.map]

theorem incrementLoad_capacities (n : Uuid) (db : NetworkDb) :
    capacities ((incrementLoad n).effect () db db) = capacities db := by
  rcases incrementLoad_effect n db with heq | ⟨row, load, hrow, -, heq⟩
  · rw [heq]
  · funext n'
    rw [heq, capacities, capacities, Table.get?_modify]
    split
    case isTrue h =>
      subst h
      rw [hrow]
      rfl
    case isFalse h => rfl

/-- Raising the load of a row with room leaves it within its capacity. -/
theorem NodeRow.HasRoom.raise {row : NodeRow} {load : Option Int32} (hroom : row.HasRoom)
    (hload : addInteger 1 row.current_load = .ok load) : NodeRow.Within { row with current_load := load } := by
  intro l hl capacity hcapacity
  simp only at hl hcapacity
  cases hcurrent : row.current_load with
  | none =>
    rw [hcurrent, addInteger] at hload
    rw [← Except.ok.inj hload] at hl
    cases hl
  | some current =>
    rw [hcurrent, addInteger] at hload
    cases hint : integer (current.toInt + 1) with
    | error e => rw [hint] at hload; cases hload
    | ok raised =>
      rw [hint] at hload
      rw [← Except.ok.inj hload] at hl
      obtain rfl := Option.some.inj hl
      have hlt := hroom current hcurrent capacity hcapacity
      have hraised := integer_toInt hint
      omega

/-- A row that is as it was read, with a capacity other than 0, has the room it was offered with. -/
theorem hasRoom_of_offered {n : Uuid} {seen row : NodeRow}
    (hoffer : (mapRowToNode n seen).current_load < (mapRowToNode n seen).max_concurrent_tasks)
    (hcapacity : row.max_concurrent_tasks = seen.max_concurrent_tasks) (hzero : row.max_concurrent_tasks ≠ some 0)
    (hload : row.current_load = seen.current_load) : row.HasRoom := by
  intro load hl capacity hc
  rw [hload] at hl
  have hne : capacity.toInt ≠ 0 := fun h => hzero (by rw [hc, Int32.toInt_inj.mp (h.trans Int32.toInt_zero.symm)])
  rw [hcapacity] at hc
  simp only [mapRowToNode, hl, hc, Option.map_some, orDefault, hne, if_false] at hoffer
  split at hoffer
  · rename_i h
    rw [h]
    exact hoffer
  · exact hoffer

/-- The calls fit what they noted, no node is over its capacity, and capacities are as they were read. -/
structure Assigned {ι : Type} (read : ι → Option NetworkDb) (cfg : Config backend ι (List Uuid)) : Prop where
  noted : cfg.Noted assigning (fun _ _ _ => True) read
  within : WithinCapacity cfg.store
  unmoved : ∀ i rows, read i = some rows → capacities rows = capacities cfg.store

theorem Assigned.step {ι : Type} [DecidableEq ι] {read : ι → Option NetworkDb} {cfg : Config backend ι (List Uuid)} {i : ι}
    {a : Answer backend} (h : Assigned read cfg) (he : cfg.Enabled anyAnswer i a) (hroom : RoomLeft read cfg i a) :
    Assigned (assigning.update read cfg i a) (cfg.fire i a) := by
  obtain ⟨⟨σ, hsite, hstore⟩, hnoted⟩ := h.noted.fire he
  have hunmoved (hsame : capacities (cfg.fire i a).store = capacities cfg.store) (j : ι) (rows : NetworkDb)
      (hread : assigning.update read cfg i a j = some rows) : capacities rows = capacities (cfg.fire i a).store := by
    rw [hsame]
    rw [Noting.update, hsite] at hread
    by_cases hj : j = i
    · subst hj
      simp only [Function.update_self, assigning] at hread
      split at hread
      · rw [Option.some.inj hread]
      · exact h.unmoved j rows hread
    · rw [Function.update_of_ne hj] at hread
      exact h.unmoved j rows hread
  have hkept (hnodes : (cfg.fire i a).store.nodes = cfg.store.nodes) : Assigned (assigning.update read cfg i a) (cfg.fire i a) := by
    refine ⟨hnoted, ?_, hunmoved ?_⟩
    · rw [WithinCapacity, hnodes]
      exact h.within
    · funext n
      rw [capacities, capacities, hnodes]
  rcases hstore with hsame | ⟨hserved, hnodes | ⟨n, rows, rfl, hread, ⟨seen, hseen, hoffer⟩, heffect⟩⟩
  · exact hkept (congrArg _ hsame)
  · exact hkept hnodes
  · refine ⟨hnoted, ?_, hunmoved (by rw [heffect, incrementLoad_capacities])⟩
    rcases incrementLoad_effect n cfg.store with heq | ⟨row, load, hrow, hload, heq⟩
    · rw [heffect, heq]
      exact h.within
    · have hcapacity : row.max_concurrent_tasks = seen.max_concurrent_tasks := by
        have hcap := congrFun (h.unmoved i rows hread) n
        rw [capacities, capacities, hseen, hrow] at hcap
        exact (Option.some.inj hcap).symm
      have hfree : row.HasRoom := by
        rcases hroom hserved n hsite rows hread seen hseen row hrow with ⟨hzero, hload⟩ | hfree
        · exact hasRoom_of_offered hoffer hcapacity hzero hload
        · exact hfree
      intro n' row' hrow'
      rw [heffect, heq, Table.get?_modify] at hrow'
      split at hrow'
      case isTrue hn =>
        subst hn
        rw [hrow] at hrow'
        rw [← Option.some.inj hrow']
        exact hfree.raise hload
      case isFalse hn => exact h.within n' row' hrow'

/-- In every run of concurrent calls in which each load is raised while there is room, no node
is ever over its capacity. -/
theorem loads_within_capacity {ι : Type} [DecidableEq ι] (calls : ι → Assignment) (db : NetworkDb)
    (script : List (ι × Answer backend)) (hwithin : WithinCapacity db)
    (hrun : (assignments calls db).Runs anyAnswer script)
    (hroom : (assignments calls db).AlongWith assigning.update RoomLeft (fun _ => none) script) :
    WithinCapacity ((assignments calls db).after script).store := by
  have hstart : Assigned (fun _ => none) (assignments calls db) := by
    refine ⟨Config.noted_start (fun i => assignTask_noted _ _ _ none) db, hwithin, fun i rows h => (nomatch h)⟩
  exact (Config.AlongWith.invariant (fun _ _ _ _ h he hg => h.step he hg) script hstart hrun hroom).within

/-! ### One node for one task -/

def smallNode : NodeRow where
  device_id := units "d"
  capabilities := ⟨false, none, some [units "m"]⟩
  region := none
  uptime_score := some 10000
  reputation := some 5000
  tasks_completed := some 0
  tasks_failed := some 0
  status := .online
  last_seen := some 0
  current_load := some 0
  max_concurrent_tasks := some 1

def smallDb : NetworkDb where
  nodes := Table.empty.insert (units "n") smallNode
  tasks := Table.empty
  task_results := Table.empty
  consensus_results := []
  models := Table.empty
  privacy_settings := Table.empty
  users _ := none

/-- An assignment of a task to nodes with the model. -/
def smallCall : Assignment := ⟨0, .uuid (units "t"), ⟨units "m", none, false, none, none⟩⟩

def servedAnswer : Answer backend := .done backend.usual

/-- The statements of one call, all served. -/
def callSteps {ι : Type} (i : ι) : List (ι × Answer backend) := List.replicate 5 (i, servedAnswer)

/-- Two calls that both read the node before either raises its load. -/
def crossedSteps : List (Bool × Answer backend) :=
  List.replicate 3 (false, servedAnswer) ++ List.replicate 3 (true, servedAnswer) ++
    List.replicate 2 (false, servedAnswer) ++ List.replicate 2 (true, servedAnswer)

instance (σ : Site) (db : NetworkDb) (a : Answer backend) (ok : Bool) : Decidable (anyAnswer σ db a ok) :=
  inferInstanceAs (Decidable True)

theorem smallDb_within : WithinCapacity smallDb := by
  intro n row hrow
  have hmem : (n, row) ∈ [(units "n", smallNode)] := Table.get?_eq_some.mp hrow
  obtain ⟨-, rfl⟩ := Prod.mk.inj (List.mem_singleton.mp hmem)
  intro load hload capacity hcapacity
  obtain rfl := Option.some.inj hload
  obtain rfl := Option.some.inj hcapacity
  decide

/-- Steps at other places than the raising of a load leave room. -/
theorem roomLeft_elsewhere {ι : Type} {read : ι → Option NetworkDb} {cfg : Config backend ι (List Uuid)} {i : ι}
    {a : Answer backend} {σ : Site} (hsite : cfg.site i = some σ) (hσ : ∀ n, σ ≠ .incrementLoad n) : RoomLeft read cfg i a :=
  fun _ n hn => absurd (Option.some.inj (hsite.symm.trans hn)) (hσ n)

/-- The load is raised on a row that has room. -/
theorem roomLeft_free {ι : Type} {read : ι → Option NetworkDb} {cfg : Config backend ι (List Uuid)} {i : ι}
    {a : Answer backend} {n : Uuid} {load capacity : Int32} (hsite : cfg.site i = some (.incrementLoad n))
    (hrow : (cfg.store.nodes.get? n).map (fun row => (row.current_load, row.max_concurrent_tasks)) = some (some load, some capacity))
    (hlt : load.toInt < capacity.toInt) : RoomLeft read cfg i a := by
  intro _ n' hn' rows _ seen _ row hget
  obtain rfl := Site.incrementLoad.inj (Option.some.inj (hsite.symm.trans hn'))
  rw [hget] at hrow
  obtain ⟨hl, hm⟩ := Prod.mk.inj (Option.some.inj hrow)
  refine .inr fun l hl' m hm' => ?_
  rw [← Option.some.inj (hl.symm.trans hl'), ← Option.some.inj (hm.symm.trans hm')]
  exact hlt

/-- A single call gives the node its one task. -/
theorem one_call_within : WithinCapacity ((assignments (fun _ : Unit => smallCall) smallDb).after (callSteps ())).store := by
  have hrun : (assignments (fun _ : Unit => smallCall) smallDb).Runs anyAnswer (callSteps ()) := by decide +kernel
  have hrow : (((assignments (fun _ : Unit => smallCall) smallDb).after (List.replicate 4 ((), servedAnswer))).store.nodes.get?
      (units "n")).map (fun row => (row.current_load, row.max_concurrent_tasks)) = some (some 0, some 1) := by decide +kernel
  refine loads_within_capacity _ smallDb _ smallDb_within hrun ⟨?_, ?_, ?_, ?_, ?_, trivial⟩
  · exact roomLeft_elsewhere (by decide +kernel : _ = some Site.connect) fun _ h => (nomatch h)
  · exact roomLeft_elsewhere (by decide +kernel : _ = some Site.connect) fun _ h => (nomatch h)
  · exact roomLeft_elsewhere (by decide +kernel : _ = some Site.selectNodes) fun _ h => (nomatch h)
  · exact roomLeft_elsewhere (by decide +kernel : _ = some Site.assignNodes) fun _ h => (nomatch h)
  · exact roomLeft_free (by decide +kernel : _ = some (Site.incrementLoad (units "n"))) hrow (by decide)

/-- Two calls give it two. -/
theorem two_calls_exceed : ¬ ∀ (calls : Bool → Assignment) (db : NetworkDb) (script : List (Bool × Answer backend)),
    WithinCapacity db → (assignments calls db).Runs anyAnswer script →
      WithinCapacity ((assignments calls db).after script).store := by
  intro hall
  have hrun : (assignments (fun _ : Bool => smallCall) smallDb).Runs anyAnswer crossedSteps := by decide +kernel
  have hload : (((assignments (fun _ : Bool => smallCall) smallDb).after crossedSteps).store.nodes.get? (units "n")).map
      (fun row => (row.current_load, row.max_concurrent_tasks)) = some (some 2, some 1) := by decide +kernel
  obtain ⟨row, hrow, hpair⟩ := Option.map_eq_some_iff.mp hload
  obtain ⟨hl, hm⟩ := Prod.mk.inj hpair
  have hwithin := hall _ smallDb crossedSteps smallDb_within hrun _ row hrow 2 hl 1 hm
  exact absurd hwithin (by decide)

end GalaxiaAin.Network
