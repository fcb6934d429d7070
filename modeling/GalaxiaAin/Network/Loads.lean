import GalaxiaAin.Network.Capacity
import GalaxiaAin.Network.Finality

/-! The loads of the nodes against the tasks they still owe a report. A load counts the
assignments of a node; a verification ends a task for every node it is assigned to. -/
namespace GalaxiaAin.Network
open GalaxiaAin.Library
open GalaxiaAin.Library.Async hiding bind

/-! ### What a node owes -/

/-- A task that is neither completed nor failed. -/
def Task.unfinished (task : Task) : Bool := !(task.status == .completed || task.status == .failed)

/-- The task is unfinished and assigned to the node, which has reported no result. -/
def Open (db : NetworkDb) (nodeId key : Uuid) : Prop :=
  ∃ task, db.tasks.get? key = some task ∧ task.unfinished = true ∧ nodeId ∈ task.assigned_nodes ∧
    db.task_results.get? (key, nodeId) = none

/-- The tables, and of which tasks which nodes have reported a failure. -/
structure Workload where
  tables : NetworkDb
  failures : List (Uuid × Uuid)

/-- The task is open for the node, which has not reported a failure either. -/
def Workload.Owes (s : Workload) (nodeId key : Uuid) : Prop := Open s.tables nodeId key ∧ (key, nodeId) ∉ s.failures

/-- The unfinished tasks assigned to a node, on which it has reported neither a result nor a failure. -/
def Workload.owed (s : Workload) (nodeId : Uuid) : List Uuid :=
  (s.tables.tasks.rows.filter fun r => r.2.unfinished && r.2.assigned_nodes.contains nodeId &&
    (s.tables.task_results.get? (r.1, nodeId)).isNone && !s.failures.contains (r.1, nodeId)).map Prod.fst

/-- `current_load` of a node. -/
def loadOf (db : NetworkDb) (nodeId : Uuid) : Option (Option Int) :=
  (db.nodes.get? nodeId).map fun row => row.current_load.map Int32.toInt

/-- Every load is the number of the tasks that the node owes a report. -/
def Balanced (s : Workload) : Prop :=
  ∀ nodeId row, s.tables.nodes.get? nodeId = some row → row.current_load.map Int32.toInt = some (s.owed nodeId).length

section Counting
variable {s t : Workload} {nodeId key : Uuid}

theorem mem_owed : key ∈ s.owed nodeId ↔ s.Owes nodeId key := by
  rw [Workload.owed, List.mem_map]
  constructor
  · rintro ⟨⟨k, task⟩, hr, rfl⟩
    obtain ⟨hrow, hall⟩ := List.mem_filter.mp hr
    simp only [Bool.and_eq_true, Bool.not_eq_true', List.contains_iff_mem, Option.isNone_iff_eq_none] at hall
    obtain ⟨⟨⟨hopen, hassigned⟩, hresult⟩, hfailure⟩ := hall
    refine ⟨⟨task, Table.get?_eq_some.mpr hrow, hopen, hassigned, hresult⟩, fun hmem => ?_⟩
    rw [List.contains_iff_mem.mpr hmem] at hfailure
    cases hfailure
  · rintro ⟨⟨task, htask, hopen, hassigned, hresult⟩, hfailure⟩
    refine ⟨(key, task), List.mem_filter.mpr ⟨Table.get?_eq_some.mp htask, ?_⟩, rfl⟩
    simp [hopen, hassigned, hresult, hfailure]

theorem nodup_owed (s : Workload) (nodeId : Uuid) : (s.owed nodeId).Nodup :=
  s.tables.tasks.unique.sublist (List.filter_sublist.map Prod.fst)

theorem balanced_iff : Balanced s ↔ ∀ n x, loadOf s.tables n = some x → x = some ((s.owed n).length : Int) := by
  constructor
  · intro h n x hx
    obtain ⟨row, hrow, rfl⟩ := Option.map_eq_some_iff.mp hx
    exact h n row hrow
  · intro h n row hrow
    exact h n _ (by rw [loadOf, hrow]; rfl)

/-- The same debts are as many. -/
theorem length_owed_congr (h : ∀ k, t.Owes nodeId k ↔ s.Owes nodeId k) : (t.owed nodeId).length = (s.owed nodeId).length := by
  refine ((List.perm_ext_iff_of_nodup (nodup_owed t nodeId) (nodup_owed s nodeId)).mpr fun k => ?_).length_eq
  rw [mem_owed, mem_owed, h]

/-- One debt more. -/
theorem length_owed_succ (hkey : t.Owes nodeId key) (h : ∀ k, s.Owes nodeId k ↔ t.Owes nodeId k ∧ k ≠ key) :
    (t.owed nodeId).length = (s.owed nodeId).length + 1 := by
  have hnot : key ∉ s.owed nodeId := fun hmem => ((h key).mp (mem_owed.mp hmem)).2 rfl
  have hperm : (t.owed nodeId).Perm (key :: s.owed nodeId) := by
    refine (List.perm_ext_iff_of_nodup (nodup_owed t nodeId) (List.nodup_cons.mpr ⟨hnot, nodup_owed s nodeId⟩)).mpr fun k => ?_
    rw [List.mem_cons, mem_owed, mem_owed, h]
    by_cases hk : k = key
    · subst hk
      exact ⟨fun _ => .inl rfl, fun _ => hkey⟩
    · exact ⟨fun ht => .inr ⟨ht, hk⟩, fun hor => (hor.resolve_left hk).1⟩
  exact hperm.length_eq

/-- `GREATEST(0, current_load - 1)`. -/
def lowered (load : Option Int) : Option Int := some (load.elim 0 fun x => max 0 (x - 1))

theorem Balanced.same (h : Balanced s) (hload : ∀ n, loadOf t.tables n = loadOf s.tables n)
    (howes : ∀ n k, t.Owes n k ↔ s.Owes n k) : Balanced t := by
  refine balanced_iff.mpr fun n x hx => ?_
  rw [length_owed_congr (howes n)]
  exact balanced_iff.mp h n x ((hload n).symm.trans hx)

/-- The node owes the report, or has no load to lower. -/
def Workload.Discharges (s : Workload) (nodeId key : Uuid) : Prop :=
  s.Owes nodeId key ∨ ∀ x, loadOf s.tables nodeId = some x → x = some 0

/-- A report lowers a load by the one debt it is about. -/
theorem Balanced.discharge (h : Balanced s)
    (hload : ∀ n, loadOf t.tables n = if n = nodeId then (loadOf s.tables n).map lowered else loadOf s.tables n)
    (howes : ∀ n k, t.Owes n k ↔ s.Owes n k ∧ ¬ (n = nodeId ∧ k = key))
    (howed : s.Discharges nodeId key) : Balanced t := by
  refine balanced_iff.mpr fun n x hx => ?_
  rw [hload] at hx
  by_cases hn : n = nodeId
  · subst hn
    rw [if_pos rfl] at hx
    obtain ⟨y, hy, rfl⟩ := Option.map_eq_some_iff.mp hx
    have hcount := balanced_iff.mp h n y hy
    subst hcount
    by_cases hkey : s.Owes n key
    · have hlength := length_owed_succ hkey fun k => (howes n k).trans (and_congr_right' (by simp))
      simp only [lowered, Option.elim_some]
      congr 1
      omega
    · have hlength := length_owed_congr fun k => (howes n k).trans
        ⟨And.left, fun ho => ⟨ho, fun hk => hkey (hk.2 ▸ ho)⟩⟩
      have hzero := howed.resolve_left hkey _ hy
      rw [hlength, hzero]
      rfl
  · rw [if_neg hn] at hx
    rw [length_owed_congr fun k => (howes n k).trans (and_iff_left fun hk => hn hk.1)]
    exact balanced_iff.mp h n x hx

/-- An assignment adds one debt to each of its nodes. -/
theorem Balanced.assign (h : Balanced s) (key : Uuid) (ids : List Uuid)
    (hload : ∀ n, loadOf t.tables n = if n ∈ ids then (loadOf s.tables n).map (·.map (· + 1)) else loadOf s.tables n)
    (howes : ∀ n k, t.Owes n k ↔ s.Owes n k ∨ (n ∈ ids ∧ k = key)) (hnew : ∀ n ∈ ids, ¬ s.Owes n key) : Balanced t := by
  refine balanced_iff.mpr fun n x hx => ?_
  rw [hload] at hx
  by_cases hn : n ∈ ids
  · rw [if_pos hn] at hx
    obtain ⟨y, hy, rfl⟩ := Option.map_eq_some_iff.mp hx
    have hcount := balanced_iff.mp h n y hy
    subst hcount
    have hlength := length_owed_succ ((howes n key).mpr (.inr ⟨hn, rfl⟩)) (s := s) fun k => ⟨fun ho =>
      ⟨(howes n k).mpr (.inl ho), fun hk => hnew n hn (hk ▸ ho)⟩, fun ho => ((howes n k).mp ho.1).resolve_right fun hk => ho.2 hk.2⟩
    rw [hlength]
    rfl
  · rw [if_neg hn] at hx
    rw [length_owed_congr fun k => (howes n k).trans (or_iff_left fun hk => hn hk.1)]
    exact balanced_iff.mp h n x hx

end Counting

/-! ### Statements -/

section Statements
variable {db : NetworkDb}

theorem updateNode_ok {nodeId : Uuid} {set : NodeRow → Except NetworkError NodeRow} {s : NetworkDb} {row row' : NodeRow}
    (hrow : s.nodes.get? nodeId = some row) (hset : set row = .ok row') :
    (updateNode nodeId set).reply () s = .ok () ∧ ∀ t, (updateNode nodeId set).effect () s t =
      { t with nodes := t.nodes.modify nodeId fun _ => row' } := by
  have hrun : (updateNode nodeId set).run () s =
      .ok ((), fun db => { db with nodes := db.nodes.modify nodeId fun _ => row' }) := by
    simp only [updateNode, hrow, hset]
    rfl
  exact ⟨Stmt.reply_ok hrun, fun t => by rw [Stmt.effect_ok hrun]⟩

theorem updateNode_none {nodeId : Uuid} {set : NodeRow → Except NetworkError NodeRow} {s : NetworkDb}
    (hrow : s.nodes.get? nodeId = none) :
    (updateNode nodeId set).reply () s = .ok () ∧ ∀ t, (updateNode nodeId set).effect () s t = t := by
  have hrun : (updateNode nodeId set).run () s = .ok ((), id) := by
    simp only [updateNode, hrow]
  exact ⟨Stmt.reply_ok hrun, fun t => by rw [Stmt.effect_ok hrun]; rfl⟩

theorem loadOf_modify (t : NetworkDb) (nodeId : Uuid) (row' : NodeRow) (n : Uuid) :
    loadOf { t with nodes := t.nodes.modify nodeId fun _ => row' } n =
      if n = nodeId then (loadOf t n).map fun _ => row'.current_load.map Int32.toInt else loadOf t n := by
  simp only [loadOf, Table.get?_modify]
  split
  · cases t.nodes.get? n <;> rfl
  · rfl

/-- A load that is not negative can be lowered. -/
theorem addInteger_pred {load : Option Int32} (h : ∀ x, load = some x → 0 ≤ x.toInt) :
    ∃ y, addInteger (-1) load = .ok y ∧ (greatestInteger y).map Int32.toInt = lowered (load.map Int32.toInt) := by
  cases load with
  | none => exact ⟨none, rfl, rfl⟩
  | some x =>
    have hlow := h x rfl
    have hhigh := Int32.toInt_lt x
    have hint : integer (x.toInt + -1) = .ok (Int32.ofInt (x.toInt + -1)) := if_pos ⟨by omega, by omega⟩
    refine ⟨some (Int32.ofInt (x.toInt + -1)), by rw [addInteger, hint]; rfl, ?_⟩
    have hvalue : (Int32.ofInt (x.toInt + -1)).toInt = x.toInt + -1 := integer_toInt hint
    simp only [greatestInteger, lowered, Option.elim_some, Option.map_some, hvalue]
    split
    · rw [Int32.toInt_zero, max_eq_left (by omega)]
    · rw [hvalue, max_eq_right (by omega)]
      rfl

/-- A load below its capacity can be raised. -/
theorem addInteger_succ {load : Option Int32} (h : ∀ x, load = some x → x.toInt < 2147483647) :
    ∃ y, addInteger 1 load = .ok y ∧ y.map Int32.toInt = (load.map Int32.toInt).map (· + 1) := by
  cases load with
  | none => exact ⟨none, rfl, rfl⟩
  | some x =>
    have hlow := Int32.le_toInt x
    have hhigh := h x rfl
    have hint : integer (x.toInt + 1) = .ok (Int32.ofInt (x.toInt + 1)) := if_pos ⟨by omega, by omega⟩
    refine ⟨some (Int32.ofInt (x.toInt + 1)), by rw [addInteger, hint]; rfl, ?_⟩
    exact congrArg some (integer_toInt hint)

/-- An update that moves the load of a node, whatever it does to the rest of the row. -/
theorem move_loadOf {nodeId : Uuid} {set : NodeRow → Except NetworkError NodeRow} {r : NodeRow → Option Int32 → NodeRow}
    {g : Option Int32 → Option Int32} {f : Option Int → Option Int} {d : Int} {s : NetworkDb}
    (hset : ∀ row, set row = (addInteger d row.current_load).bind fun y => .ok (r row (g y)))
    (hr : ∀ row y, (r row y).current_load = y)
    (h : ∀ row, s.nodes.get? nodeId = some row → ∃ y, addInteger d row.current_load = .ok y ∧
      (g y).map Int32.toInt = f (row.current_load.map Int32.toInt)) :
    (updateNode nodeId set).reply () s = .ok () ∧ ∀ t, loadOf t nodeId = loadOf s nodeId → ∀ n,
      loadOf ((updateNode nodeId set).effect () s t) n = if n = nodeId then (loadOf s n).map f else loadOf t n := by
  cases hrow : s.nodes.get? nodeId with
  | none =>
    obtain ⟨hreply, heffect⟩ := @updateNode_none nodeId set s hrow
    refine ⟨hreply, fun t ht n => ?_⟩
    rw [heffect]
    split
    case isTrue hn => rw [hn, ht, loadOf, hrow]; rfl
    case isFalse => rfl
  | some row =>
    have hload : loadOf s nodeId = some (row.current_load.map Int32.toInt) := by rw [loadOf, hrow]; rfl
    obtain ⟨y, hy, hmoved⟩ := h row hrow
    have hok : set row = .ok (r row (g y)) := by rw [hset, hy]; rfl
    obtain ⟨hreply, heffect⟩ := updateNode_ok hrow hok
    refine ⟨hreply, fun t ht n => ?_⟩
    rw [heffect, loadOf_modify, hr, hmoved]
    split
    case isTrue hn => rw [hn, ht, hload]; rfl
    case isFalse => rfl

theorem lower_loadOf {nodeId : Uuid} {set : NodeRow → Except NetworkError NodeRow} {r : NodeRow → Option Int32 → NodeRow}
    {s : NetworkDb} (hset : ∀ row, set row = (addInteger (-1) row.current_load).bind fun y => .ok (r row (greatestInteger y)))
    (hr : ∀ row y, (r row y).current_load = y) (h : ∀ x, loadOf s nodeId = some (some x) → 0 ≤ x) :
    (updateNode nodeId set).reply () s = .ok () ∧ ∀ t, loadOf t nodeId = loadOf s nodeId → ∀ n,
      loadOf ((updateNode nodeId set).effect () s t) n = if n = nodeId then (loadOf s n).map lowered else loadOf t n :=
  move_loadOf hset hr fun row hrow => addInteger_pred fun x hx => h _ (by rw [loadOf, hrow, Option.map_some, hx]; rfl)

theorem raise_loadOf {nodeId : Uuid} (h : ∀ x, loadOf db nodeId = some (some x) → x < 2147483647) :
    (incrementLoad nodeId).reply () db = .ok () ∧ ∀ n, loadOf ((incrementLoad nodeId).effect () db db) n =
      if n = nodeId then (loadOf db n).map (·.map (· + 1)) else loadOf db n := by
  obtain ⟨hreply, hloads⟩ := move_loadOf (s := db) (g := id) (f := (·.map (· + 1))) (r := fun row y => { row with current_load := y })
    (fun _ => rfl) (fun _ _ => rfl) fun row hrow =>
      addInteger_succ fun x hx => h _ (by rw [loadOf, hrow, Option.map_some, hx]; rfl)
  exact ⟨hreply, hloads db rfl⟩

/-- An update that leaves the load of a node. -/
theorem keep_loadOf {nodeId : Uuid} {set : NodeRow → Except NetworkError NodeRow}
    (hset : ∀ row row', set row = .ok row' → row'.current_load = row.current_load) {s t : NetworkDb}
    (h : loadOf t nodeId = loadOf s nodeId) (n : Uuid) : loadOf ((updateNode nodeId set).effect () s t) n = loadOf t n := by
  cases hrow : s.nodes.get? nodeId with
  | none => rw [(updateNode_none hrow).2]
  | some row =>
    cases hrow' : set row with
    | error e =>
      have hrun : (updateNode nodeId set).run () s = .error e := by
        simp only [updateNode, hrow, hrow']
        rfl
      rw [Stmt.effect_error hrun]
      rfl
    | ok row' =>
      rw [(updateNode_ok hrow hrow').2, loadOf_modify, hset row row' hrow']
      split
      case isFalse => rfl
      case isTrue hn => rw [hn, h, loadOf, hrow]; rfl

/-- Open tasks are read from the tasks and the results. -/
theorem open_congr {s t : NetworkDb} (htasks : t.tasks = s.tasks) (hresults : t.task_results = s.task_results) {n k : Uuid} :
    Open t n k ↔ Open s n k := by
  rw [Open, Open, htasks, hresults]

theorem updateNode_open {nodeId : Uuid} {set : NodeRow → Except NetworkError NodeRow} (s t : NetworkDb) {n k : Uuid} :
    Open ((updateNode nodeId set).effect () s t) n k ↔ Open t n k := by
  obtain ⟨nodes, h⟩ := updateNode_effect nodeId set s t
  rw [h]
  exact open_congr rfl rfl

/-- A result is recorded under its task and node, and nowhere else. -/
theorem insertResult_at (key nodeId : Uuid) (output : Text) (ms : Int) (s t : NetworkDb) :
    ∃ results, (insertResult (.uuid key) nodeId output ms).effect () s t = { t with task_results := results } ∧
      (∀ k, k ≠ (key, nodeId) → results.get? k = t.task_results.get? k) ∧
      ((t.task_results.get? (key, nodeId)).isSome → (results.get? (key, nodeId)).isSome) ∧
      ((insertResult (.uuid key) nodeId output ms).reply () s = .ok () → s.task_results = t.task_results →
        (results.get? (key, nodeId)).isSome) := by
  rw [Stmt.effect, Stmt.reply]
  simp only [insertResult, UuidText.read]
  cases hms : integer ms with
  | error e => exact ⟨t.task_results, rfl, fun _ _ => rfl, id, fun h => by cases h⟩
  | ok ms' =>
    simp only [bind, Except.bind]
    by_cases hmissing : ((s.tasks.get? key).isNone || (s.nodes.get? nodeId).isNone) = true
    · rw [if_pos hmissing]
      exact ⟨t.task_results, rfl, fun _ _ => rfl, id, fun h => by cases h⟩
    rw [if_neg hmissing]
    by_cases hthere : (s.task_results.get? (key, nodeId)).isSome = true
    · rw [if_pos hthere]
      refine ⟨_, rfl, fun k hk => Table.get?_modify_ne _ _ hk, fun h => ?_, fun _ hsame => ?_⟩
      · rw [Table.get?_modify_self, Option.isSome_map]
        exact h
      · rw [Table.get?_modify_self, Option.isSome_map, ← hsame]
        exact hthere
    rw [if_neg hthere]
    cases hfree : t.task_results.get? (key, nodeId) with
    | none =>
      refine ⟨_, rfl, fun k hk => ?_, fun _ => ?_, fun _ _ => ?_⟩
      · rw [Table.get?_insert _ hfree, if_neg hk]
      all_goals rw [Table.get?_insert _ hfree, if_pos rfl]; rfl
    | some x =>
      refine ⟨_, rfl, fun k _ => ?_, fun _ => ?_, fun _ _ => ?_⟩
      all_goals rw [Table.insert, dif_neg (by rw [hfree]; exact Option.some_ne_none x)]
      all_goals rw [hfree]; rfl

end Statements

/-! ### What a verification leaves -/

/-- The loads are the same, no task is opened, and only the tasks of `may` are closed. -/
def settling (may : Uuid → Prop) : Frame backend where
  kept s t := (∀ n, loadOf t n = loadOf s n) ∧ (∀ n k, Open t n k → Open s n k) ∧ ∀ n k, ¬ may k → Open s n k → Open t n k
  kept_refl _ := ⟨fun _ => rfl, fun _ _ h => h, fun _ _ _ h => h⟩
  kept_trans _ _ _ h h' := ⟨fun n => (h'.1 n).trans (h.1 n), fun n k ho => h.2.1 n k (h'.2.1 n k ho),
    fun n k hk ho => h'.2.2 n k hk (h.2.2 n k hk ho)⟩

/-- Where no node owes a report of the tasks that may be closed, the balance stays. -/
theorem Balanced.settle {s : Workload} {u : NetworkDb} {may : Uuid → Prop} (h : Balanced s) (hu : (settling may).kept s.tables u)
    (hmay : ∀ n k, may k → ¬ s.Owes n k) : Balanced ⟨u, s.failures⟩ := by
  refine h.same hu.1 fun n k => ⟨fun ho => ⟨hu.2.1 n k ho.1, ho.2⟩, fun ho => ⟨hu.2.2 n k (fun hk => hmay n k hk ho) ho.1, ho.2⟩⟩

section Settling
variable {may : Uuid → Prop} {a : NetworkDb} {key : Uuid}

theorem updateNode_settling {nodeId : Uuid} {set : NodeRow → Except NetworkError NodeRow}
    (hset : ∀ row row', set row = .ok row' → row'.current_load = row.current_load) :
    (updateNode nodeId set).Maintains ((settling may).kept a) := by
  intro c s t hs ht
  refine (settling may).kept_trans _ _ _ ht ?_
  refine ⟨keep_loadOf hset ((ht.1 nodeId).trans (hs.1 nodeId).symm), fun n k => ?_, fun n k _ => ?_⟩
  · exact (updateNode_open s t).mp
  · exact (updateNode_open s t).mpr

theorem updateTask_settling {set : Task → Task} (h : may key) (hset : ∀ task, (set task).unfinished = false) :
    (updateTask (.uuid key) set).Keeps (settling may) := by
  refine Stmt.Keeps.of_run fun c s r w hrun t => ?_
  obtain ⟨-, rfl⟩ := Prod.mk.inj (Except.ok.inj hrun)
  refine ⟨fun _ => rfl, fun n k ho => ?_, fun n k hk ho => ?_⟩
  · obtain ⟨task, htask, hopen, hassigned, hresult⟩ := ho
    simp only [Table.get?_modify] at htask
    split at htask
    case isTrue =>
      obtain ⟨task', -, rfl⟩ := Option.map_eq_some_iff.mp htask
      rw [hset] at hopen
      cases hopen
    case isFalse => exact ⟨task, htask, hopen, hassigned, hresult⟩
  · obtain ⟨task, htask, hrest⟩ := ho
    exact ⟨task, (Table.get?_modify_ne _ _ fun he : k = key => hk (he ▸ h)).trans htask, hrest⟩

theorem insertConsensus_settling (result : ConsensusResult) : (insertConsensus result).Keeps (settling may) := by
  refine Stmt.Keeps.of_run fun c s r w hrun t => ?_
  simp only [insertConsensus, Stmt.statement] at hrun
  split at hrun
  · cases hrun
  · obtain ⟨-, rfl⟩ := Prod.mk.inj (Except.ok.inj hrun)
    exact (settling may).kept_refl t

theorem markResults_settling (agreeing : List Uuid) (scores : Option (Int × Int)) :
    (markResults key agreeing scores).Keeps (settling may) := by
  refine Stmt.Keeps.of_run fun c s r w hrun t => ?_
  obtain ⟨-, rfl⟩ := Prod.mk.inj (Except.ok.inj hrun)
  refine ⟨fun _ => rfl, fun n k ho => ?_, fun n k _ ho => ?_⟩
  all_goals
    obtain ⟨task, htask, hopen, hassigned, hresult⟩ := ho
    refine ⟨task, htask, hopen, hassigned, ?_⟩
    simpa using hresult

/-- A result closes its task for the node at most. -/
theorem insertResult_settling (h : may key) (nodeId : Uuid) (output : Text) (ms : Int) :
    (insertResult (.uuid key) nodeId output ms).Keeps (settling may) := by
  intro c s t
  obtain ⟨results, heffect, hother, hmore, -⟩ := insertResult_at key nodeId output ms s t
  rw [heffect]
  refine ⟨fun _ => rfl, fun n k ho => ?_, fun n k hk ho => ?_⟩
  all_goals obtain ⟨task, htask, hopen, hassigned, hresult⟩ := ho
  · refine ⟨task, htask, hopen, hassigned, ?_⟩
    by_cases hkey : (k, n) = (key, nodeId)
    · rw [hkey] at hresult ⊢
      cases hthere : t.task_results.get? (key, nodeId) with
      | none => rfl
      | some x =>
        have hsome := hmore (by rw [hthere]; rfl)
        rw [hresult] at hsome
        cases hsome
    · rwa [hother _ hkey] at hresult
  · refine ⟨task, htask, hopen, hassigned, ?_⟩
    rw [hother _ fun he => hk (by rw [(Prod.mk.inj he).1]; exact h)]
    exact hresult

theorem withstands_settling (h : may key) : Withstands ((settling may).kept a) key where
  count _ := updateNode_settling fun _ _ hrow => by cases hrow; rfl
  reputation nodeId reputation := by
    refine updateNode_settling fun row row' hrow => ?_
    cases hscore : assignScore reputation with
    | error e => rw [hscore] at hrow; cases hrow
    | ok u => rw [hscore] at hrow; cases hrow; rfl
  penalty _ _ := updateNode_settling fun _ _ hrow => by cases hrow; rfl
  marks agreeing scores := Stmt.Keeps.maintains (markResults_settling agreeing scores)
  consensus result _ := Stmt.Keeps.maintains (insertConsensus_settling result)
  status status hstatus := Stmt.Keeps.maintains (updateTask_settling h fun task => by rcases hstatus with rfl | rfl <;> rfl)

/-- The verification of a task that may be closed, and of one without pending results. -/
theorem verifyTaskResults_settling {s : NetworkDb} {l : Local backend} (h : pendingResults s key ≠ [] → may key)
    (hs : Maintained ((settling may).kept a) s l) :
    (verifyTaskResults (.uuid key)).post anywhere (fun _ u l' => Maintained ((settling may).kept a) u l') s l := by
  refine verifyTaskResults_ends (fun _ => hs) hs fun task _ hpending => ?_
  have hw : Withstands ((settling may).kept a) key := withstands_settling (h hpending)
  have hstart : Maintained ((settling may).kept a) s (⟨.idle :: l.sessions, l.out⟩ : Local backend) :=
    ⟨hs.1, fun x hx => (List.mem_cons.mp hx).elim (fun hx => hx ▸ trivial) (hs.2 x)⟩
  split
  · exact post_mono (verifyDeterministicResults_preserves hw _ _ _ hstart) fun _ _ _ hk => ⟨hk.1, hk.tail⟩
  · exact post_mono (verifyNonDeterministicResults_preserves hw _ _ _ hstart) fun _ _ _ hk => ⟨hk.1, hk.tail⟩

end Settling

/-! ### What a report leaves -/

section Reports
variable {db : NetworkDb} {key nodeId : Uuid}

/-- No load is negative. -/
theorem Balanced.nonneg {s : Workload} (h : Balanced s) (n : Uuid) (x : Int) (hx : loadOf s.tables n = some (some x)) : 0 ≤ x := by
  have hcount := balanced_iff.mp h n _ hx
  rw [Option.some.inj hcount]
  exact Int.natCast_nonneg _

/-- A recorded result lowers the load of its node. -/
theorem afterReport_loadOf (h : ∀ x, loadOf db nodeId = some (some x) → 0 ≤ x) (report : CompletionReport) (n : Uuid) :
    loadOf (afterReport db nodeId report) n = if n = nodeId then (loadOf db n).map lowered else loadOf db n := by
  obtain ⟨results, hresults, -⟩ := insertResult_effect report.taskId nodeId report.output report.processing_time_ms db db
  rw [afterReport, hresults]
  exact (lower_loadOf (s := { db with task_results := results }) (r := fun row y => { row with current_load := y })
    (fun _ => rfl) (fun _ _ => rfl) h).2 _ rfl n

/-- It closes the task for the node. -/
theorem afterReport_open {report : CompletionReport} (hkey : report.taskId = .uuid key)
    (hok : (insertResult report.taskId nodeId report.output report.processing_time_ms).reply () db = .ok ()) (n k : Uuid) :
    Open (afterReport db nodeId report) n k ↔ Open db n k ∧ ¬ (n = nodeId ∧ k = key) := by
  rw [hkey] at hok
  obtain ⟨results, heffect, hother, -, hthere⟩ := insertResult_at key nodeId report.output report.processing_time_ms db db
  have hthere := hthere hok rfl
  rw [afterReport, hkey, heffect, decrementLoad, updateNode_open]
  constructor
  · rintro ⟨task, htask, hopen, hassigned, hresult⟩
    have hne : ¬ (n = nodeId ∧ k = key) := by
      rintro ⟨rfl, rfl⟩
      rw [hresult] at hthere
      cases hthere
    refine ⟨⟨task, htask, hopen, hassigned, ?_⟩, hne⟩
    rwa [hother _ fun he => hne ⟨(Prod.mk.inj he).2, (Prod.mk.inj he).1⟩] at hresult
  · rintro ⟨⟨task, htask, hopen, hassigned, hresult⟩, hne⟩
    refine ⟨task, htask, hopen, hassigned, ?_⟩
    rwa [hother _ fun he => hne ⟨(Prod.mk.inj he).2, (Prod.mk.inj he).1⟩]

/-- It lowers the load of the node, which is as it was read. -/
theorem penalized_loadOf {s t : NetworkDb} (h : ∀ x, loadOf s nodeId = some (some x) → 0 ≤ x) (ht : loadOf t nodeId = loadOf s nodeId)
    (n : Uuid) : loadOf (penalized nodeId s t) n = if n = nodeId then (loadOf s n).map lowered else loadOf t n := by
  have hfail := (lower_loadOf (s := s)
    (r := fun row y => { row with current_load := y, tasks_failed := row.tasks_failed.map (· + 1) })
    (fun _ => rfl) (fun _ _ => rfl) h).2
  rw [penalized, reduceReputation, keep_loadOf (fun _ _ hrow => by cases hrow; rfl)]
  · exact hfail t ht n
  · exact (hfail t ht nodeId).trans ((if_pos rfl).trans ((hfail s rfl nodeId).trans (if_pos rfl)).symm)

theorem afterFailure_open {task : Task} (htask : db.tasks.get? key = some task) (n k : Uuid) :
    Open (afterFailure db key nodeId task) n k ↔ Open db n k ∧ ¬ (n = nodeId ∧ k = key) := by
  obtain ⟨nodes, hnodes⟩ := penalized_tables nodeId db db
  rw [afterFailure, hnodes, Open, Open]
  simp only [Table.get?_modify]
  by_cases hk : k = key
  · subst hk
    simp only [if_pos, htask, Option.map_some, Option.some.injEq]
    constructor
    · rintro ⟨_, rfl, hopen, hassigned, hresult⟩
      obtain ⟨hmem, hne⟩ := List.mem_filter.mp hassigned
      exact ⟨⟨task, rfl, hopen, hmem, hresult⟩, fun h => of_decide_eq_true hne h.1⟩
    · rintro ⟨⟨_, rfl, hopen, hassigned, hresult⟩, hne⟩
      exact ⟨_, rfl, hopen, List.mem_filter.mpr ⟨hassigned, decide_eq_true fun h => hne ⟨h, trivial⟩⟩, hresult⟩
  · simp [hk]

end Reports

end GalaxiaAin.Network
