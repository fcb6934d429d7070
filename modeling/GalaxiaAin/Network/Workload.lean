import GalaxiaAin.Network.Loads
import GalaxiaAin.Network.PrivateInput

/-! The network at work: requests, the tasks of the queue and the reports of the nodes, one at
a time. A load is kept where each of them discharges what its node owes, and no more. -/
namespace GalaxiaAin.Network
open GalaxiaAin.Library
open GalaxiaAin.Library.Async hiding bind

/-! ### Results -/

section Completion
variable {s : Workload}

/-- The report is discharged, and where its verification finds results no other node owes one. -/
def CompletionAccounted (s : Workload) (report : CompletionReport) : Prop :=
  report.device_id ≠ [] → report.output ≠ [] → ∀ key nodeId, report.taskId = .uuid key →
    nodeOfDevice s.tables report.device_id = some nodeId →
    (insertResult report.taskId nodeId report.output report.processing_time_ms).reply () s.tables = .ok () →
      s.Discharges nodeId key ∧
        (pendingResults (afterReport s.tables nodeId report) key ≠ [] → ∀ n, n ≠ nodeId → ¬ s.Owes n key)

theorem complete_balanced (services : Services) {report : CompletionReport} (hs : Balanced s) (h : CompletionAccounted s report) :
    (complete services report).post anywhere (fun _ u _ => Balanced ⟨u, s.failures⟩) s.tables Local.empty := by
  refine complete_post (P := fun u => Balanced ⟨u, s.failures⟩) services report hs
    fun hdevice houtput key task nodeId hkey htask hnode hok => ?_
  obtain ⟨howed, hothers⟩ := h hdevice houtput key nodeId hkey hnode hok
  have hopen (n k : Uuid) : Open (afterReport s.tables nodeId report) n k ↔ Open s.tables n k ∧ ¬ (n = nodeId ∧ k = key) :=
    afterReport_open hkey hok n k
  have hafter : Balanced ⟨afterReport s.tables nodeId report, s.failures⟩ := by
    refine hs.discharge (afterReport_loadOf (hs.nonneg nodeId) report) (fun n k => ?_) howed
    exact (and_congr_left' (hopen n k)).trans and_right_comm
  have hverify : (verifyTaskResults (.uuid key)).post anywhere
      (fun _ u _ => (settling fun k => k = key ∧ pendingResults (afterReport s.tables nodeId report) key ≠ []).kept
        (afterReport s.tables nodeId report) u) (afterReport s.tables nodeId report) Local.empty :=
    post_mono (verifyTaskResults_settling (fun hpending => ⟨rfl, hpending⟩) (maintained_empty ((settling _).kept_refl _)))
      fun _ _ _ hk => hk.1
  refine post_mono (checkConsensus_post services hverify) fun _ u _ hu => hafter.settle hu fun n k hk ho => ?_
  obtain ⟨rfl, hpending⟩ := hk
  obtain ⟨hbefore, hne⟩ := (hopen n k).mp ho.1
  exact hothers hpending n (fun hn => hne ⟨hn, rfl⟩) ⟨hbefore, ho.2⟩

end Completion

/-! ### Assignments -/

section Assignment
variable {may : Site → Prop} {db : NetworkDb} {l : Local backend} {key : Uuid}

/-- The loads of distinct nodes are raised by one each. -/
theorem incrementLoads_raises (hmay : ∀ σ, ¬ may σ) {ids : List Uuid} (hids : ids.Nodup) {v : NetworkDb}
    (hroom : ∀ n ∈ ids, ∀ x, loadOf v n = some (some x) → x < 2147483647) (l : Local backend) :
    (incrementLoads ids).post may (fun r u l' => r = .ok () ∧ l' = ⟨.idle :: l.sessions, l.out⟩ ∧
      (∃ nodes, u = { v with nodes := nodes }) ∧
      ∀ n, loadOf u n = if n ∈ ids then (loadOf v n).map (·.map (· + 1)) else loadOf v n) v ⟨.idle :: l.sessions, l.out⟩ := by
  induction ids generalizing v with
  | nil => exact ⟨rfl, rfl, ⟨v.nodes, rfl⟩, fun n => (if_neg List.not_mem_nil).symm⟩
  | cons nodeId rest ih =>
    obtain ⟨hnot, hrest⟩ := List.nodup_cons.mp hids
    rw [incrementLoads, post_bind, post_query_idle]
    refine ⟨?_, fun hσ => absurd hσ (hmay _)⟩
    obtain ⟨hreply, heffect⟩ := raise_loadOf (hroom nodeId List.mem_cons_self)
    obtain ⟨nodes, hnodes⟩ := updateNode_effect nodeId
      (fun row => do .ok { row with current_load := ← addInteger 1 row.current_load }) v v
    rw [show backend.initial = () from rfl, hreply, next_ok]
    have hroom' : ∀ n ∈ rest, ∀ x, loadOf ((incrementLoad nodeId).effect () v v) n = some (some x) → x < 2147483647 := by
      intro n hn x hx
      rw [heffect, if_neg fun he : n = nodeId => hnot (he ▸ hn)] at hx
      exact hroom n (List.mem_cons_of_mem _ hn) x hx
    refine post_mono (ih hrest hroom') fun r u l' hu => ?_
    obtain ⟨hr, hl, ⟨nodes', rfl⟩, hloads⟩ := hu
    refine ⟨hr, hl, ⟨nodes', ?_⟩, fun n => ?_⟩
    · rw [incrementLoad, hnodes]
    · rw [hloads, heffect]
      by_cases hn : n = nodeId
      · subst hn
        rw [if_neg hnot, if_pos rfl, if_pos List.mem_cons_self]
      · rw [if_neg hn]
        simp [hn]

/-- The chosen nodes are distinct. -/
theorem selectNodes_nodup {requirements : TaskRequirements} {now : Nat} {ids : List Uuid}
    (h : selectNodes requirements (offeredNodes db now requirements) = .ok ids) : ids.Nodup := by
  have hoffered : ((offeredNodes db now requirements).map (·.id)).Nodup := by
    have hids : (offeredNodes db now requirements).map (·.id) = (activeRows ⟨requirements.region, some 30⟩ now db).map Prod.fst := by
      rw [offeredNodes, List.map_map]
      rfl
    rw [hids]
    have hperm := (List.mergeSort_perm (db.nodes.rows.filter fun r => (⟨requirements.region, some 30⟩ : NodeFilters).admits now r.2)
      fun a b => a.2.precedes b.2).map Prod.fst
    exact hperm.nodup_iff.mpr (db.nodes.unique.sublist (List.filter_sublist.map Prod.fst))
  obtain ⟨chosen, heligible, rfl⟩ := selectNodes_ok h
  have hchosen : (chosen.map (·.id)).Nodup := hoffered.sublist ((eligibleNodes_ok heligible).1.map _)
  have hranked : ((rankNodes requirements chosen).map (·.id)).Nodup := ((List.mergeSort_perm chosen _).map _).nodup_iff.mpr hchosen
  exact hranked.sublist ((List.take_sublist _ _).map _)

/-- A load below the capacity that was offered can be raised. -/
theorem selectNodes_raisable {requirements : TaskRequirements} {now : Nat} {ids : List Uuid}
    (h : selectNodes requirements (offeredNodes db now requirements) = .ok ids) :
    ∀ n ∈ ids, ∀ x, loadOf db n = some (some x) → x < 2147483647 := by
  intro n hn x hx
  obtain ⟨node, hnode, rfl, hlt⟩ := selectNodes_room h n hn
  obtain ⟨row, hrow, hroom⟩ := offeredRoom_of_active hnode hlt
  obtain ⟨load, hload, rfl⟩ : ∃ load, row.current_load = some load ∧ load.toInt = x := by
    rw [loadOf, hrow] at hx
    exact Option.map_eq_some_iff.mp (Option.some.inj hx)
  have hcapacity : (mapRowToNode node.id row).max_concurrent_tasks ≤ 2147483647 := by
    simp only [mapRowToNode, orDefault]
    split
    · omega
    · rename_i capacity hmax
      obtain ⟨c, -, rfl⟩ := Option.map_eq_some_iff.mp hmax
      have hbound := Int32.toInt_lt c
      split <;> omega
  have hcurrent : (mapRowToNode node.id row).current_load = load.toInt := by
    simp only [mapRowToNode, hload, Option.map_some, orDefault]
    split
    case isTrue h => exact h.symm
    case isFalse => rfl
  omega

/-- With every call served a task is assigned to the nodes chosen, and their loads are raised. -/
theorem assignTask_assigns (hmay : ∀ σ, ¬ may σ) {now : Nat} {requirements : TaskRequirements} {ids : List Uuid}
    (h : selectNodes requirements (offeredNodes db now requirements) = .ok ids) :
    (assignTask now (.uuid key) requirements).post may (fun r u l' => r = .ok ids ∧ l' = l ∧
      (∃ nodes, u = { db with
        nodes := nodes, tasks := db.tasks.modify key fun task => { task with assigned_nodes := ids, status := .assigned } }) ∧
      ∀ n, loadOf u n = if n ∈ ids then (loadOf db n).map (·.map (· + 1)) else loadOf db n) db l := by
  rw [assignTask, post_withClient, post_bind, getActiveNodes, post_withClient, post_query_idle]
  refine ⟨⟨⟨?_, fun hσ => absurd hσ (hmay _)⟩, fun hσ => absurd hσ (hmay _)⟩, fun hσ => absurd hσ (hmay _)⟩
  rw [selectActiveNodes, Stmt.reply_select, Stmt.effect_select, next_ok, post_bind]
  change (Async.ofExcept (B := backend) (selectNodes requirements (offeredNodes db now requirements))).post may _ db _
  rw [h]
  change (Async.query (B := backend) Site.assignNodes (assignNodes (.uuid key) ids) >>= _).post may _ db
    ⟨.idle :: l.sessions, l.out⟩
  rw [post_bind, post_query_idle]
  refine ⟨?_, fun hσ => absurd hσ (hmay _)⟩
  have hreply : (assignNodes (.uuid key) ids).reply () db = .ok () := rfl
  rw [show backend.initial = () from rfl, hreply, next_ok, post_bind]
  refine post_mono (incrementLoads_raises hmay (selectNodes_nodup h)
    (v := (assignNodes (.uuid key) ids).effect () db db) (selectNodes_raisable h) l) fun r u l' hu => ?_
  obtain ⟨rfl, rfl, ⟨nodes, hnodes⟩, hloads⟩ := hu
  exact ⟨rfl, rfl, ⟨nodes, hnodes⟩, hloads⟩

end Assignment

/-! ### Failures -/

section Failure
variable {may : Site → Prop} {s : Workload}

/-- The failures reported, with one that is answered with success. -/
def Workload.reported (s : Workload) (report : FailureReport) : Except NetworkError Response → List (Uuid × Uuid)
  | .ok .success =>
    match report.taskId, nodeOfDevice s.tables report.device_id with
    | .uuid key, some nodeId => (key, nodeId) :: s.failures
    | _, _ => s.failures
  | _ => s.failures

/-- The failure is discharged, where the task has other nodes or finds some; the nodes it finds
have reported neither a result nor a failure of it, and the reassignment is served. -/
def FailureAccounted (may : Site → Prop) (s : Workload) (report : FailureReport) : Prop :=
  report.device_id ≠ [] → ∀ key nodeId task, report.taskId = .uuid key → nodeOfDevice s.tables report.device_id = some nodeId →
    s.tables.tasks.get? key = some task →
      (remainingNodes task nodeId ≠ [] → s.Discharges nodeId key) ∧
      ∀ ids, remainingNodes task nodeId = [] →
        selectNodes (reassignment task) (offeredNodes s.tables report.now (reassignment task)) = .ok ids →
          (∀ σ, ¬ may σ) ∧ s.Discharges nodeId key ∧
            ∀ n ∈ ids, n ≠ nodeId ∧ s.tables.task_results.get? (key, n) = none ∧ (key, n) ∉ s.failures

theorem reported_other {report : FailureReport} {r : Except NetworkError Response} (h : r ≠ .ok .success) :
    s.reported report r = s.failures := by
  unfold Workload.reported
  split
  · exact absurd rfl h
  · rfl

theorem reported_success {report : FailureReport} {key nodeId : Uuid} (hkey : report.taskId = .uuid key)
    (hnode : nodeOfDevice s.tables report.device_id = some nodeId) : s.reported report (.ok .success) = (key, nodeId) :: s.failures := by
  rw [Workload.reported, hkey, hnode]

/-- A discharged failure that leaves its task to the others, if there are any. -/
theorem Balanced.afterFailure {key nodeId : Uuid} {task : Task} (hs : Balanced s) (htask : s.tables.tasks.get? key = some task)
    (h : s.Discharges nodeId key) :
    Balanced ⟨afterFailure s.tables key nodeId task, (key, nodeId) :: s.failures⟩ := by
  refine hs.discharge (penalized_loadOf (hs.nonneg nodeId) rfl) (fun n k => ?_) h
  rw [Workload.Owes, Workload.Owes, afterFailure_open htask, List.mem_cons, not_or, Prod.mk.injEq, and_comm (a := k = key)]
  tauto

/-- A task without nodes that is assigned anew. -/
theorem reassigned_open {db u : NetworkDb} {key nodeId : Uuid} {task : Task} {ids : List Uuid}
    (htask : db.tasks.get? key = some task) (hlast : remainingNodes task nodeId = [])
    (htasks : u.tasks = db.tasks.modify key fun task => { task with assigned_nodes := ids, status := .assigned })
    (hresults : u.task_results = db.task_results) (hfree : ∀ n ∈ ids, db.task_results.get? (key, n) = none) (n k : Uuid) :
    Open u n k ↔ Open (afterFailure db key nodeId task) n k ∨ (n ∈ ids ∧ k = key) := by
  rw [afterFailure_open htask, Open, htasks, hresults, Table.get?_modify]
  by_cases hk : k = key
  · subst hk
    have hclosed : ¬ (Open db n k ∧ ¬ (n = nodeId ∧ k = k)) := by
      rintro ⟨⟨task', htask', -, hassigned, -⟩, hne⟩
      rw [htask] at htask'
      obtain rfl := Option.some.inj htask'
      have hmem : n ∈ remainingNodes task nodeId :=
        List.mem_filter.mpr ⟨hassigned, decide_eq_true fun he => hne ⟨he, rfl⟩⟩
      rw [hlast] at hmem
      cases hmem
    rw [if_pos rfl, htask, or_iff_right hclosed]
    constructor
    · rintro ⟨_, htask', -, hassigned, -⟩
      obtain rfl := Option.some.inj htask'
      exact ⟨hassigned, rfl⟩
    · rintro ⟨hn, -⟩
      exact ⟨_, rfl, rfl, hn, hfree n hn⟩
  · rw [if_neg hk]
    exact ⟨fun ho => .inl ⟨ho, fun h => hk h.2⟩, fun ho => (ho.resolve_right fun h => hk h.2).1⟩

/-- A reassignment gives each of its nodes one more report to make. -/
theorem Balanced.reassigned {key nodeId : Uuid} {task : Task} {ids : List Uuid} {u : NetworkDb} (hs : Balanced s)
    (htask : s.tables.tasks.get? key = some task) (hlast : remainingNodes task nodeId = []) (h : s.Discharges nodeId key)
    (hfresh : ∀ n ∈ ids, n ≠ nodeId ∧ s.tables.task_results.get? (key, n) = none ∧ (key, n) ∉ s.failures)
    (htasks : u.tasks = s.tables.tasks.modify key fun task => { task with assigned_nodes := ids, status := .assigned })
    (hresults : u.task_results = s.tables.task_results)
    (hloads : ∀ n, loadOf u n = if n ∈ ids then (loadOf s.tables n).map (·.map (· + 1)) else loadOf s.tables n) :
    Balanced ⟨penalized nodeId s.tables u, (key, nodeId) :: s.failures⟩ := by
  have hnot : nodeId ∉ ids := fun hn => (hfresh nodeId hn).1 rfl
  have hread : loadOf u nodeId = loadOf s.tables nodeId := (hloads nodeId).trans (if_neg hnot)
  obtain ⟨nodes, hnodes⟩ := penalized_tables nodeId s.tables u
  have hopen (n k : Uuid) := reassigned_open (u := penalized nodeId s.tables u) htask hlast (by rw [hnodes]; exact htasks)
    (by rw [hnodes]; exact hresults) (fun n hn => (hfresh n hn).2.1) n k
  refine (hs.afterFailure htask h).assign key ids (fun n => ?_) (fun n k => ?_) fun n hn ho => ?_
  · have hbefore : loadOf (Network.afterFailure s.tables key nodeId task) n =
        if n = nodeId then (loadOf s.tables n).map lowered else loadOf s.tables n := penalized_loadOf (hs.nonneg nodeId) rfl n
    rw [penalized_loadOf (hs.nonneg nodeId) hread, hbefore, hloads]
    by_cases hn : n = nodeId
    · subst hn
      rw [if_pos rfl, if_neg hnot, if_pos rfl]
    · rw [if_neg hn, if_neg hn]
  · rw [Workload.Owes, Workload.Owes, hopen, or_and_right]
    refine or_congr_right (and_iff_left_of_imp ?_)
    rintro ⟨hn, rfl⟩ hmem
    rcases List.mem_cons.mp hmem with he | hmem
    · exact (hfresh n hn).1 (Prod.mk.inj he).2
    · exact (hfresh n hn).2.2 hmem
  · obtain ⟨task', htask', -, hassigned, -⟩ := ((afterFailure_open htask n key).mp ho.1).1
    rw [htask] at htask'
    obtain rfl := Option.some.inj htask'
    have hmem : n ∈ remainingNodes task nodeId := List.mem_filter.mpr ⟨hassigned, decide_eq_true (hfresh n hn).1⟩
    rw [hlast] at hmem
    cases hmem

theorem fail_balanced {report : FailureReport} (hs : Balanced s) (h : FailureAccounted may s report) :
    (fail report).post may (fun r u _ => Balanced ⟨u, s.reported report r⟩) s.tables Local.empty := by
  refine fail_post (Q := fun r u => Balanced ⟨u, s.reported report r⟩) (fun r hr => ?_) fun hdevice nodeId hnode => ?_
  · rw [reported_other hr]
    exact hs
  refine handleTaskFailure_post (Q := fun r u => (∀ e, r = .error e → Balanced ⟨u, s.reported report (.ok .serverError)⟩) ∧
    ∀ ids, r = .ok ids → Balanced ⟨u, s.reported report (.ok .success)⟩) (fun _ => ⟨fun _ _ => hs, nofun⟩)
    (fun key task hkey htask hne => ⟨nofun, fun _ _ => ?_⟩) fun key task held hkey htask hlast => ?_
  · obtain ⟨hdischarges, -⟩ := h hdevice key nodeId task hkey hnode htask
    rw [reported_success hkey hnode]
    exact hs.afterFailure htask (hdischarges hne)
  · obtain ⟨-, hreassign⟩ := h hdevice key nodeId task hkey hnode htask
    rw [post_bind]
    cases hselect : selectNodes (reassignment task) (offeredNodes s.tables report.now (reassignment task)) with
    | error e =>
      refine post_mono (assignTask_refused hselect) fun r u l' hu => ?_
      obtain ⟨⟨e', rfl⟩, rfl, rfl⟩ := hu
      exact caught_rollback (fun _ => ⟨fun _ _ => hs, nofun⟩) ⟨fun _ _ => hs, nofun⟩ _
    | ok ids =>
      obtain ⟨hmay, hdischarges, hfresh⟩ := hreassign ids hlast hselect
      refine post_mono (assignTask_assigns hmay hselect) fun r u l' hu => ?_
      obtain ⟨rfl, rfl, ⟨nodes, rfl⟩, hloads⟩ := hu
      rw [next_ok, post_bind, post_commit]
      refine ⟨⟨nofun, fun _ _ => ?_⟩, fun hσ => absurd hσ (hmay _)⟩
      rw [reported_success hkey hnode]
      exact hs.reassigned htask hlast hdischarges hfresh rfl rfl hloads

end Failure

/-! ### Requests -/

section Request
variable {db : NetworkDb}

/-- The nodes are as they were, and what is open is. -/
def Filed (db u : NetworkDb) : Prop := u.nodes = db.nodes ∧ ∀ n k, Open u n k ↔ Open db n k

theorem Filed.refl (db : NetworkDb) : Filed db db := ⟨rfl, fun _ _ => Iff.rfl⟩

theorem Filed.trans {u v : NetworkDb} (h : Filed db u) (h' : Filed u v) : Filed db v :=
  ⟨h'.1.trans h.1, fun n k => (h'.2 n k).trans (h.2 n k)⟩

theorem Balanced.filed {s : Workload} {u : NetworkDb} (hs : Balanced s) (h : Filed s.tables u) : Balanced ⟨u, s.failures⟩ :=
  hs.same (fun n => by rw [loadOf, loadOf, h.1]) fun n k => and_congr_left' (h.2 n k)

/-- A new task is assigned to no node. -/
theorem insertTask_filed (taskId : Uuid) (data : TaskData) (cost : Option ℚ) :
    Filed db ((insertTask taskId data cost).effect () db db) := by
  rw [Stmt.effect]
  simp only [insertTask, Stmt.statement]
  cases hcost : assignCost cost with
  | error e => exact .refl db
  | ok units =>
    simp only [bind, Except.bind]
    by_cases hthere : (db.tasks.get? taskId).isSome = true
    · rw [if_pos hthere]
      exact .refl db
    rw [if_neg hthere]
    have hfree : db.tasks.get? taskId = none := by simpa using hthere
    refine ⟨rfl, fun n k => ?_⟩
    simp only [Open, Table.get?_insert _ hfree]
    by_cases hk : k = taskId
    · subst hk
      simp [hfree, TaskData.row]
    · simp [hk]

theorem insertPrivacySettings_filed (taskId : Uuid) (setting : PrivacySetting) :
    Filed db ((insertPrivacySettings taskId setting).effect () db db) := by
  rw [Stmt.effect]
  simp only [insertPrivacySettings, Stmt.statement]
  by_cases hmissing : (db.tasks.get? taskId).isNone = true
  · rw [if_pos hmissing]
    exact .refl db
  rw [if_neg hmissing]
  by_cases hthere : (db.privacy_settings.get? taskId).isSome = true
  · rw [if_pos hthere]
    exact .refl db
  rw [if_neg hthere]
  exact .refl db

theorem createTask_filed (taskId : Uuid) (data : TaskData) (l : Local backend) :
    (createTask taskId data).post anywhere (fun r u l' => l' = l ∧ Filed db u ∧ (r = .ok () → ∃ model,
      db.models.get? data.model_id = some model ∧ (insertTask taskId data (taskCost data model)).reply () db = .ok ())) db l := by
  have hfail (e : NetworkError) {p : Prop} (h : (Except.error e : Except NetworkError Unit) = .ok ()) : p := by cases h
  rw [createTask, post_withClient, post_bind, post_query_idle]
  refine ⟨⟨?_, fun _ _ => ⟨rfl, .refl db, hfail _⟩⟩, fun _ _ => ⟨rfl, .refl db, hfail _⟩⟩
  rw [Stmt.reply_select, Stmt.effect_select, next_ok]
  cases hmodel : db.models.get? data.model_id with
  | none => exact ⟨rfl, .refl db, hfail _⟩
  | some model =>
    change (Async.query (B := backend) Site.insertTask (insertTask taskId data (taskCost data model))).post anywhere _ db _
    rw [post_query_idle]
    exact ⟨⟨rfl, insertTask_filed taskId data _, fun hr => ⟨model, rfl, hr⟩⟩, fun _ _ => ⟨rfl, .refl db, hfail _⟩⟩

/-- The request gets past its checks. -/
def Admitted (rt : Tenant.Runtime) (services : Services) (request : InferenceRequest) : Prop :=
  request.model ≠ [] ∧ request.input ≠ [] ∧ (∃ model, Tenant.resolveModel rt (.str request.model) = .ok (.ok model)) ∧
    validateInput request.input (inputType request.model) = true ∧ checkBalance services request = .ok none

/-- Where the task of the request is created, it finds no nodes. -/
def InferenceAccounted (rt : Tenant.Runtime) (crypto : Cryptography) (services : Services) (s : Workload)
    (request : InferenceRequest) : Prop :=
  Admitted rt services request →
    let data := request.taskData (processedInput crypto request.privacy request.input (some request.level))
    ∀ model, s.tables.models.get? request.model = some model →
      (insertTask request.taskId data (taskCost data model)).reply () s.tables = .ok () →
        ∃ e, selectNodes request.requirements (offeredNodes s.tables request.created request.requirements) = .error e

theorem startTask_filed (crypto : Cryptography) (request : InferenceRequest)
    (h : let data := request.taskData (processedInput crypto request.privacy request.input (some request.level))
      ∀ model, db.models.get? request.model = some model →
        (insertTask request.taskId data (taskCost data model)).reply () db = .ok () →
          ∃ e, selectNodes request.requirements (offeredNodes db request.created request.requirements) = .error e) :
    (startTask crypto request).post anywhere (fun _ u _ => Filed db u) db Local.empty := by
  rw [startTask, post_bind]
  refine post_mono (createTask_filed _ _ _) fun r u l' hu => ?_
  obtain ⟨rfl, hfiled, hcreated⟩ := hu
  cases r with
  | error e => exact hfiled
  | ok _ =>
    obtain ⟨model, hmodel, hinsert⟩ := hcreated rfl
    obtain ⟨e, he⟩ := h model hmodel hinsert
    have hassign (v : NetworkDb) (hv : Filed db v) : (assignTask request.created (.uuid request.taskId) request.requirements >>= fun
        assignedNodes => do
          enqueue request.enqueued request.taskId request.model request.input (inputType request.model) (some request.level)
          pure (Response.queued assignedNodes.length request.level
            ((request.privacyResult crypto).any fun r => r.encryptedInput.isSome)
            ((request.privacyResult crypto).any fun r => r.zkProof.isSome))).post anywhere (fun _ w _ => Filed db w) v Local.empty := by
      have hoffered : offeredNodes v request.created request.requirements = offeredNodes db request.created request.requirements := by
        rw [offeredNodes, offeredNodes, activeRows, activeRows, hv.1]
      rw [post_bind]
      refine post_mono (assignTask_refused (by rw [hoffered]; exact he)) fun r w l' hw => ?_
      obtain ⟨⟨e', rfl⟩, rfl, rfl⟩ := hw
      exact hv
    rw [next_ok, post_bind]
    unfold onlyIf
    split
    case isFalse => exact hassign u hfiled
    case isTrue =>
      rw [post_pool]
      refine ⟨?_, fun _ _ => hfiled⟩
      have hstored (setting : PrivacySetting) : Filed db ((insertPrivacySettings request.taskId setting).effect () u u) :=
        hfiled.trans (insertPrivacySettings_filed _ _)
      generalize Stmt.reply _ _ u = reply
      cases reply with
      | error e => exact hstored _
      | ok _ => exact hassign _ (hstored _)

theorem inference_balanced {s : Workload} (rt : Tenant.Runtime) (crypto : Cryptography) (services : Services)
    {request : InferenceRequest} (hs : Balanced s) (h : InferenceAccounted rt crypto services s request) :
    (inference rt crypto services request).post anywhere (fun _ u _ => Balanced ⟨u, s.failures⟩) s.tables Local.empty := by
  rw [inference]
  split
  case isTrue => exact hs
  case isFalse hgiven =>
    obtain ⟨hmodel, hinput⟩ := not_or.mp hgiven
    split
    case h_1 => exact hs
    case h_2 => exact hs
    case h_3 model hresolved =>
      split
      case isTrue => exact hs
      case isFalse hvalid =>
        rw [post_handle, post_bind, post_ofExcept]
        cases hbalance : checkBalance services request with
        | error e => exact hs
        | ok refusal =>
          cases refusal with
          | some response => exact hs
          | none =>
            have hadmitted : Admitted rt services request :=
              ⟨hmodel, hinput, ⟨model, hresolved⟩, by simpa using hvalid, hbalance⟩
            refine post_mono (startTask_filed crypto request (h hadmitted)) fun r u l' hu => ?_
            cases r with
            | error e => exact hs.filed hu
            | ok response => exact hs.filed hu

end Request

/-! ### The queue -/

section Queue
variable {s : Workload}

/-- Where the inference gives a result that is recorded, no node owes a report of the task. -/
def WorkAccounted (crypto : Cryptography) (calls : PrivacyCalls) (services : Services) (s : Workload) (task : QueuedTask) : Prop :=
  ∀ result, services.runInference task.model (processedInput crypto calls task.input task.privacyLevel) task.inputType = .ok result →
    (∀ nodeId ∈ task.nodeIds.head?,
      (insertResult (.uuid task.taskId) nodeId result.output result.processing_time_ms).reply () s.tables = .ok ()) →
      ∀ n, ¬ s.Owes n task.taskId

theorem recordResults_settling {a : NetworkDb} {key : Uuid} (result : InferenceResult) (nodeIds : List Uuid) :
    Preserves ((settling (· = key)).kept a) (recordResults key result nodeIds) := by
  induction nodeIds with
  | nil => exact preserves_pure ()
  | cons nodeId rest ih =>
    have hinsert := @insertResult_settling (· = key) key rfl nodeId result.output result.processing_time_ms
    exact preserves_bind (preserves_query (Stmt.Keeps.maintains hinsert) _) fun _ => ih

theorem payNodes_settling {a : NetworkDb} {may : Uuid → Prop} (services : Services) (task : QueuedTask) :
    Preserves ((settling may).kept a) (payNodes services task) := by
  have hpay (userId : Option Uuid) (userWallet : Option Text) : Preserves ((settling may).kept a)
      (distributePayments services (.uuid task.taskId) task.nodeIds userId userWallet) :=
    preserves_bind (preserves_emit _) fun _ => preserves_ofExcept _
  refine preserves_withClient (preserves_bind (preserves_query (Stmt.maintains_selection _) _) fun taskData => ?_) _
  split
  · exact hpay _ _
  · exact preserves_bind (preserves_query (Stmt.maintains_select _) _) fun _ => hpay _ _

/-- What follows a result that no node owes. -/
theorem recorded_settling {a : NetworkDb} (services : Services) (task : QueuedTask) (result : InferenceResult) :
    Preserves ((settling (· = task.taskId)).kept a) (do
      Async.withClient .connect (recordResults task.taskId result task.nodeIds)
      let verification ← verifyTaskResults (.uuid task.taskId)
      onlyIf verification.consensus (payNodes services task)) := by
  refine preserves_bind (preserves_withClient (recordResults_settling _ _) _) fun _ => ?_
  refine preserves_bind (fun s l hl => verifyTaskResults_settling (fun _ => rfl) hl) fun verification => ?_
  exact preserves_onlyIf (payNodes_settling _ _)

/-- A first result that is refused ends the attempt. -/
theorem recordResults_refused {db : NetworkDb} {key nodeId : Uuid} {rest : List Uuid} {result : InferenceResult} {e : NetworkError}
    (h : (insertResult (.uuid key) nodeId result.output result.processing_time_ms).reply () db = .error e) (l : Local backend) :
    (Async.withClient Site.connect (recordResults key result (nodeId :: rest))).post anywhere
      (fun r u _ => (∃ e, r = .error e) ∧ u = db) db l := by
  rw [post_withClient, recordResults, post_bind, post_query_idle]
  refine ⟨⟨?_, fun _ _ => ⟨⟨_, rfl⟩, rfl⟩⟩, fun _ _ => ⟨⟨_, rfl⟩, rfl⟩⟩
  rw [show backend.initial = () from rfl, h, next_error]
  refine ⟨⟨e, rfl⟩, ?_⟩
  cases hrun : (insertResult (.uuid key) nodeId result.output result.processing_time_ms).run () db with
  | error e' => rw [Stmt.effect_error hrun]; rfl
  | ok o => rw [Stmt.reply_ok hrun] at h; cases h

theorem processTask_balanced (crypto : Cryptography) (calls : PrivacyCalls) (services : Services) {task : QueuedTask}
    (hs : Balanced s) (h : WorkAccounted crypto calls services s task) :
    (processTask crypto calls services task).post anywhere (fun _ u _ => Balanced ⟨u, s.failures⟩) s.tables Local.empty := by
  rw [processTask]
  dsimp only
  rw [post_bind, post_emit]
  change (Async.ofExcept (B := backend) _ >>= _).post anywhere _ _ _
  rw [post_bind, post_ofExcept]
  cases hresult : services.runInference task.model (processedInput crypto calls task.input task.privacyLevel) task.inputType with
  | error message => exact hs
  | ok result =>
    change (Async.withClient Site.connect (recordResults task.taskId result task.nodeIds) >>= _).post anywhere _ _ _
    by_cases hrecorded : ∀ nodeId ∈ task.nodeIds.head?,
        (insertResult (.uuid task.taskId) nodeId result.output result.processing_time_ms).reply () s.tables = .ok ()
    · have hkept := (settling (· = task.taskId)).kept_refl s.tables
      refine post_mono (recorded_settling services task result _ _ ⟨hkept, by simp [Local.empty]⟩) fun r u l' hu => ?_
      refine hs.settle hu.1 fun n k hk => ?_
      subst hk
      exact h result hresult hrecorded n
    · cases hnodes : task.nodeIds with
      | nil => simp [hnodes] at hrecorded
      | cons nodeId rest =>
        rw [hnodes, List.head?_cons] at hrecorded
        cases hreply : (insertResult (.uuid task.taskId) nodeId result.output result.processing_time_ms).reply () s.tables with
        | ok _ =>
          refine absurd (fun n hn => ?_) hrecorded
          obtain rfl := Option.mem_some.mp hn
          exact hreply
        | error e =>
          rw [post_bind]
          refine post_mono (recordResults_refused hreply _) fun r u l' hu => ?_
          obtain ⟨⟨e', rfl⟩, rfl⟩ := hu
          exact hs

theorem markTaskFailed_balanced {taskId : Uuid} (hs : Balanced s) (h : ∀ n, ¬ s.Owes n taskId) :
    (markTaskFailed taskId).post anywhere (fun _ u _ => Balanced ⟨u, s.failures⟩) s.tables Local.empty := by
  have hstatus := @updateTask_settling (· = taskId) taskId (fun task => { task with status := .failed }) rfl fun _ => rfl
  have hpreserves : Preserves ((settling (· = taskId)).kept s.tables) (markTaskFailed taskId) :=
    preserves_withClient (preserves_query (Stmt.Keeps.maintains hstatus) _) _
  refine post_mono (hpreserves _ _ (maintained_empty ((settling _).kept_refl _))) fun r u l' hu => ?_
  refine hs.settle hu.1 fun n k hk => ?_
  subst hk
  exact h n

end Queue

/-! ### Runs -/

/-- What the network does at a time: a request, an attempt of a queued task or its end after
the last one, and a report of a node. -/
inductive Activity where
  | inference (rt : Tenant.Runtime) (crypto : Cryptography) (services : Services) (request : InferenceRequest)
  | work (crypto : Cryptography) (calls : PrivacyCalls) (services : Services) (task : QueuedTask)
  | abandonment (taskId : Uuid)
  | completion (services : Services) (report : CompletionReport)
  | failure (report : FailureReport)

/-- An activity, and the calls that may fail in it. -/
structure Turn where
  failing : Site → Prop
  activity : Activity

/-- The turn changes loads and debts alike. -/
def Accounted (s : Workload) (turn : Turn) : Prop :=
  match turn.activity with
  | .inference rt crypto services request => InferenceAccounted rt crypto services s request
  | .work crypto calls services task => WorkAccounted crypto calls services s task
  | .abandonment taskId => ∀ n, ¬ s.Owes n taskId
  | .completion _ report => CompletionAccounted s report
  | .failure report => FailureAccounted turn.failing s report

/-- Turns one after the other, whatever fails of what may. -/
inductive Working : Machine Workload Turn
  | inference {s : Workload} {t : NetworkDb} {may : Site → Prop} {rt : Tenant.Runtime} {crypto : Cryptography} {services : Services}
      {request : InferenceRequest} {r : Except NetworkError Response} {l : Local backend}
      (h : Exec may (inference rt crypto services request) s.tables Local.empty r t l) :
      Working s ⟨may, .inference rt crypto services request⟩ ⟨t, s.failures⟩
  | work {s : Workload} {t : NetworkDb} {may : Site → Prop} {crypto : Cryptography} {calls : PrivacyCalls} {services : Services}
      {task : QueuedTask} {r : Except NetworkError Unit} {l : Local backend}
      (h : Exec may (processTask crypto calls services task) s.tables Local.empty r t l) :
      Working s ⟨may, .work crypto calls services task⟩ ⟨t, s.failures⟩
  | abandonment {s : Workload} {t : NetworkDb} {may : Site → Prop} {taskId : Uuid} {r : Except NetworkError Unit} {l : Local backend}
      (h : Exec may (markTaskFailed taskId) s.tables Local.empty r t l) : Working s ⟨may, .abandonment taskId⟩ ⟨t, s.failures⟩
  | completion {s : Workload} {t : NetworkDb} {may : Site → Prop} {services : Services} {report : CompletionReport}
      {r : Except NetworkError Response} {l : Local backend}
      (h : Exec may (complete services report) s.tables Local.empty r t l) :
      Working s ⟨may, .completion services report⟩ ⟨t, s.failures⟩
  | failure {s : Workload} {t : NetworkDb} {may : Site → Prop} {report : FailureReport} {r : Except NetworkError Response}
      {l : Local backend} (h : Exec may (fail report) s.tables Local.empty r t l) :
      Working s ⟨may, .failure report⟩ ⟨t, s.reported report r⟩

theorem Balanced.step {s t : Workload} {turn : Turn} (hs : Balanced s) (h : Accounted s turn) (hstep : Working s turn t) :
    Balanced t := by
  cases hstep with
  | inference hexec => exact (hexec.mono fun _ _ => trivial).sound (inference_balanced _ _ _ hs h)
  | work hexec => exact (hexec.mono fun _ _ => trivial).sound (processTask_balanced _ _ _ hs h)
  | abandonment hexec => exact (hexec.mono fun _ _ => trivial).sound (markTaskFailed_balanced hs h)
  | completion hexec => exact (hexec.mono fun _ _ => trivial).sound (complete_balanced _ hs h)
  | failure hexec => exact hexec.sound (fail_balanced hs h)

/-- Every task is completed. -/
def AllCompleted (db : NetworkDb) : Prop := ∀ key task, db.tasks.get? key = some task → task.status = .completed

/-- A node whose tasks are all completed has no load. -/
theorem Balanced.unloaded {s : Workload} (hs : Balanced s) (h : AllCompleted s.tables) {n : Uuid} {row : NodeRow}
    (hrow : s.tables.nodes.get? n = some row) : row.current_load = some 0 := by
  have hnone : s.owed n = [] := by
    refine List.eq_nil_iff_forall_not_mem.mpr fun key hkey => ?_
    obtain ⟨⟨task, htask, hopen, -, -⟩, -⟩ := mem_owed.mp hkey
    rw [Task.unfinished, h key task htask] at hopen
    cases hopen
  have hload := hs n row hrow
  rw [hnone] at hload
  obtain ⟨load, hsome, hzero⟩ := Option.map_eq_some_iff.mp hload
  rw [hsome, Int32.toInt_inj.mp (hzero.trans Int32.toInt_zero.symm)]

/-- The request of a network without tasks. -/
def hiTurn : Turn := ⟨fun _ => False, .inference (Tenant.Runtime.pilot false id) plainCryptography idleServices hiRequest⟩

theorem hi_step : Working ⟨hiDb, []⟩ hiTurn ⟨hiLife.after, []⟩ :=
  .inference (exec_nil _ (inference (Tenant.Runtime.pilot false id) plainCryptography idleServices hiRequest) hiDb Local.empty)

end GalaxiaAin.Network
