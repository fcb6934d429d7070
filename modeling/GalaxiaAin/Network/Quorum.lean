import GalaxiaAin.Library.Machine
import GalaxiaAin.Network.Reports

/-! Which reports let a task reach consensus. The threshold counts the pending results that a
verification finds, and a single result has the majority of itself. -/
namespace GalaxiaAin.Network
open GalaxiaAin.Library
open GalaxiaAin.Library.Async hiding bind

/-! ### Quorums -/

/-- The assigned nodes of a task that have reported a result. -/
def reported (db : NetworkDb) (key : Uuid) (task : Task) : Nat :=
  task.assigned_nodes.countP fun n => (db.task_results.get? (key, n)).isSome

/-- The task has a consensus result, or is completed. -/
def Concluded (db : NetworkDb) (key : Uuid) : Prop :=
  (∃ r ∈ db.consensus_results, r.task_id = key) ∨ ∃ task, db.tasks.get? key = some task ∧ task.status = .completed

/-- No task is concluded before the threshold of its assigned nodes have reported. -/
def QuorumMet (db : NetworkDb) : Prop :=
  ∀ key task, db.tasks.get? key = some task → Concluded db key →
    consensusThreshold task.assigned_nodes.length ≤ reported db key task

/-- The size of the majority, as either kind of verification computes it. -/
def majorityLength (task : Task) (results : List PendingResult) : Nat :=
  if isDeterministic task then (((outputGroups results).largest List.length).getD ([], [])).2.length
  else (((findClusters [] [] (similarPairs results)).mergeSort fun a b => decide (b.length ≤ a.length)).headD []).length

/-- A verification finds pending results, and a majority of them or two tiebreakers. -/
def Concludes (db : NetworkDb) (key : Uuid) (task : Task) : Prop :=
  pendingResults db key ≠ [] ∧
    (consensusThreshold (pendingResults db key).length ≤ majorityLength task (pendingResults db key) ∨
      2 ≤ (tiebreakers db ((pendingResults db key).map (·.node_id))).length)

/-- With the reported result the threshold of the assigned nodes have reported, or the
verification that follows does not conclude. -/
def Quorate (db : NetworkDb) (report : CompletionReport) : Prop :=
  ∀ key, report.taskId = .uuid key → ∀ nodeId, nodeOfDevice db report.device_id = some nodeId →
    ∀ task, db.tasks.get? key = some task →
      consensusThreshold task.assigned_nodes.length ≤ reported (afterReport db nodeId report) key task ∨
        ¬ Concludes (afterReport db nodeId report) key task

/-! ### What a report changes -/

/-- Results stay, assignments stay, and at most the tasks of `may` are concluded. -/
def concluding (may : Uuid → Prop) : Frame backend where
  kept s t := (∀ k, (s.task_results.get? k).isSome → (t.task_results.get? k).isSome) ∧
    (∀ k, (t.tasks.get? k).map (·.assigned_nodes) = (s.tasks.get? k).map (·.assigned_nodes)) ∧
    ∀ k, ¬ may k → Concluded t k → Concluded s k
  kept_refl _ := ⟨fun _ h => h, fun _ => rfl, fun _ _ h => h⟩
  kept_trans _ _ _ h h' := ⟨fun k hk => h'.1 k (h.1 k hk), fun k => (h'.2.1 k).trans (h.2.1 k),
    fun k hk hc => h.2.2 k hk (h'.2.2 k hk hc)⟩

variable {may : Uuid → Prop}

theorem reported_mono {s t : NetworkDb} (h : (concluding may).kept s t) (key : Uuid) (task : Task) :
    reported s key task ≤ reported t key task :=
  List.countP_mono_left fun n _ hn => h.1 (key, n) hn

/-- Changes of the frame keep quorums, where the tasks that may be concluded have theirs. -/
theorem QuorumMet.kept {s t : NetworkDb} (h : QuorumMet s) (hk : (concluding may).kept s t)
    (hmay : ∀ key, may key → ∀ task, t.tasks.get? key = some task →
      consensusThreshold task.assigned_nodes.length ≤ reported t key task) : QuorumMet t := by
  intro key task htask hconcluded
  by_cases hm : may key
  · exact hmay key hm task htask
  · have hassigned := hk.2.1 key
    rw [htask] at hassigned
    cases hs : s.tasks.get? key with
    | none => rw [hs] at hassigned; cases hassigned
    | some task' =>
      rw [hs] at hassigned
      have heq : task.assigned_nodes = task'.assigned_nodes := Option.some.inj hassigned
      have hbefore := h key task' hs (hk.2.2 key hm hconcluded)
      have hmono := reported_mono hk key task'
      have hsame : reported t key task = reported t key task' := by rw [reported, reported, heq]
      rw [heq, hsame]
      exact hbefore.trans hmono

section Statements

theorem updateNode_effect (nodeId : Uuid) (set : NodeRow → Except NetworkError NodeRow) (s t : NetworkDb) :
    ∃ nodes, (updateNode nodeId set).effect () s t = { t with nodes := nodes } := by
  rw [Stmt.effect]
  simp only [updateNode]
  cases s.nodes.get? nodeId with
  | none => exact ⟨t.nodes, rfl⟩
  | some node =>
    cases hset : set node with
    | error e =>
      simp only [hset]
      exact ⟨t.nodes, rfl⟩
    | ok node' =>
      simp only [hset]
      exact ⟨_, rfl⟩

theorem updateNode_concluding (nodeId : Uuid) (set : NodeRow → Except NetworkError NodeRow) :
    (updateNode nodeId set).Keeps (concluding may) := by
  intro c s t
  obtain ⟨nodes, h⟩ := updateNode_effect nodeId set s t
  rw [h]
  exact ⟨fun _ h => h, fun _ => rfl, fun _ _ h => h⟩

theorem setStatus_concluding (key : Uuid) (status : TaskStatus) (h : status = .completed → may key) :
    (setStatus key status).Keeps (concluding may) := by
  refine Stmt.Keeps.of_run fun c s r w hrun t => ?_
  obtain ⟨-, rfl⟩ := Prod.mk.inj (Except.ok.inj hrun)
  refine ⟨fun _ h => h, fun k => ?_, fun k hk hc => ?_⟩
  · simp only [Table.get?_modify]
    split
    · cases t.tasks.get? k <;> rfl
    · rfl
  · rcases hc with hr | ⟨task, htask, hstatus⟩
    · exact .inl hr
    · simp only [Table.get?_modify] at htask
      split at htask
      case isTrue hkey =>
        obtain ⟨task', htask', rfl⟩ := Option.map_eq_some_iff.mp htask
        exact absurd (hkey ▸ h hstatus) hk
      case isFalse => exact .inr ⟨task, htask, hstatus⟩

theorem insertConsensus_concluding (result : ConsensusResult) (h : may result.task_id) :
    (insertConsensus result).Keeps (concluding may) := by
  refine Stmt.Keeps.of_run fun c s r w hrun t => ?_
  simp only [insertConsensus, Stmt.statement] at hrun
  split at hrun
  · cases hrun
  · obtain ⟨-, rfl⟩ := Prod.mk.inj (Except.ok.inj hrun)
    refine ⟨fun _ h => h, fun _ => rfl, fun k hk hc => ?_⟩
    rcases hc with ⟨x, hx, hid⟩ | htask
    · rcases List.mem_append.mp hx with hx | hx
      · exact .inl ⟨x, hx, hid⟩
      · rw [List.mem_singleton.mp hx] at hid
        exact absurd (hid ▸ h) hk
    · exact .inr htask

theorem markResults_concluding (key : Uuid) (agreeing : List Uuid) (scores : Option (Int × Int)) :
    (markResults key agreeing scores).Keeps (concluding may) := by
  refine Stmt.Keeps.of_run fun c s r w hrun t => ?_
  obtain ⟨-, rfl⟩ := Prod.mk.inj (Except.ok.inj hrun)
  refine ⟨fun k hk => ?_, fun _ => rfl, fun _ _ h => h⟩
  simp only [Table.get?_mapRows]
  simpa using hk

theorem isSome_insert {t : Table (Uuid × Uuid) TaskResult} {key k : Uuid × Uuid} (v : TaskResult)
    (h : (t.get? k).isSome) : ((t.insert key v).get? k).isSome := by
  cases hkey : t.get? key with
  | none =>
    rw [Table.get?_insert v hkey]
    split
    · rfl
    · exact h
  | some x =>
    rw [Table.insert, dif_neg (by rw [hkey]; exact Option.some_ne_none x)]
    exact h

/-- A result is recorded in the row that is there, or in a new row, pending. -/
theorem insertResult_written {taskId : UuidText} {nodeId : Uuid} {output : Text} {ms : Int} {s : NetworkDb} {r : Unit} {w : NetworkDb → NetworkDb}
    (h : (insertResult taskId nodeId output ms).run () s = .ok (r, w)) :
    ∃ key ms',
      w = (fun db => { db with task_results := db.task_results.modify (key, nodeId) fun r =>
        { r with output_data := output, processing_time_ms := ms' } }) ∨
      w = fun db => { db with task_results := db.task_results.insert (key, nodeId) ⟨output, ms', .pending, none⟩ } := by
  simp only [insertResult] at h
  cases hkey : taskId.read with
  | error e => rw [hkey] at h; cases h
  | ok key =>
    cases hms : integer ms with
    | error e => rw [hkey, hms] at h; cases h
    | ok ms' =>
      rw [hkey, hms] at h
      simp only [bind, Except.bind] at h
      refine ⟨key, ms', ?_⟩
      split at h
      · cases h
      split at h
      · exact .inl (Prod.mk.inj (Except.ok.inj h)).2.symm
      · exact .inr (Prod.mk.inj (Except.ok.inj h)).2.symm

theorem insertResult_effect (taskId : UuidText) (nodeId : Uuid) (output : Text) (ms : Int) (s t : NetworkDb) :
    ∃ results, (insertResult taskId nodeId output ms).effect () s t = { t with task_results := results } ∧
      ∀ k, (t.task_results.get? k).isSome → (results.get? k).isSome := by
  rw [Stmt.effect]
  cases hrun : (insertResult taskId nodeId output ms).run () s with
  | error e => exact ⟨t.task_results, rfl, fun _ h => h⟩
  | ok p =>
    obtain ⟨⟨⟩, w⟩ := p
    obtain ⟨key, ms', rfl | rfl⟩ := insertResult_written hrun
    · refine ⟨_, rfl, fun k hk => ?_⟩
      rw [Table.get?_modify]
      split
      · simpa using hk
      · exact hk
    · exact ⟨_, rfl, fun k hk => isSome_insert _ hk⟩

theorem insertResult_concluding (taskId : UuidText) (nodeId : Uuid) (output : Text) (ms : Int) :
    (insertResult taskId nodeId output ms).Keeps (concluding may) := by
  intro c s t
  obtain ⟨results, h, hmore⟩ := insertResult_effect taskId nodeId output ms s t
  rw [h]
  exact ⟨hmore, fun _ => rfl, fun _ _ h => h⟩

end Statements

/-- The verification of a task that may be concluded. -/
theorem verifying_concluding {key : Uuid} (h : may key) : Verifying (concluding may) key where
  node := updateNode_concluding
  marks := markResults_concluding key
  consensus := fun result hid => insertConsensus_concluding result (hid ▸ h)
  status := fun status => setStatus_concluding key status fun _ => h

/-! ### A report -/

section Report
variable {db : NetworkDb} {l : Local backend} {key : Uuid}

/-- Without two tiebreakers nothing is concluded. -/
theorem runTiebreaker_post {results : List PendingResult}
    (h : (tiebreakers db (results.map (·.node_id))).length < 2) :
    (runTiebreaker key results).post anywhere (fun _ u _ => (concluding may).kept db u) db l := by
  have hrefl := (concluding may).kept_refl db
  rw [runTiebreaker, post_withClient, post_bind, post_query_idle]
  refine ⟨⟨?_, fun _ _ => hrefl⟩, fun _ _ => hrefl⟩
  have htask : (selectTask (.uuid key)).reply () db = .ok ((db.tasks.get? key).map fun task => (key, task)) := rfl
  have hsame : (selectTask (.uuid key)).effect () db db = db := rfl
  rw [show backend.initial = () from rfl, htask, hsame, next_ok]
  cases db.tasks.get? key with
  | none => exact hrefl
  | some task =>
    change (query (B := backend) Site.selectTiebreakers (selectTiebreakers (results.map (·.node_id))) >>= _).post anywhere _ db _
    rw [post_bind, post_query_idle]
    refine ⟨?_, fun _ _ => hrefl⟩
    rw [selectTiebreakers, Stmt.reply_select, Stmt.effect_select, next_ok, if_pos (by omega), post_bind, post_query_idle]
    have hkeeps := @setStatus_concluding may key .failed (fun h => (nomatch h)) () db db
    refine ⟨?_, fun _ _ => hrefl⟩
    cases (setStatus key .failed).reply () db <;> exact hkeeps

/-- A verification that does not conclude. -/
theorem verify_post (task : Task) (h : may key ∨ ¬ Concludes db key task) (hne : pendingResults db key ≠ []) :
    (if isDeterministic task then verifyDeterministicResults key (pendingResults db key)
      else verifyNonDeterministicResults key (pendingResults db key)).post anywhere (fun _ u _ => (concluding may).kept db u)
      db l := by
  have hrefl := (concluding may).kept_refl db
  rcases h with hkey | hno
  · exact (verifying_concluding hkey).post task _
  obtain ⟨hmajority, hfew⟩ := not_or.mp fun hor => hno ⟨hne, hor⟩
  split
  case isTrue hdet =>
    rw [majorityLength, if_pos hdet] at hmajority
    rw [verifyDeterministicResults, post_withClient]
    dsimp only
    rw [if_neg hmajority]
    exact ⟨runTiebreaker_post (by omega), fun _ _ => hrefl⟩
  case isFalse hdet =>
    rw [majorityLength, if_neg hdet] at hmajority
    rw [verifyNonDeterministicResults, post_withClient]
    refine ⟨?_, fun _ _ => hrefl⟩
    cases hclusters : (findClusters [] [] (similarPairs (pendingResults db key))).mergeSort
        fun a b => decide (b.length ≤ a.length) with
    | nil => exact runTiebreaker_post (by omega)
    | cons majorityCluster rest =>
      rw [hclusters, List.headD_cons] at hmajority
      change (if consensusThreshold (pendingResults db key).length ≤ majorityCluster.length then _ else _ :
        Async backend Verification).post anywhere _ db _
      rw [if_neg hmajority]
      exact runTiebreaker_post (by omega)

theorem afterReport_kept (nodeId : Uuid) (report : CompletionReport) : (concluding may).kept db (afterReport db nodeId report) :=
  (concluding may).kept_trans _ _ _ (insertResult_concluding _ _ _ _ _ _ _) (updateNode_concluding _ _ _ _ _)

theorem afterReport_tasks (nodeId : Uuid) (report : CompletionReport) : (afterReport db nodeId report).tasks = db.tasks := by
  obtain ⟨results, hresults, -⟩ := insertResult_effect report.taskId nodeId report.output report.processing_time_ms db db
  obtain ⟨nodes, hnodes⟩ := updateNode_effect nodeId
    (fun row => do .ok { row with current_load := greatestInteger (← addInteger (-1) row.current_load) })
    { db with task_results := results } { db with task_results := results }
  rw [afterReport, hresults, decrementLoad, hnodes]

/-- A quorate report keeps quorums, whatever fails on the way. -/
theorem complete_quorum (services : Services) (report : CompletionReport) (hmet : QuorumMet db) (hquorate : Quorate db report) :
    (complete services report).post anywhere (fun _ u _ => QuorumMet u) db Local.empty := by
  refine complete_post services report hmet fun _ _ key task nodeId hkey htask hnode _ => ?_
  have hafter : QuorumMet (afterReport db nodeId report) :=
    hmet.kept (show (concluding fun _ => False).kept _ _ from afterReport_kept nodeId report) fun _ h => h.elim
  have hcases := hquorate key hkey nodeId hnode task htask
  rw [← @afterReport_tasks db nodeId report] at htask
  -- With the quorum the task may be concluded; without it the verification does not conclude.
  rcases hcases with hquorum | hno
  · have hpost : (checkConsensus services (.uuid key)).post anywhere
        (fun _ u _ => (concluding (· = key)).kept (afterReport db nodeId report) u) (afterReport db nodeId report) Local.empty :=
      checkConsensus_post services (verifyTaskResults_post fun task' _ => verify_post task' (.inl rfl))
    refine post_mono hpost fun _ u _ hu => ?_
    refine hafter.kept hu fun k hk task' htask' => ?_
    subst hk
    have hassigned := hu.2.1 k
    rw [htask, htask'] at hassigned
    have heq : task'.assigned_nodes = task.assigned_nodes := Option.some.inj hassigned
    have hsame : reported u k task' = reported u k task := by rw [reported, reported, heq]
    rw [heq, hsame]
    exact hquorum.trans (reported_mono hu k task)
  · have hpost : (checkConsensus services (.uuid key)).post anywhere
        (fun _ u _ => (concluding fun _ => False).kept (afterReport db nodeId report) u) (afterReport db nodeId report)
        Local.empty := by
      refine checkConsensus_post services (verifyTaskResults_post fun task' htask' => verify_post task' (.inr ?_))
      rw [htask] at htask'
      rw [← Option.some.inj htask']
      exact hno
    exact post_mono hpost fun _ u _ hu => hafter.kept hu fun _ h => h.elim

end Report

/-- Reports of results, one at a time. -/
inductive ReportStep : Machine NetworkDb (Services × CompletionReport)
  | complete {s t : NetworkDb} {services : Services} {report : CompletionReport} {r : Except NetworkError Response}
      {l : Local backend} (h : Async.Exec anywhere (complete services report) s Local.empty r t l) :
      ReportStep s (services, report) t

/-- In every run of quorate reports no task is concluded before its threshold of results. -/
theorem quorum_before_consensus {start t : NetworkDb} {history : List (Services × CompletionReport)} (hstart : QuorumMet start)
    (hrun : Machine.Run ReportStep start history t)
    (hquorate : ∀ pre e post u, history = pre ++ e :: post → Machine.Run ReportStep start pre u → Quorate u e.2) :
    QuorumMet t := by
  refine hrun.invariant_of (fun s e t hs hg hstep => ?_) hquorate hstart
  cases hstep with
  | complete h => exact h.sound (complete_quorum _ _ hs hg)

/-! ### One report -/

def reportingNode : NodeRow where
  device_id := units "d"
  capabilities := ⟨false, none, some [units "whisper"]⟩
  region := none
  uptime_score := some 10000
  reputation := some 5000
  tasks_completed := some 0
  tasks_failed := some 0
  status := .online
  last_seen := some 0
  current_load := some 1
  max_concurrent_tasks := some 3

/-- An audio task assigned to these nodes. -/
def audioTask (nodeIds : List Uuid) : Task where
  model_id := units "whisper"
  input_data := units "a"
  input_type := .audio
  priority := .standard
  region := units "auto"
  assigned_nodes := nodeIds
  status := .assigned
  api_key_id := none
  user_id := none
  cost_tokens := some 0

/-- The first node has the device "d". -/
def audioDb (nodeIds : List Uuid) : NetworkDb where
  nodes := Table.empty.insert (units "n") reportingNode
  tasks := Table.empty.insert (units "t") (audioTask nodeIds)
  task_results := Table.empty
  consensus_results := []
  models := Table.empty
  privacy_settings := Table.empty
  users _ := none

/-- Payments succeed, and no inference is run. -/
def payingServices : Services where
  runInference _ _ _ := .error []
  getUserBalance _ _ := .ok 0
  distributeNodePayments _ _ _ _ := .ok ()

def audioReport : CompletionReport := ⟨.uuid (units "t"), units "d", units "hi", 1⟩

/-- The tables after the report, its calls all served. -/
def audioReported (nodeIds : List Uuid) : NetworkDb :=
  ((complete payingServices audioReport).run [] (audioDb nodeIds) Local.empty).2.1

theorem audio_step (nodeIds : List Uuid) : ReportStep (audioDb nodeIds) (payingServices, audioReport) (audioReported nodeIds) :=
  .complete (Async.exec_nil anywhere (complete payingServices audioReport) (audioDb nodeIds) Local.empty)

theorem audio_task {nodeIds : List Uuid} {key : Uuid} {task : Task} (h : (audioDb nodeIds).tasks.get? key = some task) :
    key = units "t" ∧ task = audioTask nodeIds := by
  have hmem : (key, task) ∈ [(units "t", audioTask nodeIds)] := Table.get?_eq_some.mp h
  exact Prod.mk.inj (List.mem_singleton.mp hmem)

theorem audio_met (nodeIds : List Uuid) : QuorumMet (audioDb nodeIds) := by
  intro key task htask hconcluded
  rcases hconcluded with ⟨r, hr, _⟩ | ⟨task', htask', hstatus⟩
  · cases hr
  · rw [(audio_task htask').2] at hstatus
    cases hstatus

/-- The one node of a task is its quorum. -/
theorem single_node_quorum : QuorumMet (audioReported [units "n"]) := by
  refine quorum_before_consensus (audio_met _) (.cons (audio_step _) (.nil _)) fun pre e post u he hu => ?_
  cases pre with
  | nil =>
    obtain ⟨rfl, _⟩ := List.cons.inj he
    cases hu
    intro key hkey nodeId hnode task htask
    obtain ⟨rfl, rfl⟩ := audio_task htask
    have hid : nodeOfDevice (audioDb [units "n"]) (units "d") = some (units "n") := by decide +kernel
    obtain rfl := Option.some.inj (hid.symm.trans hnode)
    exact .inl (by decide +kernel)
  | cons e₁ pre => exact absurd (List.cons.inj he).2 (by simp)

/-- Of three assigned nodes one reports, and the task is concluded. -/
theorem single_report_concludes : ¬ ∀ (start t : NetworkDb) (history : List (Services × CompletionReport)),
    QuorumMet start → Machine.Run ReportStep start history t → QuorumMet t := by
  intro hall
  have hmet := hall _ _ _ (audio_met [units "n", units "n2", units "n3"]) (.cons (audio_step _) (.nil _))
  have hconsensus : (audioReported [units "n", units "n2", units "n3"]).consensus_results.map (·.task_id) = [units "t"] := by
    decide +kernel
  obtain ⟨r, hr, hid⟩ : ∃ r ∈ (audioReported [units "n", units "n2", units "n3"]).consensus_results, r.task_id = units "t" := by
    rw [← List.mem_map, hconsensus]
    exact List.mem_singleton.mpr rfl
  have htasks : ((audioReported [units "n", units "n2", units "n3"]).tasks.get? (units "t")).map (·.assigned_nodes) =
      some [units "n", units "n2", units "n3"] := by decide +kernel
  obtain ⟨task, htask, hassigned⟩ := Option.map_eq_some_iff.mp htasks
  have hquorum := hmet _ task htask (.inl ⟨r, hr, hid⟩)
  rw [reported, hassigned] at hquorum
  exact absurd hquorum (by decide +kernel)

end GalaxiaAin.Network
