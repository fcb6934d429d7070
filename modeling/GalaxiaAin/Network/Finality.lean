import GalaxiaAin.Network.Quorum

/-! When the consensus of a task is final. A verification takes the results that are pending,
whether or not the task has its consensus, and a task that loses its last node is assigned
anew in any status. -/
namespace GalaxiaAin.Network
open GalaxiaAin.Library
open GalaxiaAin.Library.Async hiding bind

/-! ### Final consensus -/

/-- The task is completed and has a consensus result. -/
def Final (db : NetworkDb) (key : Uuid) : Prop :=
  (∃ r ∈ db.consensus_results, r.task_id = key) ∧ (db.tasks.get? key).map (·.status) = some .completed

/-- The consensus results of a task, its status and its verified results are the same. -/
structure Unchanged (key : Uuid) (s t : NetworkDb) : Prop where
  consensus : (t.consensus_results.filter fun r => r.task_id = key) = s.consensus_results.filter fun r => r.task_id = key
  status : (t.tasks.get? key).map (·.status) = (s.tasks.get? key).map (·.status)
  verified : ∀ nodeId, (s.task_results.get? (key, nodeId)).map (·.verification_status) = some .verified →
    (t.task_results.get? (key, nodeId)).map (·.verification_status) = some .verified

theorem Unchanged.refl (key : Uuid) (s : NetworkDb) : Unchanged key s s := ⟨rfl, rfl, fun _ h => h⟩

theorem Unchanged.trans {key : Uuid} {s t u : NetworkDb} (h : Unchanged key s t) (h' : Unchanged key t u) : Unchanged key s u where
  consensus := h'.consensus.trans h.consensus
  status := h'.status.trans h.status
  verified nodeId hv := h'.verified nodeId (h.verified nodeId hv)

theorem Final.unchanged {key : Uuid} {s t : NetworkDb} (hs : Final s key) (h : Unchanged key s t) : Final t key := by
  obtain ⟨⟨r, hr, hid⟩, hstatus⟩ := hs
  refine ⟨?_, h.status.trans hstatus⟩
  have hmem : r ∈ t.consensus_results.filter fun r => r.task_id = key := by
    rw [h.consensus]
    exact List.mem_filter.mpr ⟨hr, decide_eq_true hid⟩
  exact ⟨r, (List.mem_filter.mp hmem).1, hid⟩

/-! ### Reports -/

/-- A report of a node about a task. -/
inductive Report where
  | completion (services : Services) (report : CompletionReport)
  | failure (report : FailureReport)

/-- The report leaves a final consensus alone: with the result of a completion no result of
the task is pending, and a failure leaves the task a node, or finds no others for it. -/
def Spares (db : NetworkDb) : Report → Prop
  | .completion _ report => ∀ key nodeId, report.device_id ≠ [] → report.output ≠ [] → report.taskId = .uuid key →
      nodeOfDevice db report.device_id = some nodeId → Final db key →
      (insertResult report.taskId nodeId report.output report.processing_time_ms).reply () db = .ok () →
        pendingResults (afterReport db nodeId report) key = []
  | .failure report => ∀ key nodeId task, report.device_id ≠ [] → report.taskId = .uuid key →
      nodeOfDevice db report.device_id = some nodeId → db.tasks.get? key = some task → Final db key →
        remainingNodes task nodeId ≠ [] ∨
          ∃ e, selectNodes (reassignment task) (offeredNodes db report.now (reassignment task)) = .error e

/-- Reports, one at a time, whatever fails in them. -/
inductive Reporting : Machine NetworkDb Report
  | completion {s t : NetworkDb} {services : Services} {report : CompletionReport} {r : Except NetworkError Response}
      {l : Local backend} (h : Exec anywhere (complete services report) s Local.empty r t l) :
      Reporting s (.completion services report) t
  | failure {s t : NetworkDb} {report : FailureReport} {r : Except NetworkError Response} {l : Local backend}
      (h : Exec anywhere (fail report) s Local.empty r t l) : Reporting s (.failure report) t

/-! ### Statements -/

/-- Outside the tasks of `may` every consensus stays. -/
def outside (may : Uuid → Prop) : Frame backend where
  kept s t := ∀ key, ¬ may key → Unchanged key s t
  kept_refl s key _ := .refl key s
  kept_trans _ _ _ h h' key hkey := (h key hkey).trans (h' key hkey)

section Statements
variable {may : Uuid → Prop}

theorem updateNode_outside (nodeId : Uuid) (set : NodeRow → Except NetworkError NodeRow) :
    (updateNode nodeId set).Keeps (outside may) := by
  refine Stmt.Keeps.of_run fun c s r w hrun t => ?_
  simp only [updateNode] at hrun
  split at hrun
  · obtain ⟨-, rfl⟩ := Prod.mk.inj (Except.ok.inj hrun)
    exact fun key _ => .refl key t
  · rename_i node _
    cases hset : set node with
    | error e => rw [hset] at hrun; cases hrun
    | ok node' =>
      rw [hset] at hrun
      obtain ⟨-, rfl⟩ := Prod.mk.inj (Except.ok.inj hrun)
      exact fun key _ => ⟨rfl, rfl, fun _ h => h⟩

/-- An update of a task's row: of a task that may change, or one that leaves its status. -/
theorem updateTask_outside {key : Uuid} {set : Task → Task} (h : may key ∨ ∀ task, (set task).status = task.status) :
    (updateTask (.uuid key) set).Keeps (outside may) := by
  refine Stmt.Keeps.of_run fun c s r w hrun t => ?_
  obtain ⟨-, rfl⟩ := Prod.mk.inj (Except.ok.inj hrun)
  refine fun k hk => ⟨rfl, ?_, fun _ h => h⟩
  simp only [Table.get?_modify]
  split
  case isTrue hkey =>
    rcases h with h | h
    · exact absurd (hkey ▸ h) hk
    · cases t.tasks.get? k with
      | none => rfl
      | some task => simp [h]
  case isFalse => rfl

theorem insertConsensus_outside (result : ConsensusResult) (h : may result.task_id) :
    (insertConsensus result).Keeps (outside may) := by
  refine Stmt.Keeps.of_run fun c s r w hrun t => ?_
  simp only [insertConsensus, Stmt.statement] at hrun
  split at hrun
  · cases hrun
  · obtain ⟨-, rfl⟩ := Prod.mk.inj (Except.ok.inj hrun)
    refine fun k hk => ⟨?_, rfl, fun _ h => h⟩
    have hne : result.task_id ≠ k := fun he => hk (he ▸ h)
    simp [List.filter_append, hne]

theorem markResults_outside {key : Uuid} (agreeing : List Uuid) (scores : Option (Int × Int)) (h : may key) :
    (markResults key agreeing scores).Keeps (outside may) := by
  refine Stmt.Keeps.of_run fun c s r w hrun t => ?_
  obtain ⟨-, rfl⟩ := Prod.mk.inj (Except.ok.inj hrun)
  refine fun k hk => ⟨rfl, rfl, fun nodeId hv => ?_⟩
  have hne : k ≠ key := fun he => hk (he ▸ h)
  rw [← hv]
  simp [Table.get?_mapRows, hne]

/-- A recorded result keeps its verification, or is pending. -/
theorem insertResult_outside (taskId : UuidText) (nodeId : Uuid) (output : Text) (ms : Int) :
    (insertResult taskId nodeId output ms).Keeps (outside may) := by
  refine Stmt.Keeps.of_run fun c s r w hrun t => ?_
  obtain ⟨key, ms', rfl | rfl⟩ := insertResult_written hrun
  · refine fun k _ => ⟨rfl, rfl, fun nodeId' hv => ?_⟩
    rw [← hv]
    simp only [Table.get?_modify]
    split
    · rw [Option.map_map]; rfl
    · rfl
  · refine fun k _ => ⟨rfl, rfl, fun nodeId' hv => ?_⟩
    cases hfree : t.task_results.get? (key, nodeId) with
    | none =>
      simp only [Table.get?_insert _ hfree]
      split
      case isTrue he => rw [he, hfree] at hv; cases hv
      case isFalse => exact hv
    | some x =>
      simp only [Table.insert, dif_neg (show ¬ t.task_results.get? (key, nodeId) = none by rw [hfree]; exact Option.some_ne_none x)]
      exact hv

/-- The verification of a task that may change. -/
theorem verifying_outside {key : Uuid} (h : may key) : Verifying (outside may) key where
  node := updateNode_outside
  marks agreeing scores := markResults_outside agreeing scores h
  consensus _ hid := insertConsensus_outside _ (hid ▸ h)
  status _ := updateTask_outside (.inl h)

end Statements

/-! ### A completion -/

section Reports
variable {db : NetworkDb}

theorem afterReport_outside {may : Uuid → Prop} (nodeId : Uuid) (report : CompletionReport) :
    (outside may).kept db (afterReport db nodeId report) :=
  (outside may).kept_trans _ _ _ (insertResult_outside _ _ _ _ _ _ _) (updateNode_outside _ _ _ _ _)

/-- A completion changes the consensus of one task at most, and none that is final where it
spares it. -/
theorem complete_outside (services : Services) (report : CompletionReport) (h : Spares db (.completion services report)) :
    (complete services report).post anywhere (fun _ u _ => (outside fun key => ¬ Final db key).kept db u) db Local.empty := by
  have hrefl := (outside fun key => ¬ Final db key).kept_refl db
  refine complete_post services report hrefl fun hdevice houtput key task nodeId hkey _ hnode hok => ?_
  have hafter := @afterReport_outside db (fun key => ¬ Final db key) nodeId report
  refine post_mono (checkConsensus_post services (verifyTaskResults_post fun task' _ hne => ?_)) fun _ u _ hu =>
    (outside fun key => ¬ Final db key).kept_trans _ _ _ hafter hu
  by_cases hfinal : Final db key
  · exact absurd (h key nodeId hdevice houtput hkey hnode hfinal hok) hne
  · exact (verifying_outside hfinal).post task' _

/-! ### A failure -/

theorem penalized_tables (nodeId : Uuid) (s t : NetworkDb) : ∃ nodes, penalized nodeId s t = { t with nodes := nodes } := by
  obtain ⟨nodes, hnodes⟩ := updateNode_effect nodeId (fun row => do
    .ok { row with
      current_load := greatestInteger (← addInteger (-1) row.current_load)
      tasks_failed := row.tasks_failed.map (· + 1) }) s t
  rw [penalized, failNode, hnodes, reduceReputation]
  exact updateNode_effect _ _ _ _

/-- The session of a transaction that is rolled back, and that of one that is committed. -/
theorem caught_outside {F : Frame backend} {x : Session backend} {e : NetworkError} {u : NetworkDb} {out : List Effect}
    (hu : F.kept db u) : caught (B := backend) (α := List Uuid) anywhere (fun e => do await Site.rollback .rollback; .raise e)
      (fun _ s' _ => F.kept db s') (.error e) u ⟨[x], out⟩ :=
  caught_rollback (fun _ => hu) hu x

theorem commit_sends {F : Frame backend} {P : Effect → Prop} (nodeIds : List Uuid) :
    Sends F P 1 (do Async.await (B := backend) Site.commit .commit; pure nodeIds) := by
  refine sends_bind (fun out => ?_) fun _ => sends_pure _
  exact confined_commit trivial le_rfl (fun _ => ⟨[], (List.append_nil out).symm, by simp⟩) _

/-- The rest of a transaction, with the writes of a frame. -/
theorem rest_post {F : Frame backend} {p : Async backend (List Uuid)} (hp : Sends F (fun _ => True) 1 p)
    {x : Session backend} (hx : x.Keeps F) {out : List Effect} :
    p.post anywhere (caught (B := backend) anywhere (fun e => do await Site.rollback .rollback; .raise e)
      fun _ u _ => F.kept db u) db ⟨[x], out⟩ := by
  have howns : Local.Owns F 1 [] ⟨[x], out⟩ := ⟨[x], rfl, rfl, by simpa using hx⟩
  refine post_mono ((hp out).post howns) fun r u l' hu => ?_
  cases r with
  | ok nodeIds => exact hu.1
  | error e =>
    obtain ⟨hkept, ⟨own, hsessions, hlength, -⟩, -⟩ := hu
    obtain ⟨y, rfl⟩ := List.length_eq_one_iff.mp hlength
    obtain ⟨sessions, out'⟩ := l'
    obtain rfl : sessions = [y] := hsessions
    exact caught_outside hkept

/-- A failure changes the consensus of one task at most, and none that is final where it
spares it. -/
theorem handleTaskFailure_outside (now : Nat) (taskId : UuidText) (nodeId : Uuid)
    (h : ∀ key task, taskId = .uuid key → db.tasks.get? key = some task → Final db key → remainingNodes task nodeId ≠ [] ∨
      ∃ e, selectNodes (reassignment task) (offeredNodes db now (reassignment task)) = .error e) :
    (handleTaskFailure now taskId nodeId).post anywhere
      (fun _ u _ => (outside fun key => ¬ Final db key).kept db u) db Local.empty := by
  have hrefl := (outside fun key => ¬ Final db key).kept_refl db
  -- The writes before the task is touched are to nodes.
  have hpending (held : List RowLock) : Session.Keeps (outside fun key => ¬ Final db key) (.active () held (penalized nodeId db)) :=
    fun t => (outside fun key => ¬ Final db key).kept_trans _ _ _ (updateNode_outside _ _ _ _ _) (updateNode_outside _ _ _ _ _)
  refine handleTaskFailure_post (fun _ => hrefl) (fun key task hkey hget _ => ?_) fun key task held hkey hget hlast => ?_
  · have hremaining : (updateTask (.uuid key) fun task' => { task' with assigned_nodes := remainingNodes task nodeId }).Keeps
        (outside fun key => ¬ Final db key) := updateTask_outside (.inr fun _ => rfl)
    exact (outside fun key => ¬ Final db key).kept_trans _ _ _ (hpending [] db) (hremaining () db _)
  · by_cases hfinal : Final db key
    · obtain hne | ⟨e, he⟩ := h key task hkey hget hfinal
      · exact absurd hlast hne
      · rw [post_bind]
        refine post_mono (assignTask_refused he) fun r u l' hu => ?_
        obtain ⟨⟨e', rfl⟩, rfl, rfl⟩ := hu
        exact caught_outside hrefl
    · have hassign (nodeIds : List Uuid) : (assignNodes (.uuid key) nodeIds).Keeps (outside fun key => ¬ Final db key) :=
        updateTask_outside (.inl hfinal)
      exact rest_post (sends_bind (assignTask_sends (fun _ => updateNode_outside _ _) hassign _ _) commit_sends) (hpending _)

/-- The same of the handler. -/
theorem fail_outside (report : FailureReport) (h : Spares db (.failure report)) :
    (fail report).post anywhere (fun _ u _ => (outside fun key => ¬ Final db key).kept db u) db Local.empty := by
  refine fail_post (fun _ _ => (outside fun key => ¬ Final db key).kept_refl db) fun hdevice nodeId hnode => ?_
  refine post_mono (handleTaskFailure_outside report.now report.taskId nodeId fun key task hkey htask hfinal =>
    h key nodeId task hdevice hkey hnode htask hfinal) fun r u l' hu => ⟨fun _ _ => hu, fun _ _ => hu⟩

end Reports

/-! ### Runs -/

/-- A report that spares final tasks leaves them as they are. -/
theorem Reporting.unchanged {s t : NetworkDb} {report : Report} (hstep : Reporting s report t) (h : Spares s report) {key : Uuid}
    (hfinal : Final s key) : Unchanged key s t := by
  cases hstep with
  | completion hexec => exact hexec.sound (complete_outside _ _ h) key (not_not.mpr hfinal)
  | failure hexec => exact hexec.sound (fail_outside _ h) key (not_not.mpr hfinal)

/-- In every run of reports that spare what is final, a final consensus stays as it is. -/
theorem consensus_final {start t : NetworkDb} {history : List Report} (hrun : Machine.Run Reporting start history t)
    (hspares : ∀ pre e post u, history = pre ++ e :: post → Machine.Run Reporting start pre u → Spares u e) {key : Uuid}
    (hfinal : Final start key) : Unchanged key start t := by
  refine hrun.invariant_of (P := Unchanged key start) (fun s e t hs hg hstep => ?_) hspares (.refl key start)
  exact hs.trans (hstep.unchanged hg (hfinal.unchanged hs))

/-! ### A late report -/

/-- The task is assigned to both of its nodes. -/
def pairDb : NetworkDb :=
  { audioDb [units "n", units "n2"] with
    nodes := (Table.empty.insert (units "n") reportingNode).insert (units "n2") { reportingNode with device_id := units "d2" } }

/-- The tables after a report of the first node: its result is unanimous. -/
def finalDb : NetworkDb := ((complete payingServices audioReport).run [] pairDb Local.empty).2.1

/-- The report of the second node. -/
def lateReport : CompletionReport := ⟨.uuid (units "t"), units "d2", units "ho", 1⟩

theorem pair_step : Reporting pairDb (.completion payingServices audioReport) finalDb :=
  .completion (Async.exec_nil anywhere (complete payingServices audioReport) pairDb Local.empty)

theorem final_pair : Final finalDb (units "t") := by
  have hrows : finalDb.consensus_results.map (·.task_id) = [units "t"] := by decide +kernel
  refine ⟨?_, by decide +kernel⟩
  obtain ⟨r, hr⟩ : ∃ r, r ∈ finalDb.consensus_results.map (·.task_id) := ⟨units "t", by rw [hrows]; exact List.mem_singleton.mpr rfl⟩
  obtain ⟨x, hx, rfl⟩ := List.mem_map.mp hr
  refine ⟨x, hx, ?_⟩
  rw [hrows] at hr
  exact List.mem_singleton.mp hr

/-- The first node reports again. -/
theorem consensus_final_repeated : Unchanged (units "t") finalDb
    ((complete payingServices audioReport).run [] finalDb Local.empty).2.1 := by
  have hstep : Reporting finalDb (.completion payingServices audioReport)
      ((complete payingServices audioReport).run [] finalDb Local.empty).2.1 :=
    .completion (Async.exec_nil anywhere (complete payingServices audioReport) finalDb Local.empty)
  refine consensus_final (.cons hstep (.nil _)) (fun pre e post u he hu => ?_) final_pair
  cases pre with
  | cons e' pre => exact absurd (List.cons.inj he).2 (by simp)
  | nil =>
    obtain ⟨rfl, -⟩ := List.cons.inj he
    cases hu
    intro key nodeId _ _ hkey hnode _ _
    have hid : nodeOfDevice finalDb (units "d") = some (units "n") := by decide +kernel
    obtain rfl := Option.some.inj (hid.symm.trans hnode)
    obtain rfl : units "t" = key := UuidText.uuid.inj hkey
    refine List.map_eq_nil_iff.mpr (List.filter_eq_nil_iff.mpr ?_)
    have hnone : ((afterReport finalDb (units "n") audioReport).task_results.rows.map fun r =>
        (r.1.1 == units "t" && r.2.verification_status == .pending)) = [false] := by decide +kernel
    intro r hr hpending
    have hmem := List.mem_map_of_mem (f := fun r : (Uuid × Uuid) × TaskResult =>
      (r.1.1 == units "t" && r.2.verification_status == .pending)) hr
    rw [hnone, hpending] at hmem
    exact absurd hmem (by decide)

/-- The second report of a task brings a second consensus. -/
theorem consensus_revised : ¬ ∀ (start s t : NetworkDb) (before after : List Report) (key : Uuid),
    Machine.Run Reporting start before s → Machine.Run Reporting s after t → Final s key → Unchanged key s t := by
  intro hall
  have hstep : Reporting finalDb (.completion payingServices lateReport)
      ((complete payingServices lateReport).run [] finalDb Local.empty).2.1 :=
    .completion (Async.exec_nil anywhere (complete payingServices lateReport) finalDb Local.empty)
  have h := hall _ _ _ _ _ _ (.cons pair_step (.nil _)) (.cons hstep (.nil _)) final_pair
  have hlength := congrArg List.length h.consensus
  have hone : (finalDb.consensus_results.filter fun r => r.task_id = units "t").length = 1 := by decide +kernel
  have htwo : (((complete payingServices lateReport).run [] finalDb Local.empty).2.1.consensus_results.filter fun r =>
      r.task_id = units "t").length = 2 := by decide +kernel
  exact absurd (htwo.symm.trans (hlength.trans hone)) (by decide)

end GalaxiaAin.Network
