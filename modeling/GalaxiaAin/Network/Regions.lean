import GalaxiaAin.Network.Selection

/-! Requests without a region. Their tasks ask for the region `auto`, which the query of the
nodes takes for the name of a region. -/
namespace GalaxiaAin.Network
open GalaxiaAin.Library
open GalaxiaAin.Library.Async hiding bind

/-- The node is online and was seen within five minutes, and its reputation is at least 30. -/
structure NodeRow.Active (now : Nat) (row : NodeRow) : Prop where
  online : row.status = .online
  seen : ∃ seen, row.last_seen = some seen ∧ now < seen + 300000
  reputed : ∃ reputation, row.reputation = some reputation ∧ 30 ≤ scoreFormat.value reputation

/-- The node lists the model and has spare capacity. -/
def NodeRow.CanRun (model : Text) (row : NodeRow) : Prop :=
  (∃ models, row.capabilities.models = some models ∧ model ∈ models) ∧ row.load < row.capacity

/-- Some node of a kind can run the model. -/
def SomeNode (db : NetworkDb) (now : Nat) (model : Text) (kind : Uuid → Prop) : Prop :=
  ∃ n row, db.nodes.get? n = some row ∧ kind n ∧ row.Active now ∧ row.CanRun model

/-- An active node has the name `auto` for its region, and can run the model; or it lists no
models at all, and the call throws a TypeError instead. -/
def AutoNode (db : NetworkDb) (now : Nat) (model : Text) : Prop :=
  ∃ n row, db.nodes.get? n = some row ∧ row.Active now ∧ row.region = some (units "auto") ∧
    (row.capabilities.models = none ∨ row.CanRun model)

section Choice
variable {db : NetworkDb} {now : Nat} {model : Text} {priority : Priority}

/-- No node is eligible exactly when the filter rejects each. -/
theorem eligibleNodes_nil {requirements : TaskRequirements} {nodes : List Node} :
    eligibleNodes requirements nodes = .ok [] ↔ ∀ node ∈ nodes, eligible requirements node = .ok false := by
  induction nodes with
  | nil => simp [eligibleNodes]
  | cons node rest ih =>
    rw [List.forall_mem_cons, ← ih, eligibleNodes]
    cases eligible requirements node with
    | error e => simp [bind, Except.bind]
    | ok keep => cases keep <;> cases eligibleNodes requirements rest <;> simp [bind, Except.bind]

theorem eligible_error {requirements : TaskRequirements} {node : Node} {e : NetworkError}
    (h : eligible requirements node = .error e) : e = .typeError := by
  rw [eligible] at h
  split at h
  · cases h
  split at h
  · cases h
  split at h
  · exact (Except.error.inj h).symm
  · cases h

theorem eligibleNodes_error {requirements : TaskRequirements} {nodes : List Node} {e : NetworkError}
    (h : eligibleNodes requirements nodes = .error e) : e = .typeError := by
  induction nodes with
  | nil => cases h
  | cons node rest ih =>
    rw [eligibleNodes] at h
    cases hkeep : eligible requirements node with
    | error e' =>
      rw [hkeep] at h
      exact (Except.error.inj h) ▸ eligible_error hkeep
    | ok keep =>
      cases hothers : eligibleNodes requirements rest with
      | error e' =>
        rw [hkeep, hothers] at h
        obtain rfl := Except.error.inj h
        exact ih hothers
      | ok others =>
        rw [hkeep, hothers] at h
        cases h

theorem selectNodes_none {requirements : TaskRequirements} {nodes : List Node} :
    selectNodes requirements nodes = .error .noEligibleNodes ↔ ∀ node ∈ nodes, eligible requirements node = .ok false := by
  rw [← eligibleNodes_nil, selectNodes]
  cases h : eligibleNodes requirements nodes with
  | error e =>
    rw [eligibleNodes_error h]
    simp [bind, Except.bind]
  | ok chosen => cases chosen <;> simp [bind, Except.bind]

/-- The filter rejects a row for a task without other demands than its model. -/
theorem eligible_auto {n : Uuid} {row : NodeRow} :
    eligible (requirementsOf model priority (units "auto")) (mapRowToNode n row) = .ok false ↔
      ¬ (row.capabilities.models = none ∨ row.CanRun model) := by
  rw [eligible, mapRowToNode_load, mapRowToNode_capacity]
  cases hmodels : row.capabilities.models with
  | none => simp [requirementsOf, mapRowToNode, hmodels]
  | some models => simp [requirementsOf, mapRowToNode, hmodels, NodeRow.CanRun]

/-- With the region `auto` there is no node to choose exactly when no node has it for its region. -/
theorem selectNodes_auto : selectNodes (requirementsOf model priority (units "auto"))
    (offeredNodes db now (requirementsOf model priority (units "auto"))) = .error .noEligibleNodes ↔ ¬ AutoNode db now model := by
  rw [selectNodes_none]
  constructor
  · rintro h ⟨n, row, hrow, hactive, hregion, hfit⟩
    have hmem : (n, row) ∈ activeRows ⟨some (units "auto"), some 30⟩ now db := by
      rw [activeRows, List.mem_mergeSort, List.mem_filter, ← Table.get?_eq_some]
      refine ⟨hrow, (admits_iff (requirementsOf model priority (units "auto"))).mpr ?_⟩
      exact ⟨hactive.online, hactive.seen, hactive.reputed, fun region hr _ => Option.some.inj hr ▸ hregion⟩
    exact eligible_auto.mp (h _ (List.mem_map.mpr ⟨(n, row), hmem, rfl⟩)) hfit
  · intro h node hnode
    obtain ⟨⟨n, row⟩, hr, rfl⟩ := List.mem_map.mp hnode
    rw [activeRows, List.mem_mergeSort, List.mem_filter, ← Table.get?_eq_some] at hr
    obtain ⟨honline, hseen, hreputed, hregion⟩ := (admits_iff (requirementsOf model priority (units "auto"))).mp hr.2
    refine eligible_auto.mpr fun hfit => h ⟨n, row, hr.1, ⟨honline, hseen, hreputed⟩, hregion _ rfl (by decide), hfit⟩

end Choice

/-! ### Errors -/

section Errors
variable {may : Site → Prop} {db : NetworkDb} {l : Local backend}

theorem addInteger_error {d : Int} {x : Option Int32} {e : NetworkError} (h : addInteger d x = .error e) : e = .integerOutOfRange := by
  cases x with
  | none => cases h
  | some x =>
    rw [addInteger, integer] at h
    split at h
    · cases h
    · exact (Except.error.inj h).symm

theorem incrementLoad_error {n : Uuid} {e : NetworkError} (h : (incrementLoad n).reply () db = .error e) : e = .integerOutOfRange := by
  cases hrow : db.nodes.get? n with
  | none => simp [incrementLoad, updateNode, Stmt.reply, hrow] at h
  | some row =>
    cases hload : addInteger 1 row.current_load with
    | error e' =>
      obtain rfl : e' = e := by simpa [incrementLoad, updateNode, Stmt.reply, hrow, hload, bind, Except.bind, Except.map] using h
      exact addInteger_error hload
    | ok load => simp [incrementLoad, updateNode, Stmt.reply, hrow, hload, bind, Except.bind, Except.map] at h

/-- The load of the node cannot be lowered. -/
def LeastLoad (db : NetworkDb) (nodeId : Uuid) : Prop :=
  ∃ row, db.nodes.get? nodeId = some row ∧ row.current_load = some (-2147483648)

theorem addInteger_least (x : Int32) : (∃ y, addInteger (-1) (some x) = .ok y) ↔ x ≠ -2147483648 := by
  have hbound := Int32.le_toInt x
  have hleast : x = -2147483648 ↔ x.toInt = -2147483648 := by rw [← Int32.toInt_inj]; rfl
  rw [addInteger, integer, ne_eq, hleast]
  by_cases h : x.toInt = -2147483648
  · rw [if_neg (by omega)]
    simp [h, Except.map]
  · rw [if_pos (by have := Int32.toInt_lt x; omega)]
    exact iff_of_true ⟨_, rfl⟩ h

theorem failNode_ok {nodeId : Uuid} : (failNode nodeId).reply () db = .ok () ↔ ¬ LeastLoad db nodeId := by
  have hleast : LeastLoad db nodeId ↔ ∃ row, db.nodes.get? nodeId = some row ∧ row.current_load = some (-2147483648) := Iff.rfl
  rw [hleast]
  cases hrow : db.nodes.get? nodeId with
  | none => simp [failNode, updateNode, Stmt.reply, hrow]
  | some row =>
    have hany : (∃ y, addInteger (-1) row.current_load = .ok y) ↔ row.current_load ≠ some (-2147483648) := by
      cases row.current_load with
      | none => exact iff_of_true ⟨none, rfl⟩ (by rintro ⟨⟩)
      | some x => rw [addInteger_least, ne_eq, ne_eq, Option.some.injEq]
    simp only [Option.some.injEq, exists_eq_left']
    rw [← ne_eq, ← hany]
    cases hload : addInteger (-1) row.current_load <;>
      simp [failNode, updateNode, Stmt.reply, hrow, hload, bind, Except.bind, Except.map]

theorem failNode_error {nodeId : Uuid} {e : NetworkError} (h : (failNode nodeId).reply () db = .error e) : e = .integerOutOfRange := by
  cases hrow : db.nodes.get? nodeId with
  | none => simp [failNode, updateNode, Stmt.reply, hrow] at h
  | some row =>
    cases hload : addInteger (-1) row.current_load with
    | error e' =>
      obtain rfl : e' = e := by simpa [failNode, updateNode, Stmt.reply, hrow, hload, bind, Except.bind, Except.map] using h
      exact addInteger_error hload
    | ok load => simp [failNode, updateNode, Stmt.reply, hrow, hload, bind, Except.bind, Except.map] at h

theorem incrementLoads_errors (ids : List Uuid) (rest : List (Session backend)) (out : List Effect) :
    (incrementLoads ids).post may (fun r _ l' => r ≠ .error .noEligibleNodes ∧ l' = ⟨.idle :: rest, out⟩) db ⟨.idle :: rest, out⟩ := by
  induction ids generalizing db with
  | nil => exact ⟨by rintro ⟨⟩, rfl⟩
  | cons n ids ih =>
    rw [incrementLoads, post_bind, post_query_idle]
    refine ⟨?_, fun _ _ => ⟨by rintro ⟨⟩, rfl⟩⟩
    rw [show backend.initial = () from rfl]
    cases hreply : (incrementLoad n).reply () db with
    | error e =>
      rw [incrementLoad_error hreply]
      exact ⟨by rintro ⟨⟩, rfl⟩
    | ok _ => exact ih

/-- An assignment with nodes to choose throws another error, if any. -/
theorem assignTask_errors {now : Nat} {key : Uuid} {requirements : TaskRequirements}
    (h : selectNodes requirements (offeredNodes db now requirements) ≠ .error .noEligibleNodes) :
    (assignTask now (.uuid key) requirements).post may (fun r _ l' => r ≠ .error .noEligibleNodes ∧ l' = l) db l := by
  rw [assignTask, post_withClient, post_bind, getActiveNodes, post_withClient, post_query_idle]
  refine ⟨⟨⟨?_, fun _ _ => ⟨by rintro ⟨⟩, rfl⟩⟩, fun _ _ => ⟨by rintro ⟨⟩, rfl⟩⟩, fun _ _ => ⟨by rintro ⟨⟩, rfl⟩⟩
  rw [selectActiveNodes, Stmt.reply_select, Stmt.effect_select, next_ok, post_bind]
  change (Async.ofExcept (B := backend) (selectNodes requirements (offeredNodes db now requirements))).post may _ db _
  cases hselect : selectNodes requirements (offeredNodes db now requirements) with
  | error e => exact ⟨fun he => h (hselect.trans (congrArg Except.error (Except.error.inj he))), rfl⟩
  | ok ids =>
    change (Async.query (B := backend) Site.assignNodes (assignNodes (.uuid key) ids) >>= _).post may _ db
      ⟨.idle :: l.sessions, l.out⟩
    rw [post_bind, post_query_idle]
    refine ⟨?_, fun _ _ => ⟨by rintro ⟨⟩, rfl⟩⟩
    have hreply : (assignNodes (.uuid key) ids).reply () db = .ok () := rfl
    rw [show backend.initial = () from rfl, hreply, next_ok, post_bind]
    refine post_mono (incrementLoads_errors ids l.sessions l.out) fun r u l' hu => ?_
    obtain ⟨hr, rfl⟩ := hu
    cases r with
    | error e => exact ⟨fun he => hr (congrArg Except.error (Except.error.inj he)), rfl⟩
    | ok _ => exact ⟨by rintro ⟨⟩, rfl⟩

end Errors

/-! ### Both calls -/

section Calls
variable {db : NetworkDb}

/-- The request names no region. -/
def InferenceRequest.Unplaced (request : InferenceRequest) : Prop := request.region = none ∨ request.region = some []

/-- The task was created without a region. -/
def Task.Unplaced (task : Task) : Prop := task.region = orAuto none

/-- The assignment of the request does not fail for want of nodes, where some node can run its model. -/
def RequestRuns (db : NetworkDb) (request : InferenceRequest) : Prop :=
  SomeNode db request.created request.model (fun _ => True) →
    (assignTask request.created (.uuid request.taskId) request.requirements).post anywhere
      (fun r _ _ => r ≠ .error .noEligibleNodes) db Local.empty

/-- Nor does the failure of the last node of the task, where another node can run its model. -/
def FailureRuns (db : NetworkDb) (now : Nat) (key nodeId : Uuid) (task : Task) : Prop :=
  SomeNode db now task.model_id (· ≠ nodeId) →
    (handleTaskFailure now (.uuid key) nodeId).post anywhere (fun r _ _ => r ≠ .error .noEligibleNodes) db Local.empty

theorem request_runs_iff {request : InferenceRequest} (h : request.Unplaced) : RequestRuns db request ↔
    (SomeNode db request.created request.model (fun _ => True) → AutoNode db request.created request.model) := by
  have hrequirements : request.requirements = requirementsOf request.model (request.priority.getD .standard) (units "auto") := by
    rcases h with h | h <;> rw [InferenceRequest.requirements, h] <;> rfl
  refine imp_congr_right fun _ => ?_
  rw [hrequirements]
  constructor
  · intro hpost
    by_contra hnone
    have hthrows : (assignTask request.created (.uuid request.taskId)
        (requirementsOf request.model (request.priority.getD .standard) (units "auto"))).post (fun _ => False) _ db Local.empty :=
      assignTask_throws (selectNodes_auto.mpr hnone)
    obtain ⟨herror | ⟨⟨_, hσ⟩, -⟩, -⟩ := run_nil_post hthrows
    · exact post_served hpost herror
    · exact hσ
  · intro hnode
    exact post_mono (assignTask_errors fun he => selectNodes_auto.mp he hnode) fun _ _ _ hr => hr.1

theorem failure_runs_iff {now : Nat} {key nodeId : Uuid} {task : Task} (htask : db.tasks.get? key = some task)
    (hregion : task.Unplaced) (hlast : remainingNodes task nodeId = []) : FailureRuns db now key nodeId task ↔
      (SomeNode db now task.model_id (· ≠ nodeId) → AutoNode db now task.model_id ∨ LeastLoad db nodeId) := by
  have hrequirements : reassignment task = requirementsOf task.model_id task.priority (units "auto") := by
    rw [reassignment, hregion]
    rfl
  refine imp_congr_right fun _ => ?_
  constructor
  · intro hpost
    by_contra hnone
    obtain ⟨hauto, hload⟩ := not_or.mp hnone
    have hserved : (handleTaskFailure now (.uuid key) nodeId).post (fun _ => False) (fun r _ _ => r = .error .noEligibleNodes)
        db Local.empty := by
      refine handleTaskFailure_ends (fun ⟨_, hσ⟩ => hσ.elim) (by rintro ⟨⟩) (fun key' hkey hmissing => ?_)
        (fun e he => ?_) (fun key' task' hkey htask' hne => ?_) fun key' task' held hkey htask' _ _ => ?_
      · obtain rfl := UuidText.uuid.inj hkey
        rw [htask] at hmissing
        cases hmissing
      · rw [failNode_ok.mpr hload] at he
        cases he
      · obtain rfl := UuidText.uuid.inj hkey
        obtain rfl := Option.some.inj (htask.symm.trans htask')
        exact absurd hlast hne
      · obtain rfl := UuidText.uuid.inj hkey
        obtain rfl := Option.some.inj (htask.symm.trans htask')
        rw [hrequirements, post_bind]
        refine post_mono (assignTask_throws (selectNodes_auto.mpr hauto)) fun r u l' hu => ?_
        obtain ⟨rfl | ⟨⟨_, hσ⟩, -⟩, rfl, rfl⟩ := hu
        · rw [next_error, caught_error, post_bind, post_rollback]
          exact ⟨rfl, fun hσ => hσ.elim⟩
        · exact hσ.elim
    exact post_served hpost (run_nil_post hserved)
  · intro hnode
    refine handleTaskFailure_ends (fun _ => by rintro ⟨⟩) (fun _ => by rintro ⟨⟩) (fun _ _ _ => by rintro ⟨⟩)
      (fun e he => ?_) (fun _ _ _ _ _ => by rintro ⟨⟩) fun key' task' held hkey htask' _ hok => ?_
    · rw [failNode_error he]
      rintro ⟨⟩
    · obtain rfl := UuidText.uuid.inj hkey
      obtain rfl := Option.some.inj (htask.symm.trans htask')
      have hauto := hnode.resolve_right (failNode_ok.mp hok)
      rw [hrequirements, post_bind]
      refine post_mono (assignTask_errors fun he => selectNodes_auto.mp he hauto) fun r u l' hu => ?_
      obtain ⟨hr, rfl⟩ := hu
      cases r with
      | error e => exact caught_rollback (fun _ => by rintro ⟨⟩) (fun he => hr (congrArg Except.error (Except.error.inj he))) _
      | ok ids =>
        rw [next_ok, post_bind, post_commit]
        exact ⟨by rintro ⟨⟩, fun _ _ => caught_rollback (fun _ => by rintro ⟨⟩) (by rintro ⟨⟩) _⟩

end Calls

/-! ### One node for a model -/

/-- A task on a node that is gone. -/
def placedTask : Task := { audioTask [units "x"] with model_id := units "m" }

/-- A node in a region that can run the task. -/
def placedDb (region : Option Text) : NetworkDb :=
  { smallDb with
    nodes := (Table.empty.insert (units "n") { smallNode with region := region }).insert (units "x")
      { smallNode with device_id := units "e", status := .offline }
    tasks := Table.empty.insert (units "t") placedTask }

def placedRequest : InferenceRequest := { hiRequest with model := units "m", privacyLevel := none }

theorem placedDb_active (region : Option Text) : ∃ row, (placedDb region).nodes.get? (units "n") = some row ∧ row.Active 0 ∧
    row.region = region ∧ row.CanRun (units "m") :=
  ⟨_, rfl, ⟨rfl, ⟨0, rfl, by decide⟩, 5000, rfl, by decide +kernel⟩, rfl, ⟨_, rfl, List.mem_cons_self⟩, (by decide : smallNode.load < smallNode.capacity)⟩

theorem placedDb_some {region : Option Text} {kind : Uuid → Prop} (h : kind (units "n")) :
    SomeNode (placedDb region) 0 (units "m") kind := by
  obtain ⟨row, hrow, hactive, -, hcan⟩ := placedDb_active region
  exact ⟨_, row, hrow, h, hactive, hcan⟩

end GalaxiaAin.Network
