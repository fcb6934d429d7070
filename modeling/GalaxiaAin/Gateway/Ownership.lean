import GalaxiaAin.Gateway.Endpoints

/-! The rows of a user, databases that differ in the rows of others only, and what lookups and
changes make of them. -/
namespace GalaxiaAin.Gateway
open GalaxiaAin.Library

variable {σ : Type}

/-! ### Ownership -/

section
variable (a : UserId)

/-- The user an API key was issued to. -/
def Shared.keyOwner (shared : Shared σ) (id : UserId) : Option UserId :=
  (shared.api_keys.find? fun key => key.id == id).bind (·.user_id)

def Shared.ownsTask (shared : Shared σ) (task : TaskRow) : Bool := task.api_key_id.bind shared.keyOwner == some a

def Shared.ownsRecord (shared : Shared σ) (record : TravelRuleRow) : Bool :=
  shared.token_transactions.any fun t => t.id == record.transaction_id && t.user_id == some a

def ServerDb.ownTasks (db : ServerDb σ) : List TaskRow := db.tasks.filter (db.ownsTask a)

def ServerDb.ownResults (db : ServerDb σ) : List ConsensusRow :=
  db.consensus_results.filter fun r => (db.ownTasks a).any fun task => task.id == r.task_id

def ServerDb.ownRecords (db : ServerDb σ) : List TravelRuleRow := db.travel_rule_records.filter (db.ownsRecord a)

/-- Databases that differ in the tasks, consensus results and Travel Rule records of other users only. -/
structure Alike (db db' : ServerDb σ) : Prop where
  shared : db.toShared = db'.toShared
  tasks : db.ownTasks a = db'.ownTasks a
  results : db.ownResults a = db'.ownResults a
  records : db.ownRecords a = db'.ownRecords a

/-- No task of another user has this id. -/
def ServerDb.TaskOf (db : ServerDb σ) (id : UserId) : Prop := ∀ task ∈ db.tasks, task.id = id → db.ownsTask a task = true

/-- No Travel Rule record of another user has this transaction. -/
def ServerDb.RecordOf (db : ServerDb σ) (transactionId : UserId) : Prop :=
  ∀ record ∈ db.travel_rule_records, record.transaction_id = transactionId → db.ownsRecord a record = true

end

/-! ### Lookups -/

/-- Looking up rows that all lie in a part of a table is looking them up in that part. -/
theorem find?_part {α : Type} {l : List α} {p q : α → Bool} (h : ∀ x ∈ l, p x = true → q x = true) :
    l.find? p = (l.filter q).find? p := by
  induction l with
  | nil => rfl
  | cons x l ih =>
    have ih := ih fun y hy => h y (List.mem_cons_of_mem _ hy)
    cases hp : p x with
    | true => rw [List.filter_cons_of_pos (h x List.mem_cons_self hp), List.find?_cons_of_pos hp, List.find?_cons_of_pos hp]
    | false =>
      rw [List.find?_cons_of_neg (by simp [hp]), ih, List.filter_cons]
      split
      · rw [List.find?_cons_of_neg (by simp [hp])]
      · rfl

section Lookups
variable {a : UserId} {db db' : ServerDb σ} {id : UserId}

theorem Alike.find_task (h : Alike a db db') (ht : db.TaskOf a id) (ht' : db'.TaskOf a id) :
    (db.tasks.find? fun task => task.id == id) = db'.tasks.find? fun task => task.id == id := by
  rw [find?_part (q := db.ownsTask a) fun task hmem heq => ht task hmem (beq_iff_eq.mp heq),
    find?_part (q := db'.ownsTask a) fun task hmem heq => ht' task hmem (beq_iff_eq.mp heq)]
  exact congrArg (List.find? _) h.tasks

/-- The results of a task that is the user's are the user's. -/
theorem ServerDb.TaskOf.owns_result (ht : db.TaskOf a id) {task : TaskRow} (hmem : task ∈ db.tasks) (hid : task.id = id)
    {r : ConsensusRow} (hr : r.task_id = id) : ((db.ownTasks a).any fun task => task.id == r.task_id) = true := by
  rw [List.any_eq_true]
  exact ⟨task, List.mem_filter.mpr ⟨hmem, ht task hmem hid⟩, by rw [hid, hr, beq_self_eq_true]⟩

theorem Alike.filter_results (h : Alike a db db') (ht : db.TaskOf a id) (ht' : db'.TaskOf a id) {task : TaskRow}
    (hfound : (db.tasks.find? fun task => task.id == id) = some task) :
    (db.consensus_results.filter fun r => r.task_id == id) = db'.consensus_results.filter fun r => r.task_id == id := by
  have own {d : ServerDb σ} (hd : d.TaskOf a id) (hf : (d.tasks.find? fun task => task.id == id) = some task) :
      (d.consensus_results.filter fun r => r.task_id == id) = (d.ownResults a).filter fun r => r.task_id == id := by
    rw [ServerDb.ownResults, List.filter_filter]
    refine List.filter_congr fun r _ => ?_
    cases hr : r.task_id == id with
    | false => rfl
    | true =>
      have hid := List.find?_some hf
      rw [hd.owns_result (List.mem_of_find?_eq_some hf) (beq_iff_eq.mp hid) (beq_iff_eq.mp hr)]
      rfl
  rw [own ht hfound, own ht' ((h.find_task ht ht').symm.trans hfound), h.results]

theorem Alike.find_record (h : Alike a db db') (hr : db.RecordOf a id) (hr' : db'.RecordOf a id) :
    (db.travel_rule_records.find? fun record => record.transaction_id == id) =
      db'.travel_rule_records.find? fun record => record.transaction_id == id := by
  rw [find?_part (q := db.ownsRecord a) fun record hmem heq => hr record hmem (beq_iff_eq.mp heq),
    find?_part (q := db'.ownsRecord a) fun record hmem heq => hr' record hmem (beq_iff_eq.mp heq)]
  exact congrArg (List.find? _) h.records

end Lookups

/-! ### Changes -/

/-- No task or result refers to a row of this id. -/
def Unused (id : UserId) (db : ServerDb σ) : Prop :=
  (∀ task ∈ db.tasks, task.id ≠ id ∧ task.api_key_id ≠ some id) ∧ ∀ r ∈ db.consensus_results, r.task_id ≠ id

section Changes
variable {a : UserId} {db db' : ServerDb σ}

theorem ownsTask_api_keys (shared : Shared σ) {key : ApiKey} {task : TaskRow} (h : task.api_key_id ≠ some key.id) :
    ({ shared with api_keys := shared.api_keys ++ [key] } : Shared σ).ownsTask a task = shared.ownsTask a task := by
  cases hk : task.api_key_id with
  | none => simp [Shared.ownsTask, hk]
  | some k =>
    have hne : (key.id == k) = false := beq_eq_false_iff_ne.mpr fun heq => h (by rw [hk, heq])
    simp [Shared.ownsTask, Shared.keyOwner, hk, hne]

/-- A change outside the three tables under which every task keeps its owner. -/
theorem Alike.set_shared (h : Alike a db db') {shared : Shared σ}
    (htask : ∀ task ∈ db.tasks, shared.ownsTask a task = db.ownsTask a task)
    (htask' : ∀ task ∈ db'.tasks, shared.ownsTask a task = db'.ownsTask a task)
    (hrecord : shared.token_transactions = db.token_transactions) :
    Alike a { db with toShared := shared } { db' with toShared := shared } := by
  have tasks {d : ServerDb σ} (hd : ∀ task ∈ d.tasks, shared.ownsTask a task = d.ownsTask a task) :
      ({ d with toShared := shared } : ServerDb σ).ownTasks a = d.ownTasks a := List.filter_congr hd
  have results {d : ServerDb σ} (hd : ∀ task ∈ d.tasks, shared.ownsTask a task = d.ownsTask a task) :
      ({ d with toShared := shared } : ServerDb σ).ownResults a = d.ownResults a := by
    rw [ServerDb.ownResults, tasks hd]
    rfl
  have records {d : ServerDb σ} (hd : shared.token_transactions = d.token_transactions) :
      ({ d with toShared := shared } : ServerDb σ).ownRecords a = d.ownRecords a := by
    refine List.filter_congr fun record _ => ?_
    rw [Shared.ownsRecord, Shared.ownsRecord, hd]
  refine ⟨rfl, ?_, ?_, ?_⟩
  · rw [tasks htask, tasks htask', h.tasks]
  · rw [results htask, results htask', h.results]
  · rw [records hrecord, records (by rw [hrecord, h.shared]), h.records]

theorem Alike.set_rest (h : Alike a db db') (rest : σ) :
    Alike a { db with rest := rest } { db' with toShared := { db.toShared with rest := rest } } :=
  h.set_shared (fun _ _ => rfl) (fun _ _ => by rw [← h.shared]; rfl) rfl

/-- A new task under an unused id belongs to the same user in both databases and takes no results along. -/
theorem Alike.add_task (h : Alike a db db') {task : TaskRow} (hfresh : Unused task.id db) (hfresh' : Unused task.id db') :
    Alike a { db with tasks := db.tasks ++ [task] } { db' with tasks := db'.tasks ++ [task] } := by
  have tasks (d : ServerDb σ) : ({ d with tasks := d.tasks ++ [task] } : ServerDb σ).ownTasks a =
      d.ownTasks a ++ [task].filter (d.ownsTask a) := List.filter_append _ _
  have results {d : ServerDb σ} (hd : Unused task.id d) :
      ({ d with tasks := d.tasks ++ [task] } : ServerDb σ).ownResults a = d.ownResults a := by
    rw [ServerDb.ownResults, tasks]
    refine List.filter_congr fun r hr => ?_
    rw [List.any_append, Bool.or_eq_left_iff_imp]
    intro hany
    obtain ⟨t, ht, heq⟩ := List.any_eq_true.mp hany
    obtain rfl := List.mem_singleton.mp (List.mem_of_mem_filter ht)
    exact absurd (beq_iff_eq.mp heq).symm (hd.2 r hr)
  refine ⟨h.shared, ?_, ?_, h.records⟩
  · rw [tasks, tasks, h.tasks, h.shared]
  · rw [results hfresh, results hfresh', h.results]

/-- A node's report changes rows of one task and adds results to it. -/
theorem Alike.report (h : Alike a db db') (work : NodeWork σ) (id : UserId) :
    Alike a
      { db with
        tasks := db.tasks.map (work.update id)
        consensus_results := db.consensus_results ++ work.outputs.map (ConsensusRow.mk id) }
      { db' with
        tasks := db'.tasks.map (work.update id)
        consensus_results := db'.consensus_results ++ work.outputs.map (ConsensusRow.mk id) } := by
  have key (task : TaskRow) : (work.update id task).api_key_id = task.api_key_id := by
    rw [NodeWork.update]; split <;> rfl
  have same (task : TaskRow) : (work.update id task).id = task.id := by
    rw [NodeWork.update]; split <;> rfl
  have tasks (d : ServerDb σ) : (d.tasks.map (work.update id)).filter (d.ownsTask a) = (d.ownTasks a).map (work.update id) := by
    rw [List.filter_map, ServerDb.ownTasks]
    refine congrArg _ (List.filter_congr fun task _ => ?_)
    rw [Function.comp_apply, Shared.ownsTask, Shared.ownsTask, key]
  have owner (d : ServerDb σ) (r : ConsensusRow) :
      (((d.tasks.map (work.update id)).filter (d.ownsTask a)).any fun task => task.id == r.task_id) =
        (d.ownTasks a).any fun task => task.id == r.task_id := by
    rw [tasks, List.any_map]
    simp only [Function.comp_def, same]
  have results (d : ServerDb σ) :
      ((d.consensus_results ++ work.outputs.map (ConsensusRow.mk id)).filter fun r =>
        ((d.tasks.map (work.update id)).filter (d.ownsTask a)).any fun task => task.id == r.task_id) =
      d.ownResults a ++ (work.outputs.map (ConsensusRow.mk id)).filter fun r =>
        (d.ownTasks a).any fun task => task.id == r.task_id := by
    simp only [owner, List.filter_append]
    rfl
  refine ⟨h.shared, ?_, ?_, h.records⟩
  · exact (tasks db).trans ((congrArg _ h.tasks).trans (tasks db').symm)
  · refine (results db).trans (Eq.trans ?_ (results db').symm)
    rw [h.results, h.tasks]

end Changes

end GalaxiaAin.Gateway
