import GalaxiaAin.Library.Json
import GalaxiaAin.Library.Machine
import Mathlib.Data.Finset.Card
import Mathlib.Data.Finset.Dedup
import Mathlib.Data.List.Perm.Basic

/-! The task queue: its fields, the promises of the tasks it runs, and the events that move
them. A failed task frees its slot when `processTask` rethrows and is queued again by the
catch handler of `processQueue`, a later turn. -/
namespace GalaxiaAin.Network
open GalaxiaAin.Library

inductive InputType where
  | text | image | audio
  deriving DecidableEq

inductive PrivacyLevel where
  | publicLevel | privateLevel | confidential
  deriving DecidableEq

structure QueuedTask where
  taskId : Text
  model : Text
  input : Text
  inputType : InputType
  nodeIds : List Text
  retries : Nat
  maxRetries : Nat
  privacyLevel : Option PrivacyLevel
  deriving DecidableEq

structure TaskQueue where
  queue : List QueuedTask
  processing : Finset Text

def maxConcurrent : Nat := 10

/-- The task `enqueue` builds once the nodes are assigned. -/
def queuedTask (taskId model input : Text) (inputType : InputType) (nodeIds : List Text)
    (privacyLevel : Option PrivacyLevel) : QueuedTask :=
  ⟨taskId, model, input, inputType, nodeIds, 0, 3, privacyLevel⟩

/-- The loop of `processQueue`: what is left of the queue, the set, and the tasks it starts. -/
def processQueue : List QueuedTask → Finset Text → List QueuedTask × Finset Text × List QueuedTask
  | [], processing => ([], processing, [])
  | task :: queue, processing =>
    if processing.card < maxConcurrent then
      if task.taskId ∈ processing then processQueue queue processing
      else
        let rest := processQueue queue (insert task.taskId processing)
        (rest.1, rest.2.1, task :: rest.2.2)
    else (task :: queue, processing, [])

/-- The queue with the promises of `processTask`: those running, and those rejected whose
catch handler has not run. What has ended, and the runs and failures so far, are kept for
the record. -/
structure QueueState extends TaskQueue where
  running : List QueuedTask
  rejected : List QueuedTask
  finished : List QueuedTask
  failed : List QueuedTask
  started : List Text
  failures : List Text

inductive QueueEvent where
  /-- `enqueue` has its nodes and goes on. -/
  | enqueue (taskId model input : Text) (inputType : InputType) (nodeIds : List Text)
      (privacyLevel : Option PrivacyLevel)
  /-- A run of `processTask` ends. -/
  | success (task : QueuedTask)
  /-- A run of `processTask` rethrows. -/
  | failure (task : QueuedTask)
  /-- The catch handler of a run that was rejected. -/
  | caught (task : QueuedTask)

namespace QueueState

def empty : QueueState := ⟨⟨[], ∅⟩, [], [], [], [], [], []⟩

/-- `this.processQueue()`. -/
def drain (s : QueueState) : QueueState :=
  let o := processQueue s.queue s.processing
  { s with
    queue := o.1
    processing := o.2.1
    running := s.running ++ o.2.2
    started := s.started ++ o.2.2.map (·.taskId) }

/-- One event, where it can happen. -/
def step (s : QueueState) : QueueEvent → Option QueueState
  | .enqueue taskId model input inputType nodeIds privacyLevel =>
    some { s with queue := s.queue ++ [queuedTask taskId model input inputType nodeIds privacyLevel] }.drain
  | .success task =>
    if task ∈ s.running then
      some { s with
        running := s.running.erase task
        finished := s.finished ++ [task]
        processing := s.processing.erase task.taskId }.drain
    else none
  | .failure task =>
    if task ∈ s.running then
      some { s with
        running := s.running.erase task
        rejected := s.rejected ++ [task]
        failures := s.failures ++ [task.taskId]
        processing := s.processing.erase task.taskId }
    else none
  | .caught task =>
    if task ∈ s.rejected then
      if task.retries < task.maxRetries then
        some { s with
          rejected := s.rejected.erase task
          processing := s.processing.erase task.taskId
          queue := s.queue ++ [{ task with retries := task.retries + 1 }] }
      else
        some { s with
          rejected := s.rejected.erase task
          processing := s.processing.erase task.taskId
          failed := s.failed ++ [task] }
    else none

/-- The queue as a machine. -/
def machine : Machine QueueState QueueEvent := fun s e t => s.step e = some t

/-! ### Draining -/

/-- Nothing is waiting, or every slot is taken. -/
def Drained (s : QueueState) : Prop := s.queue = [] ∨ maxConcurrent ≤ s.running.length

/-- No catch handler is pending. -/
def Quiescent (s : QueueState) : Prop := s.rejected = []

end QueueState

/-- What `processQueue` does: it stops at an empty queue or full slots, and the tasks it
starts are new to the set. -/
theorem processQueue_spec (queue : List QueuedTask) (processing : Finset Text) :
    let o := processQueue queue processing
    (o.1 = [] ∨ maxConcurrent ≤ o.2.1.card) ∧
      o.2.1 = processing ∪ (o.2.2.map (·.taskId)).toFinset ∧
      (o.2.2.map (·.taskId)).Nodup ∧ (∀ t ∈ o.2.2, t.taskId ∉ processing) ∧
      (processing.card ≤ maxConcurrent → o.2.1.card ≤ maxConcurrent) := by
  induction queue generalizing processing with
  | nil => simp [processQueue]
  | cons task queue ih =>
    by_cases hcard : processing.card < maxConcurrent
    · by_cases hmem : task.taskId ∈ processing
      · simpa [processQueue, hcard, hmem] using ih processing
      · obtain ⟨hstop, hset, hnodup, hnew, hle⟩ := ih (insert task.taskId processing)
        have hcard' : (insert task.taskId processing).card = processing.card + 1 := Finset.card_insert_of_notMem hmem
        simp only [processQueue, hcard, hmem, if_true, if_false]
        refine ⟨hstop, ?_, ?_, ?_, fun _ => hle (by omega)⟩
        · rw [hset]
          ext x
          simp
        · simp only [List.map_cons, List.nodup_cons]
          refine ⟨fun hin => ?_, hnodup⟩
          obtain ⟨t, ht, hid⟩ := List.mem_map.mp hin
          exact hnew t ht (by rw [hid]; exact Finset.mem_insert_self _ _)
        · intro t ht
          rcases List.mem_cons.mp ht with rfl | ht
          · exact hmem
          · exact fun hp => hnew t ht (Finset.mem_insert_of_mem hp)
    · simp only [processQueue, hcard, if_false]
      refine ⟨.inr (by omega), by simp, by simp, by simp, id⟩

/-- When no id is waiting twice or in the set, nothing is skipped. -/
theorem processQueue_split {queue : List QueuedTask} {processing : Finset Text} (hnodup : (queue.map (·.taskId)).Nodup)
    (hnew : ∀ t ∈ queue, t.taskId ∉ processing) :
    (processQueue queue processing).2.2 ++ (processQueue queue processing).1 = queue := by
  induction queue generalizing processing with
  | nil => rfl
  | cons task queue ih =>
    rw [List.map_cons, List.nodup_cons] at hnodup
    by_cases hcard : processing.card < maxConcurrent
    · have hmem : task.taskId ∉ processing := hnew task List.mem_cons_self
      have hrest : ∀ t ∈ queue, t.taskId ∉ insert task.taskId processing := by
        intro t ht hin
        rcases Finset.mem_insert.mp hin with hid | hin
        · exact hnodup.1 (List.mem_map.mpr ⟨t, ht, hid⟩)
        · exact hnew t (List.mem_cons_of_mem _ ht) hin
      simp only [processQueue, hcard, hmem, if_true, if_false, List.cons_append, ih hnodup.2 hrest]
    · simp only [processQueue, hcard, if_false, List.nil_append]

namespace QueueState

@[simp] theorem drain_rejected (s : QueueState) : s.drain.rejected = s.rejected := rfl
@[simp] theorem drain_finished (s : QueueState) : s.drain.finished = s.finished := rfl
@[simp] theorem drain_failed (s : QueueState) : s.drain.failed = s.failed := rfl
@[simp] theorem drain_failures (s : QueueState) : s.drain.failures = s.failures := rfl

/-- A slot is taken only by a task that runs. -/
def Backed (s : QueueState) : Prop := ∀ x ∈ s.processing, ∃ t ∈ s.running, t.taskId = x

theorem Backed.card_le {s : QueueState} (h : s.Backed) : s.processing.card ≤ s.running.length := by
  calc s.processing.card ≤ (s.running.map (·.taskId)).toFinset.card :=
        Finset.card_le_card fun x hx => List.mem_toFinset.mpr (List.mem_map.mpr (h x hx))
    _ ≤ (s.running.map (·.taskId)).length := List.toFinset_card_le _
    _ = s.running.length := List.length_map _

theorem Backed.drain {s : QueueState} (h : s.Backed) : s.drain.Backed := by
  intro x hx
  obtain ⟨-, hset, -⟩ := processQueue_spec s.queue s.processing
  have hx' : x ∈ s.processing ∪ ((processQueue s.queue s.processing).2.2.map (·.taskId)).toFinset := hset ▸ hx
  rcases Finset.mem_union.mp hx' with hold | hnew
  · obtain ⟨t, ht, hid⟩ := h x hold
    exact ⟨t, List.mem_append_left _ ht, hid⟩
  · obtain ⟨t, ht, hid⟩ := List.mem_map.mp (List.mem_toFinset.mp hnew)
    exact ⟨t, List.mem_append_right _ ht, hid⟩

/-- A run that ends gives its slot back. -/
theorem Backed.erase {s : QueueState} (h : s.Backed) {task : QueuedTask} :
    ∀ x ∈ s.processing.erase task.taskId, ∃ t ∈ s.running.erase task, t.taskId = x := by
  intro x hx
  obtain ⟨hne, hmem⟩ := Finset.mem_erase.mp hx
  obtain ⟨t, ht, hid⟩ := h x hmem
  refine ⟨t, (List.mem_erase_of_ne fun he => hne ?_).mpr ht, hid⟩
  rw [← hid, he]

/-- Draining leaves nothing waiting, or all slots taken. -/
theorem drained_drain {s : QueueState} (h : s.Backed) : s.drain.Drained := by
  obtain ⟨hstop, -⟩ := processQueue_spec s.queue s.processing
  exact hstop.imp id fun hc => Nat.le_trans hc h.drain.card_le

theorem step_backed {s t : QueueState} {e : QueueEvent} (h : s.Backed) (hs : s.step e = some t) : t.Backed := by
  cases e with
  | enqueue =>
    cases hs
    exact Backed.drain (s := { s with queue := _ }) h
  | success task =>
    simp only [step] at hs
    split at hs <;> cases hs
    exact Backed.drain (s := { s with running := _, finished := _, processing := _ }) h.erase
  | failure task =>
    simp only [step] at hs
    split at hs <;> cases hs
    exact h.erase
  | caught task =>
    simp only [step] at hs
    split at hs
    · split at hs <;> cases hs <;> exact fun x hx => h x (Finset.mem_of_mem_erase hx)
    · cases hs

/-- A handler that is the last one pending leaves nothing waiting: every slot is taken, or
the queue is empty and its task has no retry left. -/
def leavesNone (s : QueueState) : QueueEvent → Prop
  | .caught task => s.rejected.erase task = [] →
    maxConcurrent ≤ s.running.length ∨ (s.queue = [] ∧ task.maxRetries ≤ task.retries)
  | _ => True

/-- When the queue is quiescent after a step it is drained, exactly if the step was no
catch handler that leaves a task waiting. -/
theorem drained_iff {s t : QueueState} {e : QueueEvent} (h : s.Backed) (hs : s.step e = some t) :
    (t.Quiescent → t.Drained) ↔ s.leavesNone e := by
  cases e with
  | enqueue =>
    cases hs
    exact iff_of_true (fun _ => drained_drain (s := { s with queue := _ }) h) trivial
  | success task =>
    simp only [step] at hs
    split at hs <;> cases hs
    exact iff_of_true (fun _ => drained_drain (s := { s with running := _, finished := _, processing := _ }) h.erase)
      trivial
  | failure task =>
    simp only [step] at hs
    split at hs <;> cases hs
    exact iff_of_true (fun hq => by simp [Quiescent] at hq) trivial
  | caught task =>
    simp only [step] at hs
    split at hs
    · split at hs
      · rename_i hretry
        cases hs
        refine forall_congr' fun _ => ⟨fun hd => .inl (hd.resolve_left (by simp)), fun hd => .inr ?_⟩
        exact hd.resolve_right fun h => absurd hretry (by omega)
      · rename_i hretry
        cases hs
        refine forall_congr' fun _ => ⟨fun hd => hd.symm.imp_right fun hq => ⟨hq, by omega⟩, fun hd => ?_⟩
        exact hd.symm.imp_left And.left
    · cases hs

/-- The queue is drained in every quiescent state of a run exactly when no catch handler,
the last one pending, leaves a task waiting with a slot free. -/
theorem never_stalls_iff (events : List QueueEvent) (last : QueueState) :
    (∀ pre post s, events = pre ++ post → Machine.Run machine .empty pre s → Machine.Run machine s post last →
      s.Quiescent → s.Drained) ↔
    ∀ pre e post s t, events = pre ++ e :: post → Machine.Run machine .empty pre s → s.step e = some t →
      Machine.Run machine t post last → s.leavesNone e := by
  have hstart : empty.Quiescent → empty.Drained := fun _ => .inl rfl
  refine Machine.always_iff (P := fun s => s.Quiescent → s.Drained) hstart (fun es s e t hr hs => ?_) events last
  have hbacked : s.Backed := hr.invariant (fun _ _ _ h hs => step_backed h hs) fun x hx => by cases hx
  exact drained_iff hbacked hs

/-- A task that fails its first run waits for the retry, with every slot free. -/
theorem retry_left_behind :
    let task := queuedTask (units "t1") (units "whisper") (units "in") .audio [units "n1"] none
    ∃ s, Machine.Run machine .empty [.enqueue (units "t1") (units "whisper") (units "in") .audio [units "n1"] none,
        .failure task, .caught task] s ∧
      s.Quiescent ∧ s.queue = [{ task with retries := 1 }] ∧ s.running = [] ∧ ¬ s.Drained := by
  refine ⟨_, .cons rfl (.cons rfl (.cons rfl (.nil _))), rfl, rfl, rfl, ?_⟩
  rintro (h | h)
  · cases h
  · exact absurd h (by decide)

/-! ### Accounts -/

/-- The sum of a weight over the tasks of a list. -/
def total (weight : QueuedTask → Nat) (tasks : List QueuedTask) : Nat := (tasks.map weight).sum

@[simp] theorem total_nil (weight : QueuedTask → Nat) : total weight [] = 0 := rfl

@[simp] theorem total_append (weight : QueuedTask → Nat) (l l' : List QueuedTask) :
    total weight (l ++ l') = total weight l + total weight l' := by simp [total]

@[simp] theorem total_singleton (weight : QueuedTask → Nat) (t : QueuedTask) : total weight [t] = weight t := by
  simp [total]

theorem total_erase (weight : QueuedTask → Nat) {l : List QueuedTask} {t : QueuedTask} (h : t ∈ l) :
    total weight l = total weight (l.erase t) + weight t := by
  have := ((List.perm_cons_erase h).map weight).sum_eq
  rw [List.map_cons, List.sum_cons] at this
  rw [total, total, this, Nat.add_comm]

theorem le_total (weight : QueuedTask → Nat) {l : List QueuedTask} {t : QueuedTask} (h : t ∈ l) :
    weight t ≤ total weight l := by
  rw [total_erase weight h]; omega

theorem total_le {weight weight' : QueuedTask → Nat} {c : Nat} {l : List QueuedTask}
    (h : ∀ t ∈ l, weight t ≤ c * weight' t) : total weight l ≤ c * total weight' l := by
  induction l with
  | nil => simp
  | cons t l ih =>
    have ht := h t List.mem_cons_self
    have hl := ih fun t' ht' => h t' (List.mem_cons_of_mem _ ht')
    simp only [total, List.map_cons, List.sum_cons, Nat.mul_add] at ht hl ⊢
    omega

/-- A task counts once under its own id. -/
def one (x : Text) (t : QueuedTask) : Nat := if t.taskId = x then 1 else 0

/-- The runs of a task before the present one. -/
def tries (x : Text) (t : QueuedTask) : Nat := if t.taskId = x then t.retries else 0

/-- The runs of a task, the present one included. -/
def runs (x : Text) (t : QueuedTask) : Nat := if t.taskId = x then t.retries + 1 else 0

theorem runs_eq (x : Text) (t : QueuedTask) : runs x t = tries x t + one x t := by
  unfold runs tries one; split <;> rfl

theorem total_runs (x : Text) (l : List QueuedTask) : total (runs x) l = total (tries x) l + total (one x) l := by
  induction l with
  | nil => rfl
  | cons t l ih =>
    simp only [total, List.map_cons, List.sum_cons] at ih ⊢
    rw [ih, runs_eq]; omega

theorem total_one (x : Text) (l : List QueuedTask) : total (one x) l = (l.map (·.taskId)).count x := by
  induction l with
  | nil => rfl
  | cons t l ih =>
    simp only [total, List.map_cons, List.sum_cons, List.count_cons] at ih ⊢
    rw [ih, one, Nat.add_comm]
    simp only [beq_iff_eq]

/-- Every task the queue knows of. -/
def places (s : QueueState) : List QueuedTask := s.queue ++ s.running ++ s.rejected ++ s.finished ++ s.failed

/-- The books are straight: every enqueued id is in one place, the set holds the ids that
run, and the runs and failures of a task agree with its retries. -/
structure Accounted (ids : List Text) (s : QueueState) : Prop where
  ids : ∀ x, total (one x) s.places = ids.count x
  slots : s.processing = (s.running.map (·.taskId)).toFinset
  bound : s.processing.card ≤ maxConcurrent
  started : ∀ x, s.started.count x =
    total (tries x) s.queue + total (runs x) (s.running ++ s.rejected ++ s.finished ++ s.failed)
  failures : ∀ x, s.failures.count x =
    total (tries x) (s.queue ++ s.running ++ s.finished) + total (runs x) (s.rejected ++ s.failed)
  limit : ∀ t ∈ s.places, t.maxRetries = 3 ∧ t.retries ≤ 3
  spent : ∀ t ∈ s.failed, t.retries = 3

section Accounted
variable {ids : List Text} {s : QueueState}

theorem Accounted.once (h : Accounted ids s) (hids : ids.Nodup) (x : Text) : total (one x) s.places ≤ 1 := by
  rw [h.ids]; exact List.nodup_iff_count_le_one.mp hids x

theorem Accounted.running_nodup (h : Accounted ids s) (hids : ids.Nodup) : (s.running.map (·.taskId)).Nodup := by
  refine List.nodup_iff_count_le_one.mpr fun x => ?_
  have := h.once hids x
  rw [← total_one]
  simp only [places, total_append] at this
  omega

/-- A task of one list has no double in another, or elsewhere in its own. -/
theorem not_mem_of_total {l : List QueuedTask} {x : Text} (h : total (one x) l = 0) (t : QueuedTask) (ht : t ∈ l) :
    t.taskId ≠ x := by
  intro hx
  have := le_total (one x) ht
  rw [h, one, if_pos hx] at this
  omega

/-- Draining starts a part of the queue. -/
theorem Accounted.drain (h : Accounted ids s) (hids : ids.Nodup) : Accounted ids s.drain := by
  have hnodup : (s.queue.map (·.taskId)).Nodup := by
    refine List.nodup_iff_count_le_one.mpr fun x => ?_
    have := h.once hids x
    rw [← total_one]
    simp only [places, total_append] at this
    omega
  have hnew : ∀ t ∈ s.queue, t.taskId ∉ s.processing := by
    intro t ht hin
    rw [h.slots, List.mem_toFinset] at hin
    obtain ⟨t', ht', hid⟩ := List.mem_map.mp hin
    have hq := le_total (one t.taskId) ht
    have hr := le_total (one t.taskId) ht'
    have := h.once hids t.taskId
    simp only [one, if_pos hid, if_true] at hq hr
    simp only [places, total_append] at this
    omega
  have hsplit := processQueue_split hnodup hnew
  obtain ⟨-, hset, -, -, hcard⟩ := processQueue_spec s.queue s.processing
  have htotal (weight : QueuedTask → Nat) : total weight s.queue =
      total weight (processQueue s.queue s.processing).2.2 + total weight (processQueue s.queue s.processing).1 := by
    rw [← total_append, hsplit]
  have hmem {t : QueuedTask} (ht : t ∈ s.drain.places) : t ∈ s.places := by
    simp only [places, QueueState.drain, List.mem_append] at ht ⊢
    have hq : t ∈ (processQueue s.queue s.processing).1 ∨ t ∈ (processQueue s.queue s.processing).2.2 → t ∈ s.queue := by
      intro h
      rw [← hsplit, List.mem_append]
      exact h.symm
    tauto
  refine ⟨fun x => ?_, ?_, hcard h.bound, fun x => ?_, fun x => ?_, fun t ht => h.limit t (hmem ht), h.spent⟩
  · have := h.ids x
    simp only [places, QueueState.drain, total_append, htotal] at this ⊢
    omega
  · change (processQueue s.queue s.processing).2.1 = _
    rw [hset, QueueState.drain, List.map_append, List.toFinset_append]
    exact congrArg (· ∪ _) h.slots
  · have := h.started x
    have hruns := total_runs x (processQueue s.queue s.processing).2.2
    simp only [QueueState.drain, total_append, htotal, List.count_append, ← total_one] at this ⊢
    omega
  · have := h.failures x
    simp only [QueueState.drain, total_append, htotal] at this ⊢
    omega

/-- A new task, before the queue is drained. -/
theorem Accounted.enqueue (h : Accounted ids s) (task : QueuedTask) (hretries : task.retries = 0)
    (hmax : task.maxRetries = 3) : Accounted (ids ++ [task.taskId]) { s with queue := s.queue ++ [task] } := by
  refine ⟨fun x => ?_, h.slots, h.bound, fun x => ?_, fun x => ?_, fun t ht => ?_, h.spent⟩
  · have := h.ids x
    simp only [places, total_append, total_singleton, List.count_append, List.count_singleton, beq_iff_eq, one] at this ⊢
    omega
  · have := h.started x
    simp only [total_append, total_singleton, tries, hretries, ite_self] at this ⊢
    omega
  · have := h.failures x
    simp only [total_append, total_singleton, tries, hretries, ite_self] at this ⊢
    omega
  · by_cases ht' : t = task
    · rw [ht', hmax, hretries]; omega
    · refine h.limit t ?_
      simp only [places, List.mem_append, List.mem_singleton] at ht ⊢
      tauto

/-- A run that ends gives back the slot of its task, and no other. -/
theorem Accounted.release (h : Accounted ids s) (hids : ids.Nodup) {task : QueuedTask} (hmem : task ∈ s.running) :
    s.processing.erase task.taskId = ((s.running.erase task).map (·.taskId)).toFinset := by
  have hrest : total (one task.taskId) (s.running.erase task) = 0 := by
    have hone := h.once hids task.taskId
    have herase := total_erase (one task.taskId) hmem
    have : one task.taskId task = 1 := if_pos rfl
    simp only [places, total_append] at hone
    omega
  rw [h.slots]
  ext x
  simp only [Finset.mem_erase, List.mem_toFinset, List.mem_map]
  constructor
  · rintro ⟨hx, t, ht, hid⟩
    refine ⟨t, (List.mem_erase_of_ne fun he => hx ?_).mpr ht, hid⟩
    rw [← hid, he]
  · rintro ⟨t, ht, hid⟩
    exact ⟨hid ▸ not_mem_of_total hrest t ht, t, List.mem_of_mem_erase ht, hid⟩

theorem Accounted.success (h : Accounted ids s) (hids : ids.Nodup) {task : QueuedTask} (hmem : task ∈ s.running) :
    Accounted ids { s with
      running := s.running.erase task
      finished := s.finished ++ [task]
      processing := s.processing.erase task.taskId } := by
  have herase (weight : QueuedTask → Nat) := total_erase weight hmem
  refine ⟨fun x => ?_, h.release hids hmem, ?_, fun x => ?_, fun x => ?_, fun t ht => ?_, h.spent⟩
  · have := h.ids x
    simp only [places, total_append, total_singleton, herase] at this ⊢
    omega
  · exact Nat.le_trans (Finset.card_erase_le) h.bound
  · have := h.started x
    simp only [total_append, total_singleton, herase] at this ⊢
    omega
  · have := h.failures x
    simp only [total_append, total_singleton, herase] at this ⊢
    omega
  · refine h.limit t ?_
    simp only [places, List.mem_append, List.mem_singleton] at ht ⊢
    have := List.mem_of_mem_erase (a := t) (b := task) (l := s.running)
    rcases ht with (((hq | hr) | hj) | (hf | rfl)) | hx <;> tauto

theorem Accounted.failure (h : Accounted ids s) (hids : ids.Nodup) {task : QueuedTask} (hmem : task ∈ s.running) :
    Accounted ids { s with
      running := s.running.erase task
      rejected := s.rejected ++ [task]
      failures := s.failures ++ [task.taskId]
      processing := s.processing.erase task.taskId } := by
  have herase (weight : QueuedTask → Nat) := total_erase weight hmem
  refine ⟨fun x => ?_, h.release hids hmem, ?_, fun x => ?_, fun x => ?_, fun t ht => ?_, h.spent⟩
  · have := h.ids x
    simp only [places, total_append, total_singleton, herase] at this ⊢
    omega
  · exact Nat.le_trans (Finset.card_erase_le) h.bound
  · have := h.started x
    simp only [total_append, total_singleton, herase] at this ⊢
    omega
  · have := h.failures x
    have hone : [task.taskId].count x = one x task := by
      rw [List.count_singleton, one]
      simp only [beq_iff_eq]
    have hruns := runs_eq x task
    simp only [total_append, total_singleton, herase, List.count_append, hone] at this ⊢
    omega
  · refine h.limit t ?_
    simp only [places, List.mem_append, List.mem_singleton] at ht ⊢
    have := List.mem_of_mem_erase (a := t) (b := task) (l := s.running)
    rcases ht with (((hq | hr) | (hj | rfl)) | hf) | hx <;> tauto

/-- The catch handler frees nothing: the slot of its task is free already. -/
theorem Accounted.free (h : Accounted ids s) (hids : ids.Nodup) {task : QueuedTask} (hmem : task ∈ s.rejected) :
    s.processing.erase task.taskId = s.processing := by
  have hrun : total (one task.taskId) s.running = 0 := by
    have hone := h.once hids task.taskId
    have := le_total (one task.taskId) hmem
    simp only [one, if_true] at this
    simp only [places, total_append] at hone
    omega
  refine Finset.erase_eq_of_notMem fun hin => ?_
  rw [h.slots, List.mem_toFinset] at hin
  obtain ⟨t, ht, hid⟩ := List.mem_map.mp hin
  exact not_mem_of_total hrun t ht hid

theorem Accounted.retry (h : Accounted ids s) (hids : ids.Nodup) {task : QueuedTask} (hmem : task ∈ s.rejected)
    (hretry : task.retries < task.maxRetries) : Accounted ids { s with
      rejected := s.rejected.erase task
      processing := s.processing.erase task.taskId
      queue := s.queue ++ [{ task with retries := task.retries + 1 }] } := by
  have herase (weight : QueuedTask → Nat) := total_erase weight hmem
  have hone (x : Text) : one x { task with retries := task.retries + 1 } = one x task := rfl
  have htries (x : Text) : tries x { task with retries := task.retries + 1 } = runs x task := rfl
  have hlimit := h.limit task (by simp [places, hmem])
  rw [h.free hids hmem]
  refine ⟨fun x => ?_, h.slots, h.bound, fun x => ?_, fun x => ?_, fun t ht => ?_, h.spent⟩
  · have := h.ids x
    simp only [places, total_append, total_singleton, herase, hone] at this ⊢
    omega
  · have := h.started x
    simp only [total_append, total_singleton, herase, htries] at this ⊢
    omega
  · have := h.failures x
    simp only [total_append, total_singleton, herase, htries] at this ⊢
    omega
  · have := List.mem_of_mem_erase (a := t) (b := task) (l := s.rejected)
    simp only [places, List.mem_append, List.mem_singleton] at ht
    rcases ht with ((((hq | rfl) | hr) | hj) | hf) | hx
    · exact h.limit t (by simp [places, hq])
    · exact ⟨hlimit.1, by simp only; omega⟩
    · exact h.limit t (by simp [places, hr])
    · exact h.limit t (by simp [places, this hj])
    · exact h.limit t (by simp [places, hf])
    · exact h.limit t (by simp [places, hx])

theorem Accounted.giveUp (h : Accounted ids s) (hids : ids.Nodup) {task : QueuedTask} (hmem : task ∈ s.rejected)
    (hretry : ¬ task.retries < task.maxRetries) : Accounted ids { s with
      rejected := s.rejected.erase task
      processing := s.processing.erase task.taskId
      failed := s.failed ++ [task] } := by
  have herase (weight : QueuedTask → Nat) := total_erase weight hmem
  have hlimit := h.limit task (by simp [places, hmem])
  rw [h.free hids hmem]
  refine ⟨fun x => ?_, h.slots, h.bound, fun x => ?_, fun x => ?_, fun t ht => ?_, fun t ht => ?_⟩
  · have := h.ids x
    simp only [places, total_append, total_singleton, herase] at this ⊢
    omega
  · have := h.started x
    simp only [total_append, total_singleton, herase] at this ⊢
    omega
  · have := h.failures x
    simp only [total_append, total_singleton, herase] at this ⊢
    omega
  · refine h.limit t ?_
    simp only [places, List.mem_append, List.mem_singleton] at ht ⊢
    have := List.mem_of_mem_erase (a := t) (b := task) (l := s.rejected)
    rcases ht with (((hq | hr) | hj) | hf) | (hx | rfl) <;> tauto
  · rcases List.mem_append.mp ht with ht | ht
    · exact h.spent t ht
    · rw [List.mem_singleton.mp ht]; omega

end Accounted

/-- The id an event enqueues. -/
def enqueuedId : QueueEvent → List Text
  | .enqueue taskId _ _ _ _ _ => [taskId]
  | _ => []

/-- One event keeps the books straight. -/
theorem step_accounted {ids : List Text} {s t : QueueState} {e : QueueEvent} (h : Accounted ids s)
    (hids : (ids ++ enqueuedId e).Nodup) (hs : s.step e = some t) : Accounted (ids ++ enqueuedId e) t := by
  cases e with
  | enqueue taskId model input inputType nodeIds privacyLevel =>
    cases hs
    exact (h.enqueue (queuedTask taskId model input inputType nodeIds privacyLevel) rfl rfl).drain hids
  | success task =>
    simp only [enqueuedId, List.append_nil] at hids ⊢
    simp only [step] at hs
    split at hs <;> cases hs
    exact (h.success hids ‹_›).drain hids
  | failure task =>
    simp only [enqueuedId, List.append_nil] at hids ⊢
    simp only [step] at hs
    split at hs <;> cases hs
    exact h.failure hids ‹_›
  | caught task =>
    simp only [enqueuedId, List.append_nil] at hids ⊢
    simp only [step] at hs
    split at hs
    · split at hs <;> cases hs
      · exact h.retry hids ‹_› ‹_›
      · exact h.giveUp hids ‹_› ‹_›
    · cases hs

/-- The ids enqueued in a run. -/
def enqueuedIds (events : List QueueEvent) : List Text := events.flatMap enqueuedId

theorem run_accounted {events : List QueueEvent} {ids : List Text} {s t : QueueState} (h : Accounted ids s)
    (hids : (ids ++ enqueuedIds events).Nodup) (hrun : Machine.Run machine s events t) :
    Accounted (ids ++ enqueuedIds events) t := by
  induction hrun generalizing ids with
  | nil s => simpa [enqueuedIds] using h
  | cons hs _ ih =>
    rw [enqueuedIds, List.flatMap_cons, ← List.append_assoc] at hids ⊢
    exact ih (step_accounted h (List.nodup_append.mp hids).1 hs) hids

theorem accounted_empty : Accounted [] empty := by
  refine ⟨fun x => ?_, rfl, Nat.zero_le _, fun x => ?_, fun x => ?_, fun t ht => ?_, fun t ht => ?_⟩
  · simp [places, empty]
  · simp [empty]
  · simp [empty]
  · simp [places, empty] at ht
  · cases ht

/-- The runs of a task are its retries and one more. -/
theorem Accounted.started_le {ids : List Text} {s : QueueState} (h : Accounted ids s) (hids : ids.Nodup) (x : Text) :
    s.started.count x ≤ 4 := by
  have hle : total (runs x) s.places ≤ 4 * total (one x) s.places := by
    refine total_le fun t ht => ?_
    have := (h.limit t ht).2
    unfold runs one
    split <;> omega
  have hone := h.once hids x
  have hcount := h.started x
  have hqueue := total_runs x s.queue
  simp only [places, total_append] at hle hone hcount
  omega

/-- A task marked failed has failed four times. -/
theorem Accounted.failed_count {ids : List Text} {s : QueueState} (h : Accounted ids s) (hids : ids.Nodup)
    {t : QueuedTask} (ht : t ∈ s.failed) :
    s.started.count t.taskId = 4 ∧ s.failures.count t.taskId = 4 := by
  have hfour : runs t.taskId t = 4 := by
    rw [runs, if_pos rfl, h.spent t ht]
  have hle := le_total (runs t.taskId) ht
  have hstarted := h.started t.taskId
  have hfailures := h.failures t.taskId
  have hrunning := total_runs t.taskId s.running
  have hfinished := total_runs t.taskId s.finished
  have := h.started_le hids t.taskId
  simp only [total_append] at hstarted hfailures
  omega

/-- Where each task is once enqueued with an id of its own: the set holds what runs, ten at
most and no id twice; four runs at most, and failed only after four that failed; in one
place at any time. -/
theorem queue_safety {events : List QueueEvent} (hids : (enqueuedIds events).Nodup) {s : QueueState}
    (hrun : Machine.Run machine .empty events s) :
    s.processing = (s.running.map (·.taskId)).toFinset ∧ s.running.length ≤ maxConcurrent ∧
      (s.running.map (·.taskId)).Nodup ∧ (∀ taskId, s.started.count taskId ≤ 4) ∧
      (∀ t ∈ s.failed, s.started.count t.taskId = 4 ∧ s.failures.count t.taskId = 4) ∧
      ∀ taskId, ((s.queue ++ s.running ++ s.rejected ++ s.finished ++ s.failed).map (·.taskId)).count taskId =
        (enqueuedIds events).count taskId := by
  have h : Accounted (enqueuedIds events) s := by
    simpa using run_accounted accounted_empty (by simpa using hids) hrun
  have hnodup := h.running_nodup hids
  refine ⟨h.slots, ?_, hnodup, h.started_le hids, fun t => h.failed_count hids, fun x => ?_⟩
  · calc s.running.length = (s.running.map (·.taskId)).toFinset.card := by
          rw [List.toFinset_card_of_nodup hnodup, List.length_map]
      _ ≤ maxConcurrent := h.slots ▸ h.bound
  · rw [← h.ids x, total_one]; rfl

/-- A task whose first run fails is between its failure and its second run. -/
theorem queue_safety_retry :
    let task := queuedTask (units "t1") (units "whisper") (units "in") .audio [units "n1"] none
    ∃ s, Machine.Run machine .empty [.enqueue (units "t1") (units "whisper") (units "in") .audio [units "n1"] none,
        .failure task] s ∧ s.rejected = [task] ∧ s.processing = (s.running.map (·.taskId)).toFinset ∧
      s.started.count (units "t1") ≤ 4 := by
  have hrun : ∃ s, Machine.Run machine .empty [.enqueue (units "t1") (units "whisper") (units "in") .audio
      [units "n1"] none, .failure (queuedTask (units "t1") (units "whisper") (units "in") .audio [units "n1"] none)] s ∧
      s.rejected = [queuedTask (units "t1") (units "whisper") (units "in") .audio [units "n1"] none] :=
    ⟨_, .cons rfl (.cons rfl (.nil _)), rfl⟩
  obtain ⟨s, hs, hrej⟩ := hrun
  obtain ⟨hslots, -, -, hfour, -⟩ := queue_safety (by decide) hs
  exact ⟨s, hs, hrej, hslots, hfour _⟩

end QueueState
end GalaxiaAin.Network
