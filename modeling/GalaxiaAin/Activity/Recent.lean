import GalaxiaAin.Activity.Records

/-! The store over calls and crashes. It has the records that were written last, whatever was
stopped in between. -/
namespace GalaxiaAin.Activity
open GalaxiaAin.Library

/-! ### Runs -/

/-- A record that a call has written. -/
inductive Entry where
  | event (e : Event)
  | job (j : Job)

/-- The events and the jobs of a log, the last one first. -/
def events (log : List Entry) : List Event :=
  log.filterMap fun
    | .event e => some e
    | .job _ => none

def jobs (log : List Entry) : List Job :=
  log.filterMap fun
    | .event _ => none
    | .job j => some j

inductive Call where
  | append (input : EventInput)
  | upsert (input : JobInput)

namespace Call

/-- The record and the store that is written. -/
def run (env : Env) (store : Store) : Call → Option (Entry × Store)
  | .append input => (appendActivity env input store).map fun r => (.event r.1, r.2)
  | .upsert input => (upsertJob env input store).map fun r => (.job r.1, r.2)

def values : Call → List (Option Value)
  | .append i => [i.kind, i.title, i.detail, i.source, i.time, i.refs, i.clientId]
  | .upsert i => [some i.name, i.status, i.description, i.industryId, i.templateId, i.estimatedGpuHours, i.costLabel, i.progressPct,
      i.createdAt, i.matchedNodes]

/-- The input is made of values of the language. -/
def Held (readNumber : Text → Numeral) (call : Call) : Prop := ∀ o ∈ call.values, ∀ v ∈ o, v.Held readNumber

end Call

/-- The disks of runs, with the records that were written, the last one first. A call returns,
or the process stops at some point of its write; an exception before it leaves the disk. -/
inductive Reached (readNumber : Text → Numeral) : Disk UInt8 → List Entry → Prop
  | start : Reached readNumber ⟨none, none⟩ []
  | returned {d : Disk UInt8} {log : List Entry} (h : Reached readNumber d log) (env : Env) (call : Call) (hcall : call.Held readNumber)
      {entry : Entry} {store : Store} (hrun : call.run env (readStore readNumber d.file) = some (entry, store)) :
      Reached readNumber ((writeStore store).foldl Disk.run d) (entry :: log)
  | stopped {d d' : Disk UInt8} {log log' : List Entry} (h : Reached readNumber d log) (env : Env) (call : Call)
      (hcall : call.Held readNumber) {entry : Entry} {store : Store}
      (hrun : call.run env (readStore readNumber d.file) = some (entry, store)) (hstop : Disk.Stopped (writeStore store) d d')
      (hlog : d'.file = d.file ∧ log' = log ∨ d'.file = some store.bytes ∧ log' = entry :: log) : Reached readNumber d' log'

/-- The store has the last writes of a log. -/
structure Holds (readNumber : Text → Numeral) (store : Store) (log : List Entry) : Prop where
  activity : store.activity = ((latest Event.id (events log)).take MAX_ACTIVITY).map fun e => e.record.written
  jobs : store.jobs = ((latest Job.id (jobs log)).take MAX_JOBS).map fun j => j.record.written
  events_held : ∀ e ∈ events log, e.record.Held readNumber
  jobs_held : ∀ j ∈ Activity.jobs log, j.record.Held readNumber
  created : ∀ j ∈ Activity.jobs log, j.createdAt.truthy = true

/-! ### The records of a call -/

section
variable {readNumber : Text → Numeral} {env : Env}

theorem truthy_orElse {v : Option Value} {w : Value} (h : w.truthy = true) : (orElse v w).truthy = true := by
  cases v with
  | none => exact h
  | some v =>
    rw [orElse]
    split
    case isTrue hv => exact hv
    case isFalse => exact h

/-- A value that is not falsy is read back as one, or as null. -/
theorem truthy_written {v : Value} (h : v.truthy = true) : v.written = .null ∨ (Value.ofJson v.written).truthy = true := by
  cases v with
  | null => cases h
  | special x => exact .inl rfl
  | bool b => exact .inr h
  | num n => exact .inr h
  | str s => exact .inr h
  | arr items => exact .inr rfl
  | obj fields => exact .inr rfl

theorem event_held {input : EventInput} {e : Event} (h : event env input = some e) (hcall : (Call.append input).Held readNumber) :
    e.record.Held readNumber := by
  have hinput : ∀ o ∈ (Call.append input).values, ∀ v ∈ o, v.Held readNumber := hcall
  simp only [Call.values, List.forall_mem_cons] at hinput
  obtain ⟨hkind, -, -, hsource, htime, hrefs, hclient, -⟩ := hinput
  unfold event at h
  split at h
  case h_2 => cases h
  case h_1 =>
    obtain rfl := Option.some.inj h
    apply held_record (event_keys _)
    simp only [Event.fields, List.forall_mem_cons, Option.mem_some_iff, forall_eq']
    exact ⟨Value.held_str _, hkind, Value.held_str _, Value.held_str _, held_orElse hsource (Value.held_str _), trivial,
      Value.held_str _, held_orElse htime (Value.held_str _), hrefs, hclient, List.forall_mem_nil _⟩

theorem held_progressOf (hread : ReadsDigits readNumber) {progress old : Option Value} (hprogress : ∀ v ∈ progress, v.Held readNumber)
    (hold : ∀ v ∈ old, v.Held readNumber) : (progressOf progress old).Held readNumber := by
  rw [progressOf]
  cases hp : progress.filter Value.isNumber with
  | some v => exact hprogress v (Option.filter_eq_some_iff.mp hp).1
  | none =>
    rw [Option.getD_none]
    cases hc : coalesce old none with
    | some v => exact held_coalesce hold Value.held_none v hc
    | none => exact held_digit hread (Nat.zero_le 1)

theorem job_held (hread : ReadsDigits readNumber) {input : JobInput} {id : Text} {existing : Option Json} {j : Job}
    (h : job env input id existing = some j) (hcall : (Call.upsert input).Held readNumber)
    (hexisting : ∀ e ∈ existing, e.Held readNumber) : j.record.Held readNumber := by
  have hinput : ∀ o ∈ (Call.upsert input).values, ∀ v ∈ o, v.Held readNumber := hcall
  simp only [Call.values, List.forall_mem_cons] at hinput
  obtain ⟨-, hstatus, hdescription, hindustry, htemplate, hhours, hcost, hprogress, hcreated, hnodes, -⟩ := hinput
  have hold (key : Text) : ∀ v ∈ (existing.bind fun e => e.get key).map Value.ofJson, v.Held readNumber := by
    intro v hv
    obtain ⟨w, hw, rfl⟩ := Option.map_eq_some_iff.mp hv
    obtain ⟨e, he, hget⟩ := Option.bind_eq_some_iff.mp hw
    exact Value.held_ofJson (held_get (hexisting e he) hget)
  unfold job at h
  simp only at h
  split at h
  case h_1 => cases h
  case h_2 =>
    obtain rfl := Option.some.inj h
    apply held_record (job_keys _)
    simp only [Job.fields, List.forall_mem_cons, Option.mem_some_iff, forall_eq']
    exact ⟨Value.held_str _, Value.held_str _, held_orElse hstatus (held_orElse (hold _) (Value.held_str _)), Value.held_str _, trivial,
      Value.held_str _, held_coalesce hdescription (hold _), held_coalesce hindustry (hold _), held_coalesce htemplate (hold _),
      held_coalesce hhours (hold _), held_orElse hcost (held_orElse (hold _) (Value.held_str _)), held_progressOf hread hprogress (hold _),
      held_orElse (hold _) (held_orElse hcreated (Value.held_str _)), Value.held_str _, held_coalesce hnodes (hold _),
      List.forall_mem_nil _⟩

/-! ### The lists -/

theorem isNull_of_idOf {entry : Json} {id : Text} (h : idOf entry = some id) : isNull entry = false := by
  cases entry with
  | null => cases h
  | bool b => rfl
  | num n => rfl
  | str s => rfl
  | arr items => rfl
  | obj fields => rfl

/-- Entries that are records are put in front as records. -/
theorem putFront_map {α : Type} {id : α → Text} {record : α → Json} (hid : ∀ a, idOf (record a) = some (id a)) (bound : Nat)
    (a : α) (entries : List α) :
    putFront bound (id a) (record a) (entries.map record) = some ((writeFront id bound a entries).map record) := by
  have hnull : (entries.map record).any isNull = false := by
    rw [List.any_eq_false]
    intro e he
    obtain ⟨b, -, rfl⟩ := List.mem_map.mp he
    rw [isNull_of_idOf (hid b)]
    exact Bool.false_ne_true
  have hfilter : (entries.map record).filter (fun e => idOf e ≠ some (id a)) = (entries.filter fun b => id b ≠ id a).map record := by
    rw [List.filter_map]
    congr 1
    apply List.filter_congr
    intro b _
    simp [hid b]
  rw [putFront, hnull, if_neg Bool.false_ne_true, hfilter, ← List.map_cons, ← List.map_take]
  rfl

/-! ### Calls -/

/-- A job has the id it was made for, and the date of the existing one before its own. -/
theorem job_kept {input : JobInput} {id : Text} {existing : Option Json} {j : Job} (h : job env input id existing = some j) :
    j.id = id ∧ j.createdAt = orElse ((existing.bind fun e => e.get (units "createdAt")).map Value.ofJson)
      (orElse input.createdAt (.str env.now)) := by
  unfold job at h
  simp only at h
  split at h
  case h_1 => cases h
  case h_2 =>
    obtain rfl := Option.some.inj h
    exact ⟨rfl, rfl⟩

theorem appendActivity_eq {input : EventInput} {store store' : Store} {e : Event} (h : appendActivity env input store = some (e, store')) :
    event env input = some e ∧ putFront MAX_ACTIVITY e.id e.record.written store.activity = some store'.activity ∧
      store'.jobs = store.jobs := by
  unfold appendActivity at h
  split at h
  case h_1 => cases h
  case h_2 made hevent =>
    split at h
    case h_1 => cases h
    case h_2 activity hput =>
      cases h
      exact ⟨hevent, hput, rfl⟩

theorem upsertJob_eq {input : JobInput} {store store' : Store} {j : Job} (h : upsertJob env input store = some (j, store')) :
    job env input j.id (store.jobs.find? fun e => idOf e = some j.id) = some j ∧ j.id = idOr input.id (units "job") env ∧
      putFront MAX_JOBS j.id j.record.written store.jobs = some store'.jobs ∧ store'.activity = store.activity := by
  unfold upsertJob at h
  simp only at h
  split at h
  case h_1 => cases h
  case h_2 made hjob =>
    split at h
    case h_1 => cases h
    case h_2 jobs hput =>
      cases h
      have hid := (job_kept hjob).1
      rw [← hid] at hjob hput
      exact ⟨hjob, hid, hput, rfl⟩

namespace Holds

variable {store : Store} {log : List Entry}

theorem store_held (h : Holds readNumber store log) : store.Held readNumber := by
  constructor
  · intro e he
    rw [h.activity] at he
    obtain ⟨event, hevent, rfl⟩ := List.mem_map.mp he
    exact h.events_held event ((latest_sublist _).subset ((List.take_sublist _ _).subset hevent))
  · intro j hj
    rw [h.jobs] at hj
    obtain ⟨job, hjob, rfl⟩ := List.mem_map.mp hj
    exact h.jobs_held job ((latest_sublist _).subset ((List.take_sublist _ _).subset hjob))

/-- A call writes its record in front. -/
theorem run (h : Holds readNumber store log) (hread : ReadsDigits readNumber) {call : Call} (hcall : call.Held readNumber)
    {entry : Entry} {store' : Store} (hrun : call.run env store = some (entry, store')) : Holds readNumber store' (entry :: log) := by
  cases call with
  | append input =>
    obtain ⟨⟨e, made⟩, happend, heq⟩ := Option.map_eq_some_iff.mp hrun
    cases heq
    obtain ⟨hevent, hput, hjobs⟩ := appendActivity_eq happend
    rw [h.activity, putFront_map idOf_event, writeFront_latest] at hput
    exact {
      activity := (Option.some.inj hput).symm
      jobs := hjobs.trans h.jobs
      events_held := List.forall_mem_cons.mpr ⟨event_held hevent hcall, h.events_held⟩
      jobs_held := h.jobs_held
      created := h.created }
  | upsert input =>
    obtain ⟨⟨j, made⟩, hupsert, heq⟩ := Option.map_eq_some_iff.mp hrun
    cases heq
    obtain ⟨hjob, -, hput, hactivity⟩ := upsertJob_eq hupsert
    rw [h.jobs, putFront_map idOf_job, writeFront_latest] at hput
    have hexisting : ∀ e ∈ store.jobs.find? (fun e => idOf e = some j.id), e.Held readNumber :=
      fun e he => h.store_held.jobs e (List.mem_of_find?_eq_some he)
    have hcreated : j.createdAt.truthy = true := by
      rw [(job_kept hjob).2]
      apply truthy_orElse
      apply truthy_orElse
      simpa [Value.truthy] using env.now_ne
    exact {
      activity := hactivity.trans h.activity
      jobs := (Option.some.inj hput).symm
      events_held := h.events_held
      jobs_held := List.forall_mem_cons.mpr ⟨job_held hread hjob hcall hexisting, h.jobs_held⟩
      created := List.forall_mem_cons.mpr ⟨hcreated, h.created⟩ }

end Holds

/-- Every file of a run has the last writes. -/
theorem reached_holds (hread : ReadsDigits readNumber) {d : Disk UInt8} {log : List Entry} (h : Reached readNumber d log) :
    Holds readNumber (readStore readNumber d.file) log := by
  induction h with
  | start =>
    exact ⟨rfl, rfl, List.forall_mem_nil _, List.forall_mem_nil _, List.forall_mem_nil _⟩
  | returned _ env call hcall hrun ih =>
    have hnext := ih.run hread hcall hrun
    rw [readStore_writeStore hread hnext.store_held]
    exact hnext
  | stopped _ env call hcall hrun hstop hlog ih =>
    rcases hlog with ⟨hfile, rfl⟩ | ⟨hfile, rfl⟩
    · rw [hfile]
      exact ih
    · have hnext := ih.run hread hcall hrun
      rw [hfile, readStore_bytes hread hnext.store_held]
      exact hnext

/-! ### The store -/

/-- A bounded list of records: its ids are different, and each record is the last of its id. -/
theorem latest_records {α : Type} {id : α → Text} {record : α → Json} (hid : ∀ a, idOf (record a) = some (id a)) (bound : Nat)
    (log : List α) :
    ((((latest id log).take bound).map record).map idOf).Nodup ∧ (((latest id log).take bound).map record).length ≤ bound ∧
      ∀ entry ∈ ((latest id log).take bound).map record, ∃ a, log.find? (fun b => id b = id a) = some a ∧ record a = entry := by
  refine ⟨?_, ?_, fun entry hentry => ?_⟩
  · have hsome : idOf ∘ record = some ∘ id := funext hid
    rw [List.map_map, hsome, ← List.map_map]
    have hnodup : (((latest id log).take bound).map id).Nodup :=
      (latest_nodup log).sublist ((List.take_sublist _ _).map id)
    exact hnodup.map (Option.some_injective _)
  · rw [List.length_map, List.length_take]
    exact min_le_left _ _
  · obtain ⟨a, ha, rfl⟩ := List.mem_map.mp hentry
    exact ⟨a, mem_latest.mp ((List.take_sublist _ _).subset ha), rfl⟩

/-- An upsert of a job that is there keeps its createdAt, unless that is null. -/
theorem upsertJob_createdAt {store store' : Store} {log : List Entry} (h : Holds readNumber store log) {input : JobInput} {j : Job}
    (hupsert : upsertJob env input store = some (j, store')) {existing : Json} (hmem : existing ∈ store.jobs)
    (hid : idOf existing = some j.id) :
    existing.get (units "createdAt") = some .null ∨ existing.get (units "createdAt") = some j.createdAt.written := by
  obtain ⟨hnodup, -⟩ := latest_records idOf_job MAX_JOBS (jobs log)
  rw [← h.jobs] at hnodup
  have hfind : store.jobs.find? (fun e => idOf e = some j.id) = some existing := by
    cases hfound : store.jobs.find? fun e => idOf e = some j.id with
    | none => exact absurd (decide_eq_true hid) (List.find?_eq_none.mp hfound existing hmem)
    | some found =>
      have hfoundId : idOf found = some j.id := by simpa using List.find?_some hfound
      rw [List.inj_on_of_nodup_map hnodup (List.mem_of_find?_eq_some hfound) hmem (hfoundId.trans hid.symm)]
  obtain ⟨hjob, -⟩ := upsertJob_eq hupsert
  rw [h.jobs] at hmem
  obtain ⟨old, hold, rfl⟩ := List.mem_map.mp hmem
  have hfield : (units "createdAt", some old.createdAt) ∈ old.fields := by simp [Job.fields]
  have hget : old.record.written.get (units "createdAt") = some old.createdAt.written := get_record (job_keys old) hfield
  have htruthy := h.created old ((latest_sublist _).subset ((List.take_sublist _ _).subset hold))
  rw [hget]
  rcases truthy_written htruthy with hnull | htrue
  · exact .inl (by rw [hnull])
  · have hkept : j.createdAt = Value.ofJson old.createdAt.written := by
      rw [(job_kept hjob).2, hfind, Option.bind_some, hget, Option.map_some, orElse, if_pos htrue]
    exact .inr (by rw [hkept, Value.written_ofJson])

end

/-- Over calls that return and calls that are stopped anywhere, the store has the records that
were written last, each as JSON writes it, up to the bounds; a stopped call leaves the store
before or after it, and an upsert keeps a createdAt that is not null. -/
theorem activity_recent (readNumber : Text → Numeral) (hread : ReadsDigits readNumber) (d : Disk UInt8) (log : List Entry)
    (h : Reached readNumber d log) (store : Store) (hstore : readStore readNumber d.file = store) :
    (∀ env (call : Call) entry store', call.Held readNumber → call.run env store = some (entry, store') →
      ∀ d', Disk.Stopped (writeStore store') d d' → readStore readNumber d'.file = store ∨ readStore readNumber d'.file = store') ∧
    ((store.activity.map idOf).Nodup ∧ (store.jobs.map idOf).Nodup) ∧
    (store.activity.length ≤ 500 ∧ store.jobs.length ≤ 200) ∧
    (store.activity = ((latest Event.id (events log)).take 500).map (fun e => e.record.written) ∧
      store.jobs = ((latest Job.id (jobs log)).take 200).map fun j => j.record.written) ∧
    ((∀ entry ∈ store.activity, ∃ e, (events log).find? (fun f => f.id = e.id) = some e ∧ e.record.written = entry) ∧
      ∀ entry ∈ store.jobs, ∃ j, (jobs log).find? (fun k => k.id = j.id) = some j ∧ j.record.written = entry) ∧
    ∀ env input j store' existing, upsertJob env input store = some (j, store') → existing ∈ store.jobs →
      idOf existing = some j.id →
      existing.get (units "createdAt") = some .null ∨ existing.get (units "createdAt") = some j.createdAt.written := by
  subst hstore
  have hholds := reached_holds hread h
  obtain ⟨hevents, hlength, hlast⟩ := latest_records idOf_event MAX_ACTIVITY (events log)
  obtain ⟨hjobs, hlength', hlast'⟩ := latest_records idOf_job MAX_JOBS (jobs log)
  rw [← hholds.activity] at hevents hlength hlast
  rw [← hholds.jobs] at hjobs hlength' hlast'
  refine ⟨fun env call entry store' hcall hrun d' hstop => ?_, ⟨hevents, hjobs⟩, ⟨hlength, hlength'⟩,
    ⟨hholds.activity, hholds.jobs⟩, ⟨hlast, hlast'⟩, fun env input j store' existing hupsert hmem hid => upsertJob_createdAt hholds hupsert hmem hid⟩
  have hnext := hholds.run hread hcall hrun
  rcases replaceFile_stopped hstop with hfile | hfile
  · exact .inl (by rw [hfile])
  · exact .inr (by rw [hfile, readStore_bytes hread hnext.store_held])

/-- A reader of the numbers 0 and 1. -/
def readDigit (t : Text) : Numeral := if t = decimal 0 then .ofNat 0 else .ofNat 1

theorem readsDigits_readDigit : ReadsDigits readDigit := by
  intro n hn
  interval_cases n <;> rfl

def noon : Env := { now := units "2026-01-01T12:00:00.000Z", now_ne := by decide, stamp := units "mjv0q0w0", random := units "k3x9af" }

/-- A job with an infinite estimate. -/
def endless : JobInput :=
  { id := some (units "a"), name := .str (units "Training"), status := none, description := none, industryId := none, templateId := none,
    estimatedGpuHours := some (.special .infinity), costLabel := none, progressPct := none, createdAt := none, matchedNodes := none }

/-- The job that is made. -/
def endlessJob : Job :=
  { id := units "a", name := units "Training", status := .str (units "simulated"), description := none, industryId := none,
    templateId := none, estimatedGpuHours := some (.special .infinity), costLabel := .str COST_LABEL, progressPct := .num (.ofNat 0),
    createdAt := .str noon.now, updatedAt := noon.now, matchedNodes := none }

def endlessDisk : Disk UInt8 := (writeStore ⟨[], [endlessJob.record.written]⟩).foldl Disk.run ⟨none, none⟩

theorem endless_reached : Reached readDigit endlessDisk [.job endlessJob] := by
  have hcall : (Call.upsert endless).Held readDigit := by
    simp only [Call.Held, Call.values, endless, List.forall_mem_cons, Option.mem_some_iff, forall_eq']
    exact ⟨Value.held_str _, Value.held_none, Value.held_none, Value.held_none, Value.held_none, trivial, Value.held_none,
      Value.held_none, Value.held_none, Value.held_none, List.forall_mem_nil _⟩
  exact Reached.start.returned noon (.upsert endless) hcall rfl

theorem activity_recent_endless : ReadsDigits readDigit ∧ Reached readDigit endlessDisk [.job endlessJob] ∧
    (readStore readDigit endlessDisk.file).jobs = ((latest Job.id (jobs [.job endlessJob])).take 200).map fun j => j.record.written :=
  ⟨readsDigits_readDigit, endless_reached,
    (activity_recent readDigit readsDigits_readDigit _ _ endless_reached _ rfl).2.2.2.1.2⟩

/-- A property of an object is a number that JSON has no text for. -/
def Value.hasSpecial : Value → Bool
  | .obj fields =>
    fields.any fun f =>
      match f.2 with
      | .special _ => true
      | _ => false
  | _ => false

/-- The infinite estimate that the call returned is read back as null. -/
theorem activity_recent_infinity : ¬ ∀ (readNumber : Text → Numeral), ReadsDigits readNumber →
    ∀ (d : Disk UInt8) (log : List Entry), Reached readNumber d log →
      (readStore readNumber d.file).jobs.map Value.ofJson = ((latest Job.id (jobs log)).take 200).map Job.record := by
  intro h
  have hjobs := h readDigit readsDigits_readDigit endlessDisk _ endless_reached
  rw [(reached_holds readsDigits_readDigit endless_reached).jobs] at hjobs
  have hrecord : Value.ofJson endlessJob.record.written = endlessJob.record := List.cons.inj hjobs |>.1
  have hspecial := congrArg Value.hasSpecial hrecord
  exact absurd hspecial (by decide)

end GalaxiaAin.Activity
