import GalaxiaAin.Activity.Recent

/-! The route that records jobs. A request updates the job with its id; what it does not
mention is to stay. -/
namespace GalaxiaAin.Activity
open GalaxiaAin.Library

/-! ### The route -/

/-- What the route reads of a body whose id is a string or missing. -/
structure JobBody where
  id : Option Text
  name : Option Value
  status : Option Value
  description : Option Value
  industryId : Option Value
  templateId : Option Value
  estimatedGpuHours : Option Value
  costLabel : Option Value
  progressPct : Option Value
  createdAt : Option Value
  matchedNodes : Option Value
  clientId : Option Value

def JobBody.input (body : JobBody) (name : Value) : JobInput :=
  { id := body.id
    name := name
    status := some (orElse body.status (.str (units "simulated")))
    description := body.description
    industryId := body.industryId
    templateId := body.templateId
    estimatedGpuHours := body.estimatedGpuHours
    costLabel := some (orElse body.costLabel (.str COST_LABEL))
    progressPct := body.progressPct
    createdAt := body.createdAt
    matchedNodes := body.matchedNodes }

/-- The event that a job was recorded. -/
def recorded (j : Job) (status : Text) (clientId : Option Value) : EventInput :=
  { id := none
    kind := some (.str (units "job"))
    title := some (.str (units "Job recorded: " ++ j.name))
    detail := some (.str (units "Server-persisted simulated job (" ++ status ++ units "). Not live GPU execution."))
    source := none
    time := none
    refs := some (.obj [(units "jobId", .str j.id), (units "workloadId", .str j.id)])
    clientId := clientId }

inductive Answer where
  | rateLimited
  | nameRequired
  | created (j : Job)
  /-- An exception, which the server answers. -/
  | failed

/-- `POST /v1/activity/jobs`, with what the rate limiter says. -/
def postJobs (readNumber : Text → Numeral) (allowed : Bool) (env env' : Env) (body : JobBody) (d : Disk UInt8) : Answer × Disk UInt8 :=
  if !allowed then (.rateLimited, d)
  else
    match body.name.filter Value.truthy with
    | none => (.nameRequired, d)
    | some name =>
      match upsertJob env (body.input name) (readStore readNumber d.file) with
      | none => (.failed, d)
      | some (j, store) =>
        let d := (writeStore store).foldl Disk.run d
        match j.status.text with
        | none => (.failed, d)
        | some status =>
          match appendActivity env' (recorded j status body.clientId) (readStore readNumber d.file) with
          | none => (.failed, d)
          | some (_, store) => (.created j, (writeStore store).foldl Disk.run d)

/-! ### Keeping -/

/-- A field that the body has takes its value, and one that it has not stays. -/
def Follows (supplied : Option Value) (stored after : Option Json) : Prop :=
  match supplied with
  | none => after = stored
  | some v => after.map Value.ofJson = some v

/-- The update follows the body in every field, and createdAt stays. -/
structure Kept (body : JobBody) (stored after : Json) : Prop where
  name : Follows body.name (stored.get (units "name")) (after.get (units "name"))
  status : Follows body.status (stored.get (units "status")) (after.get (units "status"))
  costLabel : Follows body.costLabel (stored.get (units "costLabel")) (after.get (units "costLabel"))
  progressPct : Follows body.progressPct (stored.get (units "progressPct")) (after.get (units "progressPct"))
  description : Follows body.description (stored.get (units "description")) (after.get (units "description"))
  industryId : Follows body.industryId (stored.get (units "industryId")) (after.get (units "industryId"))
  templateId : Follows body.templateId (stored.get (units "templateId")) (after.get (units "templateId"))
  estimatedGpuHours : Follows body.estimatedGpuHours (stored.get (units "estimatedGpuHours")) (after.get (units "estimatedGpuHours"))
  matchedNodes : Follows body.matchedNodes (stored.get (units "matchedNodes")) (after.get (units "matchedNodes"))
  createdAt : after.get (units "createdAt") = stored.get (units "createdAt")

namespace Value

mutual
/-- No number in the value is one that JSON has no text for. -/
def plain : Value → Bool
  | .special _ => false
  | .arr items => plainItems items
  | .obj fields => plainFields fields
  | _ => true

def plainItems : List Value → Bool
  | [] => true
  | v :: rest => v.plain && plainItems rest

def plainFields : List (Text × Value) → Bool
  | [] => true
  | (_, v) :: rest => v.plain && plainFields rest
end

end Value

/-- A field with a default in the route: it is there and not falsy, or the stored one is the default. -/
def DefaultKept (d : Text) (supplied : Option Value) (stored : Option Json) : Prop :=
  match supplied with
  | none => stored = some (.str d)
  | some v => v.truthy = true ∧ v.plain = true

/-- A field that falls back on the stored one: null stands for the stored one. -/
def FallbackKept (supplied : Option Value) (stored : Option Json) : Prop :=
  match supplied with
  | none => True
  | some .null => stored = some .null
  | some v => v.plain = true

/-- The progress: a finite number, or anything else that is the stored one; the stored one is not null. -/
def ProgressKept (supplied : Option Value) (stored : Option Json) : Prop :=
  match supplied with
  | none => stored ≠ none ∧ stored ≠ some .null
  | some v => if v.isNumber then v.plain = true else v ≠ .null ∧ stored.map Value.ofJson = some v

/-- The date: it is not falsy, or it is null and the body has an infinity, which is written as null. -/
def CreatedKept (supplied : Option Value) (stored : Option Json) : Prop :=
  ∃ date, stored = some date ∧
    ((Value.ofJson date).truthy = true ∨
      date = .null ∧ (supplied = some (.special .infinity) ∨ supplied = some (.special .negInfinity)))

/-- When a body and a stored job go together. -/
structure Keeps (body : JobBody) (stored : Json) : Prop where
  name : ∃ s, body.name = some (.str s) ∧ s.length ≤ 200
  status : DefaultKept (units "simulated") body.status (stored.get (units "status"))
  costLabel : DefaultKept COST_LABEL body.costLabel (stored.get (units "costLabel"))
  progressPct : ProgressKept body.progressPct (stored.get (units "progressPct"))
  description : FallbackKept body.description (stored.get (units "description"))
  industryId : FallbackKept body.industryId (stored.get (units "industryId"))
  templateId : FallbackKept body.templateId (stored.get (units "templateId"))
  estimatedGpuHours : FallbackKept body.estimatedGpuHours (stored.get (units "estimatedGpuHours"))
  matchedNodes : FallbackKept body.matchedNodes (stored.get (units "matchedNodes"))
  createdAt : CreatedKept body.createdAt (stored.get (units "createdAt"))

/-! ### Fields -/

mutual
/-- Exactly the plain values are read back as they were written. -/
theorem ofJson_written (v : Value) : Value.ofJson v.written = v ↔ v.plain = true := by
  match v with
  | .null => exact iff_of_true rfl rfl
  | .bool b => exact iff_of_true rfl rfl
  | .num n => exact iff_of_true rfl rfl
  | .special x => exact iff_of_false Value.noConfusion Bool.false_ne_true
  | .str s => exact iff_of_true rfl rfl
  | .arr items =>
    rw [Value.written, Value.ofJson, Value.plain, ← ofItems_written items]
    exact Value.arr.injEq _ _ ▸ Iff.rfl
  | .obj fields =>
    rw [Value.written, Value.ofJson, Value.plain, ← ofFields_written fields]
    exact Value.obj.injEq _ _ ▸ Iff.rfl

theorem ofItems_written (items : List Value) : Value.ofItems (Value.writtenItems items) = items ↔ Value.plainItems items = true := by
  match items with
  | [] => exact iff_of_true rfl rfl
  | v :: rest =>
    rw [Value.writtenItems, Value.ofItems, Value.plainItems, Bool.and_eq_true, ← ofJson_written v, ← ofItems_written rest,
      List.cons.injEq]

theorem ofFields_written (fields : List (Text × Value)) :
    Value.ofFields (Value.writtenFields fields) = fields ↔ Value.plainFields fields = true := by
  match fields with
  | [] => exact iff_of_true rfl rfl
  | (key, v) :: rest =>
    rw [Value.writtenFields, Value.ofFields, Value.plainFields, Bool.and_eq_true, ← ofJson_written v, ← ofFields_written rest,
      List.cons.injEq, Prod.mk.injEq]
    simp only [true_and]
end

theorem map_ofJson_written (v : Value) : (some v.written).map Value.ofJson = some v ↔ v.plain = true := by
  rw [Option.map_some, Option.some.injEq]
  exact ofJson_written v

theorem follows_default {d : Text} (hd : d ≠ []) (supplied : Option Value) (stored : Option Json) (old : Value) :
    Follows supplied stored (some (orElse (some (orElse supplied (.str d))) old).written) ↔ DefaultKept d supplied stored := by
  have hdefault : (Value.str d).truthy = true := by simpa [Value.truthy] using hd
  have hroute : orElse (some (orElse supplied (.str d))) old = orElse supplied (.str d) := if_pos (truthy_orElse hdefault)
  rw [hroute]
  cases supplied with
  | none => exact eq_comm
  | some v =>
    rw [Follows, DefaultKept]
    cases hv : v.truthy with
    | true =>
      rw [orElse, hv, if_pos rfl, map_ofJson_written _]
      simp only [true_and]
    | false =>
      rw [orElse, hv, if_neg Bool.false_ne_true]
      refine iff_of_false (fun h => ?_) fun h => Bool.false_ne_true h.1
      have hstr : Value.str d = v := Option.some.inj h
      rw [← hstr, hdefault] at hv
      cases hv

theorem follows_fallback (supplied : Option Value) (stored : Option Json) :
    Follows supplied stored ((coalesce supplied (stored.map Value.ofJson)).map Value.written) ↔ FallbackKept supplied stored := by
  have hstored : (stored.map Value.ofJson).map Value.written = stored := by
    cases stored with
    | none => rfl
    | some w => rw [Option.map_some, Option.map_some, Value.written_ofJson]
  match supplied with
  | none => exact iff_of_true hstored trivial
  | some .null =>
    rw [coalesce, hstored]
    constructor
    · intro h
      obtain ⟨w, hw, hnull⟩ := Option.map_eq_some_iff.mp h
      rw [FallbackKept, hw, ← Value.written_ofJson w, hnull]
      rfl
    · intro h
      rw [Follows, h]
      rfl
  | some (.bool b) => exact map_ofJson_written _
  | some (.num n) => exact map_ofJson_written _
  | some (.special x) => exact map_ofJson_written _
  | some (.str s) => exact map_ofJson_written _
  | some (.arr items) => exact map_ofJson_written _
  | some (.obj fields) => exact map_ofJson_written _

/-- What is read back is null or kept. -/
theorem coalesce_ofJson {w : Json} (hw : w ≠ .null) : coalesce (some (Value.ofJson w)) none = some (Value.ofJson w) := by
  cases w with
  | null => exact absurd rfl hw
  | bool b => rfl
  | num n => rfl
  | str s => rfl
  | arr items => rfl
  | obj fields => rfl

theorem ofJson_eq_null {w : Json} (h : Value.ofJson w = .null) : w = .null := by
  rw [← Value.written_ofJson w, h]
  rfl

/-- The progress of an update. -/
theorem follows_progress (supplied : Option Value) (stored : Option Json) :
    Follows supplied stored (some (progressOf supplied (stored.map Value.ofJson)).written) ↔ ProgressKept supplied stored := by
  rw [progressOf]
  cases supplied with
  | none =>
    rw [Option.filter_none, Option.getD_none, Follows, ProgressKept]
    cases stored with
    | none => exact iff_of_false (Option.some_ne_none _) fun h => h.1 rfl
    | some w =>
      by_cases hw : w = .null
      · subst hw
        exact iff_of_false (fun h => Json.noConfusion (Option.some.inj h)) fun h => h.2 rfl
      · rw [Option.map_some, coalesce_ofJson hw, Option.getD_some, Value.written_ofJson]
        exact iff_of_true rfl ⟨Option.some_ne_none _, fun h => hw (Option.some.inj h)⟩
  | some v =>
    rw [ProgressKept]
    cases hv : v.isNumber with
    | true =>
      rw [Option.filter_some, if_pos hv, Option.getD_some, if_pos rfl]
      exact map_ofJson_written _
    | false =>
      have hzero : Value.num (.ofNat 0) ≠ v := by
        rintro rfl
        cases hv
      rw [Option.filter_some, if_neg (by simp [hv]), Option.getD_none, if_neg Bool.false_ne_true, Follows, Option.map_some]
      cases stored with
      | none => exact iff_of_false (fun h => hzero (Option.some.inj h)) fun h => Option.some_ne_none v h.2.symm
      | some w =>
        by_cases hw : w = .null
        · subst hw
          exact iff_of_false (fun h => hzero (Option.some.inj h)) fun h => h.1 (Option.some.inj h.2).symm
        · rw [Option.map_some, coalesce_ofJson hw, Option.getD_some, Value.written_ofJson]
          constructor
          · intro h
            refine ⟨?_, h⟩
            rintro rfl
            exact hw (ofJson_eq_null (Option.some.inj h))
          · exact fun h => h.2

/-- A value that is not falsy is written as null exactly if it is an infinity. -/
theorem written_eq_null {v : Value} (h : v.truthy = true) :
    v.written = .null ↔ v = .special .infinity ∨ v = .special .negInfinity := by
  cases v with
  | null => cases h
  | special x =>
    cases x with
    | nan => cases h
    | infinity => exact iff_of_true rfl (.inl rfl)
    | negInfinity => exact iff_of_true rfl (.inr rfl)
  | bool b => exact iff_of_false Json.noConfusion (by simp)
  | num n => exact iff_of_false Json.noConfusion (by simp)
  | str s => exact iff_of_false Json.noConfusion (by simp)
  | arr items => exact iff_of_false Json.noConfusion (by simp)
  | obj fields => exact iff_of_false Json.noConfusion (by simp)

theorem orElse_eq_special {supplied : Option Value} {now : Text} {x : Special} (hx : (Value.special x).truthy = true) :
    orElse supplied (.str now) = .special x ↔ supplied = some (.special x) := by
  constructor
  · intro h
    cases supplied with
    | none => cases h
    | some v =>
      rw [orElse] at h
      split at h
      · rw [h]
      · cases h
  · rintro rfl
    exact if_pos hx

theorem created_kept {now : Text} (hnow : now ≠ []) (supplied : Option Value) (stored : Option Json) :
    some (orElse (stored.map Value.ofJson) (orElse supplied (.str now))).written = stored ↔ CreatedKept supplied stored := by
  have hnew : (orElse supplied (.str now)).truthy = true := truthy_orElse (by simpa [Value.truthy] using hnow)
  cases stored with
  | none =>
    refine iff_of_false (Option.some_ne_none _) ?_
    rintro ⟨date, hdate, -⟩
    cases hdate
  | some w =>
    rw [Option.map_some, orElse]
    cases hw : (Value.ofJson w).truthy with
    | true =>
      rw [if_pos rfl, Value.written_ofJson]
      exact iff_of_true rfl ⟨w, rfl, .inl hw⟩
    | false =>
      rw [if_neg Bool.false_ne_true, Option.some.injEq]
      constructor
      · intro h
        have hnull : (orElse supplied (.str now)).written = .null := by
          rcases truthy_written hnew with hnull | htrue
          · exact hnull
          · rw [h, hw] at htrue
            cases htrue
        refine ⟨w, rfl, .inr ⟨h ▸ hnull, ?_⟩⟩
        rcases (written_eq_null hnew).mp hnull with hinf | hinf
        · exact .inl ((orElse_eq_special rfl).mp hinf)
        · exact .inr ((orElse_eq_special rfl).mp hinf)
      · rintro ⟨date, hdate, htrue | ⟨hnull, hinf⟩⟩
        · rw [← Option.some.inj hdate, hw] at htrue
          cases htrue
        · rw [Option.some.inj hdate, hnull]
          apply (written_eq_null hnew).mpr
          rcases hinf with hinf | hinf
          · exact .inl ((orElse_eq_special rfl).mpr hinf)
          · exact .inr ((orElse_eq_special rfl).mpr hinf)

theorem follows_name {name : Value} {t : Text} (ht : name.text = some t) (stored : Option Json) :
    Follows (some name) stored (some (.str (t.take 200))) ↔ ∃ s, some name = some (Value.str s) ∧ s.length ≤ 200 := by
  constructor
  · intro h
    have hname : Value.str (t.take 200) = name := Option.some.inj h
    rw [← hname, Value.text, Option.some.injEq] at ht
    refine ⟨t.take 200, by rw [hname], ?_⟩
    rw [List.length_take]
    exact min_le_left _ _
  · rintro ⟨s, hs, hlength⟩
    obtain rfl := Option.some.inj hs
    obtain rfl := Option.some.inj ht
    rw [Follows, List.take_of_length_le hlength]
    rfl

/-! ### The request -/

section
variable {readNumber : Text → Numeral} {env env' : Env}

/-- The records of any file are values of the language. -/
theorem readStore_held (hnumber : Canonical readNumber) (file : Option Bytes) : (readStore readNumber file).Held readNumber := by
  have hempty : emptyStore.Held readNumber := ⟨List.forall_mem_nil _, List.forall_mem_nil _⟩
  have hlist {parsed : Json} (hparsed : parsed.Held readNumber) (key : Text) : ∀ e ∈ listOf (parsed.get key), e.Held readNumber := by
    cases hget : parsed.get key with
    | none => exact List.forall_mem_nil _
    | some v =>
      have hv := held_get hparsed hget
      cases v with
      | arr items => exact Json.heldItems_iff.mp hv
      | null => exact List.forall_mem_nil _
      | bool b => exact List.forall_mem_nil _
      | num n => exact List.forall_mem_nil _
      | str s => exact List.forall_mem_nil _
      | obj fields => exact List.forall_mem_nil _
  unfold readStore
  split
  case h_1 => exact hempty
  case h_2 raw =>
    split
    case h_1 => exact hempty
    case h_2 parsed hparse =>
      have hparsed := Json.parse_held hnumber hparse
      split
      case isTrue => exact hempty
      case isFalse => exact ⟨hlist hparsed _, hlist hparsed _⟩

theorem putFront_held {bound : Nat} {id : Text} {record : Json} {entries entries' : List Json}
    (h : putFront bound id record entries = some entries') (hrecord : record.Held readNumber)
    (hentries : ∀ e ∈ entries, e.Held readNumber) : ∀ e ∈ entries', e.Held readNumber := by
  unfold putFront at h
  split at h
  case isTrue => cases h
  case isFalse =>
    obtain rfl := Option.some.inj h
    intro e he
    rcases List.mem_cons.mp ((List.take_sublist _ _).subset he) with rfl | he
    · exact hrecord
    · exact hentries e (List.mem_filter.mp he).1

/-- A body of values of the language. -/
def JobBody.Held (readNumber : Text → Numeral) (body : JobBody) : Prop :=
  ∀ o ∈ [body.name, body.status, body.description, body.industryId, body.templateId, body.estimatedGpuHours, body.costLabel,
    body.progressPct, body.createdAt, body.matchedNodes, body.clientId], ∀ v ∈ o, v.Held readNumber

theorem input_held {body : JobBody} (h : body.Held readNumber) {name : Value} (hname : body.name = some name) :
    (Call.upsert (body.input name)).Held readNumber := by
  simp only [JobBody.Held, List.forall_mem_cons] at h
  obtain ⟨hname', hstatus, hdescription, hindustry, htemplate, hhours, hcost, hprogress, hcreated, hnodes, -⟩ := h
  simp only [Call.Held, Call.values, JobBody.input, List.forall_mem_cons, Option.mem_some_iff, forall_eq']
  exact ⟨hname' name hname, held_orElse hstatus (Value.held_str _), hdescription, hindustry, htemplate, hhours,
    held_orElse hcost (Value.held_str _), hprogress, hcreated, hnodes, List.forall_mem_nil _⟩

theorem recorded_held {body : JobBody} (h : body.Held readNumber) (j : Job) (status : Text) :
    (Call.append (recorded j status body.clientId)).Held readNumber := by
  have hclient : ∀ v ∈ body.clientId, v.Held readNumber := h _ (by simp)
  simp only [Call.Held, Call.values, recorded, List.forall_mem_cons, Option.mem_some_iff, forall_eq']
  refine ⟨Value.held_str _, Value.held_str _, Value.held_str _, Value.held_none, Value.held_none, ⟨?_, trivial, trivial, trivial⟩,
    hclient, List.forall_mem_nil _⟩
  apply ordered_of_keys
  · have hnodup : [units "jobId", units "workloadId"].Nodup := by decide
    exact hnodup
  · simp only [Value.writtenFields, List.forall_mem_cons]
    refine ⟨?_, ?_, List.forall_mem_nil _⟩ <;> decide

/-- A request that is accepted has put its job in front, and left the others. -/
theorem postJobs_created (hread : ReadsDigits readNumber) (hnumber : Canonical readNumber) {allowed : Bool} {body : JobBody}
    (hbody : body.Held readNumber) {d d' : Disk UInt8} {j : Job}
    (h : postJobs readNumber allowed env env' body d = (.created j, d')) :
    ∃ name store, body.name = some name ∧ upsertJob env (body.input name) (readStore readNumber d.file) = some (j, store) ∧
      (readStore readNumber d'.file).jobs = store.jobs := by
  unfold postJobs at h
  split at h
  case isTrue => cases h
  case isFalse =>
    split at h
    case h_1 => cases h
    case h_2 name hname =>
      have hname' : body.name = some name := (Option.filter_eq_some_iff.mp hname).1
      split at h
      case h_1 => cases h
      case h_2 made store hupsert =>
        dsimp only at h
        split at h
        case h_1 => cases h
        case h_2 status hstatus =>
          have hbefore := readStore_held hnumber d.file
          obtain ⟨hjob, -, hput, hactivity⟩ := upsertJob_eq hupsert
          have hjobHeld := job_held hread hjob (input_held hbody hname') fun e he => hbefore.jobs e (List.mem_of_find?_eq_some he)
          have hstore : store.Held readNumber :=
            ⟨by rw [hactivity]; exact hbefore.activity, putFront_held hput hjobHeld hbefore.jobs⟩
          rw [readStore_writeStore hread hstore] at h
          split at h
          case h_1 => cases h
          case h_2 e store' happend =>
            obtain ⟨hanswer, hdisk⟩ := Prod.mk.inj h
            obtain rfl := Answer.created.inj hanswer
            obtain ⟨hevent, hput', hjobs⟩ := appendActivity_eq happend
            have hstore' : store'.Held readNumber :=
              ⟨putFront_held hput' (event_held hevent (recorded_held hbody _ _)) hstore.activity, by rw [hjobs]; exact hstore.jobs⟩
            have hfile' : (readStore readNumber d'.file).jobs = store.jobs := by
              rw [← hdisk, readStore_writeStore hread hstore', hjobs]
            exact ⟨name, store, hname', hupsert, hfile'⟩

/-- The job of an accepted request, as it is read afterwards, comes from the body and the job
that was stored. -/
theorem postJobs_after (hread : ReadsDigits readNumber) (hnumber : Canonical readNumber) {allowed : Bool} {body : JobBody}
    (hbody : body.Held readNumber) {d d' : Disk UInt8} {j : Job}
    (h : postJobs readNumber allowed env env' body d = (.created j, d')) {id : Text} (hid : body.id = some id) (hne : id ≠ [])
    {stored : Json} (hstored : (readStore readNumber d.file).jobs.find? (fun e => idOf e = some id) = some stored) :
    ∃ name, body.name = some name ∧ job env (body.input name) id (some stored) = some j ∧
      (readStore readNumber d'.file).jobs.find? (fun e => idOf e = some id) = some j.record.written := by
  obtain ⟨name, store, hname, hupsert, hjobs⟩ := postJobs_created hread hnumber hbody h
  obtain ⟨hjob, hjid, hput, -⟩ := upsertJob_eq hupsert
  have hown : j.id = id := by
    rw [hjid]
    change idOr body.id _ _ = id
    rw [hid]
    cases id with
    | nil => exact absurd rfl hne
    | cons c rest => rfl
  rw [hown, hstored] at hjob
  refine ⟨name, hname, hjob, ?_⟩
  unfold putFront at hput
  split at hput
  case isTrue => cases hput
  case isFalse =>
    have hfront := Option.some.inj hput
    rw [MAX_JOBS, List.take_succ_cons] at hfront
    rw [hjobs, ← hfront]
    exact List.find?_cons_of_pos (by simp [idOf_job, hown])

/-- What a field of a job is in its record. -/
theorem get_job {j : Job} {key : Text} {o : Option Value} (h : (key, o) ∈ j.fields) : j.record.written.get key = o.map Value.written :=
  get_record (job_keys j) h

/-- The record that is written follows the body exactly if the body and the stored job go together. -/
theorem kept_iff {body : JobBody} {name : Value} {id : Text} {stored : Json} {j : Job} (hname : body.name = some name)
    (hjob : job env (body.input name) id (some stored) = some j) : Kept body stored j.record.written ↔ Keeps body stored := by
  unfold job at hjob
  dsimp only at hjob
  split at hjob
  case h_1 => cases hjob
  case h_2 t ht =>
    have hj := Option.some.inj hjob
    have hstatus : Follows body.status (stored.get (units "status")) (j.record.written.get (units "status")) ↔
        DefaultKept (units "simulated") body.status (stored.get (units "status")) := by
      rw [get_job (show (units "status", some j.status) ∈ j.fields by simp [Job.fields]), ← hj]
      exact follows_default (by decide) _ _ _
    have hcost : Follows body.costLabel (stored.get (units "costLabel")) (j.record.written.get (units "costLabel")) ↔
        DefaultKept COST_LABEL body.costLabel (stored.get (units "costLabel")) := by
      rw [get_job (show (units "costLabel", some j.costLabel) ∈ j.fields by simp [Job.fields]), ← hj]
      exact follows_default (by decide) _ _ _
    have hname' : Follows body.name (stored.get (units "name")) (j.record.written.get (units "name")) ↔
        ∃ s, body.name = some (.str s) ∧ s.length ≤ 200 := by
      rw [get_job (show (units "name", some (.str j.name)) ∈ j.fields by simp [Job.fields]), ← hj, hname]
      exact follows_name ht _
    have hprogress : Follows body.progressPct (stored.get (units "progressPct")) (j.record.written.get (units "progressPct")) ↔
        ProgressKept body.progressPct (stored.get (units "progressPct")) := by
      rw [get_job (show (units "progressPct", some j.progressPct) ∈ j.fields by simp [Job.fields]), ← hj]
      exact follows_progress _ _
    have hcreated : j.record.written.get (units "createdAt") = stored.get (units "createdAt") ↔
        CreatedKept body.createdAt (stored.get (units "createdAt")) := by
      rw [get_job (show (units "createdAt", some j.createdAt) ∈ j.fields by simp [Job.fields]), ← hj]
      exact created_kept env.now_ne _ _
    have hfallback {key : Text} {o : Option Value} (hmem : (key, o) ∈ j.fields) (supplied : Option Value)
        (ho : o = coalesce supplied ((stored.get key).map Value.ofJson)) :
        Follows supplied (stored.get key) (j.record.written.get key) ↔ FallbackKept supplied (stored.get key) := by
      rw [get_job hmem, ho]
      exact follows_fallback _ _
    have hdescription := hfallback (show (units "description", j.description) ∈ j.fields by simp [Job.fields]) body.description
      (by rw [← hj]; rfl)
    have hindustry := hfallback (show (units "industryId", j.industryId) ∈ j.fields by simp [Job.fields]) body.industryId
      (by rw [← hj]; rfl)
    have htemplate := hfallback (show (units "templateId", j.templateId) ∈ j.fields by simp [Job.fields]) body.templateId
      (by rw [← hj]; rfl)
    have hhours := hfallback (show (units "estimatedGpuHours", j.estimatedGpuHours) ∈ j.fields by simp [Job.fields])
      body.estimatedGpuHours (by rw [← hj]; rfl)
    have hnodes := hfallback (show (units "matchedNodes", j.matchedNodes) ∈ j.fields by simp [Job.fields]) body.matchedNodes
      (by rw [← hj]; rfl)
    exact ⟨fun h => ⟨hname'.mp h.name, hstatus.mp h.status, hcost.mp h.costLabel, hprogress.mp h.progressPct,
        hdescription.mp h.description, hindustry.mp h.industryId, htemplate.mp h.templateId, hhours.mp h.estimatedGpuHours,
        hnodes.mp h.matchedNodes, hcreated.mp h.createdAt⟩,
      fun h => ⟨hname'.mpr h.name, hstatus.mpr h.status, hcost.mpr h.costLabel, hprogress.mpr h.progressPct,
        hdescription.mpr h.description, hindustry.mpr h.industryId, htemplate.mpr h.templateId, hhours.mpr h.estimatedGpuHours,
        hnodes.mpr h.matchedNodes, hcreated.mpr h.createdAt⟩⟩

/-- An accepted request with the id of a stored job keeps the fields it does not mention, and
gives the others their values, exactly if the body and the stored job go together. -/
theorem update_keeps (hread : ReadsDigits readNumber) (hnumber : Canonical readNumber) (allowed : Bool) (body : JobBody)
    (hbody : body.Held readNumber) (d d' : Disk UInt8) (j : Job) (id : Text) (stored : Json) (hid : body.id = some id) (hne : id ≠ [])
    (hstored : (readStore readNumber d.file).jobs.find? (fun e => idOf e = some id) = some stored)
    (h : postJobs readNumber allowed env env' body d = (.created j, d')) :
    (∃ after, (readStore readNumber d'.file).jobs.find? (fun e => idOf e = some id) = some after ∧ Kept body stored after) ↔
      Keeps body stored := by
  obtain ⟨name, hname, hjob, hafter⟩ := postJobs_after hread hnumber hbody h hid hne hstored
  rw [hafter, ← kept_iff hname hjob]
  simp only [Option.some.injEq, exists_eq_left']

/-- The steps of a request that is accepted. -/
theorem postJobs_eq {body : JobBody} {name : Value} {d : Disk UInt8} {j : Job} {store store' : Store} {status : Text} {e : Event}
    (hname : body.name.filter Value.truthy = some name)
    (hupsert : upsertJob env (body.input name) (readStore readNumber d.file) = some (j, store)) (hstatus : j.status.text = some status)
    (happend : appendActivity env' (recorded j status body.clientId)
      (readStore readNumber ((writeStore store).foldl Disk.run d).file) = some (e, store')) :
    postJobs readNumber true env env' body d = (.created j, (writeStore store').foldl Disk.run ((writeStore store).foldl Disk.run d)) := by
  simp only [postJobs, Bool.not_true, Bool.false_eq_true, if_false, hname, hupsert, hstatus, happend]

end

/-! ### A job that is completed -/

theorem canonical_readDigit : Canonical readDigit := by
  intro t _
  unfold readDigit
  split
  · exact held_digit readsDigits_readDigit (Nat.zero_le 1)
  · exact held_digit readsDigits_readDigit le_rfl

/-- A new name for the job. -/
def rename : JobBody :=
  { id := some (units "a"), name := some (.str (units "Training")), status := none, description := none, industryId := none,
    templateId := none, estimatedGpuHours := none, costLabel := none, progressPct := none, createdAt := none, matchedNodes := none,
    clientId := none }

/-- The job as it is before and after. -/
def trained (status : Text) : Job :=
  { id := units "a", name := units "Training", status := .str status, description := none, industryId := none, templateId := none,
    estimatedGpuHours := none, costLabel := .str COST_LABEL, progressPct := .num (.ofNat 0), createdAt := .str noon.now,
    updatedAt := noon.now, matchedNodes := none }

def completed : Store := ⟨[], [(trained (units "completed")).record.written]⟩
def simulated : Store := ⟨[], [(trained (units "simulated")).record.written]⟩

theorem trained_held (status : Text) : (trained status).record.Held readDigit := by
  apply held_record (job_keys _)
  simp only [Job.fields, trained, List.forall_mem_cons, Option.mem_some_iff, forall_eq']
  exact ⟨trivial, trivial, trivial, trivial, trivial, trivial, Value.held_none, Value.held_none, Value.held_none, Value.held_none,
    trivial, held_digit readsDigits_readDigit (Nat.zero_le 1), trivial, trivial, Value.held_none, List.forall_mem_nil _⟩

theorem rename_held : rename.Held readDigit := by
  simp only [JobBody.Held, rename, List.forall_mem_cons, Option.mem_some_iff, forall_eq']
  exact ⟨trivial, Value.held_none, Value.held_none, Value.held_none, Value.held_none, Value.held_none, Value.held_none,
    Value.held_none, Value.held_none, Value.held_none, Value.held_none, List.forall_mem_nil _⟩

def completedDisk : Disk UInt8 := (writeStore completed).foldl Disk.run ⟨none, none⟩

theorem readStore_trained (status : Text) (d : Disk UInt8) :
    readStore readDigit ((writeStore ⟨[], [(trained status).record.written]⟩).foldl Disk.run d).file =
      ⟨[], [(trained status).record.written]⟩ := by
  apply readStore_writeStore readsDigits_readDigit
  constructor
  · exact List.forall_mem_nil _
  · intro j hj
    obtain rfl := List.mem_singleton.mp hj
    exact trained_held status

/-- A request with the name alone is accepted, and the job is simulated again. -/
theorem rename_created : ∃ d', postJobs readDigit true noon noon rename completedDisk = (.created (trained (units "simulated")), d') := by
  have hupsert : upsertJob noon (rename.input (.str (units "Training"))) (readStore readDigit completedDisk.file) =
      some (trained (units "simulated"), simulated) := by
    rw [completedDisk, completed, readStore_trained]
    rfl
  have happend : ∃ e store', appendActivity noon (recorded (trained (units "simulated")) (units "simulated") none)
      (readStore readDigit ((writeStore simulated).foldl Disk.run completedDisk).file) = some (e, store') := by
    rw [simulated, readStore_trained]
    exact ⟨_, _, rfl⟩
  obtain ⟨e, store', happend⟩ := happend
  exact ⟨_, postJobs_eq rfl hupsert rfl happend⟩

theorem find_completed : (readStore readDigit completedDisk.file).jobs.find? (fun e => idOf e = some (units "a")) =
    some (trained (units "completed")).record.written := by
  rw [completedDisk, completed, readStore_trained]
  rfl

theorem update_keeps_rename : ∃ d',
    postJobs readDigit true noon noon rename completedDisk = (.created (trained (units "simulated")), d') ∧
    ((∃ after, (readStore readDigit d'.file).jobs.find? (fun e => idOf e = some (units "a")) = some after ∧
      Kept rename (trained (units "completed")).record.written after) ↔ Keeps rename (trained (units "completed")).record.written) := by
  obtain ⟨d', h⟩ := rename_created
  exact ⟨d', h, update_keeps readsDigits_readDigit canonical_readDigit true rename rename_held completedDisk d' _ (units "a") _ rfl
    (by decide) find_completed h⟩

/-- The status that the request does not mention is overwritten. -/
theorem update_keeps_completed : ¬ ∀ (readNumber : Text → Numeral), ReadsDigits readNumber → Canonical readNumber →
    ∀ (env env' : Env) (allowed : Bool) (body : JobBody), body.Held readNumber →
    ∀ (d d' : Disk UInt8) (j : Job) (id : Text) (stored : Json),
      body.id = some id → id ≠ [] → (readStore readNumber d.file).jobs.find? (fun e => idOf e = some id) = some stored →
        postJobs readNumber allowed env env' body d = (.created j, d') →
          ∃ after, (readStore readNumber d'.file).jobs.find? (fun e => idOf e = some id) = some after ∧ Kept body stored after := by
  intro h
  obtain ⟨d', hpost⟩ := rename_created
  obtain ⟨after, hafter, hkept⟩ := h readDigit readsDigits_readDigit canonical_readDigit noon noon true rename rename_held
    completedDisk d' _ (units "a") _ rfl (by decide) find_completed hpost
  obtain ⟨name, hname, hjob, hfind⟩ := postJobs_after readsDigits_readDigit canonical_readDigit rename_held hpost rfl
    (by decide) find_completed
  obtain rfl := Option.some.inj (hfind.symm.trans hafter)
  have hstatus : (trained (units "completed")).record.written.get (units "status") = some (.str (units "simulated")) :=
    ((kept_iff hname hjob).mp hkept).status
  have hcompleted : (trained (units "completed")).record.written.get (units "status") = some (.str (units "completed")) := rfl
  rw [hcompleted] at hstatus
  exact absurd (Json.str.inj (Option.some.inj hstatus)) (by decide)

end GalaxiaAin.Activity
