import GalaxiaAin.Library.AtomicFile
import GalaxiaAin.Library.JsonHeld
import GalaxiaAin.Library.JsonIndent
import GalaxiaAin.Library.Recency

/-! The store of activity events and jobs. It is one JSON file that every call reads, changes
and replaces through a temporary file. -/
namespace GalaxiaAin.Activity
open GalaxiaAin.Library

/-! ### Values -/

/-- The numbers that JSON has no text for. -/
inductive Special where
  | nan | infinity | negInfinity
  deriving DecidableEq

def Special.name : Special → Text
  | .nan => units "NaN"
  | .infinity => units "Infinity"
  | .negInfinity => units "-Infinity"

/-- A value that is handed to the store. -/
inductive Value where
  | null
  | bool (b : Bool)
  | num (n : Numeral)
  | special (x : Special)
  | str (s : Text)
  | arr (items : List Value)
  | obj (fields : List (Text × Value))

namespace Value

mutual
/-- What JSON.stringify writes of a value: null for the special numbers. -/
def written : Value → Json
  | .null | .special _ => .null
  | .bool b => .bool b
  | .num n => .num n
  | .str s => .str s
  | .arr items => .arr (writtenItems items)
  | .obj fields => .obj (writtenFields fields)

def writtenItems : List Value → List Json
  | [] => []
  | v :: rest => v.written :: writtenItems rest

def writtenFields : List (Text × Value) → List (Text × Json)
  | [] => []
  | (key, v) :: rest => (key, v.written) :: writtenFields rest
end

mutual
/-- What was read from the file. -/
def ofJson : Json → Value
  | .null => .null
  | .bool b => .bool b
  | .num n => .num n
  | .str s => .str s
  | .arr items => .arr (ofItems items)
  | .obj fields => .obj (ofFields fields)

def ofItems : List Json → List Value
  | [] => []
  | v :: rest => ofJson v :: ofItems rest

def ofFields : List (Text × Json) → List (Text × Value)
  | [] => []
  | (key, v) :: rest => (key, ofJson v) :: ofFields rest
end

def truthy : Value → Bool
  | .null | .special .nan => false
  | .bool b => b
  | .num n => n.text != [48]
  | .str s => s != []
  | .special _ | .arr _ | .obj _ => true

mutual
/-- `String(v)`; none is the TypeError of an object whose own `toString` hides the inherited one. -/
def text : Value → Option Text
  | .null => some (units "null")
  | .bool true => some (units "true")
  | .bool false => some (units "false")
  | .num n => some n.text
  | .special x => some x.name
  | .str s => some s
  | .arr items => (textItems items).map (List.intercalate [44])
  | .obj fields => if fields.any (fun f => f.1 == units "toString") then none else some (units "[object Object]")

/-- The elements for Array.prototype.join; null elements are empty. -/
def textItems : List Value → Option (List Text)
  | [] => some []
  | v :: rest =>
    match (match v with | .null => some [] | v => v.text), textItems rest with
    | some t, some ts => some (t :: ts)
    | _, _ => none
end

/-- `typeof v === 'number'`. -/
def isNumber : Value → Bool
  | .num _ | .special _ => true
  | _ => false

end Value

/-- `v || w`. -/
def orElse (v : Option Value) (w : Value) : Value :=
  match v with
  | some v => if v.truthy then v else w
  | none => w

/-- `v ?? w`. -/
def coalesce (v w : Option Value) : Option Value :=
  match v with
  | none | some .null => w
  | some v => some v

/-! ### Records -/

/-- The properties that are not undefined. -/
def present (fields : List (Text × Option Value)) : List (Text × Value) := fields.filterMap fun f => f.2.map fun v => (f.1, v)

structure Event where
  id : Text
  kind : Option Value
  title : Text
  detail : Text
  source : Value
  time : Value
  refs : Option Value
  clientId : Option Value

structure Job where
  id : Text
  name : Text
  status : Value
  description : Option Value
  industryId : Option Value
  templateId : Option Value
  estimatedGpuHours : Option Value
  costLabel : Value
  progressPct : Value
  createdAt : Value
  updatedAt : Text
  matchedNodes : Option Value

def MODE : Text := units "testnet-preview"

def Event.fields (e : Event) : List (Text × Option Value) :=
  [(units "id", some (.str e.id)), (units "kind", e.kind), (units "title", some (.str e.title)), (units "detail", some (.str e.detail)),
    (units "source", some e.source), (units "simulated", some (.bool true)), (units "mode", some (.str MODE)),
    (units "at", some e.time), (units "refs", e.refs), (units "clientId", e.clientId)]

def Job.fields (j : Job) : List (Text × Option Value) :=
  [(units "id", some (.str j.id)), (units "name", some (.str j.name)), (units "status", some j.status),
    (units "source", some (.str (units "simulated"))), (units "simulated", some (.bool true)), (units "mode", some (.str MODE)),
    (units "description", j.description), (units "industryId", j.industryId), (units "templateId", j.templateId),
    (units "estimatedGpuHours", j.estimatedGpuHours), (units "costLabel", some j.costLabel),
    (units "progressPct", some j.progressPct), (units "createdAt", some j.createdAt), (units "updatedAt", some (.str j.updatedAt)),
    (units "matchedNodes", j.matchedNodes)]

/-- The record that a call returns. -/
def Event.record (e : Event) : Value := .obj (present e.fields)
def Job.record (j : Job) : Value := .obj (present j.fields)

/-! ### The file -/

structure Store where
  activity : List Json
  jobs : List Json

def emptyStore : Store := ⟨[], []⟩

def DISCLAIMER : Text :=
  units "Testnet Preview store — simulated activity only. Not production GPU metering, billing, or verified compute."

def MAX_ACTIVITY : Nat := 500
def MAX_JOBS : Nat := 200

def Store.json (store : Store) : Json :=
  .obj [(units "version", .num (.ofNat 1)), (units "mode", .str MODE), (units "disclaimer", .str DISCLAIMER),
    (units "activity", .arr store.activity), (units "jobs", .arr store.jobs)]

/-- `Array.isArray(v) ? v : []`. -/
def listOf : Option Json → List Json
  | some (.arr items) => items
  | _ => []

/-- `v === 1`. -/
def isOne : Option Json → Bool
  | some (.num n) => n.text == [49]
  | _ => false

/-- The store in a file. Other properties of the file are not followed. -/
def readStore (readNumber : Text → Numeral) (file : Option Bytes) : Store :=
  match file with
  | none => emptyStore
  | some raw =>
    match Json.parse readNumber (decodeUtf8 raw) with
    | none => emptyStore
    | some parsed =>
      if !parsed.truthy || !isOne (parsed.get (units "version")) then emptyStore
      else { activity := listOf (parsed.get (units "activity")), jobs := listOf (parsed.get (units "jobs")) }

/-- What the file is to have. -/
def Store.bytes (store : Store) : Bytes := utf8 (store.json.indented 0)

def writeStore (store : Store) : List (FileOp UInt8) := replaceFile store.bytes

/-! ### Calls -/

/-- The date of a call, and the parts of an id that is made. -/
structure Env where
  now : Text
  now_ne : now ≠ []
  stamp : Text
  random : Text

def newId (start : Text) (env : Env) : Text := start ++ units "-" ++ env.stamp ++ units "-" ++ env.random

/-- `id || newId(start)`. -/
def idOr (id : Option Text) (start : Text) (env : Env) : Text :=
  match id with
  | none | some [] => newId start env
  | some id => id

/-- An entry whose `id` is a string. -/
def idOf (entry : Json) : Option Text :=
  match entry.get (units "id") with
  | some (.str id) => some id
  | _ => none

def isNull : Json → Bool
  | .null => true
  | _ => false

/-- Put a record in front of the other entries; the id of null is a TypeError. -/
def putFront (bound : Nat) (id : Text) (record : Json) (entries : List Json) : Option (List Json) :=
  if entries.any isNull then none
  else some ((record :: entries.filter fun e => idOf e ≠ some id).take bound)

structure EventInput where
  id : Option Text
  kind : Option Value
  title : Option Value
  detail : Option Value
  source : Option Value
  time : Option Value
  refs : Option Value
  clientId : Option Value

/-- The event of an input; none is a TypeError of `String`. -/
def event (env : Env) (input : EventInput) : Option Event :=
  match (orElse input.title (.str (units "Untitled"))).text, (orElse input.detail (.str [])).text with
  | some title, some detail =>
    some {
      id := idOr input.id (units "evt") env
      kind := input.kind
      title := title.take 200
      detail := detail.take 1000
      source := orElse input.source (.str (units "simulated"))
      time := orElse input.time (.str env.now)
      refs := input.refs
      clientId := input.clientId }
  | _, _ => none

/-- The event, and the store that is written; none is an exception before the write. -/
def appendActivity (env : Env) (input : EventInput) (store : Store) : Option (Event × Store) :=
  match event env input with
  | none => none
  | some event =>
    match putFront MAX_ACTIVITY event.id event.record.written store.activity with
    | none => none
    | some activity => some (event, { store with activity := activity })

structure JobInput where
  id : Option Text
  name : Value
  status : Option Value
  description : Option Value
  industryId : Option Value
  templateId : Option Value
  estimatedGpuHours : Option Value
  costLabel : Option Value
  progressPct : Option Value
  createdAt : Option Value
  matchedNodes : Option Value

def COST_LABEL : Text := units "Testnet Estimate — not billed"

/-- `typeof progress === 'number' ? progress : old ?? 0`. -/
def progressOf (progress old : Option Value) : Value :=
  (progress.filter Value.isNumber).getD ((coalesce old none).getD (.num (.ofNat 0)))

/-- The job of an input, with what it takes from the existing one. -/
def job (env : Env) (input : JobInput) (id : Text) (existing : Option Json) : Option Job :=
  let old (key : Text) : Option Value := (existing.bind fun e => e.get key).map Value.ofJson
  match input.name.text with
  | none => none
  | some name =>
    some {
      id := id
      name := name.take 200
      status := orElse input.status (orElse (old (units "status")) (.str (units "simulated")))
      description := coalesce input.description (old (units "description"))
      industryId := coalesce input.industryId (old (units "industryId"))
      templateId := coalesce input.templateId (old (units "templateId"))
      estimatedGpuHours := coalesce input.estimatedGpuHours (old (units "estimatedGpuHours"))
      costLabel := orElse input.costLabel (orElse (old (units "costLabel")) (.str COST_LABEL))
      progressPct := progressOf input.progressPct (old (units "progressPct"))
      createdAt := orElse (old (units "createdAt")) (orElse input.createdAt (.str env.now))
      updatedAt := env.now
      matchedNodes := coalesce input.matchedNodes (old (units "matchedNodes")) }

/-- The job, and the store that is written; none is an exception before the write. -/
def upsertJob (env : Env) (input : JobInput) (store : Store) : Option (Job × Store) :=
  let id := idOr input.id (units "job") env
  match job env input id (store.jobs.find? fun j => idOf j = some id) with
  | none => none
  | some job =>
    match putFront MAX_JOBS id job.record.written store.jobs with
    | none => none
    | some jobs => some (job, { store with jobs := jobs })

end GalaxiaAin.Activity
