import GalaxiaAin.Library.Json

/-! GalaxiaEcosystemService.request, and the reads its clients make of what it
returns. A JavaScript value is a JSON value or undefined; an absent property and
one that is undefined are the same. -/
namespace GalaxiaAin.Galaxia
open Library

/-- A JavaScript value; `none` is undefined. -/
abbrev Value := Option Json

def truthy (v : Value) : Bool := v.elim false Json.truthy

/-- `v.key`. -/
def read (v : Value) (key : String) : Except Text Value :=
  match v with
  | none => .error (units ("Cannot read properties of undefined (reading '" ++ key ++ "')"))
  | some .null => .error (units ("Cannot read properties of null (reading '" ++ key ++ "')"))
  | some v => .ok (v.get (units key))

/-- `v?.key`. -/
def readOptional (v : Value) (key : String) : Value :=
  match v with
  | none | some .null => none
  | some v => v.get (units key)

/-- The own properties `{...v}` copies. -/
def spread : Value → List (Text × Json)
  | some (.obj fields) => fields
  | some (.arr items) => items.zipIdx.map fun item => (decimal item.2, item.1)
  | some (.str s) => s.zipIdx.map fun unit => (decimal unit.2, .str [unit.1])
  | _ => []

/-- A property written after the spread ones. -/
def assign (key : String) (v : Value) (fields : List (Text × Json)) : List (Text × Json) :=
  match v with
  | none => fields.filter fun f => f.1 != units key
  | some v =>
    if fields.any fun f => f.1 == units key
    then fields.map fun f => if f.1 == units key then (f.1, v) else f
    else fields ++ [(units key, v)]

/-- What axios gives for a call: the body of the response, or the error it rejects with. -/
abbrev Reply := Except Text Json

/-- The `message` of `new Error(payload.error || 'Galaxia service error')`. -/
def refusal (payload : Json) : Text :=
  match payload.get (units "error") with
  | some error =>
    if error.truthy then error.text.getD (units "Cannot convert object to primitive value")
    else units "Galaxia service error"
  | none => units "Galaxia service error"

/-- What `request` makes of the body of a response. -/
def unwrap (payload : Json) : Except Text Json :=
  match payload.get (units "success") with
  | some success =>
    if success.truthy then
      match payload.get (units "data") with
      | none | some .null => .ok payload
      | some data => .ok data
    else .error (refusal payload)
  | none => .ok payload

/-- What `request` throws for an error inside it. -/
def failed (endpoint error : Text) : Text :=
  units "Galaxia " ++ endpoint ++ units " failed: " ++ error

def request (endpoint : Text) (reply : Reply) : Except Text Json :=
  match reply.bind unwrap with
  | .ok data => .ok data
  | .error error => .error (failed endpoint error)

/-- The standard response of a Galaxia service. -/
def envelope (data : Json) : Json := .obj [(units "success", .bool true), (units "data", data)]

/-- A client method around `request`: how it reads the value the service answers,
whether it takes `request`'s result for that value (`direct`) or looks for it under
`data`, and what its catch block does. -/
structure Client where
  endpoint : Text
  direct : Bool
  pick : Value → Except Text Value
  recover : Text → Except Text Value

namespace Client

/-- The expression after `await request(..)`. -/
def body (c : Client) (response : Json) : Except Text Value :=
  if c.direct then c.pick (some response) else (read (some response) "data").bind c.pick

/-- The try and catch around it. -/
def caught (c : Client) : Except Text Value → Except Text Value
  | .ok v => .ok v
  | .error error => c.recover error

def call (c : Client) (reply : Reply) : Except Text Value :=
  c.caught ((request c.endpoint reply).bind c.body)

end Client

/-! ### What a client sees of an envelope -/

theorem request_envelope {endpoint : Text} {d : Json} (h : d ≠ .null) :
    request endpoint (.ok (envelope d)) = .ok d := by
  cases d <;> first | exact absurd rfl h | rfl

theorem request_envelope_null (endpoint : Text) :
    request endpoint (.ok (envelope .null)) = .ok (envelope .null) := rfl

theorem read_some {d : Json} {key : String} (h : d ≠ .null) : read (some d) key = .ok (d.get (units key)) := by
  cases d <;> first | exact absurd rfl h | rfl

/-- A client that looks under `data` looks there once more. -/
theorem body_indirect {c : Client} {d : Json} (hc : c.direct = false) (h : d ≠ .null) :
    (request c.endpoint (.ok (envelope d))).bind c.body = c.pick (d.get (units "data")) := by
  rw [request_envelope h]
  simp only [Except.bind, Client.body, hc, read_some h]
  rfl

/-- Only the null an envelope carries is read where it is. -/
theorem body_null {c : Client} (hc : c.direct = false) :
    (request c.endpoint (.ok (envelope .null))).bind c.body = c.pick (some .null) := by
  rw [request_envelope_null]
  simp only [Except.bind, Client.body, hc]
  rfl

theorem body_direct {c : Client} {d : Json} (hc : c.direct = true) (h : d ≠ .null) :
    (request c.endpoint (.ok (envelope d))).bind c.body = c.pick (some d) := by
  rw [request_envelope h]
  simp only [Except.bind, Client.body, hc]
  rfl

/-- A refusal reaches the catch block of every client. -/
theorem call_refused (c : Client) {payload success : Json} (h : payload.get (units "success") = some success)
    (hs : success.truthy = false) :
    c.call (.ok payload) = c.recover (failed c.endpoint (refusal payload)) := by
  simp only [Client.call, request, Except.bind, unwrap, h, hs]
  rfl

/-- A value is never the value of its own property. -/
theorem get_ne_self {d : Json} {key : Text} : d.get key ≠ some d := by
  intro h
  cases d with
  | obj fields =>
    simp only [Json.get, Option.map_eq_some_iff] at h
    obtain ⟨f, hf, hd⟩ := h
    have hm := List.sizeOf_lt_of_mem (List.mem_of_find?_eq_some hf)
    have hs : sizeOf f.2 = sizeOf (Json.obj fields) := by rw [hd]
    have hp : sizeOf f = 1 + sizeOf f.1 + sizeOf f.2 := rfl
    have ho : sizeOf (Json.obj fields) = 1 + sizeOf fields := by simp
    omega
  | _ => cases h

end GalaxiaAin.Galaxia
