import GalaxiaAin.Tenant.Services

/-! The redaction of audit metadata. Objects are scrubbed in objects, but an array is taken
over as it is, with the objects in it; and what is assigned to `__proto__` is not stored. -/
namespace GalaxiaAin.Tenant
open GalaxiaAin.Library

/-! ### Paths -/

/-- A step into a JSON value. -/
inductive PathStep where
  | key (k : Text)
  | item (i : Nat)

/-- The value at a path. -/
def follow : List PathStep → Json → Option Json
  | [], v => some v
  | .key k :: path, v => (v.get k).bind (follow path)
  | .item i :: path, .arr items => items[i]?.bind (follow path)
  | .item _ :: _, _ => none

/-- A value without its members: a scalar, how many items an array has, the keys of an object. -/
inductive Surface where
  | scalar (v : Json)
  | arr (length : Nat)
  | obj (keys : List Text)

def surface : Json → Surface
  | .arr items => .arr items.length
  | .obj fields => .obj (fields.map Prod.fst)
  | v => .scalar v

theorem follow_append (path path' : List PathStep) (v : Json) :
    follow (path ++ path') v = (follow path v).bind (follow path') := by
  induction path generalizing v with
  | nil => rfl
  | cons step path ih =>
    cases step with
    | key k =>
      rw [List.cons_append, follow, follow]
      cases v.get k with
      | none => rfl
      | some w => exact ih w
    | item i =>
      cases v with
      | arr items =>
        rw [List.cons_append, follow, follow]
        cases items[i]? with
        | none => rfl
        | some w => exact ih w
      | _ => rfl

/-! ### What is redacted -/

def redacted : Json := .str (units "[REDACTED]")

/-- A value under a secret key is redacted, wherever it is. -/
def Hidden (v : Json) : Prop := ∀ path k w, secretKey k = true → follow (path ++ [.key k]) v = some w → w = redacted

/-- No secret key is on a path. -/
def Harmless (path : List PathStep) : Prop := ∀ k, .key k ∈ path → secretKey k = false

/-- The scrubbed metadata hide every secret and keep what is on every other path; and so
does what is stored. -/
structure Scrubs (rt : Runtime) (event : AuditInput) : Prop where
  hidden : Hidden (.obj (scrubSecrets event.metadata))
  kept : ∀ path, Harmless path →
    (follow path (.obj (scrubSecrets event.metadata))).map surface = (follow path (.obj event.metadata)).map surface
  stored : ∀ c db, ∃ rows, (insertAuditEvent rt event).effect c db db = { db with audit_events := db.audit_events ++ rows } ∧
    ∀ row ∈ rows, ∃ v : Json, row.metadata = v.stringify ∧ Hidden v

/-- A key that is neither secret nor `__proto__`. -/
def OpenKey (k : Text) : Prop := secretKey k = false ∧ k ≠ units "__proto__"

/-- A path through objects under open keys. -/
def Open (path : List PathStep) : Prop := ∀ step ∈ path, ∃ k, step = .key k ∧ OpenKey k

/-- The arrays have no secrets in them, and the objects outside arrays no own `__proto__`. -/
structure Scrubbable (v : Json) : Prop where
  arrays : ∀ path i inner k w, Open path → secretKey k = true →
    follow (path ++ .item i :: (inner ++ [.key k])) v = some w → w = redacted
  proto : ∀ path, Open path → follow (path ++ [.key (units "__proto__")]) v = none

section Scrubbing

theorem open_cons {k : Text} {path : List PathStep} (hk : OpenKey k) (h : Open path) : Open (.key k :: path) := by
  intro step hstep
  rcases List.mem_cons.mp hstep with rfl | hstep
  · exact ⟨k, rfl, hk⟩
  · exact h step hstep

theorem open_nil : Open [] := fun _ h => (List.not_mem_nil h).elim

/-- The properties of a scrubbed object. -/
theorem get_scrubSecrets (fields : List (Text × Json)) (k : Text) : (Json.obj (scrubSecrets fields)).get k =
    if k = units "__proto__" then none
    else ((Json.obj fields).get k).map fun v => if secretKey k then redacted else scrubValue v := by
  induction fields with
  | nil =>
    rw [scrubSecrets]
    split <;> rfl
  | cons f rest ih =>
    obtain ⟨key, v⟩ := f
    simp only [Json.get] at ih ⊢
    rw [scrubSecrets]
    by_cases hproto : key = units "__proto__"
    · rw [if_pos hproto, ih]
      by_cases hk : k = units "__proto__"
      · rw [if_pos hk, if_pos hk]
      · have hne : (key == k) = false := by
          rw [beq_eq_false_iff_ne, hproto]
          exact fun h => hk h.symm
        rw [if_neg hk, if_neg hk, List.find?_cons, hne]
    · rw [if_neg hproto, List.find?_cons, List.find?_cons]
      by_cases hkey : key = k
      · subst hkey
        simp only [beq_self_eq_true, if_neg hproto, Option.map_some]
        rfl
      · have hne : (key == k) = false := beq_eq_false_iff_ne.mpr hkey
        simp only [hne]
        exact ih

theorem get_scrubValue (v : Json) (k : Text) : (scrubValue v).get k =
    if k = units "__proto__" then none
    else (v.get k).map fun w => if secretKey k then redacted else scrubValue w := by
  cases v with
  | obj fields =>
    rw [scrubValue]
    exact get_scrubSecrets fields k
  | _ =>
    rw [scrubValue]
    · split <;> rfl
    · intro fields h
      cases h

theorem get_open {k : Text} (hk : OpenKey k) (v : Json) : (scrubValue v).get k = (v.get k).map scrubValue := by
  rw [get_scrubValue, if_neg hk.2, hk.1]
  rfl

theorem scrubValue_arr (items : List Json) : scrubValue (.arr items) = .arr items := by
  rw [scrubValue]
  intro fields h
  cases h

/-- Without an own `__proto__` the keys stay. -/
theorem surface_scrubValue {v : Json} (h : v.get (units "__proto__") = none) : surface (scrubValue v) = surface v := by
  cases v with
  | obj fields =>
    rw [scrubValue, surface, surface]
    congr 1
    induction fields with
    | nil => rw [scrubSecrets]
    | cons f rest ih =>
      obtain ⟨key, w⟩ := f
      simp only [Json.get, Option.map_eq_none_iff, List.find?_cons] at h ih
      have hne : key ≠ units "__proto__" := by
        intro he
        rw [he, beq_self_eq_true] at h
        cases h
      rw [beq_eq_false_iff_ne.mpr hne] at h
      rw [scrubSecrets, if_neg hne, List.map_cons, List.map_cons, ih h]
  | _ =>
    rw [scrubValue]
    intro fields h
    cases h

/-- Along open keys a value is scrubbed in its place. -/
theorem follow_scrubValue {path : List PathStep} (h : Open path) (v : Json) :
    follow path (scrubValue v) = (follow path v).map scrubValue := by
  induction path generalizing v with
  | nil => rfl
  | cons step path ih =>
    obtain ⟨k, rfl, hk⟩ := h step List.mem_cons_self
    rw [follow, follow, get_open hk]
    cases v.get k with
    | none => rfl
    | some w => exact ih (fun s hs => h s (List.mem_cons_of_mem _ hs)) w

theorem Scrubbable.member {v w : Json} {k : Text} (h : Scrubbable v) (hk : OpenKey k) (hw : v.get k = some w) : Scrubbable w where
  arrays path i inner k' x hpath hk' hx := by
    refine h.arrays (.key k :: path) i inner k' x (open_cons hk hpath) hk' ?_
    rw [List.cons_append, follow, hw]
    exact hx
  proto path hpath := by
    have hnone := h.proto (.key k :: path) (open_cons hk hpath)
    rw [List.cons_append, follow, hw] at hnone
    exact hnone

theorem Scrubbable.no_proto {v : Json} (h : Scrubbable v) : v.get (units "__proto__") = none := by
  have hnone := h.proto [] open_nil
  cases hv : v.get (units "__proto__") with
  | none => rfl
  | some w =>
    rw [List.nil_append, follow, hv] at hnone
    cases hnone

/-- The induction is on the path: it goes on below an open key, and ends at any other step. -/
theorem Scrubbable.hidden {v : Json} (h : Scrubbable v) : Hidden (scrubValue v) := by
  intro path
  induction path generalizing v with
  | nil =>
    intro k w hk hw
    have hproto : k ≠ units "__proto__" := by
      rintro rfl
      exact absurd hk (by decide)
    rw [List.nil_append, follow, get_scrubValue, if_neg hproto, hk] at hw
    cases hv : v.get k with
    | none => rw [hv] at hw; cases hw
    | some x =>
      rw [hv] at hw
      exact (Option.some.inj hw).symm
  | cons step path ih =>
    intro k w hk hw
    cases step with
    | key k' =>
      rw [List.cons_append, follow, get_scrubValue] at hw
      split at hw
      · cases hw
      case isFalse hproto =>
        cases hv : v.get k' with
        | none => rw [hv] at hw; cases hw
        | some x =>
          rw [hv] at hw
          cases hsecret : secretKey k' with
          | false =>
            simp only [hsecret, Option.map_some, Option.bind_some, Bool.false_eq_true, if_false] at hw
            exact ih (h.member ⟨hsecret, hproto⟩ hv) k w hk hw
          | true =>
            -- below what is redacted there is nothing
            simp only [hsecret, Option.map_some, Option.bind_some, if_true] at hw
            cases path with
            | nil => cases hw
            | cons step path => cases step <;> cases hw
    | item i =>
      cases v with
      | arr items =>
        rw [scrubValue_arr] at hw
        exact h.arrays [] i path k w open_nil hk hw
      | obj fields => rw [scrubValue] at hw; cases hw
      | _ => cases hw

theorem Scrubbable.kept {v : Json} (h : Scrubbable v) {path : List PathStep} (hpath : Harmless path) :
    (follow path (scrubValue v)).map surface = (follow path v).map surface := by
  induction path generalizing v with
  | nil => exact congrArg some (surface_scrubValue h.no_proto)
  | cons step path ih =>
    cases step with
    | key k =>
      rw [follow, follow]
      by_cases hproto : k = units "__proto__"
      · rw [hproto, h.no_proto, get_scrubValue, if_pos rfl]
      · have hk : OpenKey k := ⟨hpath k List.mem_cons_self, hproto⟩
        rw [get_open hk]
        cases hv : v.get k with
        | none => rfl
        | some w => exact ih (h.member hk hv) fun k' hk' => hpath k' (List.mem_cons_of_mem _ hk')
    | item i =>
      cases v with
      | arr items => rw [scrubValue_arr]
      | obj fields => rw [scrubValue]; rfl
      | _ => rfl

/-- What hides the secrets and keeps the rest was fit for it. -/
theorem scrubbable_of {v : Json} (hhidden : Hidden (scrubValue v))
    (hkept : ∀ path, Harmless path → (follow path (scrubValue v)).map surface = (follow path v).map surface) : Scrubbable v where
  arrays path i inner k w hpath hk hw := by
    refine hhidden (path ++ .item i :: inner) k w hk ?_
    rw [List.append_assoc, List.cons_append, follow_append, follow_scrubValue hpath]
    rw [follow_append] at hw
    cases hx : follow path v with
    | none => rw [hx] at hw; cases hw
    | some x =>
      rw [hx] at hw
      -- the step into an item is taken from an array, which is not scrubbed
      cases x with
      | arr items => rw [Option.map_some, scrubValue_arr]; exact hw
      | _ => cases hw
  proto path hpath := by
    have hharmless : Harmless (path ++ [.key (units "__proto__")]) := by
      intro k hk
      rcases List.mem_append.mp hk with hk | hk
      · obtain ⟨k', he, hopen⟩ := hpath _ hk
        cases he
        exact hopen.1
      · cases List.mem_singleton.mp hk
        decide
    have hsame := hkept _ hharmless
    have hnone : follow (path ++ [.key (units "__proto__")]) (scrubValue v) = none := by
      rw [follow_append, follow_scrubValue hpath]
      cases follow path v with
      | none => rfl
      | some x =>
        rw [Option.map_some, Option.bind_some, follow, get_scrubValue, if_pos rfl]
        rfl
    rw [hnone] at hsame
    exact Option.map_eq_none_iff.mp hsame.symm

end Scrubbing

/-- What is stored of an event are its scrubbed metadata. -/
theorem insertAuditEvent_metadata (rt : Runtime) (event : AuditInput) (c : Settings) (db : Db) :
    ∃ rows, (insertAuditEvent rt event).effect c db db = { db with audit_events := db.audit_events ++ rows } ∧
      ∀ row ∈ rows, row.metadata = (Json.obj (scrubSecrets event.metadata)).stringify := by
  rw [Stmt.effect]
  cases hrun : (insertAuditEvent rt event).run c db with
  | error e => exact ⟨[], by simp, fun _ h => (List.not_mem_nil h).elim⟩
  | ok p =>
    obtain ⟨r, w⟩ := p
    obtain ⟨row, hrow, rfl⟩ := insertAuditEvent_ok hrun
    refine ⟨[row], rfl, fun row' h => ?_⟩
    rw [List.mem_singleton.mp h]
    simp only [auditRow] at hrow
    cases hu : uuidParameter rt (event.actorId.map .str) with
    | error e => rw [hu] at hrow; cases hrow
    | ok user => rw [hu] at hrow; cases hrow; rfl

/-- The metadata of an event are redacted at every depth, and otherwise stored as they are,
exactly where no array holds a secret and no object outside arrays has an own `__proto__`. -/
theorem metadata_scrubbed (rt : Runtime) (event : AuditInput) : Scrubs rt event ↔ Scrubbable (.obj event.metadata) := by
  have hvalue : Json.obj (scrubSecrets event.metadata) = scrubValue (.obj event.metadata) := by rw [scrubValue]
  constructor
  · intro h
    exact scrubbable_of (hvalue ▸ h.hidden) fun path hpath => hvalue ▸ h.kept path hpath
  · intro h
    have hhidden : Hidden (.obj (scrubSecrets event.metadata)) := hvalue ▸ h.hidden
    refine ⟨hhidden, fun path hpath => hvalue ▸ h.kept hpath, fun c db => ?_⟩
    obtain ⟨rows, heffect, hrows⟩ := insertAuditEvent_metadata rt event c db
    exact ⟨rows, heffect, fun row hrow => ⟨_, hrows row hrow, hhidden⟩⟩

/-- An event with the metadata `{ items: [{ password: 'x' }] }`. -/
def loginEvent : AuditInput where
  eventType := units "login"
  result := units "ok"
  metadata := [(units "items", .arr [.obj [(units "password", .str (units "x"))]])]

theorem metadata_scrubbed_array : ¬ Scrubs (.pilot true id) loginEvent := by
  intro h
  have hw := h.hidden [.key (units "items"), .item 0] (units "password") (.str (units "x")) (by decide) ?_
  · exact absurd (Json.str.inj hw) (by decide)
  · rw [loginEvent, scrubSecrets]
    rfl

end GalaxiaAin.Tenant
