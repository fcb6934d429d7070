import GalaxiaAin.Library.JsonHeld

/-! The sanitiser of request bodies. It goes down to a depth, rewrites strings and keys, and
assigns to the objects it makes, where a key `__proto__` sets the prototype. -/
namespace GalaxiaAin.Validation
open GalaxiaAin.Library

/-! ### Values -/

/-- A value of a body. The prototype of an object is `Object.prototype` (none), or what was
assigned to `__proto__`. -/
inductive Value where
  | null
  | bool (b : Bool)
  | num (x : Number)
  | str (s : Text)
  | arr (items : List Value)
  | obj (proto : Option Value) (fields : List (Text × Value))

/-- What JSON.parse gives: plain objects, and numbers that may be infinite. -/
inductive IsJson : Value → Prop
  | null : IsJson .null
  | bool (b : Bool) : IsJson (.bool b)
  | num (x : Number) (h : x ≠ .nan) : IsJson (.num x)
  | str (s : Text) : IsJson (.str s)
  | arr (items : List Value) (h : ∀ v ∈ items, IsJson v) : IsJson (.arr items)
  | obj (fields : List (Text × Value)) (ordered : Json.Ordered fields) (h : ∀ f ∈ fields, IsJson f.2) : IsJson (.obj none fields)

namespace Value

def PROTO : Text := units "__proto__"

def own (fields : List (Text × Value)) (key : Text) : Option Value := (fields.find? fun f => f.1 == key).map (·.2)

/-- Whether `__proto__` of a value is the accessor of `Object.prototype`. -/
def protoAccessor : Value → Bool
  | .obj none fields => (own fields PROTO).isNone
  | .obj (some proto) fields => (own fields PROTO).isNone && protoAccessor proto
  | .arr _ => true
  | _ => false

/-- `object[key] = v`. -/
def put (object : Value) (key : Text) (v : Value) : Value :=
  match object with
  | .obj proto fields =>
    if key = PROTO ∧ protoAccessor object = true then
      match v with
      | .null | .arr _ | .obj _ _ => .obj (some v) fields
      | _ => object
    else .obj proto (putProperty fields key v)
  | _ => object

end Value

/-! ### Sanitising -/

/-- NULs are removed, the ends are trimmed, and the length is limited. -/
def sanitizeString (input : Text) (maxLength : Nat) : Text :=
  let sanitized := trim (input.filter (· != 0))
  if maxLength < sanitized.length then sanitized.take maxLength else sanitized

def sanitizeNumber : Number → Number
  | .finite x => .finite x
  | _ => .finite 0

def sanitizeObject : Nat → Value → Value
  | 0, _ => .obj none []
  | _ + 1, .null => .null
  | _ + 1, .str s => .str (sanitizeString s 1000)
  | _ + 1, .num x => .num (sanitizeNumber x)
  | _ + 1, .bool b => .bool b
  | maxDepth + 1, .arr items => .arr (items.map (sanitizeObject maxDepth))
  | maxDepth + 1, .obj _ fields =>
    fields.foldl (fun sanitized f => sanitized.put (sanitizeString f.1 100) (sanitizeObject maxDepth f.2)) (.obj none [])

/-! ### Shapes -/

/-- A JSON value of a number of levels, with finite numbers, whose strings and keys have a
property of a text and its greatest length. -/
inductive Shaped (text : Nat → Text → Prop) : Nat → Value → Prop
  | null (n : Nat) : Shaped text (n + 1) .null
  | bool (n : Nat) (b : Bool) : Shaped text (n + 1) (.bool b)
  | num (n : Nat) (x : ℚ) : Shaped text (n + 1) (.num (.finite x))
  | str (n : Nat) (s : Text) (h : text 1000 s) : Shaped text (n + 1) (.str s)
  | arr (n : Nat) (items : List Value) (h : ∀ v ∈ items, Shaped text n v) : Shaped text (n + 1) (.arr items)
  | obj (n : Nat) (fields : List (Text × Value)) (ordered : Json.Ordered fields) (keys : ∀ f ∈ fields, text 100 f.1)
      (h : ∀ f ∈ fields, Shaped text n f.2) : Shaped text (n + 1) (.obj none fields)

/-- A text of a limited length without NUL. -/
def Bounded (maxLength : Nat) (t : Text) : Prop := t.length ≤ maxLength ∧ 0 ∉ t

/-- One that is trimmed too. -/
def Tidy (maxLength : Nat) (t : Text) : Prop := Bounded maxLength t ∧ trim t = t

/-- No key of an object, at any depth, sanitises to `__proto__`. -/
inductive NoProtoKey : Value → Prop
  | null : NoProtoKey .null
  | bool (b : Bool) : NoProtoKey (.bool b)
  | num (x : Number) : NoProtoKey (.num x)
  | str (s : Text) : NoProtoKey (.str s)
  | arr (items : List Value) (h : ∀ v ∈ items, NoProtoKey v) : NoProtoKey (.arr items)
  | obj (proto : Option Value) (fields : List (Text × Value)) (keys : ∀ f ∈ fields, sanitizeString f.1 100 ≠ Value.PROTO)
      (h : ∀ f ∈ fields, NoProtoKey f.2) : NoProtoKey (.obj proto fields)

/-! ### Texts -/

theorem mem_trim {c : UInt16} {t : Text} (h : c ∈ trim t) : c ∈ t :=
  (List.dropWhile_sublist _).subset (List.mem_reverse.mp ((List.dropWhile_sublist _).subset (List.mem_reverse.mp h)))

theorem bounded_sanitizeString (input : Text) (maxLength : Nat) : Bounded maxLength (sanitizeString input maxLength) := by
  have hnul : 0 ∉ trim (input.filter (· != 0)) := by
    intro h
    have hmem := mem_trim h
    rw [List.mem_filter] at hmem
    exact absurd hmem.2 (by decide)
  simp only [sanitizeString]
  split
  case isTrue =>
    exact ⟨by rw [List.length_take]; omega, fun h => hnul ((List.take_sublist _ _).subset h)⟩
  case isFalse h => exact ⟨not_lt.mp h, hnul⟩

/-- A tidy text stays. -/
theorem sanitizeString_tidy {maxLength : Nat} {t : Text} (h : Tidy maxLength t) : sanitizeString t maxLength = t := by
  obtain ⟨⟨hlength, hnul⟩, htrim⟩ := h
  have hfilter : t.filter (· != 0) = t := by
    rw [List.filter_eq_self]
    intro c hc
    simp only [bne_iff_ne, ne_eq]
    rintro rfl
    exact hnul hc
  simp only [sanitizeString, hfilter, htrim]
  exact if_neg (not_lt.mpr hlength)

/-! ### Objects -/

/-- The object with the properties that are assigned one after another. -/
theorem foldl_put {entries : List (Text × Value)} (hkeys : ∀ f ∈ entries, f.1 ≠ Value.PROTO) (proto : Option Value)
    (fields : List (Text × Value)) :
    entries.foldl (fun (o : Value) f => o.put f.1 f.2) (Value.obj proto fields) =
      Value.obj proto (entries.foldl (fun fields f => putProperty fields f.1 f.2) fields) := by
  induction entries generalizing fields with
  | nil => rfl
  | cons f entries ih =>
    have hput : (Value.obj proto fields).put f.1 f.2 = .obj proto (putProperty fields f.1 f.2) :=
      if_neg fun h => hkeys f List.mem_cons_self h.1
    rw [List.foldl_cons, List.foldl_cons, hput]
    exact ih (fun g hg => hkeys g (List.mem_cons_of_mem _ hg)) _

theorem ordered_foldl {entries fields : List (Text × Value)} (h : Json.Ordered fields) :
    Json.Ordered (entries.foldl (fun fields f => putProperty fields f.1 f.2) fields) := by
  induction entries generalizing fields with
  | nil => exact h
  | cons f entries ih => exact ih (Json.ordered_putProperty h)

theorem mem_foldl {entries fields : List (Text × Value)} {g : Text × Value}
    (h : g ∈ entries.foldl (fun fields f => putProperty fields f.1 f.2) fields) : g ∈ fields ∨ g ∈ entries := by
  induction entries generalizing fields with
  | nil => exact .inl h
  | cons f entries ih =>
    rcases ih h with hmem | hmem
    · rcases Json.mem_putProperty hmem with hmem | rfl
      · exact .inl hmem
      · exact .inr List.mem_cons_self
    · exact .inr (List.mem_cons_of_mem _ hmem)

/-- Properties in order are assigned in order. -/
theorem foldl_ordered {entries fields : List (Text × Value)} (h : Json.Ordered (fields ++ entries)) :
    entries.foldl (fun fields f => putProperty fields f.1 f.2) fields = fields ++ entries := by
  induction entries generalizing fields with
  | nil => exact (List.append_nil fields).symm
  | cons f entries ih =>
    have hone : Json.Ordered (fields ++ [f]) := h.sublist (List.Sublist.append_left (List.Sublist.cons_cons _ (List.nil_sublist _)) _)
    have hmore : Json.Ordered ((fields ++ [f]) ++ entries) := by simpa using h
    rw [List.foldl_cons, Json.putProperty_last hone, ih hmore, List.append_assoc]
    rfl

/-- The entries that are assigned for an object. -/
def sanitizedEntries (maxDepth : Nat) (fields : List (Text × Value)) : List (Text × Value) :=
  fields.map fun f => (sanitizeString f.1 100, sanitizeObject maxDepth f.2)

theorem sanitizeObject_obj (maxDepth : Nat) (proto : Option Value) (fields : List (Text × Value)) :
    sanitizeObject (maxDepth + 1) (.obj proto fields) =
      (sanitizedEntries maxDepth fields).foldl (fun o f => o.put f.1 f.2) (.obj none []) := by
  rw [sanitizeObject, sanitizedEntries, List.foldl_map]

/-! ### Bounds and identity -/

theorem shaped_empty (text : Nat → Text → Prop) : Shaped text 1 (.obj none []) :=
  .obj 0 [] List.Pairwise.nil (List.forall_mem_nil _) (List.forall_mem_nil _)

theorem shaped_sanitizeObject {v : Value} (h : NoProtoKey v) (maxDepth : Nat) :
    Shaped Bounded (maxDepth + 1) (sanitizeObject maxDepth v) := by
  induction maxDepth generalizing v with
  | zero => exact shaped_empty _
  | succ maxDepth ih =>
    cases h with
    | null => exact .null _
    | bool b => exact .bool _ b
    | num x => cases x <;> exact .num _ _
    | str s => exact .str _ _ (bounded_sanitizeString s 1000)
    | arr items hitems =>
      rw [sanitizeObject]
      apply Shaped.arr
      intro v hv
      obtain ⟨w, hw, rfl⟩ := List.mem_map.mp hv
      exact ih (hitems w hw)
    | obj proto fields keys hfields =>
      have hkeys : ∀ f ∈ sanitizedEntries maxDepth fields, f.1 ≠ Value.PROTO := by
        intro f hf
        obtain ⟨g, hg, rfl⟩ := List.mem_map.mp hf
        exact keys g hg
      have hmem : ∀ f ∈ (sanitizedEntries maxDepth fields).foldl (fun fields f => putProperty fields f.1 f.2) [],
          ∃ g ∈ fields, (sanitizeString g.1 100, sanitizeObject maxDepth g.2) = f := by
        intro f hf
        rcases mem_foldl hf with hf | hf
        · exact (List.not_mem_nil hf).elim
        · exact List.mem_map.mp hf
      rw [sanitizeObject_obj, foldl_put hkeys]
      apply Shaped.obj
      · exact ordered_foldl List.Pairwise.nil
      · intro f hf
        obtain ⟨g, -, rfl⟩ := hmem f hf
        exact bounded_sanitizeString g.1 100
      · intro f hf
        obtain ⟨g, hg, rfl⟩ := hmem f hf
        exact ih (hfields g hg)

theorem Shaped.isJson {text : Nat → Text → Prop} {n : Nat} {v : Value} (h : Shaped text n v) : IsJson v := by
  induction h with
  | null n => exact .null
  | bool n b => exact .bool b
  | num n x => exact .num _ Number.noConfusion
  | str n s _ => exact .str s
  | arr n items _ ih => exact .arr items ih
  | obj n fields ordered _ _ ih => exact .obj fields ordered ih

/-- A tidy value within the depth stays. -/
theorem sanitizeObject_tidy {n : Nat} {v : Value} (h : Shaped Tidy n v) (hproto : NoProtoKey v) : sanitizeObject n v = v := by
  induction h with
  | null n => rfl
  | bool n b => rfl
  | num n x => rfl
  | str n s h => rw [sanitizeObject, sanitizeString_tidy h]
  | arr n items _ ih =>
    cases hproto with
    | arr _ hitems =>
      rw [sanitizeObject, List.map_congr_left (g := id) fun v hv => ih v hv (hitems v hv), List.map_id]
  | obj n fields ordered keys _ ih =>
    cases hproto with
    | obj _ _ hkeys hfields =>
      have hentries : sanitizedEntries n fields = fields := by
        rw [sanitizedEntries, List.map_congr_left (g := id), List.map_id]
        intro f hf
        rw [sanitizeString_tidy (keys f hf), ih f hf (hfields f hf)]
        rfl
      have hplain : ∀ f ∈ fields, f.1 ≠ Value.PROTO := by
        intro f hf
        rw [← sanitizeString_tidy (keys f hf)]
        exact hkeys f hf
      have hfold : fields.foldl (fun fields f => putProperty fields f.1 f.2) [] = [] ++ fields := foldl_ordered ordered
      rw [sanitizeObject_obj, hentries, foldl_put hplain, hfold]
      rfl

/-- The sanitiser makes a bounded JSON value of every value without a key for the prototype,
and returns one that is tidy and within the depth as it is. -/
theorem sanitize_bounds (v : Value) (maxDepth : Nat) (hproto : NoProtoKey v) :
    (IsJson (sanitizeObject maxDepth v) ∧ Shaped Bounded (maxDepth + 1) (sanitizeObject maxDepth v)) ∧
      (Shaped Tidy maxDepth v → sanitizeObject maxDepth v = v) := by
  have hshaped := shaped_sanitizeObject hproto maxDepth
  exact ⟨⟨hshaped.isJson, hshaped⟩, fun h => sanitizeObject_tidy h hproto⟩

/-- A list of depth one keeps its length, and its values become empty objects. -/
theorem sanitize_bounds_list :
    (IsJson (sanitizeObject 1 (.arr [.num .infinity, .str (units " a")])) ∧
      Shaped Bounded 2 (sanitizeObject 1 (.arr [.num .infinity, .str (units " a")]))) ∧
      (Shaped Tidy 1 (.arr [.num .infinity, .str (units " a")]) →
        sanitizeObject 1 (.arr [.num .infinity, .str (units " a")]) = .arr [.num .infinity, .str (units " a")]) := by
  apply sanitize_bounds
  apply NoProtoKey.arr
  intro v hv
  rcases List.mem_pair.mp hv with rfl | rfl
  · exact .num _
  · exact .str _

end GalaxiaAin.Validation
