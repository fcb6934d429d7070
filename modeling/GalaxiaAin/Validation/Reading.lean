import GalaxiaAin.Validation.Sanitize

/-! What a property of a body reads as, own or inherited, and which of the entries of a body
arrives at a property after the sanitiser. -/
namespace GalaxiaAin.Validation
open GalaxiaAin.Library

/-- The prototypes of the language. -/
inductive Standard where
  | object | array | string | number | boolean
  deriving DecidableEq

/-- What is read: nothing, a value, a method of a standard prototype, or such a prototype. -/
inductive Read where
  | undefined
  | value (v : Value)
  | method (p : Standard) (name : Text)
  | standard (p : Standard)

section
variable (methods : Standard → Text → Bool)

/-- A property of a standard prototype. `__proto__` is the accessor of `Object.prototype`,
which gives the prototype of the receiver. -/
def standardProperty (receiver : Read) (p : Standard) (key : Text) : Read :=
  if methods p key then .method p key
  else if methods .object key then .method .object key
  else if key = Value.PROTO then receiver
  else .undefined

namespace Value

/-- The prototype of a value. -/
def proto : Value → Read
  | .null => .undefined
  | .bool _ => .standard .boolean
  | .num _ => .standard .number
  | .str _ => .standard .string
  | .arr _ => .standard .array
  | .obj none _ => .standard .object
  | .obj (some p) _ => .value p

/-- The property of a value, or of the prototypes behind it. -/
def property (receiver : Read) : Value → Text → Read
  | .null, _ => .undefined
  | .bool _, key => standardProperty methods receiver .boolean key
  | .num _, key => standardProperty methods receiver .number key
  | .str s, key =>
    if key = units "length" then .value (.num (.finite s.length))
    else
      match (arrayIndex key).bind fun i => s[i]? with
      | some c => .value (.str [c])
      | none => standardProperty methods receiver .string key
  | .arr items, key =>
    if key = units "length" then .value (.num (.finite items.length))
    else
      match (arrayIndex key).bind fun i => items[i]? with
      | some v => .value v
      | none => standardProperty methods receiver .array key
  | .obj none fields, key =>
    match own fields key with
    | some v => .value v
    | none => standardProperty methods receiver .object key
  | .obj (some p) fields, key =>
    match own fields key with
    | some v => .value v
    | none => p.property receiver key

end Value

/-- `base[key]`; none is the TypeError of null. -/
def getProperty (base : Value) (key : Text) : Option Read :=
  match base with
  | .null => none
  | v => some (v.property methods v.proto key)

/-! ### Arrival -/

/-- The value at the last key that sanitises to a field. -/
def lastAt (fields : List (Text × Value)) (field : Text) : Option Value :=
  (fields.reverse.find? fun f => sanitizeString f.1 100 == field).map (·.2)

/-- What the keys make of an object that sanitise to `__proto__`. -/
def protoOf (maxDepth : Nat) (fields : List (Text × Value)) : Value :=
  ((sanitizedEntries maxDepth fields).filter fun f => f.1 == Value.PROTO).foldl (fun (o : Value) f => o.put f.1 f.2)
    (Value.obj none [])

/-- What arrives at a field of a sanitised body: for an object, the value of the last key that
sanitises to the field, else what is inherited from a prototype that a key has set. -/
def arriving (maxDepth : Nat) (body : Value) (field : Text) : Option Read :=
  match body with
  | .obj _ fields =>
    match if field = Value.PROTO then none else lastAt fields field with
    | some v => some (.value (sanitizeObject maxDepth v))
    | none => getProperty methods (protoOf maxDepth fields) field
  | .arr items =>
    match (arrayIndex field).bind fun i => items[i]? with
    | some v => some (.value (sanitizeObject maxDepth v))
    | none => getProperty methods (.arr items) field
  | .str s => getProperty methods (.str (sanitizeString s 1000)) field
  | v => getProperty methods v field

end

/-! ### Properties after an assignment -/

theorem own_cons (f : Text × Value) (fields : List (Text × Value)) (key : Text) :
    Value.own (f :: fields) key = if f.1 = key then some f.2 else Value.own fields key := by
  by_cases h : f.1 = key
  · simp [Value.own, h]
  · simp [Value.own, h]

theorem own_append (fields more : List (Text × Value)) (key : Text) :
    Value.own (fields ++ more) key = (Value.own fields key).or (Value.own more key) := by
  induction fields with
  | nil => rfl
  | cons f fields ih =>
    rw [List.cons_append, own_cons, own_cons, ih]
    split <;> rfl

theorem own_eq_none {fields : List (Text × Value)} {key : Text} (h : ∀ f ∈ fields, f.1 ≠ key) : Value.own fields key = none := by
  rw [Value.own, Option.map_eq_none_iff, List.find?_eq_none]
  intro f hf hkey
  exact h f hf (eq_of_beq hkey)

theorem own_replace (fields : List (Text × Value)) (key k : Text) (v : Value) (h : fields.any (fun f => f.1 == key) = true) :
    Value.own (fields.map fun f => if f.1 = key then (key, v) else f) k = if key = k then some v else Value.own fields k := by
  induction fields with
  | nil => cases h
  | cons f fields ih =>
    rw [List.map_cons, own_cons, own_cons]
    by_cases hf : f.1 = key
    · rw [if_pos hf]
      subst hf
      split
      case isTrue => rfl
      case isFalse hk =>
        cases hany : fields.any fun g => g.1 == f.1 with
        | true => rw [ih hany, if_neg hk]
        | false =>
          have hsame : (fields.map fun g => if g.1 = f.1 then (f.1, v) else g) = fields := by
            rw [List.map_congr_left (g := id), List.map_id]
            intro g hg
            rw [List.any_eq_false] at hany
            exact if_neg fun hkey => hany g hg (beq_iff_eq.mpr hkey)
          rw [hsame]
    · have hany : fields.any (fun g => g.1 == key) = true := by simpa [hf] using h
      rw [if_neg hf, ih hany]
      by_cases hk : key = k
      · subst hk
        rw [if_neg hf, if_pos rfl, if_pos rfl]
      · rw [if_neg hk, if_neg hk]

theorem own_putProperty (fields : List (Text × Value)) (key k : Text) (v : Value) :
    Value.own (putProperty fields key v) k = if key = k then some v else Value.own fields k := by
  unfold putProperty
  split
  case isTrue hany => exact own_replace fields key k v hany
  case isFalse hany =>
    have hnew : ∀ f ∈ fields, f.1 ≠ key := by
      intro f hf hkey
      exact hany (List.any_eq_true.mpr ⟨f, hf, beq_iff_eq.mpr hkey⟩)
    cases arrayIndex key with
    | none =>
      rw [own_append, own_cons]
      by_cases hk : key = k
      · subst hk
        rw [own_eq_none hnew, if_pos rfl, if_pos rfl]
        rfl
      · rw [if_neg hk, if_neg hk]
        exact Option.or_none
    | some i =>
      rw [own_append, own_cons]
      by_cases hk : key = k
      · subst hk
        rw [own_eq_none fun f hf => hnew f ((List.takeWhile_sublist _).subset hf), if_pos rfl, if_pos rfl]
        rfl
      · rw [if_neg hk, if_neg hk, ← own_append, List.takeWhile_append_dropWhile]

/-! ### Objects by assignment -/

/-- The object that entries make has the prototype and the own `__proto__` that the entries at
`__proto__` make alone, and otherwise the last entry at each key. -/
theorem assigned (entries : List (Text × Value)) : ∃ proto F G,
    entries.foldl (fun (o : Value) f => o.put f.1 f.2) (Value.obj none []) = .obj proto F ∧
      (entries.filter fun f => f.1 == Value.PROTO).foldl (fun (o : Value) f => o.put f.1 f.2) (Value.obj none []) = .obj proto G ∧
      Value.own F Value.PROTO = Value.own G Value.PROTO ∧
      ∀ k, k ≠ Value.PROTO → Value.own F k = Value.own entries.reverse k ∧ Value.own G k = none := by
  induction entries using List.reverseRecOn with
  | nil => exact ⟨none, [], [], rfl, rfl, rfl, fun k _ => ⟨rfl, rfl⟩⟩
  | append_singleton entries f ih =>
    obtain ⟨proto, F, G, hF, hG, hproto, hown⟩ := ih
    rw [List.foldl_append, hF, List.filter_append, List.foldl_append, hG, List.reverse_append, List.reverse_singleton,
      List.singleton_append]
    obtain ⟨key, v⟩ := f
    by_cases hkey : key = Value.PROTO
    · subst hkey
      have hfilter : [(Value.PROTO, v)].filter (fun f => f.1 == Value.PROTO) = [(Value.PROTO, v)] := by
        rw [List.filter_singleton, beq_self_eq_true]
        rfl
      have hrest (k : Text) (hk : k ≠ Value.PROTO) : Value.own ((Value.PROTO, v) :: entries.reverse) k = Value.own F k := by
        rw [own_cons, if_neg hk.symm, (hown k hk).1]
      have haccessor : Value.protoAccessor (.obj proto F) = Value.protoAccessor (.obj proto G) := by
        cases proto <;> simp only [Value.protoAccessor, hproto]
      rw [hfilter]
      simp only [List.foldl_cons, List.foldl_nil, Value.put, true_and, haccessor]
      split
      case isTrue =>
        have hkept (k : Text) (hk : k ≠ Value.PROTO) :
            Value.own F k = Value.own ((Value.PROTO, v) :: entries.reverse) k ∧ Value.own G k = none :=
          ⟨(hrest k hk).symm, (hown k hk).2⟩
        cases v <;> exact ⟨_, F, G, rfl, rfl, hproto, hkept⟩
      case isFalse =>
        refine ⟨proto, _, _, rfl, rfl, ?_, fun k hk => ?_⟩
        · rw [own_putProperty, own_putProperty, if_pos rfl, if_pos rfl]
        · rw [own_putProperty, own_putProperty, if_neg hk.symm, if_neg hk.symm]
          exact ⟨(hrest k hk).symm, (hown k hk).2⟩
    · have hfilter : [(key, v)].filter (fun f => f.1 == Value.PROTO) = [] := by
        rw [List.filter_singleton, beq_eq_false_iff_ne.mpr hkey]
        rfl
      have hput : (Value.obj proto F).put key v = .obj proto (putProperty F key v) := if_neg fun h => hkey h.1
      rw [hfilter]
      refine ⟨proto, putProperty F key v, G, hput, rfl, ?_, fun k hk => ⟨?_, (hown k hk).2⟩⟩
      · rw [own_putProperty, if_neg hkey, hproto]
      · rw [own_putProperty, own_cons, (hown k hk).1]

/-- What the object reads at a key. -/
theorem getProperty_assigned (methods : Standard → Text → Bool) (entries : List (Text × Value)) (key : Text) :
    getProperty methods (entries.foldl (fun (o : Value) f => o.put f.1 f.2) (Value.obj none [])) key =
      match if key = Value.PROTO then none else Value.own entries.reverse key with
      | some v => some (.value v)
      | none => getProperty methods ((entries.filter fun f => f.1 == Value.PROTO).foldl (fun (o : Value) f => o.put f.1 f.2)
          (Value.obj none [])) key := by
  obtain ⟨proto, F, G, hF, hG, hproto, hown⟩ := assigned entries
  rw [hF, hG]
  by_cases hkey : key = Value.PROTO
  · subst hkey
    rw [if_pos rfl]
    cases proto <;> simp only [getProperty, Value.property, Value.proto, hproto]
  · rw [if_neg hkey, ← (hown key hkey).1]
    cases h : Value.own F key with
    | some v => cases proto <;> simp only [getProperty, Value.property, h]
    | none => cases proto <;> simp only [getProperty, Value.property, Value.proto, h, (hown key hkey).2]

theorem own_sanitizedEntries (maxDepth : Nat) (fields : List (Text × Value)) (field : Text) :
    Value.own (sanitizedEntries maxDepth fields).reverse field = (lastAt fields field).map (sanitizeObject maxDepth) := by
  rw [sanitizedEntries, ← List.map_reverse, Value.own, List.find?_map, Option.map_map, lastAt, Option.map_map]
  rfl

/-- What a body reads after the sanitiser. -/
theorem getProperty_sanitizeObject (methods : Standard → Text → Bool) (maxDepth : Nat) (body : Value) (field : Text) :
    getProperty methods (sanitizeObject (maxDepth + 1) body) field = arriving methods maxDepth body field := by
  cases body with
  | null => rfl
  | bool b => rfl
  | num x => rfl
  | str s => rfl
  | arr items =>
    rw [sanitizeObject, arriving]
    by_cases hfield : field = units "length"
    · subst hfield
      have hindex : arrayIndex (units "length") = none := by decide
      rw [hindex]
      simp only [getProperty, Value.property, Value.proto, List.length_map, Option.bind_none, if_pos]
    · have hitem : ((arrayIndex field).bind fun i => (items.map (sanitizeObject maxDepth))[i]?) =
          ((arrayIndex field).bind fun i => items[i]?).map (sanitizeObject maxDepth) := by
        cases arrayIndex field with
        | none => rfl
        | some i => exact List.getElem?_map
      simp only [getProperty, Value.property, Value.proto, if_neg hfield, hitem]
      cases (arrayIndex field).bind fun i => items[i]? with
      | none => rfl
      | some v => rfl
  | obj proto fields =>
    rw [sanitizeObject_obj, getProperty_assigned, arriving, own_sanitizedEntries]
    by_cases hfield : field = Value.PROTO
    · rw [if_pos hfield, if_pos hfield]
      rfl
    · rw [if_neg hfield, if_neg hfield]
      cases lastAt fields field with
      | none => rfl
      | some v => rfl

end GalaxiaAin.Validation
