import GalaxiaAin.Validation.Reading

/-! The rules for the fields of a request body. They are checked on the body as it came, and
the handler reads the body that the sanitiser makes of it. -/
namespace GalaxiaAin.Validation
open GalaxiaAin.Library

/-! ### Rules -/

inductive FieldType where
  | string | number | boolean | object | array
  deriving DecidableEq

def FieldType.name : FieldType → Text
  | .string => units "string"
  | .number => units "number"
  | .boolean => units "boolean"
  | .object => units "object"
  | .array => units "array"

/-- A regular expression. A test that keeps a position between the calls can miss a match. -/
structure Pattern where
  accepts : Text → Bool
  test : Text → Bool
  test_accepts : ∀ t, test t = true → accepts t = true

/-- A rule; the custom predicate can throw. -/
structure Rule where
  required : Bool
  type : Option FieldType
  min : Option Number
  max : Option Number
  pattern : Option Pattern
  custom : Option (Read → Option Bool)

namespace Read

/-- `value === undefined || value === null`. -/
def absent : Read → Bool
  | .undefined | .value .null => true
  | _ => false

/-- `value === ''`. -/
def empty : Read → Bool
  | .value (.str []) => true
  | _ => false

/-- `Array.isArray(value) ? 'array' : typeof value`. -/
def actualType : Read → Text
  | .undefined => units "undefined"
  | .value .null => units "object"
  | .value (.bool _) => units "boolean"
  | .value (.num _) => units "number"
  | .value (.str _) => units "string"
  | .value (.arr _) => units "array"
  | .value (.obj _ _) => units "object"
  | .method _ _ => units "function"
  | .standard .array => units "array"
  | .standard _ => units "object"

/-- What the bounds of a rule are about: a number, or the length of a string. -/
def measure : Read → Option Number
  | .value (.num x) => some x
  | .value (.str s) => some (.finite s.length)
  | _ => none

end Read

/-! ### Checks -/

section
variable (methods : Standard → Text → Bool) (showNumber : Number → Text)

/-- A number within bounds; strings and the rest do not come here. -/
def validateNumber (num : Number) (min max : Option Number) : Option Number :=
  match num with
  | .finite x =>
    if min.any fun m => m.exceeds (.finite x) then none
    else if max.any fun m => (Number.finite x).exceeds m then none
    else some (.finite x)
  | _ => none

def stringErrors (field : Text) (rule : Rule) (s : Text) : List Text :=
  (match rule.min with
    | some min =>
      if min.exceeds (.finite s.length) then [field ++ units " must be at least " ++ showNumber min ++ units " characters"] else []
    | none => []) ++
  (match rule.max with
    | some max =>
      if (Number.finite s.length).exceeds max then [field ++ units " must be at most " ++ showNumber max ++ units " characters"] else []
    | none => []) ++
  match rule.pattern with
  | some pattern => if pattern.test s then [] else [field ++ units " format is invalid"]
  | none => []

def numberErrors (field : Text) (rule : Rule) (num : Number) : List Text :=
  match validateNumber num rule.min rule.max with
  | none => [field ++ units " must be a valid number"]
  | some _ => []

/-- The errors of a field; none when the custom predicate throws. -/
def checkField (field : Text) (rule : Rule) (value : Read) : Option (List Text) :=
  if rule.required && (value.absent || value.empty) then some [field ++ units " is required"]
  else if !rule.required && value.absent then some []
  else if rule.type.any fun t => value.actualType != t.name then
    some (rule.type.toList.map fun t => field ++ units " must be of type " ++ t.name)
  else
    let errors := match rule.type, value with
      | some .string, .value (.str s) => stringErrors showNumber field rule s
      | some .number, .value (.num x) => numberErrors field rule x
      | _, _ => []
    match rule.custom with
    | none => some errors
    | some custom =>
      match custom value with
      | none => none
      | some true => some errors
      | some false => some (errors ++ [field ++ units " validation failed"])

/-- The errors of a body; none when a check throws. -/
def checkRules (body : Value) : List (Text × Rule) → Option (List Text)
  | [] => some []
  | (field, rule) :: rules =>
    match getProperty methods body field with
    | none => none
    | some value =>
      match checkField showNumber field rule value, checkRules body rules with
      | some errors, some more => some (errors ++ more)
      | _, _ => none

/-- `req.body || {}`. -/
def orEmpty : Value → Value
  | .null | .bool false | .num (.finite 0) | .num .nan | .str [] => .obj none []
  | v => v

/-- An answer, or the body for the next handler. -/
inductive Outcome where
  | rejected (status : Nat) (error : Text) (errors : Option (List Text))
  | next (body : Value)

def validateRequestBody (rules : List (Text × Rule)) (body : Value) : Outcome :=
  match checkRules methods showNumber (orEmpty body) rules with
  | none => .rejected 400 (units "Invalid request") none
  | some [] => .next (sanitizeObject 10 body)
  | some errors => .rejected 400 (units "Validation failed") (some errors)

end

/-! ### What a rule asks -/

/-- The bounds of a rule, in the order of the checks. -/
def Rule.Within (rule : Rule) (x : Number) : Prop :=
  (∀ min ∈ rule.min, min.exceeds x = false) ∧ ∀ max ∈ rule.max, x.exceeds max = false

/-- What is read satisfies the rule. -/
structure Rule.Satisfies (rule : Rule) (value : Read) : Prop where
  required : rule.required = true → value.absent = false ∧ value.empty = false
  type : value.absent = false → ∀ t ∈ rule.type, value.actualType = t.name
  within : value.absent = false → ∀ x ∈ value.measure, rule.Within x
  pattern : value.absent = false → ∀ p ∈ rule.pattern, ∀ s, value = .value (.str s) → p.accepts s = true
  custom : value.absent = false → ∀ p ∈ rule.custom, p value = some true

/-- A rule with bounds or a pattern names a type. -/
def Rule.Typed (rule : Rule) : Prop := rule.type = none → rule.min = none ∧ rule.max = none ∧ rule.pattern = none

/-- An object whose field goes through the sanitiser as it is: no other key becomes the
field, its value is tidy and within the depth, and a field it does not have is not inherited. -/
def Intact (body : Value) (field : Text) : Prop :=
  ∃ fields, body = .obj none fields ∧ field ≠ Value.PROTO ∧
    (∀ f ∈ fields, sanitizeString f.1 100 = field → f.1 = field) ∧
    match Value.own fields field with
    | some v => sanitizeString field 100 = field ∧ Shaped Tidy 9 v ∧ NoProtoKey v
    | none => ∀ f ∈ fields, sanitizeString f.1 100 ≠ Value.PROTO

/-! ### The checks and the rules -/

section
variable {methods : Standard → Text → Bool} {showNumber : Number → Text}

theorem stringErrors_nil {field : Text} {rule : Rule} {s : Text} (h : stringErrors showNumber field rule s = []) :
    rule.Within (.finite s.length) ∧ ∀ p ∈ rule.pattern, p.test s = true := by
  rw [stringErrors, List.append_eq_nil_iff, List.append_eq_nil_iff] at h
  obtain ⟨⟨hmin, hmax⟩, hpattern⟩ := h
  refine ⟨⟨fun min hmem => ?_, fun max hmem => ?_⟩, fun p hmem => ?_⟩
  · rw [Option.mem_def.mp hmem] at hmin
    by_contra hexceeds
    simp [Bool.eq_true_of_not_eq_false hexceeds] at hmin
  · rw [Option.mem_def.mp hmem] at hmax
    by_contra hexceeds
    simp [Bool.eq_true_of_not_eq_false hexceeds] at hmax
  · rw [Option.mem_def.mp hmem] at hpattern
    by_contra htest
    simp [htest] at hpattern

theorem numberErrors_nil {field : Text} {rule : Rule} {x : Number} (h : numberErrors field rule x = []) : rule.Within x := by
  cases x with
  | finite x =>
    simp only [numberErrors, validateNumber] at h
    by_cases hmin : rule.min.any (fun m => m.exceeds (.finite x)) = true
    · simp [hmin] at h
    · by_cases hmax : rule.max.any (fun m => (Number.finite x).exceeds m) = true
      · simp [hmin, hmax] at h
      · refine ⟨fun min hmem => ?_, fun max hmem => ?_⟩
        · rw [Option.mem_def.mp hmem] at hmin
          exact Bool.eq_false_of_not_eq_true hmin
        · rw [Option.mem_def.mp hmem] at hmax
          exact Bool.eq_false_of_not_eq_true hmax
  | nan => cases h
  | infinity => cases h
  | negInfinity => cases h

/-- A field that is there and has no errors has its type, passes the checks of the type and
the custom predicate. -/
theorem checkField_nil {field : Text} {rule : Rule} {value : Read} (h : checkField showNumber field rule value = some []) :
    (rule.required = true → value.absent = false ∧ value.empty = false) ∧
      (value.absent = false → (∀ t ∈ rule.type, value.actualType = t.name) ∧ (∀ p ∈ rule.custom, p value = some true) ∧
        (∀ s, rule.type = some .string → value = .value (.str s) → stringErrors showNumber field rule s = []) ∧
        ∀ x, rule.type = some .number → value = .value (.num x) → numberErrors field rule x = []) := by
  unfold checkField at h
  split at h
  case isTrue => cases h
  case isFalse hrequired =>
    have hthere (hr : rule.required = true) : value.absent = false ∧ value.empty = false := by
      simpa [hr] using hrequired
    refine ⟨hthere, fun hpresent => ?_⟩
    rw [hpresent, Bool.and_false, if_neg Bool.false_ne_true] at h
    split at h
    case isTrue hany =>
      cases htype : rule.type with
      | none =>
        rw [htype] at hany
        cases hany
      | some t =>
        rw [htype] at h
        cases h
    case isFalse hany =>
      have htype : ∀ t ∈ rule.type, value.actualType = t.name := by
        intro t ht
        rw [Option.mem_def.mp ht] at hany
        simpa using hany
      refine ⟨htype, ?_⟩
      cases hcustom : rule.custom with
      | none =>
        simp only [hcustom, Option.some.injEq] at h
        refine ⟨fun p hp => (Option.not_mem_none p hp).elim, fun s hstring hvalue => ?_, fun x hnumber hvalue => ?_⟩
        · simpa only [hstring, hvalue] using h
        · simpa only [hnumber, hvalue] using h
      | some custom =>
        cases hresult : custom value with
        | none =>
          simp only [hcustom, hresult] at h
          cases h
        | some passed =>
          cases passed with
          | false => simp [hcustom, hresult] at h
          | true =>
            simp only [hcustom, hresult, Option.some.injEq] at h
            refine ⟨fun p hp => ?_, fun s hstring hvalue => ?_, fun x hnumber hvalue => ?_⟩
            · rw [← Option.some.inj (Option.mem_def.mp hp)]
              exact hresult
            · simpa only [hstring, hvalue] using h
            · simpa only [hnumber, hvalue] using h

theorem FieldType.name_injective : Function.Injective FieldType.name := by
  intro t u h
  cases t <;> cases u <;> first | rfl | exact absurd h (by decide)

/-- A field without errors satisfies its rule. -/
theorem checkField_satisfies {field : Text} {rule : Rule} {value : Read} (h : checkField showNumber field rule value = some [])
    (htyped : rule.Typed) : rule.Satisfies value := by
  obtain ⟨hrequired, hchecks⟩ := checkField_nil h
  refine ⟨hrequired, fun hpresent => (hchecks hpresent).1, fun hpresent x hx => ?_, fun hpresent p hp s hs => ?_,
    fun hpresent => (hchecks hpresent).2.1⟩
  · obtain ⟨htype, -, hstring, hnumber⟩ := hchecks hpresent
    cases hrule : rule.type with
    | none =>
      obtain ⟨hmin, hmax, -⟩ := htyped hrule
      rw [Rule.Within, hmin, hmax]
      exact ⟨fun min h => (Option.not_mem_none min h).elim, fun max h => (Option.not_mem_none max h).elim⟩
    | some t =>
      have hname := htype t hrule
      match value, hx with
      | .value (.num y), rfl =>
        have ht : t = .number := FieldType.name_injective hname.symm
        exact numberErrors_nil (hnumber y (by rw [hrule, ht]) rfl)
      | .value (.str s), rfl =>
        have ht : t = .string := FieldType.name_injective hname.symm
        exact (stringErrors_nil (hstring s (by rw [hrule, ht]) rfl)).1
  · subst hs
    obtain ⟨htype, -, hstring, -⟩ := hchecks hpresent
    cases hrule : rule.type with
    | none =>
      rw [(htyped hrule).2.2] at hp
      cases hp
    | some t =>
      have ht : t = .string := FieldType.name_injective (htype t hrule).symm
      exact p.test_accepts s ((stringErrors_nil (hstring s (by rw [hrule, ht]) rfl)).2 p hp)

/-- Every ruled field of an accepted body is without errors. -/
theorem checkRules_nil {body : Value} {rules : List (Text × Rule)} (h : checkRules methods showNumber body rules = some []) :
    ∀ f ∈ rules, ∃ value, getProperty methods body f.1 = some value ∧ checkField showNumber f.1 f.2 value = some [] := by
  induction rules with
  | nil => exact fun f hf => (List.not_mem_nil hf).elim
  | cons f rules ih =>
    rw [checkRules] at h
    split at h
    case h_1 => cases h
    case h_2 value hvalue =>
      split at h
      case h_1 errors more herrors hmore =>
        obtain ⟨rfl, rfl⟩ := List.append_eq_nil_iff.mp (Option.some.inj h)
        intro g hg
        rcases List.mem_cons.mp hg with rfl | hg
        · exact ⟨value, hvalue, herrors⟩
        · exact ih hmore g hg
      case h_2 => cases h

/-! ### What the handler reads -/

/-- With different keys, the last entry at a key is the first. -/
theorem own_reverse {fields : List (Text × Value)} (h : Json.Ordered fields) (key : Text) :
    Value.own fields.reverse key = Value.own fields key := by
  induction fields with
  | nil => rfl
  | cons f fields ih =>
    obtain ⟨hfirst, hrest⟩ := List.pairwise_cons.mp h
    rw [List.reverse_cons, own_append, ih hrest, own_cons, own_cons]
    by_cases hkey : f.1 = key
    · have hnone : Value.own fields key = none := own_eq_none fun g hg hg' => (hfirst g hg).1 (hkey.trans hg'.symm)
      rw [hnone, if_pos hkey, if_pos hkey]
      rfl
    · rw [if_neg hkey, if_neg hkey]
      exact Option.or_none

/-- When no other key becomes a field, the last key that does is the last one that is the field. -/
theorem lastAt_eq {fields : List (Text × Value)} {field : Text} (h : ∀ f ∈ fields, sanitizeString f.1 100 = field ↔ f.1 = field) :
    lastAt fields field = Value.own fields.reverse field := by
  have hsame : ∀ f ∈ fields.reverse, (sanitizeString f.1 100 == field) = (f.1 == field) := by
    intro f hf
    rw [Bool.eq_iff_iff, beq_iff_eq, beq_iff_eq]
    exact h f (List.mem_reverse.mp hf)
  rw [lastAt, Value.own, ← List.head?_filter, List.filter_congr hsame, List.head?_filter]

/-- An intact field arrives as it is. -/
theorem arriving_intact {body : Value} {field : Text} (hjson : IsJson body) (h : Intact body field) :
    arriving methods 9 body field = getProperty methods body field := by
  obtain ⟨fields, rfl, hfield, hkeys, hvalue⟩ := h
  cases hjson with
  | obj _ ordered _ =>
    rw [arriving, if_neg hfield]
    cases hown : Value.own fields field with
    | some v =>
      rw [hown] at hvalue
      obtain ⟨hname, hshape, hproto⟩ := hvalue
      have hlast : lastAt fields field = some v := by
        rw [lastAt_eq, own_reverse ordered, hown]
        intro f hf
        constructor
        · exact hkeys f hf
        · intro hkey
          rw [hkey, hname]
      simp only [hlast, getProperty, Value.property, hown, sanitizeObject_tidy hshape hproto]
    | none =>
      rw [hown] at hvalue
      have hlast : lastAt fields field = none := by
        rw [lastAt, Option.map_eq_none_iff, List.find?_eq_none]
        intro f hf hkey
        rw [Value.own, Option.map_eq_none_iff, List.find?_eq_none] at hown
        exact hown f (List.mem_reverse.mp hf) (beq_iff_eq.mpr (hkeys f (List.mem_reverse.mp hf) (eq_of_beq hkey)))
      have hprotoOf : protoOf 9 fields = .obj none [] := by
        rw [protoOf, List.filter_eq_nil_iff.mpr]
        · rfl
        · intro f hf hkey
          obtain ⟨g, hg, rfl⟩ := List.mem_map.mp hf
          exact hvalue g hg (eq_of_beq hkey)
      simp only [hlast, hprotoOf, getProperty, Value.property, Value.proto, hown]
      rfl

end

/-- A name is required. -/
def nameRequired : List (Text × Rule) :=
  [(units "name", { required := true, type := none, min := none, max := none, pattern := none, custom := none })]

def named (name : Text) : Value := .obj none [(units "name", .str name)]

theorem isJson_named (name : Text) : IsJson (named name) := by
  apply IsJson.obj
  · exact List.pairwise_singleton _ _
  · intro f hf
    rw [List.mem_singleton.mp hf]
    exact .str _

end GalaxiaAin.Validation
