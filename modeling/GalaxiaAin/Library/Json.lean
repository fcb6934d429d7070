import Mathlib.Data.Nat.Digits.Lemmas
import Mathlib.Tactic.Common

/-! JSON values as JavaScript holds them: strings are sequences of UTF-16 code
units, a number is its canonical decimal text, and an object is its list of own
properties in order. Absent properties are `none`. -/
namespace GalaxiaAin.Library

/-- A JavaScript string. -/
abbrev Text := List UInt16

/-- The code units of a text in the basic multilingual plane. -/
def units (s : String) : Text := s.toList.map fun c => UInt16.ofNat c.toNat

/-- The whitespace `trim` removes. -/
def space (c : UInt16) : Bool :=
  (9 ≤ c && c ≤ 13) || c == 32 || c == 160 || c == 0x1680 || (0x2000 ≤ c && c ≤ 0x200a) || c == 0x2028 || c == 0x2029 ||
    c == 0x202f || c == 0x205f || c == 0x3000 || c == 0xfeff

def trim (t : Text) : Text := ((t.dropWhile space).reverse.dropWhile space).reverse

/-- The units Number.prototype.toString writes for finite numbers: digits, sign, point, exponent. -/
def numeric (c : UInt16) : Bool := (48 ≤ c && c ≤ 57) || c == 43 || c == 45 || c == 46 || c == 101

/-- The text of a finite number. -/
structure Numeral where
  text : Text
  nonempty : text ≠ []
  numeric : ∀ c ∈ text, Library.numeric c = true
  deriving DecidableEq

theorem Numeral.ext_text {a b : Numeral} (h : a.text = b.text) : a = b := by
  cases a; cases b; cases h; rfl

/-- The decimal digits of a natural number, most significant first. -/
def decimal (n : Nat) : Text :=
  if n = 0 then [48] else (Nat.digits 10 n).reverse.map fun d => UInt16.ofNat (48 + d)

private theorem digit_toNat {d : Nat} (h : d < 10) : (UInt16.ofNat (48 + d)).toNat = 48 + d := by
  rw [UInt16.toNat_ofNat']; omega

theorem decimal_numeric (n : Nat) (c : UInt16) (h : c ∈ decimal n) : numeric c = true := by
  unfold decimal at h
  split at h
  · rw [List.mem_singleton.mp h]; decide
  · obtain ⟨d, hd, rfl⟩ := List.mem_map.mp h
    have hlt := Nat.digits_lt_base (by omega : 1 < 10) (List.mem_reverse.mp hd)
    interval_cases d <;> decide

theorem decimal_ne_nil (n : Nat) : decimal n ≠ [] := by
  unfold decimal
  split
  · simp
  · rename_i h
    simpa using Nat.digits_ne_nil_iff_ne_zero.mpr h

/-- The digits of a number are read as the number. -/
theorem ofDigits_decimal (k : Nat) : Nat.ofDigits 10 ((decimal k).reverse.map fun c => c.toNat - 48) = k := by
  unfold decimal
  split
  · rename_i hk; subst hk; decide
  · rw [← List.map_reverse, List.reverse_reverse, List.map_map]
    conv_rhs => rw [← Nat.ofDigits_digits 10 k]
    congr 1
    conv_rhs => rw [← List.map_id (Nat.digits 10 k)]
    refine List.map_congr_left fun d hd => ?_
    have := digit_toNat (Nat.digits_lt_base (by omega : 1 < 10) hd)
    simp only [Function.comp_apply, this, id]
    omega

theorem decimal_injective : Function.Injective decimal := by
  intro m n h
  rw [← ofDigits_decimal m, h, ofDigits_decimal n]

/-- A natural number as a JavaScript number. -/
def Numeral.ofNat (n : Nat) : Numeral := ⟨decimal n, decimal_ne_nil n, decimal_numeric n⟩

theorem Numeral.ofNat_injective : Function.Injective Numeral.ofNat := fun _ _ h =>
  decimal_injective (congrArg Numeral.text h)

inductive Json where
  | null
  | bool (b : Bool)
  | num (n : Numeral)
  | str (s : Text)
  | arr (items : List Json)
  | obj (fields : List (Text × Json))

namespace Json

/-- An own property of an object; other values have none of the names asked for. -/
def get (v : Json) (key : Text) : Option Json :=
  match v with
  | .obj fields => (fields.find? fun f => f.1 == key).map (·.2)
  | _ => none

/-- JavaScript truthiness. -/
def truthy : Json → Bool
  | .null => false
  | .bool b => b
  | .num n => n.text != [48]
  | .str s => s != []
  | .arr _ => true
  | .obj _ => true

mutual
/-- `String(v)`; `none` is the TypeError of an object whose own `toString` hides
the inherited one. -/
def text : Json → Option Text
  | .null => some (units "null")
  | .bool true => some (units "true")
  | .bool false => some (units "false")
  | .num n => some n.text
  | .str s => some s
  | .arr items => textItems items
  | .obj fields => if fields.any (fun f => f.1 == units "toString") then none else some (units "[object Object]")

/-- Array.prototype.join with commas; null elements are empty. -/
def textItems : List Json → Option Text
  | [] => some []
  | v :: rest =>
    match (match v with | .null => some [] | v => v.text), textTail rest with
    | some t, some ts => some (t ++ ts)
    | _, _ => none

def textTail : List Json → Option Text
  | [] => some []
  | v :: rest =>
    match (match v with | .null => some [] | v => v.text), textTail rest with
    | some t, some ts => some (44 :: (t ++ ts))
    | _, _ => none
end

end Json

def highSurrogate (c : UInt16) : Bool := 0xD800 ≤ c && c ≤ 0xDBFF
def lowSurrogate (c : UInt16) : Bool := 0xDC00 ≤ c && c ≤ 0xDFFF

/-- `Buffer.byteLength(s, 'utf8')`; a lone surrogate is replaced by U+FFFD. -/
def byteLength : Text → Nat
  | [] => 0
  | [c] => if c < 0x80 then 1 else if c < 0x800 then 2 else 3
  | c :: d :: rest =>
    if c < 0x80 then 1 + byteLength (d :: rest)
    else if c < 0x800 then 2 + byteLength (d :: rest)
    else if highSurrogate c && lowSurrogate d then 4 + byteLength rest
    else 3 + byteLength (d :: rest)

/-! ### JSON.stringify -/

def hexDigit (n : Nat) : UInt16 := if n < 10 then UInt16.ofNat (48 + n) else UInt16.ofNat (87 + n)

def hexValue (c : UInt16) : Nat := if c < 58 then c.toNat - 48 else c.toNat - 87

/-- `\uXXXX`. -/
def unicodeEscape (c : UInt16) : Text :=
  [92, 117, hexDigit (c.toNat / 4096), hexDigit (c.toNat / 256 % 16), hexDigit (c.toNat / 16 % 16),
    hexDigit (c.toNat % 16)]

/-- A unit that is no surrogate, inside a JSON string. -/
def escapeUnit (c : UInt16) : Text :=
  if c = 8 then [92, 98]
  else if c = 9 then [92, 116]
  else if c = 10 then [92, 110]
  else if c = 12 then [92, 102]
  else if c = 13 then [92, 114]
  else if c = 34 then [92, 34]
  else if c = 92 then [92, 92]
  else if c < 32 then unicodeEscape c
  else [c]

/-- The units between the quotes; a lone surrogate is escaped. -/
def quoteBody : Text → Text
  | [] => []
  | [c] => if highSurrogate c || lowSurrogate c then unicodeEscape c else escapeUnit c
  | c :: d :: rest =>
    if highSurrogate c && lowSurrogate d then c :: d :: quoteBody rest
    else if highSurrogate c || lowSurrogate c then unicodeEscape c ++ quoteBody (d :: rest)
    else escapeUnit c ++ quoteBody (d :: rest)

/-- A JSON string literal. -/
def quote (s : Text) : Text := 34 :: (quoteBody s ++ [34])

namespace Json

mutual
/-- `JSON.stringify(v)`. -/
def stringify : Json → Text
  | .null => units "null"
  | .bool true => units "true"
  | .bool false => units "false"
  | .num n => n.text
  | .str s => quote s
  | .arr [] => [91, 93]
  | .arr (v :: rest) => 91 :: (v.stringify ++ itemsTail rest)
  | .obj [] => [123, 125]
  | .obj ((key, v) :: rest) => 123 :: (quote key ++ 58 :: (v.stringify ++ fieldsTail rest))

def itemsTail : List Json → Text
  | [] => [93]
  | v :: rest => 44 :: (v.stringify ++ itemsTail rest)

def fieldsTail : List (Text × Json) → Text
  | [] => [125]
  | (key, v) :: rest => 44 :: (quote key ++ 58 :: (v.stringify ++ fieldsTail rest))
end

end Json

/-! ### Stringify is injective -/

/-- Read a string literal's body up to its closing quote. -/
def unquote : Text → Option (Text × Text)
  | [] => none
  | 34 :: rest => some ([], rest)
  | 92 :: 117 :: a :: b :: c :: d :: rest =>
    (unquote rest).map fun o =>
      (UInt16.ofNat (hexValue a * 4096 + hexValue b * 256 + hexValue c * 16 + hexValue d) :: o.1, o.2)
  | 92 :: e :: rest =>
    (unquote rest).map fun o =>
      ((if e = 98 then 8 else if e = 116 then 9 else if e = 110 then 10 else if e = 102 then 12
        else if e = 114 then 13 else e) :: o.1, o.2)
  | c :: rest => (unquote rest).map fun o => (c :: o.1, o.2)

private theorem hexValue_hexDigit {n : Nat} (h : n < 16) : hexValue (hexDigit n) = n := by
  interval_cases n <;> decide

private theorem unquote_unicodeEscape (c : UInt16) (rest : Text) :
    unquote (unicodeEscape c ++ rest) = (unquote rest).map fun o => (c :: o.1, o.2) := by
  have hc := c.toNat_lt
  simp only [unicodeEscape, List.cons_append, List.nil_append, unquote]
  rw [hexValue_hexDigit (by omega), hexValue_hexDigit (by omega), hexValue_hexDigit (by omega),
    hexValue_hexDigit (by omega)]
  have he : c.toNat / 4096 * 4096 + c.toNat / 256 % 16 * 256 + c.toNat / 16 % 16 * 16 + c.toNat % 16 = c.toNat := by
    omega
  rw [he, UInt16.ofNat_toNat]

private theorem unquote_plain {c : UInt16} (h34 : c ≠ 34) (h92 : c ≠ 92) (rest : Text) :
    unquote (c :: rest) = (unquote rest).map fun o => (c :: o.1, o.2) := by
  rw [unquote]
  · exact h34
  · intro _ _ _ _ _ h; exact absurd h h92
  · intro _ _ h; exact absurd h h92

private theorem unquote_escapeUnit (c : UInt16) (rest : Text) :
    unquote (escapeUnit c ++ rest) = (unquote rest).map fun o => (c :: o.1, o.2) := by
  unfold escapeUnit
  split_ifs with h8 h9 h10 h12 h13 h34 h92 h32
  · subst h8; simp [unquote]
  · subst h9; simp [unquote]
  · subst h10; simp [unquote]
  · subst h12; simp [unquote]
  · subst h13; simp [unquote]
  · subst h34; simp [unquote]
  · subst h92; simp [unquote]
  · exact unquote_unicodeEscape c rest
  · exact unquote_plain h34 h92 rest

private theorem surrogate_plain {c : UInt16} (h : 0xD800 ≤ c) : c ≠ 34 ∧ c ≠ 92 := by
  constructor <;> (rintro rfl; exact absurd h (by decide))

/-- Reading back what was quoted. -/
theorem unquote_quoteBody (s rest : Text) : unquote (quoteBody s ++ 34 :: rest) = some (s, rest) := by
  induction s using quoteBody.induct with
  | case1 => simp [quoteBody, unquote]
  | case2 c h => rw [quoteBody, if_pos h, unquote_unicodeEscape]; simp [unquote]
  | case3 c h => rw [quoteBody, if_neg h, unquote_escapeUnit]; simp [unquote]
  | case4 c d tail h ih =>
    obtain ⟨hc, hd⟩ := Bool.and_eq_true_iff.mp h
    have hc' : 0xD800 ≤ c := by simp [highSurrogate] at hc; exact hc.1
    have hd' : 0xD800 ≤ d := by
      simp [lowSurrogate] at hd
      exact UInt16.le_trans (by decide : (0xD800 : UInt16) ≤ 0xDC00) hd.1
    rw [quoteBody, if_pos h, List.cons_append, List.cons_append,
      unquote_plain (surrogate_plain hc').1 (surrogate_plain hc').2,
      unquote_plain (surrogate_plain hd').1 (surrogate_plain hd').2, ih]
    rfl
  | case5 c d tail h h' ih => rw [quoteBody, if_neg h, if_pos h', List.append_assoc, unquote_unicodeEscape, ih]; rfl
  | case6 c d tail h h' ih => rw [quoteBody, if_neg h, if_neg h', List.append_assoc, unquote_escapeUnit, ih]; rfl

theorem quote_cut {s s' r r' : Text} (h : quote s ++ r = quote s' ++ r') : s = s' ∧ r = r' := by
  simp only [quote, List.cons_append, List.append_assoc, List.nil_append, List.cons.injEq, true_and] at h
  have hr := congrArg unquote h
  rw [unquote_quoteBody, unquote_quoteBody] at hr
  simpa using hr

/-- What may follow a value inside a JSON text. -/
def Delimited (r : Text) : Prop := ∀ c ∈ r.head?, numeric c = false

private theorem takeWhile_numeric {t r : Text} (ht : ∀ c ∈ t, numeric c = true) (hr : Delimited r) :
    (t ++ r).takeWhile numeric = t := by
  rw [List.takeWhile_append_of_pos ht]
  cases r with
  | nil => simp
  | cons c r => rw [List.takeWhile_cons_of_neg (by simp [hr c rfl])]; simp

theorem Numeral.cut {a b : Numeral} {r r' : Text} (hr : Delimited r) (hr' : Delimited r')
    (h : a.text ++ r = b.text ++ r') : a = b ∧ r = r' := by
  have ht := congrArg (List.takeWhile Library.numeric) h
  rw [takeWhile_numeric a.numeric hr, takeWhile_numeric b.numeric hr'] at ht
  exact ⟨Numeral.ext_text ht, by rw [ht] at h; exact List.append_cancel_left h⟩

namespace Json

/-- The kind of value a first unit announces. -/
private def kindOf (c : UInt16) : Nat :=
  if c = 110 then 0 else if c = 116 then 1 else if c = 102 then 2 else if c = 34 then 3
  else if c = 91 then 4 else if c = 123 then 5 else 6

private def kind : Json → Nat
  | .null => 0
  | .bool true => 1
  | .bool false => 2
  | .num _ => 6
  | .str _ => 3
  | .arr _ => 4
  | .obj _ => 5

private theorem numeric_kindOf {c : UInt16} (h : numeric c = true) : kindOf c = 6 := by
  unfold kindOf
  split_ifs <;> first | rfl | (subst_vars; revert h; decide)

private theorem stringify_head (v : Json) : ∃ c t, v.stringify = c :: t ∧ kindOf c = v.kind ∧ c ≠ 93 := by
  cases v with
  | null => exact ⟨_, _, rfl, by decide, by decide⟩
  | bool b => cases b <;> exact ⟨_, _, rfl, by decide, by decide⟩
  | num n =>
    obtain ⟨text, hne, hn⟩ := n
    obtain ⟨c, t, rfl⟩ := List.exists_cons_of_ne_nil hne
    have hc := hn c List.mem_cons_self
    exact ⟨c, t, rfl, numeric_kindOf hc, by rintro rfl; exact absurd hc (by decide)⟩
  | str s => exact ⟨34, _, rfl, rfl, by decide⟩
  | arr items =>
    cases items with
    | nil => exact ⟨91, _, by rw [stringify], rfl, by decide⟩
    | cons v rest => exact ⟨91, _, by rw [stringify], rfl, by decide⟩
  | obj fields =>
    cases fields with
    | nil => exact ⟨123, _, by rw [stringify], rfl, by decide⟩
    | cons f rest => exact ⟨123, _, by rw [stringify], rfl, by decide⟩

private theorem kind_eq {v w : Json} {r r' : Text} (h : v.stringify ++ r = w.stringify ++ r') :
    v.kind = w.kind := by
  obtain ⟨c, t, hv, hc, _⟩ := stringify_head v
  obtain ⟨d, u, hw, hd, _⟩ := stringify_head w
  rw [hv, hw, List.cons_append, List.cons_append, List.cons.injEq] at h
  rw [← hc, ← hd, h.1]

private theorem delimited_comma (r : Text) : Delimited (44 :: r) := by
  intro c hc; cases hc; decide
private theorem delimited_bracket (r : Text) : Delimited (93 :: r) := by
  intro c hc; cases hc; decide
private theorem delimited_brace (r : Text) : Delimited (125 :: r) := by
  intro c hc; cases hc; decide

private theorem itemsTail_delimited (items : List Json) (r : Text) : Delimited (itemsTail items ++ r) := by
  cases items with
  | nil => rw [itemsTail]; exact delimited_bracket r
  | cons v rest => rw [itemsTail]; exact delimited_comma _

private theorem fieldsTail_delimited (fields : List (Text × Json)) (r : Text) :
    Delimited (fieldsTail fields ++ r) := by
  cases fields with
  | nil => rw [fieldsTail]; exact delimited_brace r
  | cons f rest => rw [fieldsTail]; exact delimited_comma _

mutual
/-- A text determines the value it starts with and where that value ends. -/
theorem stringify_cut (v w : Json) (r r' : Text) (hr : Delimited r) (hr' : Delimited r')
    (h : v.stringify ++ r = w.stringify ++ r') : v = w ∧ r = r' := by
  have hk := kind_eq h
  match v, w with
  | .null, .null => exact ⟨rfl, List.append_cancel_left h⟩
  | .bool true, .bool true => exact ⟨rfl, List.append_cancel_left h⟩
  | .bool false, .bool false => exact ⟨rfl, List.append_cancel_left h⟩
  | .num a, .num b =>
    obtain ⟨rfl, hrr⟩ := Numeral.cut hr hr' h
    exact ⟨rfl, hrr⟩
  | .str s, .str s' =>
    obtain ⟨rfl, hrr⟩ := quote_cut h
    exact ⟨rfl, hrr⟩
  | .arr [], .arr [] => exact ⟨rfl, List.append_cancel_left h⟩
  | .arr (v :: rest), .arr (w :: rest') =>
    simp only [stringify, List.cons_append, List.append_assoc, List.cons.injEq, true_and] at h
    obtain ⟨rfl, ht⟩ := stringify_cut v w _ _ (itemsTail_delimited _ _) (itemsTail_delimited _ _) h
    obtain ⟨rfl, hrr⟩ := itemsTail_cut rest rest' r r' ht
    exact ⟨rfl, hrr⟩
  | .arr [], .arr (w :: rest') =>
    obtain ⟨c, t, hw, _, hc⟩ := stringify_head w
    simp only [stringify, hw, List.cons_append, List.cons.injEq, true_and] at h
    exact absurd h.1.symm hc
  | .arr (v :: rest), .arr [] =>
    obtain ⟨c, t, hv, _, hc⟩ := stringify_head v
    simp only [stringify, hv, List.cons_append, List.cons.injEq, true_and] at h
    exact absurd h.1 hc
  | .obj [], .obj [] => exact ⟨rfl, List.append_cancel_left h⟩
  | .obj ((key, v) :: rest), .obj ((key', w) :: rest') =>
    simp only [stringify, List.cons_append, List.append_assoc, List.cons.injEq, true_and] at h
    obtain ⟨rfl, hv⟩ := quote_cut h
    simp only [List.cons.injEq, true_and] at hv
    obtain ⟨rfl, ht⟩ := stringify_cut v w _ _ (fieldsTail_delimited _ _) (fieldsTail_delimited _ _) hv
    obtain ⟨rfl, hrr⟩ := fieldsTail_cut rest rest' r r' ht
    exact ⟨rfl, hrr⟩
  | .obj [], .obj ((key', w) :: rest') => simp [stringify, quote] at h
  | .obj ((key, v) :: rest), .obj [] => simp [stringify, quote] at h

theorem itemsTail_cut (items items' : List Json) (r r' : Text)
    (h : itemsTail items ++ r = itemsTail items' ++ r') : items = items' ∧ r = r' := by
  match items, items' with
  | [], [] => exact ⟨rfl, List.append_cancel_left h⟩
  | v :: rest, w :: rest' =>
    simp only [itemsTail, List.cons_append, List.append_assoc, List.cons.injEq, true_and] at h
    obtain ⟨rfl, ht⟩ := stringify_cut v w _ _ (itemsTail_delimited _ _) (itemsTail_delimited _ _) h
    obtain ⟨rfl, hrr⟩ := itemsTail_cut rest rest' r r' ht
    exact ⟨rfl, hrr⟩
  | [], w :: rest' => simp [itemsTail] at h
  | v :: rest, [] => simp [itemsTail] at h

theorem fieldsTail_cut (fields fields' : List (Text × Json)) (r r' : Text)
    (h : fieldsTail fields ++ r = fieldsTail fields' ++ r') : fields = fields' ∧ r = r' := by
  match fields, fields' with
  | [], [] => exact ⟨rfl, List.append_cancel_left h⟩
  | (key, v) :: rest, (key', w) :: rest' =>
    simp only [fieldsTail, List.cons_append, List.append_assoc, List.cons.injEq, true_and] at h
    obtain ⟨rfl, hv⟩ := quote_cut h
    simp only [List.cons.injEq, true_and] at hv
    obtain ⟨rfl, ht⟩ := stringify_cut v w _ _ (fieldsTail_delimited _ _) (fieldsTail_delimited _ _) hv
    obtain ⟨rfl, hrr⟩ := fieldsTail_cut rest rest' r r' ht
    exact ⟨rfl, hrr⟩
  | [], f :: rest' => simp [fieldsTail] at h
  | f :: rest, [] => simp [fieldsTail] at h
end

theorem stringify_injective : Function.Injective stringify := fun v w h =>
  (stringify_cut v w [] [] (by intro c hc; cases hc) (by intro c hc; cases hc) (by rw [h])).1

end Json
end GalaxiaAin.Library
