import GalaxiaAin.Library.Decimal
import GalaxiaAin.Library.Json
import Mathlib.Tactic.Ring

/-! The conversions of JavaScript from texts and values to numbers. Numbers are exact up
to the largest double; what is larger is infinite. -/
namespace GalaxiaAin.Library

/-- The ASCII letters of `toLowerCase`. -/
def lower (t : Text) : Text := t.map fun c => if 65 ≤ c && c ≤ 90 then c + 32 else c

def isDigit (c : UInt16) : Bool := 48 ≤ c && c ≤ 57

/-- The value of a digit, of a base up to 16. -/
def digitValue (c : UInt16) : Option Nat :=
  if isDigit c then some (c.toNat - 48)
  else if 97 ≤ c && c ≤ 102 then some (c.toNat - 87)
  else if 65 ≤ c && c ≤ 70 then some (c.toNat - 55)
  else none

/-- The digits of a base at the front of a text, and the rest. -/
def spanDigits (base : Nat) : Text → List Nat × Text
  | [] => ([], [])
  | c :: rest =>
    match (digitValue c).filter fun d => decide (d < base) with
    | some d => (d :: (spanDigits base rest).1, (spanDigits base rest).2)
    | none => ([], c :: rest)

/-- The value of digits, the most significant first. -/
def ofDigits (base : Nat) (digits : List Nat) : Nat := digits.foldl (fun n d => n * base + d) 0

theorem ofDigits_eq (base : Nat) (digits : List Nat) : ofDigits base digits = Nat.ofDigits base digits.reverse := by
  induction digits using List.reverseRecOn with
  | nil => rfl
  | append_singleton digits d ih =>
    rw [ofDigits, List.foldl_append, ← ofDigits, ih, List.reverse_append, List.reverse_singleton, List.singleton_append,
      Nat.ofDigits_cons]
    simp only [List.foldl_cons, List.foldl_nil]
    ring

/-- The least magnitude that rounds to infinity. -/
def overflow : ℚ := 2 ^ 1024 - 2 ^ 970

def Number.ofRat (x : ℚ) : Number :=
  if overflow ≤ x then .infinity else if x ≤ -overflow then .negInfinity else .finite x

def Number.neg : Number → Number
  | .nan => .nan
  | .finite x => .finite (-x)
  | .infinity => .negInfinity
  | .negInfinity => .infinity

/-- An optional sign. -/
def signed {α : Type} (neg : α → α) (read : Text → α) : Text → α
  | 45 :: rest => neg (read rest)
  | 43 :: rest => read rest
  | t => read t

/-- `parseInt(t, 10)`. -/
def parseInt (t : Text) : Number :=
  signed .neg (fun t =>
    match (spanDigits 10 t).1 with
    | [] => .nan
    | digits => .ofRat (ofDigits 10 digits)) (t.dropWhile space)

/-- The exponent of a decimal literal. -/
def exponent : Text → Option Int
  | [] => some 0
  | c :: rest =>
    if c == 101 || c == 69 then
      signed (Option.map (- ·)) (fun t =>
        match spanDigits 10 t with
        | (d :: digits, []) => some (ofDigits 10 (d :: digits))
        | _ => none) rest
    else none

def scaled (n : Nat) (e : Int) : ℚ := if 0 ≤ e then n * 10 ^ e.toNat else n / 10 ^ (-e).toNat

/-- A decimal literal without its sign. -/
def unsignedDecimal (t : Text) : Number :=
  if t = units "Infinity" then .infinity else
  let whole := spanDigits 10 t
  let fraction := match whole.2 with
    | 46 :: rest => spanDigits 10 rest
    | rest => ([], rest)
  match whole.1 ++ fraction.1, exponent fraction.2 with
  | d :: digits, some e => .ofRat (scaled (ofDigits 10 (d :: digits)) (e - fraction.1.length))
  | _, _ => .nan

/-- A literal that is all digits of a base. -/
def baseLiteral (base : Nat) (t : Text) : Number :=
  match spanDigits base t with
  | (d :: digits, []) => .ofRat (ofDigits base (d :: digits))
  | _ => .nan

/-- `Number(t)` of a string. -/
def stringToNumber (t : Text) : Number :=
  match trim t with
  | [] => .finite 0
  | 48 :: c :: rest =>
    if c == 120 || c == 88 then baseLiteral 16 rest
    else if c == 111 || c == 79 then baseLiteral 8 rest
    else if c == 98 || c == 66 then baseLiteral 2 rest
    else unsignedDecimal (48 :: c :: rest)
  | t => signed .neg unsignedDecimal t

namespace Json

/-- `Number(v)`; none is the TypeError of `text`. -/
def toNumber : Json → Option Number
  | .null => some (.finite 0)
  | .bool b => some (.finite (if b then 1 else 0))
  | v => v.text.map stringToNumber

end Json

/-! ### Distances -/

/-- `|now - t|`. -/
def Number.distance (now : ℚ) : Number → Number
  | .nan => .nan
  | .finite t => .finite |now - t|
  | .infinity | .negInfinity => .infinity

/-- `a > b`. -/
def Number.exceeds : Number → Number → Bool
  | .nan, _ | _, .nan => false
  | .finite x, .finite y => decide (y < x)
  | .infinity, .infinity => false
  | .infinity, _ => true
  | .negInfinity, _ => false
  | .finite _, .negInfinity => true
  | .finite _, .infinity => false

/-- `a` is a number not above `b`; NaN is not a number. -/
def Number.Within : Number → Number → Prop
  | .nan, _ | _, .nan => False
  | .finite x, .finite y => x ≤ y
  | .infinity, b => b = .infinity
  | .finite _, b => b = .infinity
  | .negInfinity, _ => True

theorem Number.within_iff (a b : Number) : a.Within b ↔ a ≠ .nan ∧ b ≠ .nan ∧ a.exceeds b = false := by
  cases a <;> cases b <;> simp [Within, exceeds]

theorem Number.distance_ne_nan {now : ℚ} {t : Number} : t.distance now ≠ .nan ↔ t ≠ .nan := by
  cases t <;> simp [distance]

example : stringToNumber (units " -12.5e1 ") = .finite (-125) := by decide +kernel

end GalaxiaAin.Library
