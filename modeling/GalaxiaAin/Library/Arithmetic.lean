import GalaxiaAin.Library.Numbers

/-! Products, the lesser and the greater of two numbers, and counters. A product that is no
double is rounded, and how is left open. -/
namespace GalaxiaAin.Library

/-- An infinity of the sign of a number; of zero there is none. -/
def Number.infinityOf (x : ℚ) : Number := if 0 < x then .infinity else if x < 0 then .negInfinity else .nan

/-- `a * b`. -/
def Number.times (round : ℚ → Number) : Number → Number → Number
  | .nan, _ | _, .nan => .nan
  | .finite x, .finite y => round (x * y)
  | .finite x, .infinity | .infinity, .finite x => .infinityOf x
  | .finite x, .negInfinity | .negInfinity, .finite x => .infinityOf (-x)
  | .infinity, .infinity | .negInfinity, .negInfinity => .infinity
  | .infinity, .negInfinity | .negInfinity, .infinity => .negInfinity

/-- `Math.min(a, b)`. -/
def Number.min (a b : Number) : Number := if a = .nan ∨ b = .nan then .nan else if a.exceeds b then b else a

/-- `Math.max(a, b)`. -/
def Number.max (a b : Number) : Number := if a = .nan ∨ b = .nan then .nan else if a.exceeds b then a else b

@[simp] theorem Number.nan_exceeds (a : Number) : Number.nan.exceeds a = false := rfl

@[simp] theorem Number.exceeds_nan (a : Number) : a.exceeds .nan = false := by cases a <;> rfl

@[simp] theorem Number.exceeds_self (a : Number) : a.exceeds a = false := by cases a <;> simp [exceeds]

theorem Number.exceeds_asymm {a b : Number} (h : a.exceeds b = true) : b.exceeds a = false := by
  cases a <;> cases b <;> simp_all [exceeds, le_of_lt]

theorem Number.not_exceeds_trans {a b c : Number} (hb : b ≠ .nan) (hab : a.exceeds b = false) (hbc : b.exceeds c = false) :
    a.exceeds c = false := by
  cases a <;> cases b <;> cases c <;> simp_all [exceeds]
  exact hab.trans hbc

/-- The lesser number exceeds nothing that the right one does not. -/
theorem Number.min_exceeds {a b c : Number} (h : b.exceeds c = false) : (Number.min a b).exceeds c = false := by
  unfold Number.min
  split
  · exact Number.nan_exceeds c
  · next hnan =>
    split
    · exact h
    · next hab => exact not_exceeds_trans (fun hb => hnan (.inr hb)) (Bool.eq_false_iff.mpr hab) h

/-- The left number does not exceed the greater one. -/
theorem Number.left_exceeds_max (a b : Number) : a.exceeds (Number.max a b) = false := by
  unfold Number.max
  split
  · exact Number.exceeds_nan a
  · split
    · exact Number.exceeds_self a
    · next hab => exact Bool.eq_false_iff.mpr hab

theorem Number.right_exceeds_max (a b : Number) : b.exceeds (Number.max a b) = false := by
  unfold Number.max
  split
  · exact Number.exceeds_nan b
  · split
    · next hab => exact Number.exceeds_asymm hab
    · exact Number.exceeds_self b

instance (a b : Number) : Decidable (a.Within b) := decidable_of_iff _ (Number.within_iff a b).symm

@[simp] theorem Number.finite_within_finite (x y : ℚ) : (Number.finite x).Within (.finite y) ↔ x ≤ y := Iff.rfl

theorem Number.within_of_exceeds {a b : Number} (h : a.exceeds b = true) : b.Within a := by
  cases a <;> cases b <;> simp_all [exceeds, Within, le_of_lt]

theorem Number.ne_of_exceeds {a b : Number} (h : a.exceeds b = true) : b ≠ a := by
  rintro rfl
  exact Bool.eq_false_iff.mp (Number.exceeds_self b) h

theorem Number.exceeds_of_ne {a b : Number} (h : b.Within a) (hne : b ≠ a) : a.exceeds b = true := by
  cases a <;> cases b <;> simp_all [exceeds, Within, lt_of_le_of_ne]

theorem Number.exceeds_of_lt {x y : ℚ} {a : Number} (h : x < y) (hy : (Number.finite y).Within a) :
    a.exceeds (.finite x) = true := by
  cases a with
  | nan => exact hy.elim
  | finite z => exact decide_eq_true (h.trans_le hy)
  | infinity => rfl
  | negInfinity => cases hy

theorem Number.exceeds_of_le {x y : ℚ} {a : Number} (h : x ≤ y) (hy : a.exceeds (.finite y) = true) :
    a.exceeds (.finite x) = true := by
  cases a with
  | finite z => exact decide_eq_true (h.trans_lt (of_decide_eq_true hy))
  | _ => exact hy

/-- What lies between finite numbers is finite. -/
theorem Number.finite_of_within {x y : ℚ} {a : Number} (hx : (Number.finite x).Within a) (hy : a.Within (.finite y)) :
    ∃ z, a = .finite z ∧ x ≤ z ∧ z ≤ y := by
  cases a with
  | nan => exact hx.elim
  | finite z => exact ⟨z, rfl, hx, hy⟩
  | infinity => cases hy
  | negInfinity => cases hx

/-- A finite number is within one that a greater number is within. -/
theorem Number.within_of_le {x y : ℚ} {a : Number} (h : x ≤ y) (hy : (Number.finite y).Within a) :
    (Number.finite x).Within a := by
  cases a with
  | finite z => exact h.trans hy
  | _ => exact hy

/-- The last of the integers that doubles hold without gaps. -/
def gapless : Nat := 2 ^ 53

/-- `n++`; the doubles around the next integer after it are even, and the counter is stuck. -/
def nextCount (n : Nat) : Nat := if n < gapless then n + 1 else n

theorem nextCount_min (n : Nat) : nextCount (min n gapless) = min (n + 1) gapless := by
  unfold nextCount
  split <;> omega

end GalaxiaAin.Library
