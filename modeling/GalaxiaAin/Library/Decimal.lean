import Mathlib.Data.Rat.Floor
import Mathlib.Algebra.Order.Field.Basic
import Mathlib.Tactic.Linarith
import Mathlib.Tactic.Positivity
import Mathlib.Tactic.FieldSimp

/-! Fixed-point columns: a number is rounded to the last place when it is assigned, halves
away from zero, and refused when it has too many digits. -/
namespace GalaxiaAin.Library

/-- The nearest integer, halves away from zero. -/
def roundHalfAway (x : ℚ) : Int := if 0 ≤ x then ⌊x + 1 / 2⌋ else -⌊-x + 1 / 2⌋

theorem floor_half (n : Int) : ⌊(n : ℚ) + 1 / 2⌋ = n := by
  rw [Int.floor_eq_iff]
  constructor <;> linarith

@[simp] theorem roundHalfAway_intCast (n : Int) : roundHalfAway n = n := by
  unfold roundHalfAway
  split
  · exact floor_half n
  · have := floor_half (-n)
    push_cast at this
    rw [this, neg_neg]

theorem roundHalfAway_mono {x y : ℚ} (h : x ≤ y) : roundHalfAway x ≤ roundHalfAway y := by
  unfold roundHalfAway
  by_cases hx : 0 ≤ x
  · rw [if_pos hx, if_pos (hx.trans h)]
    exact Int.floor_le_floor (by linarith)
  · rw [if_neg hx]
    have hneg : 0 ≤ ⌊-x + 1 / 2⌋ := Int.floor_nonneg.mpr (by linarith)
    split
    · have hpos : 0 ≤ ⌊y + 1 / 2⌋ := Int.floor_nonneg.mpr (by linarith)
      omega
    · exact neg_le_neg (Int.floor_le_floor (by linarith))

theorem roundHalfAway_le {x : ℚ} {n : Int} (h : x ≤ n) : roundHalfAway x ≤ n :=
  (roundHalfAway_mono h).trans_eq (roundHalfAway_intCast n)

theorem le_roundHalfAway {x : ℚ} {n : Int} (h : n ≤ x) : n ≤ roundHalfAway x :=
  (roundHalfAway_intCast n).symm.trans_le (roundHalfAway_mono h)

theorem le_roundHalfAway_iff {x : ℚ} (hx : 0 ≤ x) {n : Int} : n ≤ roundHalfAway x ↔ (n : ℚ) ≤ x + 1 / 2 := by
  rw [roundHalfAway, if_pos hx, Int.le_floor]

/-- Rounding goes down by no more than a half. -/
theorem le_roundHalfAway_add (x : ℚ) : x ≤ roundHalfAway x + 1 / 2 := by
  unfold roundHalfAway
  split
  · have := Int.lt_floor_add_one (x + 1 / 2)
    linarith
  · have := Int.floor_le (-x + 1 / 2)
    push_cast
    linarith

/-- Rounding goes up by no more than a half. -/
theorem roundHalfAway_le_add (x : ℚ) : roundHalfAway x ≤ x + 1 / 2 := by
  unfold roundHalfAway
  split
  · exact Int.floor_le _
  · have := Int.lt_floor_add_one (-x + 1 / 2)
    push_cast
    linarith

/-- Where a number of parts rounds their size down: the remainder is less than half of a unit each, or, of a
negative number, at most half. -/
theorem mul_roundHalfAway_le {a : Int} {n : Nat} (hn : 0 < n) :
    n * roundHalfAway ((a : ℚ) / n) ≤ a ↔ 2 * (a % n) < n ∨ a < 0 ∧ 2 * (a % n) = n := by
  have hpos : (0 : ℚ) < n := by exact_mod_cast hn
  have hdiv : (n : ℚ) * ((a / n : Int) : ℚ) + ((a % n : Int) : ℚ) = a := by exact_mod_cast Int.mul_ediv_add_emod a n
  have hfloor : ⌊(a : ℚ) / n⌋ = a / n := by exact_mod_cast Rat.floor_intCast_div_natCast a n
  have hdown : n * roundHalfAway ((a : ℚ) / n) ≤ a ↔ roundHalfAway ((a : ℚ) / n) ≤ a / n := by
    rw [← hfloor, Int.le_floor, le_div_iff₀ hpos, mul_comm]
    exact_mod_cast Iff.rfl
  have hquot : (a : ℚ) / n = (a / n : Int) + ((a % n : Int) : ℚ) / n := by
    rw [eq_comm, ← hdiv, add_div, mul_div_cancel_left₀ _ hpos.ne']
  rw [hdown]
  by_cases ha : 0 ≤ a
  · have hx : (0 : ℚ) ≤ (a : ℚ) / n := div_nonneg (by exact_mod_cast ha) hpos.le
    have hhalf : roundHalfAway ((a : ℚ) / n) ≤ a / n ↔ ((a % n : Int) : ℚ) / n < 1 / 2 := by
      rw [← Int.lt_add_one_iff, ← not_le, le_roundHalfAway_iff hx, not_le, hquot]
      push_cast
      constructor <;> intro h <;> linarith
    rw [hhalf, div_lt_iff₀ hpos, or_iff_left fun h => absurd h.1 (not_lt.mpr ha)]
    constructor
    · intro h
      exact_mod_cast (by linarith : (2 : ℚ) * ((a % n : Int) : ℚ) < n)
    · intro h
      have : (2 : ℚ) * ((a % n : Int) : ℚ) < n := by exact_mod_cast h
      linarith
  · have hx : ¬ (0 : ℚ) ≤ (a : ℚ) / n := not_le.mpr (div_neg_of_neg_of_pos (by exact_mod_cast not_le.mp ha) hpos)
    have hhalf : roundHalfAway ((a : ℚ) / n) ≤ a / n ↔ ((a % n : Int) : ℚ) / n ≤ 1 / 2 := by
      rw [roundHalfAway, if_neg hx, neg_le, Int.le_floor, hquot]
      push_cast
      constructor <;> intro h <;> linarith
    rw [hhalf, div_le_iff₀ hpos]
    constructor
    · intro h
      have hle : 2 * (a % n) ≤ n := by exact_mod_cast (by linarith : (2 : ℚ) * ((a % n : Int) : ℚ) ≤ n)
      exact hle.lt_or_eq.imp_right fun h => ⟨not_le.mp ha, h⟩
    · intro h
      have hle : 2 * (a % n) ≤ n := h.elim le_of_lt fun h => h.2.le
      have : (2 : ℚ) * ((a % n : Int) : ℚ) ≤ n := by exact_mod_cast hle
      linarith

/-- A part is the quotient, or one more. -/
theorem roundHalfAway_div {a : Int} {n : Nat} (hn : 0 < n) : roundHalfAway ((a : ℚ) / n) =
    if 2 * (a % n) < n ∨ a < 0 ∧ 2 * (a % n) = n then a / n else a / n + 1 := by
  have hpos : (0 : ℚ) < n := by exact_mod_cast hn
  have hup := mul_le_mul_of_nonneg_right (roundHalfAway_le_add ((a : ℚ) / n)) hpos.le
  have hdown := mul_le_mul_of_nonneg_right (le_roundHalfAway_add ((a : ℚ) / n)) hpos.le
  rw [add_mul, div_mul_cancel₀ _ hpos.ne'] at hup
  rw [add_mul, div_mul_cancel₀ _ hpos.ne'] at hdown
  generalize hr : roundHalfAway ((a : ℚ) / n) = r at hup hdown
  have hround := mul_roundHalfAway_le (a := a) hn
  rw [hr] at hround
  have hup' : 2 * (r * n) ≤ 2 * a + n := by exact_mod_cast (by linarith : (2 : ℚ) * (r * n) ≤ 2 * a + n)
  have hdown' : 2 * a ≤ 2 * (r * n) + n := by exact_mod_cast (by linarith : (2 : ℚ) * a ≤ 2 * (r * n) + n)
  have hn' : (0 : Int) < n := by exact_mod_cast hn
  split
  case isTrue h =>
    have hle := hround.mpr h
    rw [mul_comm] at hle
    exact ((Int.ediv_eq_iff_of_pos hn').mpr ⟨hle, by linarith⟩).symm
  case isFalse h =>
    have hlt := not_le.mp (mt hround.mp h)
    rw [mul_comm] at hlt
    have hquot : a / n = r - 1 := (Int.ediv_eq_iff_of_pos hn').mpr ⟨by linarith, by linarith⟩
    rw [hquot, sub_add_cancel]

/-- The format of a fixed-point column: its digits, and those of them after the point. -/
structure Fixed where
  precision : Nat
  scale : Nat

namespace Fixed
variable (F : Fixed)

/-- The number a column holds as so many units of its last place. -/
def value (u : Int) : ℚ := u / 10 ^ F.scale

/-- The units a number is assigned as. -/
def units (x : ℚ) : Int := roundHalfAway (x * 10 ^ F.scale)

/-- Assign a number to a column. -/
def assign (x : ℚ) : Option Int := if (F.units x).natAbs < 10 ^ F.precision then some (F.units x) else none

theorem pow_pos : (0 : ℚ) < 10 ^ F.scale := by positivity

theorem value_mul (u : Int) : F.value u * 10 ^ F.scale = u := div_mul_cancel₀ _ F.pow_pos.ne'

@[simp] theorem value_zero : F.value 0 = 0 := by simp [value]

theorem value_add (u v : Int) : F.value u + F.value v = F.value (u + v) := by
  simp only [value, Int.cast_add, add_div]

theorem value_sub (u v : Int) : F.value u - F.value v = F.value (u - v) := by
  simp only [value, Int.cast_sub, sub_div]

@[simp] theorem value_le {u v : Int} : F.value u ≤ F.value v ↔ u ≤ v := by
  rw [value, value, div_le_div_iff_of_pos_right F.pow_pos, Int.cast_le]

@[simp] theorem value_lt {u v : Int} : F.value u < F.value v ↔ u < v := by
  rw [value, value, div_lt_div_iff_of_pos_right F.pow_pos, Int.cast_lt]

@[simp] theorem units_value (u : Int) : F.units (F.value u) = u := by
  rw [units, value_mul, roundHalfAway_intCast]

/-- A part of the number a column holds, in the column's units. -/
theorem units_div (u : Int) (n : Nat) : F.units (F.value u / n) = roundHalfAway ((u : ℚ) / n) := by
  rw [units, div_mul_eq_mul_div, value_mul]

theorem units_le {x : ℚ} {u : Int} (h : x ≤ F.value u) : F.units x ≤ u := by
  refine roundHalfAway_le ?_
  rw [← F.value_mul u]
  exact mul_le_mul_of_nonneg_right h F.pow_pos.le

theorem units_mono {x y : ℚ} (h : x ≤ y) : F.units x ≤ F.units y :=
  roundHalfAway_mono (mul_le_mul_of_nonneg_right h F.pow_pos.le)

theorem assign_eq {x : ℚ} {u : Int} (h : F.assign x = some u) : u = F.units x := by
  unfold assign at h
  split at h
  · exact (Option.some.inj h).symm
  · cases h

/-- A number of the column's own format is assigned exactly. -/
theorem assign_value {u v : Int} (h : F.assign (F.value u) = some v) : v = u := by
  rw [F.assign_eq h, units_value]

/-- A whole number is assigned exactly. -/
theorem value_assign_natCast {n : Nat} {u : Int} (h : F.assign n = some u) : F.value u = n := by
  have hn : (n : ℚ) = F.value (n * 10 ^ F.scale) := by
    rw [value]
    push_cast
    exact (mul_div_cancel_right₀ _ F.pow_pos.ne').symm
  rw [hn] at h ⊢
  rw [F.assign_value h]

theorem assign_le {x : ℚ} {u v : Int} (h : F.assign x = some u) (hx : x ≤ F.value v) : u ≤ v :=
  (F.assign_eq h).trans_le (F.units_le hx)

end Fixed
/-! ### Numbers of JavaScript -/

inductive Number where
  | nan
  | finite (x : ℚ)
  | infinity
  | negInfinity
  deriving DecidableEq

def Number.add (x : ℚ) : Number → Number
  | .finite y => .finite (x + y)
  | n => n

/-- `n > limit`. -/
def Number.above (limit : ℚ) : Number → Bool
  | .finite x => decide (limit < x)
  | .infinity => true
  | .nan | .negInfinity => false

/-- `n < limit`. -/
def Number.below (limit : ℚ) : Number → Bool
  | .finite x => decide (x < limit)
  | .negInfinity => true
  | .nan | .infinity => false

end GalaxiaAin.Library
