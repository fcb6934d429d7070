import Mathlib.Data.Nat.Find
import Mathlib.Order.Monotone.Basic

/-! The calendar from January 1970 on: days are counted from the first of that month, and so
are months. -/
namespace GalaxiaAin.Library

def leap (year : Nat) : Bool := year % 4 == 0 && (year % 100 != 0 || year % 400 == 0)

/-- The days of a month. -/
def monthLength (month : Nat) : Nat :=
  match month % 12 with
  | 1 => if leap (1970 + month / 12) then 29 else 28
  | 3 | 5 | 8 | 10 => 30
  | _ => 31

/-- The first day of a month. -/
def monthStart : Nat → Nat
  | 0 => 0
  | month + 1 => monthStart month + monthLength month

/-- The month of a day. -/
def monthOf (day : Nat) : Nat := Nat.findGreatest (fun month => monthStart month ≤ day) day

def yearOf (day : Nat) : Nat := 1970 + monthOf day / 12

/-- The same day of the month, a number of months on; where that month is too short for it,
a day of the next. -/
def addMonths (months day : Nat) : Nat := monthStart (monthOf day + months) + (day - monthStart (monthOf day))

theorem monthLength_pos (month : Nat) : 0 < monthLength month := by
  unfold monthLength
  split
  · split <;> decide
  all_goals decide

theorem monthStart_strictMono : StrictMono monthStart :=
  strictMono_nat_of_lt_succ fun month => Nat.lt_add_of_pos_right (monthLength_pos month)

theorem monthStart_monthOf (day : Nat) : monthStart (monthOf day) ≤ day :=
  Nat.findGreatest_spec (P := fun month => monthStart month ≤ day) (Nat.zero_le day) (Nat.zero_le day)

@[simp] theorem addMonths_zero (day : Nat) : addMonths 0 day = day := by
  rw [addMonths, Nat.add_zero]
  exact Nat.add_sub_of_le (monthStart_monthOf day)

theorem addMonths_strictMono (day : Nat) : StrictMono fun months => addMonths months day := fun _ _ h =>
  Nat.add_lt_add_right (monthStart_strictMono (Nat.add_lt_add_left h _)) _

/-! ### Times -/

/-- The milliseconds of a day. -/
def msPerDay : Nat := 86400000

/-- The same time of a later day. -/
def onDay (later : Nat → Nat) (time : Nat) : Nat := later (time / msPerDay) * msPerDay + time % msPerDay

theorem onDay_id (time : Nat) : onDay (fun day => day) time = time := Nat.div_add_mod' time msPerDay

theorem onDay_lt {later later' : Nat → Nat} {time : Nat} (h : later (time / msPerDay) < later' (time / msPerDay)) :
    onDay later time < onDay later' time :=
  Nat.add_lt_add_right (Nat.mul_lt_mul_of_pos_right h (by decide)) _

theorem onDay_inj {later later' : Nat → Nat} {time : Nat} :
    onDay later time = onDay later' time ↔ later (time / msPerDay) = later' (time / msPerDay) := by
  refine ⟨fun h => ?_, fun h => by rw [onDay, onDay, h]⟩
  exact Nat.eq_of_mul_eq_mul_right (by decide : 0 < msPerDay) (Nat.add_right_cancel h)

end GalaxiaAin.Library
