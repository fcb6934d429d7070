import GalaxiaAin.Library.Calendar
import GalaxiaAin.Library.Numbers

/-! Durations in the notation of ISO 8601: years, months, weeks and days, any of them left
out. Years and months are added by the calendar first, weeks and days after them. -/
namespace GalaxiaAin.Library

/-- The number that decimal digits stand for. -/
def parseDigits (t : Text) : Nat := ofDigits 10 (t.map fun c => c.toNat - 48)

/-- Decimal digits, one at least. -/
structure Digits where
  text : Text
  ne_nil : text ≠ []
  digits : ∀ c ∈ text, isDigit c = true

def Digits.value (d : Digits) : Nat := parseDigits d.text

structure Duration where
  years : Option Digits
  months : Option Digits
  weeks : Option Digits
  days : Option Digits

namespace Duration

/-- A number before its designator. -/
def component (designator : UInt16) : Option Digits → Text
  | none => []
  | some d => d.text ++ [designator]

/-- `PnYnMnWnD`. -/
def text (d : Duration) : Text :=
  80 :: (component 89 d.years ++ (component 77 d.months ++ (component 87 d.weeks ++ component 68 d.days)))

def number (n : Option Digits) : Nat := n.elim 0 Digits.value

def totalMonths (d : Duration) : Nat := 12 * number d.years + number d.months

def totalDays (d : Duration) : Nat := 7 * number d.weeks + number d.days

/-- The time a duration after another. -/
def after (d : Duration) (time : Nat) : Nat := onDay (fun day => addMonths d.totalMonths day + d.totalDays) time

def NonZero (d : Duration) : Prop := 0 < d.totalMonths ∨ 0 < d.totalDays

theorem lt_after {d : Duration} (h : d.NonZero) (time : Nat) : time < d.after time := by
  have hlater : time / msPerDay < addMonths d.totalMonths (time / msPerDay) + d.totalDays := by
    have hle : addMonths 0 (time / msPerDay) ≤ addMonths d.totalMonths (time / msPerDay) :=
      (addMonths_strictMono _).monotone (Nat.zero_le _)
    rw [addMonths_zero] at hle
    rcases h with h | h
    · have hlt : addMonths 0 (time / msPerDay) < addMonths d.totalMonths (time / msPerDay) := addMonths_strictMono _ h
      rw [addMonths_zero] at hlt
      omega
    · omega
  calc time = onDay (fun day => day) time := (onDay_id time).symm
    _ < d.after time := onDay_lt hlater

/-- Months alone give a duration exactly when the rest of it is zero. -/
theorem after_eq_months {d : Duration} {months time : Nat} (h : d.totalMonths = months) :
    onDay (addMonths months) time = d.after time ↔ d.totalDays = 0 := by
  rw [after, onDay_inj, h]
  omega

theorem digits_cut (d : Digits) {c : UInt16} (hc : isDigit c = false) (rest : Text) :
    (d.text ++ c :: rest).takeWhile isDigit = d.text ∧ (d.text ++ c :: rest).dropWhile isDigit = c :: rest := by
  constructor
  · rw [List.takeWhile_append_of_pos d.digits, List.takeWhile_cons_of_neg (by simp [hc]), List.append_nil]
  · rw [List.dropWhile_append_of_pos d.digits, List.dropWhile_cons_of_neg (by simp [hc])]

/-- The designator of durations stands at their beginning only. -/
theorem not_mem_component (designator : UInt16) (h : designator ≠ 80) (n : Option Digits) : 80 ∉ component designator n := by
  cases n with
  | none => exact List.not_mem_nil
  | some d =>
    intro hmem
    rcases List.mem_append.mp hmem with hmem | hmem
    · exact absurd (d.digits _ hmem) (by decide)
    · exact h (List.mem_singleton.mp hmem).symm

end Duration
end GalaxiaAin.Library
