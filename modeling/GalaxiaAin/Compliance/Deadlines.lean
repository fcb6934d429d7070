import Mathlib.Data.Int.ConditionallyCompleteOrder
import Mathlib.Data.Int.Interval
import Mathlib.Tactic.Linarith
import Mathlib.Tactic.Ring

/-! The deadline of a complaint. The loop goes on by a day at a time and counts the days from
Monday to Friday; the zone has one offset at all times. -/
namespace GalaxiaAin.Compliance

/-! ### Dates -/

/-- The time value of a Date; none for an invalid one. -/
abbrev DateValue := Option Int

/-- The milliseconds of a day. -/
def dayLength : Int := 86400000

def maxTime : Int := 8640000000000000

def timeClip (time : Int) : DateValue := if -maxTime ≤ time ∧ time ≤ maxTime then some time else none

/-- The day of the month of a day since 1970, by eras of 400 years from March on. -/
def dayOfMonth (day : Int) : Int :=
  let dayOfEra := (day + 719468) % 146097
  let yearOfEra := (dayOfEra - dayOfEra / 1460 + dayOfEra / 36524 - dayOfEra / 146096) / 365
  let dayOfYear := dayOfEra - (365 * yearOfEra + yearOfEra / 4 - yearOfEra / 100)
  let month := (5 * dayOfYear + 2) / 153
  dayOfYear - (153 * month + 2) / 5 + 1

section Calendar
variable (offset : Int)

/-- The local day of a time. -/
def localDay (time : Int) : Int := (time + offset) / dayLength

def timeWithinDay (time : Int) : Int := (time + offset) % dayLength

def getDate (date : DateValue) : Option Int := date.map fun time => dayOfMonth (localDay offset time)

/-- Sunday is 0; day 0 was a Thursday. -/
def getDay (date : DateValue) : Option Int := date.map fun time => (localDay offset time + 4) % 7

/-- The days of the month are counted from its first on, past its end too. -/
def setDate (date : DateValue) (dayNumber : Option Int) : DateValue :=
  match date, dayNumber with
  | some time, some dayNumber =>
    let day := localDay offset time - dayOfMonth (localDay offset time) + dayNumber
    timeClip (day * dayLength + timeWithinDay offset time - offset)
  | _, _ => none

/-! ### The loop -/

/-- `date.setDate(date.getDate() + 1)`. -/
def nextDay (date : DateValue) : DateValue := setDate offset date ((getDate offset date).map (· + 1))

/-- `date.getDay() !== 0 && date.getDay() !== 6`; NaN is neither. -/
def onBusinessDay (date : DateValue) : Bool := getDay offset date != some 0 && getDay offset date != some 6

/-- The loop; none when the fuel runs out. -/
def businessLoop (businessDays : Nat) : Nat → DateValue → Nat → Option DateValue
  | 0, _, _ => none
  | fuel + 1, date, daysAdded =>
    if daysAdded < businessDays then
      let date := nextDay offset date
      businessLoop businessDays fuel date (if onBusinessDay offset date then daysAdded + 1 else daysAdded)
    else some date

def calculateBusinessDays (fuel : Nat) (startDate : DateValue) (businessDays : Nat) : Option DateValue :=
  businessLoop offset businessDays fuel startDate 0

end Calendar

/-! ### Business days -/

/-- A day from Monday to Friday. -/
def businessDay (day : Int) : Bool := (day + 4) % 7 != 0 && (day + 4) % 7 != 6

/-- The business days after a day up to another. -/
noncomputable def businessDaysIn (first last : Int) : Nat := ((Finset.Ioc first last).filter fun day => businessDay day = true).card

theorem businessDaysIn_self (day : Int) : businessDaysIn day day = 0 := by
  rw [businessDaysIn, Finset.Ioc_self]
  rfl

theorem businessDaysIn_succ (first last : Int) (h : first ≤ last) :
    businessDaysIn first (last + 1) = businessDaysIn first last + if businessDay (last + 1) then 1 else 0 := by
  have hinsert : Finset.Ioc first (last + 1) = insert (last + 1) (Finset.Ioc first last) := by
    ext day
    simp only [Finset.mem_Ioc, Finset.mem_insert]
    omega
  have hnew : last + 1 ∉ (Finset.Ioc first last).filter fun day => businessDay day = true := by
    simp only [Finset.mem_filter, Finset.mem_Ioc]
    omega
  rw [businessDaysIn, businessDaysIn, hinsert, Finset.filter_insert]
  split
  · rw [Finset.card_insert_of_notMem hnew]
  · rfl

theorem businessDaysIn_le {first last first' last' : Int} (hfirst : first' ≤ first) (hlast : last ≤ last') :
    businessDaysIn first last ≤ businessDaysIn first' last' :=
  Finset.card_le_card (Finset.filter_subset_filter _ (Finset.Ioc_subset_Ioc hfirst hlast))

theorem businessDaysIn_add_le (first : Int) (k j : Nat) :
    businessDaysIn first (first + (k + j : Nat)) ≤ businessDaysIn first (first + k) + j := by
  induction j with
  | zero => exact le_refl _
  | succ j ih =>
    have hsucc := businessDaysIn_succ first (first + (k + j : Nat)) (by omega)
    have hlast : first + ((k + (j + 1) : Nat) : Int) = first + (k + j : Nat) + 1 := by push_cast; ring
    rw [hlast, hsucc]
    split <;> omega

/-- Of three days in a row one is a business day. -/
theorem businessDay_soon (day : Int) : businessDay (day + 1) = true ∨ businessDay (day + 2) = true ∨ businessDay (day + 3) = true := by
  simp only [businessDay, Bool.and_eq_true, bne_iff_ne]
  omega

/-- There are as many business days as one likes. -/
theorem exists_businessDays (first : Int) (n : Nat) : ∃ k : Nat, n ≤ businessDaysIn first (first + k) := by
  induction n with
  | zero => exact ⟨0, Nat.zero_le _⟩
  | succ n ih =>
    obtain ⟨k, hk⟩ := ih
    have h1 := businessDaysIn_succ first (first + k) (by omega)
    have h2 := businessDaysIn_succ first (first + k + 1) (by omega)
    have h3 := businessDaysIn_succ first (first + k + 1 + 1) (by omega)
    have hsoon := businessDay_soon (first + k)
    have he2 : first + (k : Int) + 1 + 1 = first + k + 2 := by ring
    have he3 : first + (k : Int) + 2 + 1 = first + k + 3 := by ring
    rw [he2] at h2 h3
    rw [he3] at h3
    refine ⟨k + 3, ?_⟩
    have hlast : first + ((k + 3 : Nat) : Int) = first + k + 3 := by push_cast; ring
    rw [hlast]
    rcases hsoon with h | h | h
    · rw [if_pos h] at h1
      split at h2 <;> split at h3 <;> omega
    · rw [if_pos h] at h2
      split at h1 <;> split at h3 <;> omega
    · rw [if_pos h] at h3
      split at h1 <;> split at h2 <;> omega

/-- How many days after a day the n-th business day is. -/
noncomputable def daysUntil (first : Int) (n : Nat) : Nat := Nat.find (exists_businessDays first n)

theorem businessDaysIn_lt {first : Int} {n k : Nat} (h : k < daysUntil first n) : businessDaysIn first (first + k) < n :=
  Nat.lt_of_not_le (Nat.find_min (exists_businessDays first n) h)

/-- Up to the n-th business day there are n, and it is one. -/
theorem businessDaysIn_daysUntil (first : Int) {n : Nat} (hn : 1 ≤ n) :
    0 < daysUntil first n ∧ businessDaysIn first (first + daysUntil first n) = n ∧
      businessDay (first + daysUntil first n) = true := by
  have hle : n ≤ businessDaysIn first (first + daysUntil first n) := Nat.find_spec (exists_businessDays first n)
  cases hdays : daysUntil first n with
  | zero =>
    rw [hdays, Nat.cast_zero, add_zero, businessDaysIn_self] at hle
    omega
  | succ k =>
    have hlt : businessDaysIn first (first + k) < n := businessDaysIn_lt (by omega)
    have hsucc := businessDaysIn_succ first (first + k) (by omega)
    have hlast : first + ((k + 1 : Nat) : Int) = first + k + 1 := by push_cast; ring
    rw [hdays, hlast] at hle
    rw [hlast]
    split at hsucc
    case isTrue h => exact ⟨Nat.succ_pos k, by omega, h⟩
    case isFalse => omega

/-- Later, or more of them, is later. -/
theorem daysUntil_mono {first first' : Int} {n n' : Nat} (hfirst : first ≤ first') (hn : n ≤ n') :
    first + daysUntil first n ≤ first' + daysUntil first' n' := by
  have hle : n' ≤ businessDaysIn first' (first' + daysUntil first' n') := Nat.find_spec (exists_businessDays first' n')
  have hwide := businessDaysIn_le hfirst (le_refl (first' + (daysUntil first' n' : Int)))
  obtain ⟨k, hk⟩ := Int.eq_ofNat_of_zero_le (show 0 ≤ first' + (daysUntil first' n' : Int) - first by omega)
  have hlast : first' + (daysUntil first' n' : Int) = first + k := by omega
  rw [hlast] at hwide hle
  have hfind : daysUntil first n ≤ k := Nat.find_min' (exists_businessDays first n) (by omega)
  omega

/-! ### The dates of the loop -/

section Loop
variable {offset : Int}

theorem localDay_add (time : Int) (k : Nat) : localDay offset (time + k * dayLength) = localDay offset time + k := by
  rw [localDay, localDay, show time + k * dayLength + offset = time + offset + k * dayLength by ring]
  exact Int.add_mul_ediv_right _ _ (by decide)

/-- The month of a day does not matter for the next. -/
theorem nextDay_some (time : Int) : nextDay offset (some time) = timeClip (time + dayLength) := by
  have hsplit := Int.mul_ediv_add_emod (time + offset) dayLength
  simp only [nextDay, getDate, setDate, Option.map_some]
  congr 1
  rw [localDay, timeWithinDay]
  linarith [hsplit]

theorem onBusinessDay_some (time : Int) : onBusinessDay offset (some time) = businessDay (localDay offset time) := by
  simp only [onBusinessDay, getDay, Option.map_some, businessDay]
  congr 1

/-- An invalid date counts at every turn. -/
theorem businessLoop_invalid {n fuel daysAdded : Nat} (h : n - daysAdded < fuel) :
    businessLoop offset n fuel none daysAdded = some none := by
  induction fuel generalizing daysAdded with
  | zero => omega
  | succ fuel ih =>
    rw [businessLoop]
    split
    · exact ih (by simp only [nextDay, setDate, onBusinessDay, getDay, Option.map_none]; simp; omega)
    · rfl

/-- The state after some days, up to the n-th business day or the end of dates. -/
theorem businessLoop_days {time : Int} {n : Nat} (hlow : -maxTime ≤ time) (j : Nat) {fuel k : Nat}
    (hk : k + j = daysUntil (localDay offset time) n) (hn : 1 ≤ n) (hfuel : j < fuel) (hhigh : time + k * dayLength ≤ maxTime) :
    businessLoop offset n fuel (some (time + k * dayLength)) (businessDaysIn (localDay offset time) (localDay offset time + k)) =
      some (timeClip (time + daysUntil (localDay offset time) n * dayLength)) := by
  have hpositive : 0 < dayLength := by decide
  induction j generalizing fuel k with
  | zero =>
    obtain ⟨fuel, rfl⟩ := Nat.exists_eq_add_of_lt hfuel
    obtain ⟨-, hcount, -⟩ := businessDaysIn_daysUntil (localDay offset time) hn
    rw [← hk, Nat.add_zero] at hcount ⊢
    have hlow' : -maxTime ≤ time + k * dayLength := by nlinarith
    rw [show 0 + fuel + 1 = fuel + 1 by omega, businessLoop, if_neg (by omega), timeClip, if_pos ⟨hlow', hhigh⟩]
    rfl
  | succ j ih =>
    obtain ⟨fuel, rfl⟩ := Nat.exists_eq_add_of_lt hfuel
    have hlt : businessDaysIn (localDay offset time) (localDay offset time + k) < n := businessDaysIn_lt (by omega)
    have hnext : time + k * dayLength + dayLength = time + (k + 1 : Nat) * dayLength := by push_cast; ring
    have hday : localDay offset time + (k + 1 : Nat) = localDay offset time + k + 1 := by push_cast; ring
    have hcount := businessDaysIn_succ (localDay offset time) (localDay offset time + k) (by omega)
    rw [show j + 1 + fuel + 1 = (j + 1 + fuel) + 1 by omega, businessLoop, if_pos hlt]
    simp only [nextDay_some, hnext]
    by_cases hend : time + (k + 1 : Nat) * dayLength ≤ maxTime
    · have hlow' : -maxTime ≤ time + (k + 1 : Nat) * dayLength := by nlinarith
      have hclip : timeClip (time + (k + 1 : Nat) * dayLength) = some (time + (k + 1 : Nat) * dayLength) := by
        rw [timeClip, if_pos ⟨hlow', hend⟩]
      have hstep := @ih (j + 1 + fuel) (k + 1) (by omega) (by omega) hend
      rw [hday, hcount] at hstep
      rw [hclip, onBusinessDay_some, localDay_add, hday]
      split
      case isTrue h => rw [if_pos h] at hstep; exact hstep
      case isFalse h => rw [if_neg h] at hstep; exact hstep
    · -- past the last date, where what is left to count is no more than the days left
      have hclip : timeClip (time + (k + 1 : Nat) * dayLength) = none := by
        rw [timeClip, if_neg fun h => hend h.2]
      have hdays : (k + 1 : Nat) ≤ daysUntil (localDay offset time) n := by omega
      have hlast : timeClip (time + daysUntil (localDay offset time) n * dayLength) = none := by
        have hmul : ((k + 1 : Nat) : Int) * dayLength ≤ daysUntil (localDay offset time) n * dayLength :=
          Int.mul_le_mul_of_nonneg_right (by exact_mod_cast hdays) hpositive.le
        rw [timeClip, if_neg fun h => hend (by linarith [h.2])]
      have hleft := businessDaysIn_add_le (localDay offset time) k (j + 1)
      obtain ⟨-, hall, -⟩ := businessDaysIn_daysUntil (localDay offset time) hn
      rw [← hk] at hall
      rw [hall] at hleft
      have hcounts : onBusinessDay offset none = true := rfl
      rw [hclip, hlast, hcounts, if_pos rfl]
      exact businessLoop_invalid (by omega)

theorem calculateBusinessDays_eq {time : Int} {n fuel : Nat} (hvalid : -maxTime ≤ time ∧ time ≤ maxTime) (hn : 1 ≤ n)
    (hfuel : daysUntil (localDay offset time) n < fuel) :
    calculateBusinessDays offset fuel (some time) n = some (timeClip (time + daysUntil (localDay offset time) n * dayLength)) := by
  have hloop := @businessLoop_days offset time n hvalid.1 (daysUntil (localDay offset time) n) fuel 0 (by omega) hn hfuel
    (by simpa using hvalid.2)
  simpa [businessDaysIn_self, calculateBusinessDays] using hloop

/-- More fuel changes nothing. -/
theorem businessLoop_fuel {n fuel fuel' daysAdded : Nat} {date date' : DateValue} (hle : fuel ≤ fuel')
    (h : businessLoop offset n fuel date daysAdded = some date') : businessLoop offset n fuel' date daysAdded = some date' := by
  induction fuel generalizing fuel' date daysAdded with
  | zero => cases h
  | succ fuel ih =>
    obtain ⟨more, rfl⟩ := Nat.exists_eq_add_of_le hle
    rw [Nat.add_right_comm, businessLoop]
    rw [businessLoop] at h
    split
    case isTrue hlt =>
      rw [if_pos hlt] at h
      exact ih (Nat.le_add_right fuel more) h
    case isFalse hlt =>
      rw [if_neg hlt] at h
      exact h

end Loop

/-! ### The deadline -/

/-- The call returns a date. -/
def Returns (offset : Int) (startDate : DateValue) (businessDays : Nat) (date : DateValue) : Prop :=
  ∃ fuel, calculateBusinessDays offset fuel startDate businessDays = some date

theorem returns_iff {offset time : Int} {n : Nat} (hvalid : -maxTime ≤ time ∧ time ≤ maxTime) (hn : 1 ≤ n) (date : DateValue) :
    Returns offset (some time) n date ↔ date = timeClip (time + daysUntil (localDay offset time) n * dayLength) := by
  constructor
  · rintro ⟨fuel, h⟩
    have hmore := businessLoop_fuel (Nat.le_max_left fuel (daysUntil (localDay offset time) n + 1)) h
    have heq := @calculateBusinessDays_eq offset time n _ hvalid hn
      (Nat.lt_of_lt_of_le (Nat.lt_succ_self _) (Nat.le_max_right fuel (daysUntil (localDay offset time) n + 1)))
    rw [calculateBusinessDays, hmore] at heq
    exact Option.some.inj heq
  · rintro rfl
    exact ⟨_, calculateBusinessDays_eq hvalid hn (Nat.lt_succ_self _)⟩

/-- The day of the deadline: a business day after the start, the n-th of those after it. -/
structure Deadline (start : Int) (n : Nat) (day : Int) : Prop where
  after : start < day
  business : businessDay day = true
  exact : businessDaysIn start day = n

/-- What the loop does from a valid start: it ends, and what it returns is the deadline at
the time of day of the start, or an invalid date where that is past the last date; and
later starts or more days have no earlier deadlines. -/
structure ExactDeadlines (offset : Int) : Prop where
  returns : ∀ time n, -maxTime ≤ time ∧ time ≤ maxTime → 1 ≤ n → ∃ day, Deadline (localDay offset time) n day ∧
    localDay offset (time + (day - localDay offset time) * dayLength) = day ∧
    (∃ enough, ∀ fuel, enough ≤ fuel → ∃ date, calculateBusinessDays offset fuel (some time) n = some date) ∧
    ∀ date, Returns offset (some time) n date ↔ date = timeClip (time + (day - localDay offset time) * dayLength)
  monotone : ∀ time time' n n' date date', -maxTime ≤ time ∧ time ≤ maxTime → -maxTime ≤ time' ∧ time' ≤ maxTime →
    1 ≤ n → n ≤ n' → localDay offset time ≤ localDay offset time' →
    Returns offset (some time) n (some date) → Returns offset (some time') n' (some date') →
    localDay offset date ≤ localDay offset date' ∧ (time = time' → date ≤ date')

theorem timeClip_eq_some {time date : Int} (h : some date = timeClip time) : date = time := by
  rw [timeClip] at h
  split at h
  · exact Option.some.inj h
  · cases h

/-- The deadline is exact within the range of dates, and monotone day by day. -/
theorem business_deadline (offset : Int) : ExactDeadlines offset where
  returns time n hvalid hn := by
    obtain ⟨hafter, hexact, hbusiness⟩ := businessDaysIn_daysUntil (localDay offset time) hn
    have hdays : localDay offset time + (daysUntil (localDay offset time) n : Int) - localDay offset time =
        daysUntil (localDay offset time) n := by ring
    refine ⟨localDay offset time + daysUntil (localDay offset time) n, ⟨by omega, hbusiness, hexact⟩, ?_, ?_, ?_⟩
    · rw [hdays, localDay_add]
    · exact ⟨daysUntil (localDay offset time) n + 1, fun fuel h => ⟨_, calculateBusinessDays_eq hvalid hn h⟩⟩
    · intro date
      rw [hdays]
      exact returns_iff hvalid hn date
  monotone time time' n n' date date' hvalid hvalid' hn hle hday h h' := by
    have hdate := timeClip_eq_some ((returns_iff hvalid hn _).mp h)
    have hdate' := timeClip_eq_some ((returns_iff hvalid' (hn.trans hle) _).mp h')
    have hmono := daysUntil_mono hday hle
    refine ⟨by rw [hdate, hdate', localDay_add, localDay_add]; exact hmono, fun hsame => ?_⟩
    subst hsame
    have hdays : (daysUntil (localDay offset time) n : Int) ≤ daysUntil (localDay offset time) n' := by omega
    have hmul := Int.mul_le_mul_of_nonneg_right hdays (show 0 ≤ dayLength by decide)
    rw [hdate, hdate']
    linarith [hmul]

/-- From the last date on there is no next day; and from a Friday at 23:00 the next business
day is later in time than from the Saturday two hours later. -/
theorem business_deadline_bounds : Returns 0 (some maxTime) 1 none ∧
    ∃ friday saturday date date', friday < saturday ∧ Returns 0 (some friday) 1 (some date) ∧
      Returns 0 (some saturday) 1 (some date') ∧ date' < date :=
  ⟨⟨2, by decide⟩, 1704495600000, 1704502800000, 1704754800000, 1704675600000, by decide, ⟨4, by decide⟩, ⟨3, by decide⟩, by decide⟩

example : dayOfMonth 19782 = 29 ∧ dayOfMonth 19783 = 1 := by decide

end GalaxiaAin.Compliance
