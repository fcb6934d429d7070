import Mathlib.Algebra.Order.Floor.Semiring
import Mathlib.Algebra.Order.Field.Rat
import Mathlib.Data.NNRat.Defs
import Mathlib.Data.Rat.Floor
import Mathlib.Tactic.Linarith
import Mathlib.Tactic.Ring

/-! Polling until a deadline. Every turn of the loop compares the clock with the timeout, makes
a call, and ends with its answer or sleeps. -/
namespace GalaxiaAin.Library

/-- What an answer means for the loop. -/
inductive Verdict (ε : Type) where
  | accept
  | refuse (e : ε)
  | wait

/-- How long everything takes: the time until the first turn, that of the calls, and what the
sleeps take beyond the time they are given. -/
structure Delays where
  first : NNRat
  call : Nat → NNRat
  beyond : Nat → NNRat

/-- The time since the start at which a turn begins. -/
def Delays.elapsed (d : Delays) (interval : ℚ) : Nat → ℚ
  | 0 => d.first
  | i + 1 => d.elapsed interval i + d.call i + (interval + d.beyond i)

section
variable {ρ ε : Type} (judge : ρ → Verdict ε) (timedOut : ε) (timeout : ℚ) (reply : Nat → Except ε ρ) (elapsed : Nat → ℚ)

/-- The loop from a turn on, with the number of calls when it ends; none when the fuel runs out. -/
def poll : Nat → Nat → Option (Except ε ρ × Nat)
  | 0, _ => none
  | fuel + 1, i =>
    if elapsed i < timeout then
      match reply i with
      | .error e => some (.error e, i + 1)
      | .ok r =>
        match judge r with
        | .accept => some (.ok r, i + 1)
        | .refuse e => some (.error e, i + 1)
        | .wait => poll fuel (i + 1)
    else some (.error timedOut, i)

/-- A turn begins in time, and its answer is waited on. -/
def Waits (i : Nat) : Prop := elapsed i < timeout ∧ ∃ r, reply i = .ok r ∧ judge r = .wait

/-- How the loop ends, after turns that wait. -/
inductive Polled : Except ε ρ → Nat → Prop
  | accepted (k : Nat) (r : ρ) (before : ∀ j < k, Waits judge timeout reply elapsed j) (time : elapsed k < timeout)
      (answer : reply k = .ok r) (verdict : judge r = .accept) : Polled (.ok r) (k + 1)
  | refused (k : Nat) (r : ρ) (e : ε) (before : ∀ j < k, Waits judge timeout reply elapsed j) (time : elapsed k < timeout)
      (answer : reply k = .ok r) (verdict : judge r = .refuse e) : Polled (.error e) (k + 1)
  | failed (k : Nat) (e : ε) (before : ∀ j < k, Waits judge timeout reply elapsed j) (time : elapsed k < timeout)
      (answer : reply k = .error e) : Polled (.error e) (k + 1)
  | timedOut (k : Nat) (before : ∀ j < k, Waits judge timeout reply elapsed j) (time : timeout ≤ elapsed k) :
      Polled (.error timedOut) k

variable {judge timedOut timeout reply elapsed}

theorem poll_polled {fuel i n : Nat} {result : Except ε ρ} (before : ∀ j < i, Waits judge timeout reply elapsed j)
    (h : poll judge timedOut timeout reply elapsed fuel i = some (result, n)) :
    Polled judge timedOut timeout reply elapsed result n := by
  induction fuel generalizing i with
  | zero => cases h
  | succ fuel ih =>
    rw [poll] at h
    split at h
    case isTrue time =>
      split at h
      case h_1 e answer =>
        cases h
        exact .failed i e before time answer
      case h_2 r answer =>
        split at h
        case h_1 verdict =>
          cases h
          exact .accepted i r before time answer verdict
        case h_2 e verdict =>
          cases h
          exact .refused i r e before time answer verdict
        case h_3 verdict =>
          refine ih (fun j hj => ?_) h
          rcases Nat.lt_succ_iff_lt_or_eq.mp hj with hlt | rfl
          · exact before j hlt
          · exact ⟨time, r, answer, verdict⟩
    case isFalse time =>
      cases h
      exact .timedOut n before (not_lt.mp time)

/-- An answer that is accepted after turns that wait ends the loop. -/
theorem Polled.eq_ok {result : Except ε ρ} {n k : Nat} {r : ρ} (h : Polled judge timedOut timeout reply elapsed result n)
    (before : ∀ j < k, Waits judge timeout reply elapsed j) (time : elapsed k < timeout) (answer : reply k = .ok r)
    (verdict : judge r = .accept) : result = .ok r := by
  have hwait {j : Nat} (hj : Waits judge timeout reply elapsed j) : j ≠ k := by
    rintro rfl
    obtain ⟨-, s, hs, hw⟩ := hj
    rw [answer] at hs
    cases hs
    rw [verdict] at hw
    cases hw
  have hmeets {m : Nat} (hend : ¬ Waits judge timeout reply elapsed m) (hbefore : ∀ j < m, Waits judge timeout reply elapsed j) :
      m = k := by
    rcases Nat.lt_trichotomy m k with hlt | rfl | hgt
    · exact absurd (before m hlt) hend
    · rfl
    · exact absurd rfl (hwait (hbefore k hgt))
  cases h with
  | accepted m s hbefore htime hs hv =>
    obtain rfl := hmeets (fun ⟨_, s', hs', hw⟩ => by rw [hs] at hs'; cases hs'; rw [hv] at hw; cases hw) hbefore
    rw [answer] at hs
    cases hs
    rfl
  | refused m s e hbefore htime hs hv =>
    obtain rfl := hmeets (fun ⟨_, s', hs', hw⟩ => by rw [hs] at hs'; cases hs'; rw [hv] at hw; cases hw) hbefore
    rw [answer] at hs
    cases hs
    rw [verdict] at hv
    cases hv
  | failed m e hbefore htime he =>
    obtain rfl := hmeets (fun ⟨_, s', hs', _⟩ => by rw [he] at hs'; cases hs') hbefore
    rw [answer] at he
    cases he
  | timedOut m hbefore htime =>
    obtain rfl := hmeets (fun hw => absurd hw.1 (not_lt.mpr htime)) hbefore
    exact absurd time (not_lt.mpr htime)

end

/-! ### The bound -/

section
variable {ρ ε : Type} {judge : ρ → Verdict ε} {timedOut : ε} {timeout interval : ℚ} {reply : Nat → Except ε ρ} {d : Delays}

theorem Delays.mul_le_elapsed (d : Delays) (interval : ℚ) (i : Nat) : i * interval ≤ d.elapsed interval i := by
  induction i with
  | zero => rw [Nat.cast_zero, zero_mul]; exact d.first.coe_nonneg
  | succ i ih =>
    have hcall := (d.call i).coe_nonneg
    have hbeyond := (d.beyond i).coe_nonneg
    rw [elapsed]
    push_cast
    linarith only [ih, hcall, hbeyond]

theorem Delays.elapsed_mono (d : Delays) (hinterval : 0 < interval) {i j : Nat} (h : i ≤ j) :
    d.elapsed interval i ≤ d.elapsed interval j := by
  induction h with
  | refl => exact le_refl _
  | @step j _ ih =>
    have hcall := (d.call j).coe_nonneg
    have hbeyond := (d.beyond j).coe_nonneg
    rw [elapsed]
    linarith only [ih, hcall, hbeyond, hinterval]

/-- A turn in time is one of the first. -/
theorem turn_lt (hinterval : 0 < interval) {i : Nat} (h : d.elapsed interval i < timeout) : i < ⌈timeout / interval⌉₊ := by
  rw [Nat.lt_ceil, lt_div_iff₀ hinterval]
  exact (d.mul_le_elapsed interval i).trans_lt h

theorem Polled.bounded (hinterval : 0 < interval) {result : Except ε ρ} {n : Nat}
    (h : Polled judge timedOut timeout reply (d.elapsed interval) result n) : n ≤ ⌈timeout / interval⌉₊ := by
  cases h with
  | accepted k r before time answer verdict => exact turn_lt hinterval time
  | refused k r e before time answer verdict => exact turn_lt hinterval time
  | failed k e before time answer => exact turn_lt hinterval time
  | timedOut _ before time =>
    cases n with
    | zero => exact Nat.zero_le _
    | succ k => exact turn_lt hinterval (before k (Nat.lt_succ_self k)).1

/-- The loop ends with any fuel beyond the bound. -/
theorem poll_ends (hinterval : 0 < interval) {fuel i : Nat} (hfuel : ⌈timeout / interval⌉₊ < fuel + i) (hpositive : 0 < fuel) :
    ∃ result n, poll judge timedOut timeout reply (d.elapsed interval) fuel i = some (result, n) := by
  induction fuel generalizing i with
  | zero => omega
  | succ fuel ih =>
    rw [poll]
    split
    case isTrue time =>
      have hturn := turn_lt hinterval time
      split
      · exact ⟨_, _, rfl⟩
      · split
        · exact ⟨_, _, rfl⟩
        · exact ⟨_, _, rfl⟩
        · exact ih (by omega) (by omega)
    case isFalse => exact ⟨_, _, rfl⟩

/-- More fuel changes nothing. -/
theorem poll_fuel {fuel fuel' i : Nat} {o : Except ε ρ × Nat} {elapsed : Nat → ℚ} (hle : fuel ≤ fuel')
    (h : poll judge timedOut timeout reply elapsed fuel i = some o) : poll judge timedOut timeout reply elapsed fuel' i = some o := by
  induction fuel generalizing fuel' i with
  | zero => cases h
  | succ fuel ih =>
    obtain ⟨more, rfl⟩ := Nat.exists_eq_add_of_le hle
    rw [Nat.add_right_comm, poll]
    rw [poll] at h
    split
    case isTrue time =>
      rw [if_pos time] at h
      split
      case h_1 e answer =>
        rw [answer] at h
        exact h
      case h_2 r answer =>
        simp only [answer] at h
        split
        case h_1 verdict => rw [verdict] at h; exact h
        case h_2 e verdict => rw [verdict] at h; exact h
        case h_3 verdict =>
          rw [verdict] at h
          exact ih (Nat.le_add_right fuel more) h
    case isFalse time =>
      rw [if_neg time] at h
      exact h

/-- The loop makes at most one call for each interval in the timeout, and ends. -/
theorem exists_polled (hinterval : 0 < interval) : ∃ result n,
    (∃ enough, ∀ fuel, enough ≤ fuel → poll judge timedOut timeout reply (d.elapsed interval) fuel 0 = some (result, n)) ∧
      n ≤ ⌈timeout / interval⌉₊ ∧ Polled judge timedOut timeout reply (d.elapsed interval) result n := by
  have hends : ∃ result n, poll judge timedOut timeout reply (d.elapsed interval) (⌈timeout / interval⌉₊ + 1) 0 = some (result, n) :=
    poll_ends hinterval (Nat.lt_succ_self _) (Nat.succ_pos _)
  obtain ⟨result, n, h⟩ := hends
  have hpolled := poll_polled (fun j hj => (Nat.not_lt_zero j hj).elim) h
  exact ⟨result, n, ⟨_, fun fuel hle => poll_fuel hle h⟩, hpolled.bounded hinterval, hpolled⟩

end
end GalaxiaAin.Library
