import GalaxiaAin.Library.Arithmetic
import GalaxiaAin.Library.Turns

/-! A function is called again as long as it fails with retryable errors, after waits that grow
by a factor up to a limit. -/
namespace GalaxiaAin.Utils
open Library

/-- The options of a caller; none is a key that is absent. -/
structure RetryOptions (ε : Type) where
  maxRetries : Option Number
  initialDelay : Option Number
  maxDelay : Option Number
  backoffMultiplier : Option Number
  retryable : Option (ε → Bool)

/-- `Required<RetryOptions>`. -/
structure RequiredOptions (ε : Type) where
  maxRetries : Number
  initialDelay : Number
  maxDelay : Number
  backoffMultiplier : Number
  retryable : ε → Bool

def DEFAULT_OPTIONS (ε : Type) : RequiredOptions ε where
  maxRetries := .finite 3
  initialDelay := .finite 1000
  maxDelay := .finite 30000
  backoffMultiplier := .finite 2
  retryable := fun _ => true

/-- `{ ...DEFAULT_OPTIONS, ...options }`. -/
def RetryOptions.opts {ε : Type} (options : RetryOptions ε) : RequiredOptions ε where
  maxRetries := options.maxRetries.getD (DEFAULT_OPTIONS ε).maxRetries
  initialDelay := options.initialDelay.getD (DEFAULT_OPTIONS ε).initialDelay
  maxDelay := options.maxDelay.getD (DEFAULT_OPTIONS ε).maxDelay
  backoffMultiplier := options.backoffMultiplier.getD (DEFAULT_OPTIONS ε).backoffMultiplier
  retryable := options.retryable.getD (DEFAULT_OPTIONS ε).retryable

/-- A call of `fn`, or of `sleep`. -/
inductive Event where
  | call
  | sleep (ms : Number)
  deriving DecidableEq

/-- The variables of the loop; none is `undefined`. -/
structure LoopState (ε : Type) where
  attempt : Nat
  delay : Number
  lastError : Option ε

section
variable {ε α : Type} (round : ℚ → Number) (fn : Nat → Except ε α)

/-- A turn of the loop, with the outcome of the call of its number. -/
def turn (opts : RequiredOptions ε) (n : Nat) (s : LoopState ε) : List Event × Turn (LoopState ε) (Except (Option ε) α) :=
  if (Number.finite s.attempt).Within opts.maxRetries then
    match fn n with
    | .ok value => ([.call], .ends (.ok value))
    | .error error =>
      if !opts.retryable error then ([.call], .ends (.error (some error)))
      -- the break, which leads to the throw after the loop
      else if Number.finite s.attempt = opts.maxRetries then ([.call], .ends (.error (some error)))
      else
        ([.call, .sleep s.delay], .goesOn
          { attempt := nextCount s.attempt
            delay := Number.min (Number.times round s.delay opts.backoffMultiplier) opts.maxDelay
            lastError := some error })
  else ([], .ends (.error s.lastError))

/-- The calls of `fn` and `sleep` within so many turns, and what is returned or thrown. -/
def retry (options : RetryOptions ε) (fuel : Nat) : List Event × Option (Except (Option ε) α) :=
  turns (turn round fn options.opts) fuel 0 { attempt := 0, delay := options.opts.initialDelay, lastError := none }

end

/-! ### The schedule -/

section
variable {ε α : Type} (round : ℚ → Number) (fn : Nat → Except ε α) (opts : RequiredOptions ε)

/-- The wait after a call. -/
def schedule : Nat → Number
  | 0 => opts.initialDelay
  | n + 1 => Number.min (Number.times round (schedule n) opts.backoffMultiplier) opts.maxDelay

def waited (n : Nat) : List Event := [.call, .sleep (schedule round opts n)]

/-- So many calls, each with its wait. -/
def trace (n : Nat) : List Event := (List.range n).flatMap (waited round opts)

/-- The outcome of a call is a retryable error. -/
def Retries (n : Nat) : Prop := ∃ e, fn n = .error e ∧ opts.retryable e = true

/-- A call after which `fn` may not be called again: the next one is beyond the retries. -/
def Last (n : Nat) : Prop :=
  (Number.finite n).Within opts.maxRetries ∧ ¬ (Number.finite (n + 1 : Nat)).Within opts.maxRetries

def calls (events : List Event) : Nat := events.count .call

end

/-- The exits of the loop within its retries, and its waits. -/
structure Follows {ε α : Type} (round : ℚ → Number) (fn : Nat → Except ε α) (options : RetryOptions ε) : Prop where
  success : ∀ (n : Nat) value, (Number.finite n).Within options.opts.maxRetries → (∀ j < n, Retries fn options.opts j) →
    fn n = .ok value →
    ∃ enough, ∀ fuel ≥ enough, retry round fn options fuel = (trace round options.opts n ++ [.call], some (.ok value))
  refusal : ∀ (n : Nat) e, (Number.finite n).Within options.opts.maxRetries → (∀ j < n, Retries fn options.opts j) →
    fn n = .error e → options.opts.retryable e = false →
    ∃ enough, ∀ fuel ≥ enough, retry round fn options fuel = (trace round options.opts n ++ [.call], some (.error (some e)))
  waits : ∀ fuel, (retry round fn options fuel).1 <+: trace round options.opts fuel
  bounded : ∀ n, (schedule round options.opts n).exceeds (Number.max options.opts.initialDelay options.opts.maxDelay) = false

/-- No more calls than the retries and one, and the last error after them. -/
structure Exhausts {ε α : Type} (round : ℚ → Number) (fn : Nat → Except ε α) (options : RetryOptions ε) : Prop where
  attempts : ∀ fuel, (Number.finite (calls (retry round fn options fuel).1)).Within (options.opts.maxRetries.add 1)
  exhausted : (∀ n : Nat, (Number.finite n).Within options.opts.maxRetries → Retries fn options.opts n) →
    ∃ n e events, Last options.opts n ∧ fn n = .error e ∧ calls events = n + 1 ∧
      ∃ enough, ∀ fuel ≥ enough, retry round fn options fuel = (events, some (.error (some e)))

/-- The specified schedule, whatever the options and the outcomes. -/
structure Scheduled {ε α : Type} (round : ℚ → Number) (fn : Nat → Except ε α) (options : RetryOptions ε) : Prop where
  follows : Follows round fn options
  exhausts : Exhausts round fn options

/-! ### A turn -/

section
variable {ε α : Type} (round : ℚ → Number) (fn : Nat → Except ε α) (opts : RequiredOptions ε)

/-- The error of the call before. -/
def lastError : Nat → Option ε
  | 0 => none
  | n + 1 =>
    match fn n with
    | .error e => some e
    | .ok _ => none

/-- The variables after so many turns that went on. -/
def stateAt (n : Nat) : LoopState ε where
  attempt := min n gapless
  delay := schedule round opts n
  lastError := lastError fn n

end

section
variable {ε α : Type} {round : ℚ → Number} {fn : Nat → Except ε α} {opts : RequiredOptions ε} {n : Nat} {s : LoopState ε}

theorem turn_returned (hwithin : (Number.finite s.attempt).Within opts.maxRetries) {value : α} (h : fn n = .ok value) :
    turn round fn opts n s = ([.call], .ends (.ok value)) := by
  rw [turn, if_pos hwithin, h]

theorem turn_refused (hwithin : (Number.finite s.attempt).Within opts.maxRetries) {e : ε} (h : fn n = .error e)
    (hrefused : opts.retryable e = false) : turn round fn opts n s = ([.call], .ends (.error (some e))) := by
  rw [turn, if_pos hwithin, h]
  simp [hrefused]

theorem turn_last (hwithin : (Number.finite s.attempt).Within opts.maxRetries) {e : ε} (h : fn n = .error e)
    (hretry : opts.retryable e = true) (hlast : Number.finite s.attempt = opts.maxRetries) :
    turn round fn opts n s = ([.call], .ends (.error (some e))) := by
  rw [turn, if_pos hwithin, h]
  simp [hretry, hlast]

theorem turn_over (hover : ¬ (Number.finite s.attempt).Within opts.maxRetries) :
    turn round fn opts n s = ([], .ends (.error s.lastError)) := if_neg hover

theorem turn_waits (hwithin : (Number.finite s.attempt).Within opts.maxRetries) {e : ε} (h : fn n = .error e)
    (hretry : opts.retryable e = true) (hbelow : Number.finite s.attempt ≠ opts.maxRetries) :
    turn round fn opts n s = ([.call, .sleep s.delay], .goesOn
      ⟨nextCount s.attempt, Number.min (Number.times round s.delay opts.backoffMultiplier) opts.maxDelay, some e⟩) := by
  rw [turn, if_pos hwithin, h]
  simp [hretry, hbelow]

/-- Below the retries the loop goes on after a retryable error. -/
theorem goesOn_of_below (h : Retries fn opts n) (hbelow : opts.maxRetries.exceeds (.finite (min n gapless : Nat)) = true) :
    GoesOn (turn round fn opts) (stateAt round fn opts) (waited round opts) n := by
  obtain ⟨e, hfn, hretry⟩ := h
  have hnext : stateAt round fn opts (n + 1) =
      ⟨nextCount (min n gapless), Number.min (Number.times round (schedule round opts n) opts.backoffMultiplier) opts.maxDelay,
        some e⟩ := by
    rw [stateAt, nextCount_min, schedule, lastError, hfn]
  rw [GoesOn, hnext]
  exact turn_waits (Number.within_of_exceeds hbelow) hfn hretry (Number.ne_of_exceeds hbelow)

/-- Every turn makes its call and its wait, or ends before. -/
theorem turn_cases (n : Nat) : GoesOn (turn round fn opts) (stateAt round fn opts) (waited round opts) n ∨
    ∃ last result, turn round fn opts n (stateAt round fn opts n) = (last, .ends result) ∧ last <+: waited round opts n := by
  have hcall : [Event.call] <+: waited round opts n := ⟨[.sleep (schedule round opts n)], rfl⟩
  by_cases hwithin : (Number.finite (stateAt round fn opts n).attempt).Within opts.maxRetries
  · cases hfn : fn n with
    | ok value => exact .inr ⟨_, _, turn_returned hwithin hfn, hcall⟩
    | error e =>
      cases hretry : opts.retryable e with
      | false => exact .inr ⟨_, _, turn_refused hwithin hfn hretry, hcall⟩
      | true =>
        by_cases hlast : Number.finite (stateAt round fn opts n).attempt = opts.maxRetries
        · exact .inr ⟨_, _, turn_last hwithin hfn hretry hlast, hcall⟩
        · exact .inl (goesOn_of_below ⟨e, hfn, hretry⟩ (Number.exceeds_of_ne hwithin hlast))
  · exact .inr ⟨_, _, turn_over hwithin, List.nil_prefix⟩

/-- The counter is within the retries where the number of the turn is. -/
theorem attempt_within (h : (Number.finite n).Within opts.maxRetries) :
    (Number.finite (stateAt round fn opts n).attempt).Within opts.maxRetries :=
  Number.within_of_le (Nat.cast_le.mpr (min_le_left n gapless)) h

theorem attempt_eq (h : n ≤ gapless) : (stateAt round fn opts n).attempt = n := min_eq_left h

/-- Before a turn within the retries the counter is below them. -/
theorem attempt_below {j : Nat} (hj : j < n) (h : (Number.finite n).Within opts.maxRetries) :
    opts.maxRetries.exceeds (.finite (min j gapless : Nat)) = true :=
  Number.exceeds_of_lt (Nat.cast_lt.mpr ((min_le_left j gapless).trans_lt hj)) h

/-- The turns before one within the retries go on. -/
theorem goesOn_before (hwithin : (Number.finite n).Within opts.maxRetries) (h : ∀ j < n, Retries fn opts j) (j : Nat) (hj : j < n) :
    GoesOn (turn round fn opts) (stateAt round fn opts) (waited round opts) j :=
  goesOn_of_below (h j hj) (attempt_below hj hwithin)

end

/-! ### Calls and waits -/

section
variable {ε : Type} {round : ℚ → Number} {opts : RequiredOptions ε}

theorem trace_succ (n : Nat) : trace round opts (n + 1) = trace round opts n ++ waited round opts n := by
  rw [trace, List.range_succ, List.flatMap_append, List.flatMap_singleton, trace]

@[simp] theorem calls_append (before after : List Event) : calls (before ++ after) = calls before + calls after :=
  List.count_append

@[simp] theorem calls_trace (n : Nat) : calls (trace round opts n) = n := by
  induction n with
  | zero => rfl
  | succ n ih =>
    rw [trace_succ, calls_append, ih]
    rfl

theorem calls_last (n : Nat) : calls (trace round opts n ++ [.call]) = n + 1 := by
  rw [calls_append, calls_trace]
  rfl

theorem schedule_bounded (n : Nat) : (schedule round opts n).exceeds (Number.max opts.initialDelay opts.maxDelay) = false := by
  cases n with
  | zero => exact Number.left_exceeds_max _ _
  | succ n => exact Number.min_exceeds (Number.right_exceeds_max _ _)

end

/-! ### The exits -/

section
variable {ε α : Type} {round : ℚ → Number} {fn : Nat → Except ε α} {options : RetryOptions ε} {n : Nat}

/-- The loop ends with the first turn within the retries that does. -/
theorem retry_ends (hwithin : (Number.finite n).Within options.opts.maxRetries) (h : ∀ j < n, Retries fn options.opts j)
    {last : List Event} {result : Except (Option ε) α}
    (hlast : turn round fn options.opts n (stateAt round fn options.opts n) = (last, .ends result)) :
    ∃ enough, ∀ fuel ≥ enough, retry round fn options fuel = (trace round options.opts n ++ last, some result) :=
  ⟨n + 1, fun _ hfuel => turns_ends (goesOn_before hwithin h) hlast hfuel⟩

theorem retry_returns (hwithin : (Number.finite n).Within options.opts.maxRetries) (h : ∀ j < n, Retries fn options.opts j)
    {value : α} (hfn : fn n = .ok value) :
    ∃ enough, ∀ fuel ≥ enough, retry round fn options fuel = (trace round options.opts n ++ [.call], some (.ok value)) :=
  retry_ends hwithin h (turn_returned (attempt_within hwithin) hfn)

theorem retry_refuses (hwithin : (Number.finite n).Within options.opts.maxRetries) (h : ∀ j < n, Retries fn options.opts j)
    {e : ε} (hfn : fn n = .error e) (hrefused : options.opts.retryable e = false) :
    ∃ enough, ∀ fuel ≥ enough, retry round fn options fuel = (trace round options.opts n ++ [.call], some (.error (some e))) :=
  retry_ends hwithin h (turn_refused (attempt_within hwithin) hfn hrefused)

/-- At every fuel the calls and waits are the first of the schedule. -/
theorem retry_waits (fuel : Nat) : (retry round fn options fuel).1 <+: trace round options.opts fuel := by
  have hall : (retry round fn options fuel).1 <+: (List.range' 0 fuel).flatMap (waited round options.opts) :=
    turns_prefix turn_cases fuel 0
  rw [← List.range_eq_range'] at hall
  exact hall

theorem retry_follows : Follows round fn options where
  success _ _ hwithin h hfn := retry_returns hwithin h hfn
  refusal _ _ hwithin h hfn hrefused := retry_refuses hwithin h hfn hrefused
  waits := retry_waits
  bounded := schedule_bounded

end

/-! ### The last error -/

section
variable {ε α : Type} (round : ℚ → Number) {fn : Nat → Except ε α} {options : RetryOptions ε} {n : Nat}

theorem exists_last {opts : RequiredOptions ε} {x : ℚ} (hx : 0 ≤ x) (h : opts.maxRetries = .finite x) : ∃ n, Last opts n := by
  refine ⟨⌊x⌋₊, ?_, ?_⟩
  · rw [h]
    exact Nat.floor_le hx
  · rw [h, Number.finite_within_finite, Nat.cast_succ]
    exact not_le.mpr (Nat.lt_floor_add_one x)

theorem Last.le {opts : RequiredOptions ε} (hn : Last opts n) {j : Nat} (hj : (Number.finite j).Within opts.maxRetries) : j ≤ n := by
  by_contra hlt
  exact hn.2 (Number.within_of_le (Nat.cast_le.mpr (not_le.mp hlt)) hj)

/-- With retries within the counter the error of the last call is thrown, at once or after one more wait. -/
theorem retry_exhausted (hn : Last options.opts n) {x : ℚ} (hmax : options.opts.maxRetries = .finite x) (hx : x ≤ gapless)
    (h : ∀ j : Nat, (Number.finite j).Within options.opts.maxRetries → Retries fn options.opts j) :
    ∃ e events, fn n = .error e ∧ calls events = n + 1 ∧
      ∃ enough, ∀ fuel ≥ enough, retry round fn options fuel = (events, some (.error (some e))) := by
  obtain ⟨hwithin, hover⟩ := hn
  obtain ⟨e, hfn, hretry⟩ := h n hwithin
  have hbefore : ∀ j < n, Retries fn options.opts j := fun j hj =>
    h j (Number.within_of_le (Nat.cast_le.mpr hj.le) hwithin)
  have hle : (n : ℚ) ≤ x := by
    rw [hmax] at hwithin
    exact hwithin
  by_cases hlast : Number.finite n = options.opts.maxRetries
  · have hcount : n ≤ gapless := Nat.cast_le.mp (hle.trans hx)
    have hturn : turn round fn options.opts n (stateAt round fn options.opts n) = ([.call], .ends (.error (some e))) :=
      turn_last (attempt_within hwithin) hfn hretry (by rw [attempt_eq hcount, hlast])
    exact ⟨e, _, hfn, calls_last n, retry_ends hwithin hbefore hturn⟩
  · have hlt : (n : ℚ) < x := hle.lt_of_ne fun heq => hlast (by rw [hmax, heq])
    have hcount : n + 1 ≤ gapless := Nat.cast_lt.mp (hlt.trans_le hx)
    -- the counter goes past the retries, after one more wait
    have hgoes : ∀ j < n + 1, GoesOn (turn round fn options.opts) (stateAt round fn options.opts) (waited round options.opts) j := by
      intro j hj
      rcases Nat.lt_succ_iff_lt_or_eq.mp hj with hj | rfl
      · exact goesOn_before hwithin hbefore j hj
      · exact goesOn_of_below ⟨e, hfn, hretry⟩ (by
          rw [hmax, min_eq_left (Nat.le_of_succ_le hcount)]
          exact decide_eq_true hlt)
    have hturn : turn round fn options.opts (n + 1) (stateAt round fn options.opts (n + 1)) = ([], .ends (.error (some e))) := by
      rw [turn_over (by rwa [attempt_eq hcount]), stateAt, lastError, hfn]
    exact ⟨e, _, hfn, by rw [List.append_nil]; exact calls_trace _, n + 2, fun _ hfuel => turns_ends hgoes hturn hfuel⟩

/-- With retries within the counter the loop comes to an end, after no more calls than the retries and one. -/
theorem retry_settles (fn : Nat → Except ε α) {x : ℚ} (hmax : options.opts.maxRetries = .finite x) (h0 : 0 ≤ x) (hx : x ≤ gapless) :
    ∃ (n : Nat) (events : List Event) (result : Except (Option ε) α), (Number.finite n).Within options.opts.maxRetries ∧
      calls events = n + 1 ∧ ∃ enough, ∀ fuel ≥ enough, retry round fn options fuel = (events, some result) := by
  classical
  by_cases h : ∃ n : Nat, (Number.finite n).Within options.opts.maxRetries ∧ ¬ Retries fn options.opts n
  · obtain ⟨hwithin, hstops⟩ := Nat.find_spec h
    have hbefore : ∀ j < Nat.find h, Retries fn options.opts j := fun j hj =>
      by_contra fun hnot => Nat.find_min h hj ⟨Number.within_of_le (Nat.cast_le.mpr hj.le) hwithin, hnot⟩
    cases hfn : fn (Nat.find h) with
    | ok value => exact ⟨_, _, _, hwithin, calls_last _, retry_returns hwithin hbefore hfn⟩
    | error e =>
      have hrefused : options.opts.retryable e = false := Bool.eq_false_iff.mpr fun hretry => hstops ⟨e, hfn, hretry⟩
      exact ⟨_, _, _, hwithin, calls_last _, retry_refuses hwithin hbefore hfn hrefused⟩
  · obtain ⟨n, hn⟩ := exists_last h0 hmax
    have hall : ∀ j : Nat, (Number.finite j).Within options.opts.maxRetries → Retries fn options.opts j := fun j hj =>
      by_contra fun hnot => h ⟨j, hj, hnot⟩
    obtain ⟨e, events, -, hcalls, hends⟩ := retry_exhausted round hn hmax hx hall
    exact ⟨n, events, _, hn.1, hcalls, hends⟩

theorem retry_exhausts {x : ℚ} (hmax : options.opts.maxRetries = .finite x) (h0 : 0 ≤ x) (hx : x ≤ gapless) :
    Exhausts round fn options where
  attempts fuel := by
    obtain ⟨n, events, result, hwithin, hcalls, enough, hends⟩ := retry_settles round fn hmax h0 hx
    have hmore : (retry round fn options fuel).1 <+: (retry round fn options (fuel + enough)).1 := turns_mono fuel enough 0 _
    rw [hends _ (Nat.le_add_left enough fuel)] at hmore
    have hcount : calls (retry round fn options fuel).1 ≤ n + 1 := (hmore.sublist.count_le _).trans_eq hcalls
    rw [hmax] at hwithin ⊢
    calc ((calls (retry round fn options fuel).1 : Nat) : ℚ) ≤ ((n + 1 : Nat) : ℚ) := Nat.cast_le.mpr hcount
      _ = 1 + n := by rw [Nat.cast_succ, add_comm]
      _ ≤ 1 + x := add_le_add_right hwithin 1
  exhausted h := by
    obtain ⟨n, hn⟩ := exists_last h0 hmax
    obtain ⟨e, events, hexit⟩ := retry_exhausted round hn hmax hx h
    exact ⟨n, e, events, hn, hexit⟩

/-- Beyond the counter the loop goes on as long as the outcomes are retryable errors. -/
theorem retry_unending (h0 : (Number.finite 0).Within options.opts.maxRetries)
    (hmax : ¬ options.opts.maxRetries.Within (.finite gapless)) {fuel : Nat} (h : ∀ j < fuel, Retries fn options.opts j) :
    retry round fn options fuel = (trace round options.opts fuel, none) := by
  have hbeyond : options.opts.maxRetries.exceeds (.finite gapless) = true := by
    by_contra hnot
    exact hmax ((Number.within_iff _ _).mpr ⟨((Number.within_iff _ _).mp h0).2.1, Number.noConfusion, Bool.eq_false_iff.mpr hnot⟩)
  exact turns_goesOn fun j hj =>
    goesOn_of_below (h j hj) (Number.exceeds_of_le (Nat.cast_le.mpr (min_le_right j gapless)) hbeyond)

end

/-- For every options with retries that are at least zero, and every outcomes: the exits within the retries and the
waits are as specified. Where the counter of the loop can reach the retries, there are no more calls than they allow
and the last error is thrown; where it cannot, the loop does not end before an outcome other than a retryable error. -/
theorem retry_scheduled {ε α : Type} (round : ℚ → Number) (fn : Nat → Except ε α) (options : RetryOptions ε)
    (h0 : (Number.finite 0).Within options.opts.maxRetries) :
    Follows round fn options ∧ (options.opts.maxRetries.Within (.finite gapless) → Exhausts round fn options) ∧
      (¬ options.opts.maxRetries.Within (.finite gapless) → ∀ fuel, (∀ j < fuel, Retries fn options.opts j) →
        retry round fn options fuel = (trace round options.opts fuel, none)) := by
  refine ⟨retry_follows, fun hmax => ?_, fun hmax fuel h => retry_unending round h0 hmax h⟩
  obtain ⟨x, heq, hx0, hx⟩ := Number.finite_of_within h0 hmax
  exact retry_exhausts round heq hx0 hx

private def withRetries (n : Option Number) : RetryOptions Unit where
  maxRetries := n
  initialDelay := none
  maxDelay := none
  backoffMultiplier := none
  retryable := none

private def succeedsThird (n : Nat) : Except Unit Nat := if n < 2 then .error () else .ok n

private def alwaysFails (_ : Nat) : Except Unit Nat := .error ()

/-- The default options, and a function that fails twice. -/
theorem retry_scheduled_default :
    Follows .ofRat succeedsThird (withRetries none) ∧
      ((withRetries none).opts.maxRetries.Within (.finite gapless) → Exhausts .ofRat succeedsThird (withRetries none)) ∧
      (¬ (withRetries none).opts.maxRetries.Within (.finite gapless) →
        ∀ fuel, (∀ j < fuel, Retries succeedsThird (withRetries none).opts j) →
          retry .ofRat succeedsThird (withRetries none) fuel = (trace .ofRat (withRetries none).opts fuel, none)) :=
  retry_scheduled .ofRat succeedsThird (withRetries none) (by decide)

example : retry .ofRat succeedsThird (withRetries none) 3 =
    ([.call, .sleep (.finite 1000), .call, .sleep (.finite 2000), .call], some (.ok 2)) := by decide +kernel

/-- A function that always fails is called again without end, with a number of retries that the counter does not reach
and with infinitely many. -/
theorem retry_beyond_counter :
    ¬ Scheduled .ofRat alwaysFails (withRetries (some (.finite (2 ^ 53 + 2)))) ∧
      ¬ Scheduled .ofRat alwaysFails (withRetries (some .infinity)) := by
  have hretries (n : Option Number) (j : Nat) : Retries alwaysFails (withRetries n).opts j := ⟨(), rfl, rfl⟩
  constructor
  · intro h
    have hbeyond : ¬ (withRetries (some (.finite (2 ^ 53 + 2)))).opts.maxRetries.Within (.finite gapless) := by
      show ¬ ((2 : ℚ) ^ 53 + 2 ≤ ((2 ^ 53 : Nat) : ℚ))
      norm_num
    have hzero : (Number.finite 0).Within (withRetries (some (.finite (2 ^ 53 + 2)))).opts.maxRetries := by
      show (0 : ℚ) ≤ 2 ^ 53 + 2
      norm_num
    have hcalls (fuel : Nat) : (fuel : ℚ) ≤ 1 + (2 ^ 53 + 2) := by
      have hwithin := h.exhausts.attempts fuel
      rw [retry_unending _ hzero hbeyond fun j _ => hretries _ j, calls_trace] at hwithin
      exact hwithin
    have hmore := hcalls (2 ^ 53 + 4)
    norm_num at hmore
  · intro h
    obtain ⟨n, e, events, hlast, -⟩ := h.exhausts.exhausted fun n _ => hretries _ n
    exact hlast.2 rfl

end GalaxiaAin.Utils
