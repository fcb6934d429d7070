import GalaxiaAin.Gateway.RateLimiter
import GalaxiaAin.Library.Windows

/-! The rate limiter in the memory of the process. It counts the calls of a key until the
count of its entry ends, refused calls included. -/
namespace GalaxiaAin.Limits
open GalaxiaAin.Library
open GalaxiaAin.Gateway (ceilSeconds)

/-- An entry of a map of limits; times are milliseconds. -/
structure Bucket where
  count : Nat
  resetAt : Int
  deriving DecidableEq

abbrev Buckets := Text → Option Bucket

structure MemoryCheck where
  allowed : Bool
  remaining : Int
  retryAfterSec : Option Int
  deriving DecidableEq

variable (limit windowSec : Nat)

/-- The entry a call finds, or a new one where there is none or its time is over. -/
def currentEntry (entry : Option Bucket) (now : Int) : Bucket :=
  match entry with
  | some entry => if entry.resetAt ≤ now then ⟨0, now + windowSec * 1000⟩ else entry
  | none => ⟨0, now + windowSec * 1000⟩

/-- The entry after `entry.count += 1`. -/
def countedEntry (entry : Option Bucket) (now : Int) : Bucket :=
  let entry := currentEntry windowSec entry now
  { entry with count := entry.count + 1 }

def memoryCheck (entry : Bucket) (now : Int) : MemoryCheck :=
  if limit < entry.count then ⟨false, 0, some (max 1 (ceilSeconds (entry.resetAt - now)))⟩
  else ⟨true, max 0 (limit - entry.count), none⟩

def checkMemoryRateLimit (key : Text) (now : Int) (buckets : Buckets) : MemoryCheck × Buckets :=
  let entry := countedEntry windowSec (buckets key) now
  (memoryCheck limit entry now, Function.update buckets key (some entry))

/-- A call and when it is made. -/
structure LimitCall where
  key : Text
  now : Int

/-- The map after calls that found it empty at first. -/
def bucketsAfter (past : List LimitCall) : Buckets :=
  past.foldl (fun buckets c => (checkMemoryRateLimit limit windowSec c.key c.now buckets).2) fun _ => none

def checkAfter (past : List LimitCall) (call : LimitCall) : MemoryCheck :=
  (checkMemoryRateLimit limit windowSec call.key call.now (bucketsAfter limit windowSec past)).1

example : checkAfter 2 60 [⟨units "t2", 0⟩, ⟨units "t2", 1⟩] ⟨units "t2", 500⟩ = ⟨false, 0, some 60⟩ := by decide

/-! ### What the limiter is for -/

def callsOn (key : Text) (calls : List LimitCall) : List LimitCall := calls.filter fun c => c.key = key

/-- A window that opened at a time ends `windowSec` seconds later. -/
def windowOver (opened now : Int) : Bool := decide (opened + windowSec * 1000 ≤ now)

/-- The window of a call: that of the calls of its key before it, or one it opens. -/
def windowOf (past : List LimitCall) (call : LimitCall) : Window Int :=
  Window.next (windowOver windowSec) (Window.last (windowOver windowSec) ((callsOn call.key past).map (·.now))) call.now

def InOrder (calls : List LimitCall) : Prop := calls.Pairwise fun a b => a.now ≤ b.now

/-! ### The entry of a key is its window -/

/-- A window as the map has it. -/
def entryOf (w : Window Int) : Bucket := ⟨w.calls, w.opened + windowSec * 1000⟩

theorem countedEntry_view (window : Option (Window Int)) (now : Int) :
    countedEntry windowSec (window.map (entryOf windowSec)) now =
      entryOf windowSec (Window.next (windowOver windowSec) window now) := by
  cases window with
  | none => rfl
  | some w =>
    simp only [Option.map_some, countedEntry, currentEntry, Window.next, entryOf, windowOver, decide_eq_true_eq]
    split
    · rfl
    · simp only [Window.calls, List.length_append, List.length_cons, List.length_nil]

theorem bucketsAfter_apply (past : List LimitCall) (key : Text) :
    bucketsAfter limit windowSec past key =
      (Window.last (windowOver windowSec) ((callsOn key past).map (·.now))).map (entryOf windowSec) :=
  Window.keyedRun_view _ (countedEntry_view windowSec) past key

theorem checkAfter_eq (past : List LimitCall) (call : LimitCall) :
    checkAfter limit windowSec past call =
      memoryCheck limit (entryOf windowSec (windowOf windowSec past call)) call.now := by
  rw [checkAfter, checkMemoryRateLimit, bucketsAfter_apply, countedEntry_view]
  rfl

variable {limit windowSec} {past : List LimitCall} {call : LimitCall}

theorem memoryCheck_allowed {entry : Bucket} {now : Int} :
    (memoryCheck limit entry now).allowed = true ↔ entry.count ≤ limit := by
  unfold memoryCheck
  split <;> simp <;> omega

theorem memoryCheck_remaining {entry : Bucket} {now : Int} :
    (memoryCheck limit entry now).remaining = max 0 ((limit : Int) - entry.count) := by
  unfold memoryCheck
  split
  · have hnone : (limit : Int) - entry.count ≤ 0 := by omega
    exact (max_eq_left hnone).symm
  · rfl

theorem windowOf_opened_le (h : InOrder (past ++ [call])) : (windowOf windowSec past call).opened ≤ call.now := by
  refine Window.next_opened_le fun t ht => ?_
  obtain ⟨c, hc, rfl⟩ := List.mem_map.mp ht
  exact (List.pairwise_append.mp h).2.2 c (List.mem_of_mem_filter hc) call List.mem_cons_self

/-- A call is made before the end of its window. -/
theorem windowOf_ends (hwindow : 1 ≤ windowSec) :
    call.now < (windowOf windowSec past call).opened + windowSec * 1000 := by
  have hover : windowOver windowSec call.now call.now = false := by
    simp only [windowOver, decide_eq_false_iff_not]
    omega
  have := Window.not_over_next (Window.last (windowOver windowSec) ((callsOn call.key past).map (·.now))) hover
  simpa [windowOver, windowOf] using this

/-- The window of a call that comes after another of its key, with no call of the key between. -/
theorem windowOf_after {others : List LimitCall} (hothers : ∀ c ∈ others, c.key ≠ call.key) (now : Int) :
    windowOf windowSec (past ++ call :: others) ⟨call.key, now⟩ =
      Window.next (windowOver windowSec) (some (windowOf windowSec past call)) now := by
  have hnone : ∀ c ∈ others, decide (c.key = call.key) = false := fun c hc => decide_eq_false (hothers c hc)
  exact Window.next_after (fun c : LimitCall => decide (c.key = call.key)) (decide_eq_true rfl) hnone now

/-- A call at or after the end of the window opens the next. -/
theorem windowOf_after_end {others : List LimitCall} (hothers : ∀ c ∈ others, c.key ≠ call.key) {now : Int}
    (hend : (windowOf windowSec past call).opened + windowSec * 1000 ≤ now) :
    windowOf windowSec (past ++ call :: others) ⟨call.key, now⟩ = ⟨now, []⟩ := by
  rw [windowOf_after hothers, Window.next, if_pos (by simpa [windowOver] using hend)]

/-- The hint of a refusal: whole seconds of the window at most, after which the window is over. -/
theorem refusal_hint {w : Window Int} {now : Int} (hrefused : limit < w.calls) (hopened : w.opened ≤ now)
    (hnow : now < w.opened + windowSec * 1000) :
    ∃ r, (memoryCheck limit (entryOf windowSec w) now).retryAfterSec = some r ∧ 1 ≤ r ∧ r ≤ windowSec ∧
      w.opened + windowSec * 1000 ≤ now + r * 1000 := by
  have hseconds : 1 ≤ ceilSeconds (w.opened + windowSec * 1000 - now) := by
    unfold ceilSeconds
    omega
  refine ⟨ceilSeconds (w.opened + windowSec * 1000 - now), ?_, hseconds, ?_, ?_⟩
  · simp only [memoryCheck, entryOf, if_pos hrefused, max_eq_right hseconds]
  · unfold ceilSeconds
    omega
  · unfold ceilSeconds
    omega

/-- Of the calls on a key the first `limit` of each window are allowed, whatever is called
on other keys; what remains is told and a refused caller learns how many seconds to wait. -/
theorem memory_limit_exact (hlimit : 1 ≤ limit) (hwindow : 1 ≤ windowSec) (past : List LimitCall) (call : LimitCall)
    (horder : InOrder (past ++ [call])) :
    let check := checkAfter limit windowSec past call
    let calls := (windowOf windowSec past call).calls
    (check.allowed = true ↔ calls ≤ limit) ∧ check.remaining = max 0 ((limit : Int) - calls) ∧
    check = checkAfter limit windowSec (callsOn call.key past) call ∧
    (check.allowed = false → ∃ r, check.retryAfterSec = some r ∧ 1 ≤ r ∧ r ≤ windowSec ∧
      ∀ others : List LimitCall, (∀ c ∈ others, c.key ≠ call.key) →
        (checkAfter limit windowSec (past ++ call :: others) ⟨call.key, call.now + r * 1000⟩).allowed = true) := by
  intro check calls
  have hallowed : check.allowed = true ↔ calls ≤ limit := by
    rw [show check = _ from checkAfter_eq _ _ _ _, memoryCheck_allowed]
    rfl
  refine ⟨hallowed, ?_, ?_, fun hrefused => ?_⟩
  · rw [show check = _ from checkAfter_eq _ _ _ _, memoryCheck_remaining]
    rfl
  · rw [show check = _ from checkAfter_eq _ _ _ _, checkAfter_eq, windowOf, windowOf, callsOn, callsOn, List.filter_filter]
    simp only [Bool.and_self]
  · have hcalls : limit < calls := by
      rw [← Bool.not_eq_true, hallowed] at hrefused
      exact Nat.lt_of_not_le hrefused
    obtain ⟨r, hr, hpos, hle, hend⟩ := refusal_hint hcalls (windowOf_opened_le horder) (windowOf_ends hwindow)
    refine ⟨r, by rw [show check = _ from checkAfter_eq _ _ _ _, hr], hpos, hle, fun others hothers => ?_⟩
    rw [checkAfter_eq, memoryCheck_allowed, windowOf_after_end hothers hend]
    exact hlimit

theorem memory_limit_exact_refused : (checkAfter 1 60 [⟨units "t1", 0⟩] ⟨units "t1", 59999⟩).retryAfterSec = some 1 ∧
    (checkAfter 1 60 ([⟨units "t1", 0⟩] ++ ⟨units "t1", 59999⟩ :: []) ⟨units "t1", 59999 + 1 * 1000⟩).allowed = true := by
  obtain ⟨-, -, -, hhint⟩ := @memory_limit_exact 1 60 (by decide) (by decide)
    [⟨units "t1", 0⟩] ⟨units "t1", 59999⟩ (by simp [InOrder])
  obtain ⟨r, hr, -, -, hlater⟩ := hhint (by decide)
  have hone : r = 1 := by
    have : (checkAfter 1 60 [⟨units "t1", 0⟩] ⟨units "t1", 59999⟩).retryAfterSec = some 1 := by decide
    rw [this] at hr
    exact (Option.some.inj hr).symm
  subst hone
  exact ⟨hr, hlater [] (by simp)⟩

end GalaxiaAin.Limits
