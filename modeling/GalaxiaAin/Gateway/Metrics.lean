import Mathlib.Data.List.Count
import Mathlib.Data.List.Dedup
import Mathlib.Data.List.Induction
import Mathlib.Data.Rat.Floor
import Mathlib.Algebra.Order.Ring.Rat
import Mathlib.Tactic.Linarith

/-! The request metrics of the process: a count for each minute, of which the requests
forget all but the last hour and the errors none, and the report over them. -/
namespace GalaxiaAin.Gateway

/-- A `Map` from minutes to counts. -/
abbrev PerMinute := Int → Option Nat

/-- `map.set(minute, (map.get(minute) || 0) + 1)`. -/
def PerMinute.bump (counts : PerMinute) (minute : Int) : PerMinute :=
  Function.update counts minute (some ((counts minute).getD 0 + 1))

structure RequestMetrics where
  count : Nat
  errors : Nat
  requestsByMinute : PerMinute
  errorsByMinute : PerMinute

namespace RequestMetrics

def empty : RequestMetrics := ⟨0, 0, fun _ => none, fun _ => none⟩

/-- `Math.floor(now / 60000)`. -/
def minuteOf (now : Int) : Int := now / 60000

def trackRequest (now : Int) (metrics : RequestMetrics) : RequestMetrics :=
  let minute := minuteOf now
  let requests := metrics.requestsByMinute.bump minute
  -- Keep the last 60 minutes.
  let cutoff := minute - 60
  { metrics with
    count := metrics.count + 1
    requestsByMinute := fun key => if key < cutoff then none else requests key }

/-- The `finish` of a response, to a request that came at a time. -/
def onFinish (startedAt : Int) (statusCode : Nat) (metrics : RequestMetrics) : RequestMetrics :=
  if 400 ≤ statusCode then
    { metrics with
      errors := metrics.errors + 1
      errorsByMinute := metrics.errorsByMinute.bump (minuteOf startedAt) }
  else metrics

/-- `Math.round(x * 100) / 100`. -/
def hundredths (x : ℚ) : ℚ := (⌊x * 100 + 1 / 2⌋ : ℤ) / 100

structure Report where
  requests_per_minute : ℚ
  error_rate : ℚ
  total_requests : Nat
  total_errors : Nat

/-- The minutes of the loop of the report. -/
def lastMinutes (now : Int) : List Int := (List.range 5).map fun i : Nat => minuteOf now - (i : Int)

def getRequestMetrics (now : Int) (metrics : RequestMetrics) : Report :=
  let requests := (lastMinutes now).map fun minute => (metrics.requestsByMinute minute).getD 0
  let totalRequests := requests.sum
  let minuteCount := requests.countP fun n => decide (0 < n)
  { requests_per_minute := hundredths (if 0 < minuteCount then (totalRequests : ℚ) / minuteCount else 0)
    error_rate := hundredths (if 0 < metrics.count then (metrics.errors : ℚ) / metrics.count * 100 else 0)
    total_requests := metrics.count
    total_errors := metrics.errors }

/-- What happens to the metrics. -/
inductive Event where
  | request (now : Int)
  | finish (startedAt : Int) (statusCode : Nat)

def step (metrics : RequestMetrics) : Event → RequestMetrics
  | .request now => metrics.trackRequest now
  | .finish startedAt statusCode => metrics.onFinish startedAt statusCode

def after (events : List Event) : RequestMetrics := events.foldl step empty

example : (after [.request 5, .request 70000, .finish 5 404]).errorsByMinute 0 = some 1 := by decide

/-! ### What is counted -/

/-- The times of the requests. -/
def arrivals (events : List Event) : List Int :=
  events.filterMap fun
    | .request now => some now
    | .finish _ _ => none

/-- The times of the requests that were answered with an error. -/
def failures (events : List Event) : List Int :=
  events.filterMap fun
    | .request _ => none
    | .finish startedAt statusCode => if 400 ≤ statusCode then some startedAt else none

/-- How many of the times lie in a minute. -/
def inMinute (times : List Int) (minute : Int) : Nat := times.countP fun t => minuteOf t = minute

/-- The count of a minute with any. -/
def tally (n : Nat) : Option Nat := if n = 0 then none else some n

theorem tally_getD (n : Nat) : (tally n).getD 0 = n := by
  unfold tally
  split
  · rename_i h
    exact h.symm
  · rfl

theorem after_append (events : List Event) (e : Event) : after (events ++ [e]) = step (after events) e := List.foldl_concat ..

theorem inMinute_append (times : List Int) (t minute : Int) :
    inMinute (times ++ [t]) minute = inMinute times minute + if minuteOf t = minute then 1 else 0 := by
  simp [inMinute, List.countP_append, List.countP_singleton]

theorem inMinute_append_ne {times : List Int} {t minute : Int} (h : minuteOf t ≠ minute) :
    inMinute (times ++ [t]) minute = inMinute times minute := by
  rw [inMinute_append, if_neg h, Nat.add_zero]

theorem bump_tally {counts : PerMinute} {times : List Int} {t : Int}
    (h : counts (minuteOf t) = tally (inMinute times (minuteOf t))) :
    counts.bump (minuteOf t) (minuteOf t) = tally (inMinute (times ++ [t]) (minuteOf t)) := by
  rw [PerMinute.bump, Function.update_self, h, tally_getD, inMinute_append, if_pos rfl, tally, if_neg (Nat.succ_ne_zero _)]

theorem count_after (events : List Event) : (after events).count = (arrivals events).length := by
  induction events using List.reverseRecOn with
  | nil => rfl
  | append_singleton events e ih =>
    rw [after_append]
    cases e with
    | request now => simp [step, trackRequest, arrivals, ih]
    | finish startedAt statusCode =>
      simp only [step, onFinish]
      split <;> simp [arrivals, ih]

theorem errors_after (events : List Event) : (after events).errors = (failures events).length := by
  induction events using List.reverseRecOn with
  | nil => rfl
  | append_singleton events e ih =>
    rw [after_append]
    cases e with
    | request now => simp [step, trackRequest, failures, ih]
    | finish startedAt statusCode =>
      simp only [step, onFinish]
      split <;> simp [failures, *]

/-- No error is forgotten. -/
theorem errorsByMinute_after (events : List Event) (minute : Int) :
    (after events).errorsByMinute minute = tally (inMinute (failures events) minute) := by
  induction events using List.reverseRecOn with
  | nil => rfl
  | append_singleton events e ih =>
    rw [after_append]
    cases e with
    | request now => simpa [step, trackRequest, failures] using ih
    | finish startedAt statusCode =>
      by_cases hs : 400 ≤ statusCode
      · have hf : failures (events ++ [.finish startedAt statusCode]) = failures events ++ [startedAt] := by
          simp [failures, hs]
        rw [step, onFinish, if_pos hs, hf]
        by_cases hm : minuteOf startedAt = minute
        · subst hm
          exact bump_tally ih
        · rw [inMinute_append_ne hm, ← ih]
          exact Function.update_of_ne (Ne.symm hm) _ _
      · have hf : failures (events ++ [.finish startedAt statusCode]) = failures events := by simp [failures, hs]
        rw [step, onFinish, if_neg hs, hf]
        exact ih

theorem minuteOf_mono {a b : Int} (h : a ≤ b) : minuteOf a ≤ minuteOf b := Int.ediv_le_ediv (by decide) h

/-- Of the requests the minutes are forgotten that ended an hour before the last one. -/
theorem requestsByMinute_after {events : List Event} (hsorted : (arrivals events).Pairwise (· ≤ ·)) (minute : Int) :
    (after events).requestsByMinute minute =
      if ∀ t ∈ arrivals events, minuteOf t - 60 ≤ minute then tally (inMinute (arrivals events) minute) else none := by
  induction events using List.reverseRecOn with
  | nil => rfl
  | append_singleton events e ih =>
    rw [after_append]
    cases e with
    | finish startedAt statusCode =>
      have ha : arrivals (events ++ [.finish startedAt statusCode]) = arrivals events := by simp [arrivals]
      rw [ha] at hsorted ⊢
      have hsame : (step (after events) (.finish startedAt statusCode)).requestsByMinute = (after events).requestsByMinute := by
        simp only [step, onFinish]
        split <;> rfl
      rw [hsame]
      exact ih hsorted
    | request now =>
      have ha : arrivals (events ++ [.request now]) = arrivals events ++ [now] := by simp [arrivals]
      rw [ha] at hsorted ⊢
      obtain ⟨hold, -, hlast⟩ := List.pairwise_append.mp hsorted
      have hlast (t : Int) (ht : t ∈ arrivals events) : minuteOf t ≤ minuteOf now :=
        minuteOf_mono (hlast t ht now (List.mem_singleton.mpr rfl))
      change (if minute < minuteOf now - 60 then none else (after events).requestsByMinute.bump (minuteOf now) minute) = _
      by_cases hm : minute < minuteOf now - 60
      · rw [if_pos hm, if_neg]
        intro h
        have := h now (List.mem_append_right _ (List.mem_singleton.mpr rfl))
        omega
      · have hkeep : ∀ t ∈ arrivals events, minuteOf t - 60 ≤ minute := fun t ht => by
          have := hlast t ht
          omega
        have hall : ∀ t ∈ arrivals events ++ [now], minuteOf t - 60 ≤ minute := by
          intro t ht
          rcases List.mem_append.mp ht with ht | ht
          · exact hkeep t ht
          · rw [List.mem_singleton.mp ht]
            omega
        have hcount := ih hold
        rw [if_pos hkeep] at hcount
        rw [if_neg hm, if_pos hall]
        by_cases he : minuteOf now = minute
        · subst he
          exact bump_tally hcount
        · rw [inMinute_append_ne he, ← hcount]
          exact Function.update_of_ne (Ne.symm he) _ _

/-! ### The report -/

/-- The times of the last five minutes up to a time. -/
def recent (now : Int) (times : List Int) : List Int :=
  times.filter fun t => minuteOf now - 5 < minuteOf t ∧ minuteOf t ≤ minuteOf now

/-- What the report should say: the average over the minutes of the last five that had a
request, and the share of all requests that failed. -/
def reported (now : Int) (arrived failed : List Int) : Report where
  requests_per_minute :=
    hundredths (((recent now arrived).length : ℚ) / (((recent now arrived).map minuteOf).dedup.length : ℚ))
  error_rate := hundredths ((failed.length : ℚ) / arrived.length * 100)
  total_requests := arrived.length
  total_errors := failed.length

theorem mem_lastMinutes {now minute : Int} :
    minute ∈ lastMinutes now ↔ minuteOf now - 5 < minute ∧ minute ≤ minuteOf now := by
  simp only [lastMinutes, List.mem_map, List.mem_range]
  constructor
  · rintro ⟨i, hi, rfl⟩
    omega
  · rintro ⟨hl, hu⟩
    exact ⟨(minuteOf now - minute).toNat, by omega, by omega⟩

theorem lastMinutes_nodup (now : Int) : (lastMinutes now).Nodup := by
  refine List.Nodup.map_on ?_ List.nodup_range
  intro i _ j _ h
  omega

/-- The counts of some minutes make the count of all of them. -/
theorem sum_inMinute {minutes : List Int} (hnodup : minutes.Nodup) (times : List Int) :
    (minutes.map (inMinute times)).sum = (times.filter fun t => minuteOf t ∈ minutes).length := by
  induction minutes with
  | nil => simp
  | cons minute rest ih =>
    obtain ⟨hnot, hrest⟩ := List.nodup_cons.mp hnodup
    rw [List.map_cons, List.sum_cons, ih hrest, inMinute, ← List.countP_eq_length_filter, ← List.countP_eq_length_filter]
    simp only [List.mem_cons]
    clear ih
    induction times with
    | nil => rfl
    | cons t times iht =>
      simp only [List.countP_cons, decide_eq_true_eq]
      by_cases ht : minuteOf t = minute
      · have : ¬ minuteOf t ∈ rest := ht ▸ hnot
        simp only [ht, hnot, true_or, if_true, if_false]
        omega
      · simp only [ht, false_or, if_false]
        omega

theorem inMinute_pos {times : List Int} {minute : Int} : 0 < inMinute times minute ↔ minute ∈ times.map minuteOf := by
  simp [inMinute, List.countP_pos_iff]

/-- The minutes with a request are the distinct minutes of the recent requests. -/
theorem busy_minutes (now : Int) (times : List Int) :
    ((lastMinutes now).filter fun minute => decide (0 < inMinute times minute)).length =
      ((recent now times).map minuteOf).dedup.length := by
  apply List.Perm.length_eq
  refine (List.perm_ext_iff_of_nodup ((lastMinutes_nodup now).filter _) (List.nodup_dedup _)).mpr fun minute => ?_
  rw [List.mem_filter, decide_eq_true_eq, inMinute_pos, List.mem_dedup, mem_lastMinutes]
  simp only [recent, List.mem_map, List.mem_filter, decide_eq_true_eq]
  constructor
  · rintro ⟨hm, t, ht, rfl⟩
    exact ⟨t, ⟨ht, hm⟩, rfl⟩
  · rintro ⟨t, ⟨ht, hm⟩, rfl⟩
    exact ⟨hm, t, ht, rfl⟩

/-- For every sequence of requests at non-decreasing times and of answers, the report at any
later time is about exactly the requests that came and the errors they were answered with,
whatever was forgotten in between. -/
theorem getRequestMetrics_exact (events : List Event) (hsorted : (arrivals events).Pairwise (· ≤ ·)) {now : Int}
    (hnow : ∀ t ∈ arrivals events, t ≤ now) :
    getRequestMetrics now (after events) = reported now (arrivals events) (failures events) := by
  -- The five minutes are among those that are kept.
  have hkept (minute : Int) (hm : minute ∈ lastMinutes now) :
      ((after events).requestsByMinute minute).getD 0 = inMinute (arrivals events) minute := by
    rw [requestsByMinute_after hsorted, if_pos, tally_getD]
    intro t ht
    have := minuteOf_mono (hnow t ht)
    have := (mem_lastMinutes.mp hm).1
    omega
  have hrequests : (lastMinutes now).map (fun minute => ((after events).requestsByMinute minute).getD 0) =
      (lastMinutes now).map (inMinute (arrivals events)) := List.map_congr_left hkept
  have htotal : ((lastMinutes now).map (inMinute (arrivals events))).sum = (recent now (arrivals events)).length := by
    rw [sum_inMinute (lastMinutes_nodup now)]
    simp only [recent, mem_lastMinutes]
  have hbusy : ((lastMinutes now).map (inMinute (arrivals events))).countP (fun n => decide (0 < n)) =
      ((recent now (arrivals events)).map minuteOf).dedup.length := by
    rw [List.countP_map, List.countP_eq_length_filter, ← busy_minutes]
    rfl
  have hrate (x y : ℚ) (n : Nat) : (if 0 < n then x / (n : ℚ) * y else 0) = x / (n : ℚ) * y := by
    split
    · rfl
    · rename_i h
      rw [Nat.eq_zero_of_not_pos h]
      simp
  have hperMinute (x : ℚ) (n : Nat) : (if 0 < n then x / (n : ℚ) else 0) = x / (n : ℚ) := by simpa using hrate x 1 n
  unfold getRequestMetrics reported
  simp only [hrequests, htotal, hbusy, count_after, errors_after, hrate, hperMinute]

/-- Two requests, of which the first is answered with status 404. -/
theorem getRequestMetrics_exact_two :
    getRequestMetrics 70001 (after [.request 5, .request 70000, .finish 5 404]) = reported 70001 [5, 70000] [5] :=
  getRequestMetrics_exact [.request 5, .request 70000, .finish 5 404] (by decide) (by decide)

/-- What is kept for it: the requests of the minutes that end within an hour before the last
one, and the errors of all minutes there ever were. -/
theorem metrics_kept (events : List Event) (hsorted : (arrivals events).Pairwise (· ≤ ·)) (minute : Int) :
    ((after events).requestsByMinute minute ≠ none ↔
        minute ∈ (arrivals events).map minuteOf ∧ ∀ t ∈ arrivals events, minuteOf t - 60 ≤ minute) ∧
      ((after events).errorsByMinute minute ≠ none ↔ minute ∈ (failures events).map minuteOf) := by
  have htally (times : List Int) : tally (inMinute times minute) ≠ none ↔ minute ∈ times.map minuteOf := by
    rw [← inMinute_pos, tally]
    split
    · rename_i h
      simp [h]
    · rename_i h
      simp [Nat.pos_of_ne_zero h]
  rw [requestsByMinute_after hsorted, errorsByMinute_after, htally]
  refine ⟨?_, Iff.rfl⟩
  split
  · rename_i h
    rw [htally]
    exact ⟨fun hm => ⟨hm, h⟩, fun hm => hm.1⟩
  · rename_i h
    exact ⟨fun hm => absurd rfl hm, fun hm => absurd hm.2 h⟩

/-- The errors of the first minute outlive its requests. -/
theorem metrics_kept_later :
    ((after [.request 5, .finish 5 500, .request 7200000]).requestsByMinute 0 ≠ none ↔
        (0 : Int) ∈ [5, 7200000].map minuteOf ∧ ∀ t ∈ [5, 7200000], minuteOf t - 60 ≤ 0) ∧
      ((after [.request 5, .finish 5 500, .request 7200000]).errorsByMinute 0 ≠ none ↔ (0 : Int) ∈ [5].map minuteOf) :=
  metrics_kept [.request 5, .finish 5 500, .request 7200000] (by decide) 0

end RequestMetrics
end GalaxiaAin.Gateway
