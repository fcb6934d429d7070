import GalaxiaAin.Gateway.Request
import Mathlib.Data.List.Induction

/-! The rate limiter of the activity routes. A client has one list of the times at which
it was admitted, shared by routes with different maxima. -/
namespace GalaxiaAin.Limits
open GalaxiaAin.Library
open GalaxiaAin.Gateway (present)

inductive ActivityRoute where
  | getActivity
  | postActivity
  | getJobs
  | postJobs
  | getMeta
  deriving DecidableEq

def ActivityRoute.max : ActivityRoute → Nat
  | getActivity | getJobs | getMeta => 60
  | postActivity | postJobs => 30

def ActivityRoute.writes : ActivityRoute → Bool
  | getActivity | getJobs | getMeta => false
  | postActivity | postJobs => true

/-- A request with what `clientIp` reads, and when it is handled. -/
structure ActivityRequest where
  route : ActivityRoute
  forwardedFor : Option Text
  ip : Option Text
  now : Int

/-- The first of the addresses in `x-forwarded-for`, or the address of the connection. -/
def clientIp (req : ActivityRequest) : Text :=
  ((present (some (trim ((req.forwardedFor.getD []).takeWhile (· ≠ 44))))).or (present req.ip)).getD (units "anonymous")

/-- The times at which each client was admitted. -/
abbrev ActivityBuckets := Text → Option (List Int)

def windowMs : Int := 60000

def limit (req : ActivityRequest) (buckets : ActivityBuckets) : Bool × ActivityBuckets :=
  let arr := ((buckets (clientIp req)).getD []).filter fun t => decide (req.now - t < windowMs)
  if req.route.max ≤ arr.length then (false, buckets)
  else (true, Function.update buckets (clientIp req) (some (arr ++ [req.now])))

/-- The map after requests, and the requests that were admitted. -/
structure Served where
  buckets : ActivityBuckets
  admitted : List ActivityRequest

def Served.next (s : Served) (req : ActivityRequest) : Served :=
  let (ok, buckets) := limit req s.buckets
  ⟨buckets, s.admitted ++ if ok then [req] else []⟩

def servedAfter (requests : List ActivityRequest) : Served := requests.foldl Served.next ⟨fun _ => none, []⟩

example : clientIp ⟨.getMeta, some (units " 10.0.0.1 , 10.0.0.2"), none, 0⟩ = units "10.0.0.1" := by decide

def admittedAfter (past : List ActivityRequest) (req : ActivityRequest) : Bool := (limit req (servedAfter past).buckets).1

/-- The requests of a client among some, from a time on and before another. -/
def between (key : Text) (start stop : Int) (requests : List ActivityRequest) : List ActivityRequest :=
  requests.filter fun r => decide (clientIp r = key ∧ start ≤ r.now ∧ r.now < stop)

/-- The requests of a client that lie less than a minute before a time. -/
def lastMinute (key : Text) (now : Int) (requests : List ActivityRequest) : List ActivityRequest :=
  requests.filter fun r => decide (clientIp r = key ∧ now - r.now < windowMs)

def ActivityInOrder (requests : List ActivityRequest) : Prop := requests.Pairwise fun a b => a.now ≤ b.now

/-! ### The list of a client holds what was admitted in the last minute -/

/-- What a client's list tells at a time. -/
def recent (key : Text) (now : Int) (buckets : ActivityBuckets) : List Int :=
  ((buckets key).getD []).filter fun t => decide (now - t < windowMs)

theorem limit_eq (req : ActivityRequest) (buckets : ActivityBuckets) :
    limit req buckets =
      if req.route.max ≤ (recent (clientIp req) req.now buckets).length then (false, buckets)
      else (true, Function.update buckets (clientIp req) (some (recent (clientIp req) req.now buckets ++ [req.now]))) := rfl

variable {past : List ActivityRequest} {req : ActivityRequest}

theorem servedAfter_append (past : List ActivityRequest) (req : ActivityRequest) :
    servedAfter (past ++ [req]) = (servedAfter past).next req := by
  rw [servedAfter, List.foldl_append]
  rfl

theorem servedAfter_refused (h : admittedAfter past req = false) : servedAfter (past ++ [req]) = servedAfter past := by
  rw [admittedAfter, limit_eq] at h
  rw [servedAfter_append, Served.next, limit_eq]
  split at h
  · rw [if_pos ‹_›]
    simp
  · cases h

theorem servedAfter_admitted (h : admittedAfter past req = true) :
    servedAfter (past ++ [req]) =
      ⟨Function.update (servedAfter past).buckets (clientIp req)
        (some (recent (clientIp req) req.now (servedAfter past).buckets ++ [req.now])), (servedAfter past).admitted ++ [req]⟩ := by
  rw [admittedAfter, limit_eq] at h
  rw [servedAfter_append, Served.next, limit_eq]
  split at h
  · cases h
  · rw [if_neg ‹_›]
    simp

/-- What is forgotten at a time is not recent later. -/
theorem filter_recent {times : List Int} {now later : Int} (h : now ≤ later) :
    (times.filter fun t => decide (now - t < windowMs)).filter (fun t => decide (later - t < windowMs)) =
      times.filter fun t => decide (later - t < windowMs) := by
  rw [List.filter_filter]
  refine List.filter_congr fun t _ => ?_
  by_cases ht : later - t < windowMs
  · have hnow : now - t < windowMs := by omega
    simp [ht, hnow]
  · simp [ht]

/-- The list of a client, read no earlier than the last request, is the times of the
requests admitted in the minute before. -/
theorem recent_servedAfter {requests : List ActivityRequest} (horder : ActivityInOrder requests) (key : Text) {now : Int}
    (hnow : ∀ r ∈ requests, r.now ≤ now) :
    recent key now (servedAfter requests).buckets = (lastMinute key now (servedAfter requests).admitted).map (·.now) := by
  induction requests using List.reverseRecOn with
  | nil => rfl
  | append_singleton past req ih =>
    have ih := ih (List.pairwise_append.mp horder).1 fun r hr => hnow r (List.mem_append_left _ hr)
    have hle : req.now ≤ now := hnow req (List.mem_append_right _ List.mem_cons_self)
    cases hok : admittedAfter past req with
    | false =>
      rw [servedAfter_refused hok]
      exact ih
    | true =>
      rw [servedAfter_admitted hok]
      simp only [recent, lastMinute, List.filter_append, List.map_append] at ih ⊢
      by_cases hkey : clientIp req = key
      · subst hkey
        rw [Function.update_self, Option.getD_some, List.filter_append, filter_recent hle, ih]
        by_cases hin : now - req.now < windowMs <;> simp [hin]
      · rw [Function.update_of_ne fun h => hkey h.symm, ih]
        simp [hkey]

/-! ### Every interval is bounded -/

/-- A request is admitted iff fewer than its maximum were in the minute before. -/
theorem admittedAfter_iff (horder : ActivityInOrder (past ++ [req])) :
    admittedAfter past req = true ↔
      (lastMinute (clientIp req) req.now (servedAfter past).admitted).length < req.route.max := by
  have hparts := List.pairwise_append.mp horder
  have hrecent := recent_servedAfter hparts.1 (clientIp req) fun r hr => hparts.2.2 r hr req List.mem_cons_self
  rw [admittedAfter, limit_eq, hrecent, List.length_map]
  split <;> simp <;> omega

/-- The requests of a kind that are admitted in a minute, wherever it starts, are no more
than the maximum of the kind. -/
theorem between_admitted_le {requests : List ActivityRequest} (horder : ActivityInOrder requests) (key : Text) (start : Int)
    {kind : ActivityRequest → Bool} {m : Nat} (hmax : ∀ r, kind r = true → r.route.max ≤ m) :
    ((between key start (start + windowMs) (servedAfter requests).admitted).filter kind).length ≤ m := by
  induction requests using List.reverseRecOn with
  | nil => exact Nat.zero_le m
  | append_singleton past req ih =>
    have ih := ih (List.pairwise_append.mp horder).1
    cases hok : admittedAfter past req with
    | false =>
      rw [servedAfter_refused hok]
      exact ih
    | true =>
      rw [servedAfter_admitted hok]
      simp only [between, List.filter_append, List.filter_filter, List.length_append] at ih ⊢
      by_cases hin : (clientIp req = key ∧ start ≤ req.now ∧ req.now < start + windowMs) ∧ kind req = true
      · -- those before it in the interval were admitted less than a minute before it
        obtain ⟨⟨rfl, hstart, hstop⟩, hkind⟩ := hin
        have hfew := ((admittedAfter_iff horder).mp hok).trans_le (hmax req hkind)
        have hsub : ((servedAfter past).admitted.filter fun r =>
            kind r && decide (clientIp r = clientIp req ∧ start ≤ r.now ∧ r.now < start + windowMs)).length ≤
              (lastMinute (clientIp req) req.now (servedAfter past).admitted).length := by
          refine (List.monotone_filter_right _ fun r hr => ?_).length_le
          simp only [Bool.and_eq_true, decide_eq_true_eq] at hr ⊢
          exact ⟨hr.2.1, by omega⟩
        have hone : ([req].filter fun r =>
            kind r && decide (clientIp r = clientIp req ∧ start ≤ r.now ∧ r.now < start + windowMs)).length ≤ 1 :=
          List.length_filter_le _ _
        omega
      · have hnone : ([req].filter fun r => kind r && decide (clientIp r = key ∧ start ≤ r.now ∧ r.now < start + windowMs)) = [] := by
          simpa [and_comm] using hin
        rw [hnone]
        exact ih

theorem ActivityRoute.max_le (route : ActivityRoute) : route.max ≤ 60 := by
  cases route <;> decide

theorem ActivityRoute.max_writes {route : ActivityRoute} (h : route.writes = true) : route.max ≤ 30 := by
  cases route <;> first | decide | cases h

/-- A request is admitted iff fewer than the maximum of its route were admitted to its client
in the minute before it; every minute then has at most sixty, and thirty of them writes. -/
theorem activity_bounded (requests : List ActivityRequest) (horder : ActivityInOrder requests) :
    (∀ past req rest, requests = past ++ req :: rest → (admittedAfter past req = true ↔
      (lastMinute (clientIp req) req.now (servedAfter past).admitted).length < req.route.max)) ∧
    ∀ key start, (between key start (start + windowMs) (servedAfter requests).admitted).length ≤ 60 ∧
      ((between key start (start + windowMs) (servedAfter requests).admitted).filter fun r => r.route.writes).length ≤ 30 := by
  refine ⟨?_, fun key start => ⟨?_, ?_⟩⟩
  · rintro past req rest rfl
    rw [List.append_cons] at horder
    exact admittedAfter_iff (List.pairwise_append.mp horder).1
  · have hreads : ∀ r : ActivityRequest, (fun _ => true) r = true → r.route.max ≤ 60 := fun r _ => r.route.max_le
    simpa using between_admitted_le horder key start hreads
  · exact between_admitted_le horder key start fun r hr => ActivityRoute.max_writes hr

theorem activity_bounded_reads : (between (units "10.0.0.1") 0 (0 + windowMs)
    (servedAfter [⟨.getMeta, none, none, 0⟩, ⟨.postJobs, some (units "10.0.0.1, 10.0.0.2"), none, 7⟩]).admitted).length ≤ 60 :=
  ((activity_bounded [⟨.getMeta, none, none, 0⟩, ⟨.postJobs, some (units "10.0.0.1, 10.0.0.2"), none, 7⟩]
    (by simp [ActivityInOrder])).2 (units "10.0.0.1") 0).1

end GalaxiaAin.Limits
