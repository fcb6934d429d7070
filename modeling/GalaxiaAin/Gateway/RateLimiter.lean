import GalaxiaAin.Gateway.Request
import GalaxiaAin.Tenant.Schema

/-! The rate limiter that counts in the table rate_limits. Requests come one at a time; a
count that reads its row by one condition, deletes by a second and updates by a third is
compared with the windows it is meant to keep. -/
namespace GalaxiaAin.Gateway
open GalaxiaAin.Library

/-- A request with what the default key is made from. -/
structure LimitedRequest extends Request where
  ip : Option Text

structure RateLimitConfig where
  windowMs : Nat
  maxRequests : Nat
  keyGenerator : Option (LimitedRequest → Text)

/-- A row of `rate_limits` under its key; times are milliseconds. -/
structure RateLimitRow where
  count : Nat
  reset_at : Int
  deriving DecidableEq

/-- The table, by its primary key. -/
abbrev RateLimits := Text → Option RateLimitRow

/-- The column `key VARCHAR(255)` takes the key. -/
def storable (key : Text) : Bool := Tenant.varchar 255 key

structure RateHeaders where
  limit : Nat
  remaining : Int
  reset : Int

inductive LimiterAnswer where
  /-- `next()`; without headers where the limiter failed. -/
  | next (headers : Option RateHeaders)
  /-- 429. -/
  | tooMany (headers : RateHeaders) (retryAfter : Int)

variable (config : RateLimitConfig)

def requestKey (req : LimitedRequest) : Text :=
  match config.keyGenerator with
  | some generate => generate req
  | none => ((present req.apiKeyId).or (present req.ip)).getD (units "anonymous")

/-- DELETE FROM rate_limits WHERE reset_at < $1. -/
def cleanUp (windowStart : Int) (db : RateLimits) : RateLimits := fun key =>
  (db key).filter fun row => !decide (row.reset_at < windowStart)

/-- SELECT count, reset_at FROM rate_limits WHERE key = $1 AND reset_at > $2. -/
def currentCount (key : Text) (windowStart : Int) (db : RateLimits) : Option RateLimitRow :=
  (db key).filter fun row => decide (windowStart < row.reset_at)

/-- INSERT INTO rate_limits .. ON CONFLICT (key) DO UPDATE .. WHERE rate_limits.reset_at < EXCLUDED.reset_at. -/
def increment (key : Text) (resetAt : Int) (db : RateLimits) : RateLimits :=
  match db key with
  | none => Function.update db key (some ⟨1, resetAt⟩)
  | some row => if row.reset_at < resetAt then Function.update db key (some ⟨row.count + 1, resetAt⟩) else db

/-- `Math.ceil(ms / 1000)`. -/
def ceilSeconds (ms : Int) : Int := (ms + 999) / 1000

/-- The middleware at a time. The INSERT of a key the column does not take fails, and the
catch block lets the request through. -/
def createRateLimiter (req : LimitedRequest) (now : Int) (db : RateLimits) : LimiterAnswer × RateLimits :=
  let key := requestKey config req
  let windowStart := now - config.windowMs
  let db := cleanUp windowStart db
  let found := currentCount key windowStart db
  let count := found.elim 0 (·.count)
  let resetAt := found.elim (now + config.windowMs) (·.reset_at)
  if config.maxRequests ≤ count then
    (.tooMany ⟨config.maxRequests, 0, resetAt⟩ (ceilSeconds (resetAt - now)), db)
  else if storable key then
    (.next (some ⟨config.maxRequests, config.maxRequests - count - 1, resetAt⟩), increment key resetAt db)
  else (.next none, db)

/-- A request and when it is handled. -/
structure Arrival where
  req : LimitedRequest
  now : Int

/-- The table after requests that found it empty at first. -/
def tableAfter (past : List Arrival) : RateLimits :=
  past.foldl (fun db a => (createRateLimiter config a.req a.now db).2) fun _ => none

def answerTo (past : List Arrival) (a : Arrival) : LimiterAnswer :=
  (createRateLimiter config a.req a.now (tableAfter config past)).1

/-- When the requests of a key came. -/
def timesOf (key : Text) (past : List Arrival) : List Int :=
  (past.filter fun a => requestKey config a.req == key).map (·.now)

/-! ### What the limiter is for -/

/-- A window and the number of requests that came in it. -/
structure RateWindow where
  reset : Int
  requests : Nat

/-- The window of a request: the open one, or one it opens at or after the reset. -/
def RateWindow.next (window : Option RateWindow) (now : Int) : RateWindow :=
  match window with
  | some w => if now < w.reset then { w with requests := w.requests + 1 } else ⟨now + config.windowMs, 1⟩
  | none => ⟨now + config.windowMs, 1⟩

/-- The window after requests at these times. -/
def windowAfter (times : List Int) : Option RateWindow :=
  times.foldl (fun window now => some (RateWindow.next config window now)) none

def LimiterAnswer.passes : LimiterAnswer → Prop
  | .next _ => True
  | .tooMany .. => False

/-- The first requests of a window pass, the later ones are sent away for a part of the window. -/
def RightAnswer (window : RateWindow) (answer : LimiterAnswer) : Prop :=
  if window.requests ≤ config.maxRequests then answer.passes
  else ∃ headers retryAfter, answer = .tooMany headers retryAfter ∧ 0 < retryAfter ∧ retryAfter * 1000 ≤ config.windowMs

/-- Every request of every key gets the answer of its window. -/
def KeepsWindows (requests : List Arrival) : Prop :=
  ∀ past a rest, requests = past ++ a :: rest →
    RightAnswer config (RateWindow.next config (windowAfter config (timesOf config (requestKey config a.req) past)) a.now)
      (answerTo config past a)

/-! ### What the limiter does -/

/-- The time a row is used for: twice the window. A span that starts exactly where the one
before ends has the next number. -/
structure RateSpan where
  start : Int
  number : Nat

/-- A request opens a span when there is none, or at or after the end of the last. -/
def opensSpan (span : Option RateSpan) (now : Int) : Bool :=
  span.all fun s => decide (s.start + 2 * config.windowMs ≤ now)

def RateSpan.next (span : Option RateSpan) (now : Int) : RateSpan :=
  match span with
  | some s =>
    if now < s.start + 2 * config.windowMs then s
    else if now = s.start + 2 * config.windowMs then ⟨now, s.number + 1⟩
    else ⟨now, 1⟩
  | none => ⟨now, 1⟩

def spanAfter (times : List Int) : Option RateSpan :=
  times.foldl (fun span now => some (RateSpan.next config span now)) none

/-- The answer to a request after others at these times is the right one. -/
def Spaced (key : Text) (times : List Int) (now : Int) : Prop :=
  let window := RateWindow.next config (windowAfter config times) now
  let span := RateSpan.next config (spanAfter config times) now
  if storable key = false ∨ opensSpan config (spanAfter config times) now = true ∨ span.number < config.maxRequests then
    window.requests ≤ config.maxRequests
  else
    config.maxRequests < window.requests ∧ now < span.start + config.windowMs ∧
      ceilSeconds (span.start + config.windowMs - now) * 1000 ≤ config.windowMs

/-- The requests of every key are spaced so that the limiter answers right. -/
def SpacedRequests (requests : List Arrival) : Prop :=
  ∀ past a rest, requests = past ++ a :: rest →
    Spaced config (requestKey config a.req) (timesOf config (requestKey config a.req) past) a.now

/-! ### The table follows the spans -/

/-- The row of a key after its last span: still there, or deleted after the span was over. -/
def Recorded (key : Text) (last : Int) (span : Option RateSpan) (row : Option RateLimitRow) : Prop :=
  match span with
  | none => row = none
  | some s =>
    if storable key then
      row = some ⟨s.number, s.start + config.windowMs⟩ ∨ (row = none ∧ s.start + 2 * config.windowMs < last)
    else row = none

variable {config} {key : Text} {last now : Int} {span : Option RateSpan} {row : Option RateLimitRow}

theorem recorded_storable {s : RateSpan} (hs : storable key = true) :
    Recorded config key last (some s) row ↔
      row = some ⟨s.number, s.start + config.windowMs⟩ ∨ (row = none ∧ s.start + 2 * config.windowMs < last) := by
  rw [Recorded, if_pos hs]

theorem recorded_unstorable (hs : storable key = false) : Recorded config key last span row ↔ row = none := by
  cases span with
  | none => exact Iff.rfl
  | some s => rw [Recorded, if_neg (by simp [hs])]

theorem Recorded.mono (h : Recorded config key last span row) (hle : last ≤ now) : Recorded config key now span row := by
  cases hs : storable key with
  | false => exact (recorded_unstorable hs).mpr ((recorded_unstorable hs).mp h)
  | true =>
    cases span with
    | none => exact h
    | some s =>
      rw [recorded_storable hs] at h ⊢
      exact h.imp_right fun h => ⟨h.1, h.2.trans_le hle⟩

/-- What the DELETE removes is out of its span. -/
theorem Recorded.cleanUp (h : Recorded config key now span row) :
    Recorded config key now span (row.filter fun row => !decide (row.reset_at < now - config.windowMs)) := by
  cases hs : storable key with
  | false =>
    rw [(recorded_unstorable hs).mp h]
    exact (recorded_unstorable hs).mpr rfl
  | true =>
    cases span with
    | none =>
      obtain rfl : row = none := h
      rfl
    | some s =>
      rw [recorded_storable hs] at h ⊢
      obtain rfl | ⟨rfl, hover⟩ := h
      · by_cases hr : s.start + config.windowMs < now - config.windowMs
        · exact .inr ⟨by rw [Option.filter_some, decide_eq_true hr]; rfl, by omega⟩
        · exact .inl (by rw [Option.filter_some, decide_eq_false hr]; rfl)
      · exact .inr ⟨rfl, hover⟩

/-- The SELECT finds the row of a span that is not over, and nothing else. -/
theorem Recorded.found (h : Recorded config key now span row) :
    row.filter (fun row => decide (now - config.windowMs < row.reset_at)) =
      if storable key = true ∧ opensSpan config span now = false then
        some ⟨(RateSpan.next config span now).number, (RateSpan.next config span now).start + config.windowMs⟩
      else none := by
  cases hs : storable key with
  | false =>
    rw [(recorded_unstorable hs).mp h]
    simp
  | true =>
    cases span with
    | none =>
      obtain rfl : row = none := h
      simp [opensSpan]
    | some s =>
      obtain rfl | ⟨rfl, hover⟩ := (recorded_storable hs).mp h
      · by_cases ho : now < s.start + 2 * config.windowMs
        · have hr : now - (config.windowMs : Int) < s.start + config.windowMs := by omega
          simp [opensSpan, RateSpan.next, ho, hr]
        · have hr : ¬ now - (config.windowMs : Int) < s.start + config.windowMs := by omega
          rw [Option.filter_some, decide_eq_false hr]
          simp [opensSpan, not_lt.mp ho]
      · simp [opensSpan, hover.le]

theorem increment_self {db : RateLimits} {resetAt : Int} :
    increment key resetAt db key = some ((db key).elim ⟨1, resetAt⟩ fun row =>
      if row.reset_at < resetAt then ⟨row.count + 1, resetAt⟩ else row) := by
  unfold increment
  cases hrow : db key with
  | none => simp
  | some row =>
    by_cases hlt : row.reset_at < resetAt
    · simp [hlt]
    · simp [hlt, hrow]

theorem increment_other {db : RateLimits} {resetAt : Int} {other : Text} (h : other ≠ key) :
    increment key resetAt db other = db other := by
  unfold increment
  cases db key with
  | none => exact Function.update_of_ne h _ _
  | some row =>
    by_cases hlt : row.reset_at < resetAt
    · simp [hlt, Function.update_of_ne h]
    · simp [hlt]

/-- The row after the upsert is that of the span the request is in. -/
theorem Recorded.increment {db : RateLimits} (h : Recorded config key now span (db key))
    (hkept : ∀ row, db key = some row → now - config.windowMs ≤ row.reset_at) (hs : storable key = true)
    (hpositive : 0 < config.windowMs) :
    Recorded config key now (some (RateSpan.next config span now))
      (increment key (if opensSpan config span now then now + config.windowMs
        else (RateSpan.next config span now).start + config.windowMs) db key) := by
  rw [recorded_storable hs, increment_self]
  left
  cases span with
  | none =>
    rw [show db key = none from h]
    simp [opensSpan, RateSpan.next]
  | some s =>
    obtain hrow | ⟨hrow, hover⟩ := (recorded_storable hs).mp h
    · have hreset := hkept _ hrow
      simp only at hreset
      rw [hrow]
      by_cases ho : now < s.start + 2 * config.windowMs
      · simp [opensSpan, RateSpan.next, ho, not_le.mpr ho]
      · have hend : now = s.start + 2 * config.windowMs := by omega
        have hlt : s.start + (config.windowMs : Int) < now + config.windowMs := by omega
        simp [opensSpan, RateSpan.next, ← hend, hlt]
    · rw [hrow]
      have hnot : ¬ now < s.start + 2 * config.windowMs := by omega
      have hne : ¬ now = s.start + 2 * config.windowMs := by omega
      simp [opensSpan, RateSpan.next, hnot, hne, hover.le]

/-! ### One request -/

/-- The request finds its row used up. -/
def UsedUp (config : RateLimitConfig) (key : Text) (span : Option RateSpan) (now : Int) : Prop :=
  storable key = true ∧ opensSpan config span now = false ∧ config.maxRequests ≤ (RateSpan.next config span now).number

theorem currentCount_cleanUp {db : RateLimits} (h : Recorded config key now span (db key)) :
    currentCount key (now - config.windowMs) (cleanUp (now - config.windowMs) db) =
      if storable key = true ∧ opensSpan config span now = false then
        some ⟨(RateSpan.next config span now).number, (RateSpan.next config span now).start + config.windowMs⟩
      else none :=
  h.cleanUp.found

theorem limiter_usedUp {req : LimitedRequest} {db : RateLimits}
    (h : Recorded config (requestKey config req) now span (db (requestKey config req)))
    (hused : UsedUp config (requestKey config req) span now) :
    createRateLimiter config req now db =
      (.tooMany ⟨config.maxRequests, 0, (RateSpan.next config span now).start + config.windowMs⟩
        (ceilSeconds ((RateSpan.next config span now).start + config.windowMs - now)), cleanUp (now - config.windowMs) db) := by
  obtain ⟨hs, ho, hmax⟩ := hused
  simp only [createRateLimiter, currentCount_cleanUp h, hs, ho, and_self, if_true, Option.elim_some, hmax]

theorem limiter_passes {req : LimitedRequest} {db : RateLimits}
    (h : Recorded config (requestKey config req) now span (db (requestKey config req)))
    (hused : ¬ UsedUp config (requestKey config req) span now) (hmax : 1 ≤ config.maxRequests) :
    ∃ headers, createRateLimiter config req now db =
      (.next headers, if storable (requestKey config req) then
          increment (requestKey config req) (if opensSpan config span now then now + config.windowMs
            else (RateSpan.next config span now).start + config.windowMs) (cleanUp (now - config.windowMs) db)
        else cleanUp (now - config.windowMs) db) := by
  cases hs : storable (requestKey config req) with
  | false =>
    refine ⟨none, ?_⟩
    have hcount : ¬ config.maxRequests ≤ 0 := by omega
    simp only [createRateLimiter, currentCount_cleanUp h, hs, Bool.false_eq_true, false_and, if_false, Option.elim_none, hcount]
  | true =>
    cases ho : opensSpan config span now with
    | true =>
      have hcount : ¬ config.maxRequests ≤ 0 := by omega
      refine ⟨some ⟨config.maxRequests, config.maxRequests - (0 : Nat) - 1, now + config.windowMs⟩, ?_⟩
      simp only [createRateLimiter, currentCount_cleanUp h, hs, ho, Bool.true_eq_false, and_false, if_false, if_true,
        Option.elim_none, hcount]
    | false =>
      have hcount : ¬ config.maxRequests ≤ (RateSpan.next config span now).number := fun hle => hused ⟨hs, ho, hle⟩
      refine ⟨some ⟨config.maxRequests, config.maxRequests - (RateSpan.next config span now).number - 1,
        (RateSpan.next config span now).start + config.windowMs⟩, ?_⟩
      simp only [createRateLimiter, currentCount_cleanUp h, hs, ho, and_self, Bool.false_eq_true, if_false, if_true,
        Option.elim_some, hcount]

theorem not_usedUp :
    ¬ UsedUp config key span now ↔ storable key = false ∨ opensSpan config span now = true ∨
      (RateSpan.next config span now).number < config.maxRequests := by
  unfold UsedUp
  cases storable key <;> cases opensSpan config span now <;> simp

theorem ceilSeconds_pos {ms : Int} : 0 < ceilSeconds ms ↔ 0 < ms := by
  unfold ceilSeconds
  omega

theorem next_of_open (ho : opensSpan config span now = false) : span = some (RateSpan.next config span now) := by
  cases span with
  | none => cases ho
  | some s =>
    have hlt : now < s.start + 2 * config.windowMs := by simpa [opensSpan] using ho
    simp [RateSpan.next, hlt]

/-! ### All requests -/

/-- Every row is that of the last span of its key. -/
def Tracks (config : RateLimitConfig) (last : Int) (db : RateLimits) (past : List Arrival) : Prop :=
  ∀ key, Recorded config key last (spanAfter config (timesOf config key past)) (db key)

theorem timesOf_snoc (past : List Arrival) (a : Arrival) :
    timesOf config key (past ++ [a]) =
      timesOf config key past ++ if requestKey config a.req = key then [a.now] else [] := by
  unfold timesOf
  by_cases hk : requestKey config a.req = key <;> simp [hk]

theorem spanAfter_snoc (times : List Int) (now : Int) :
    spanAfter config (times ++ [now]) = some (RateSpan.next config (spanAfter config times) now) := by
  unfold spanAfter
  rw [List.foldl_append]
  rfl

theorem Tracks.step {db : RateLimits} {past : List Arrival} {a : Arrival} (h : Tracks config a.now db past)
    (hwindow : 0 < config.windowMs) (hmax : 1 ≤ config.maxRequests) :
    Tracks config a.now (createRateLimiter config a.req a.now db).2 (past ++ [a]) := by
  intro key
  have hkept : ∀ key row, cleanUp (a.now - config.windowMs) db key = some row →
      a.now - config.windowMs ≤ row.reset_at := by
    intro key row hrow
    simpa using (Option.filter_eq_some_iff.mp hrow).2
  have hself := h (requestKey config a.req)
  rw [timesOf_snoc]
  by_cases hused : UsedUp config (requestKey config a.req) (spanAfter config (timesOf config (requestKey config a.req) past)) a.now
  · rw [limiter_usedUp hself hused]
    by_cases hk : requestKey config a.req = key
    · subst hk
      rw [if_pos rfl, spanAfter_snoc, ← next_of_open hused.2.1]
      exact hself.cleanUp
    · rw [if_neg hk, List.append_nil]
      exact (h key).cleanUp
  · obtain ⟨headers, hlimiter⟩ := limiter_passes hself hused hmax
    rw [hlimiter]
    by_cases hk : requestKey config a.req = key
    · subst hk
      rw [if_pos rfl, spanAfter_snoc]
      cases hs : storable (requestKey config a.req) with
      | false => exact (recorded_unstorable hs).mpr ((recorded_unstorable hs).mp hself.cleanUp)
      | true => exact hself.cleanUp.increment (hkept _) hs hwindow
    · rw [if_neg hk, List.append_nil]
      cases hs : storable (requestKey config a.req) with
      | false => exact (h key).cleanUp
      | true =>
        simp only [if_true]
        rw [increment_other (Ne.symm hk)]
        exact (h key).cleanUp

theorem tableAfter_snoc (past : List Arrival) (a : Arrival) :
    tableAfter config (past ++ [a]) = (createRateLimiter config a.req a.now (tableAfter config past)).2 := by
  unfold tableAfter
  rw [List.foldl_append]
  rfl

/-- The table of any run follows the spans of its keys. -/
theorem tracks_tableAfter (hwindow : 0 < config.windowMs) (hmax : 1 ≤ config.maxRequests) (past : List Arrival)
    (hsorted : past.Pairwise fun a b => a.now ≤ b.now) (hlast : ∀ a ∈ past, a.now ≤ last) :
    Tracks config last (tableAfter config past) past := by
  induction past using List.reverseRecOn generalizing last with
  | nil =>
    intro key
    rfl
  | append_singleton past a ih =>
    rw [List.pairwise_append] at hsorted
    have hbefore : ∀ b ∈ past, b.now ≤ a.now := fun b hb => hsorted.2.2 b hb a (List.mem_singleton_self a)
    have hstep := (ih hsorted.1 hbefore).step hwindow hmax
    rw [← tableAfter_snoc] at hstep
    intro key
    exact (hstep key).mono (hlast a (by simp))

/-- A request is answered by its window exactly when it is spaced by its span. -/
theorem rightAnswer_iff {past : List Arrival} {a : Arrival} (h : Tracks config a.now (tableAfter config past) past)
    (hmax : 1 ≤ config.maxRequests) :
    RightAnswer config (RateWindow.next config (windowAfter config (timesOf config (requestKey config a.req) past)) a.now)
        (answerTo config past a) ↔
      Spaced config (requestKey config a.req) (timesOf config (requestKey config a.req) past) a.now := by
  have hself := h (requestKey config a.req)
  unfold RightAnswer Spaced answerTo
  generalize RateWindow.next config (windowAfter config (timesOf config (requestKey config a.req) past)) a.now = w
  by_cases hused : UsedUp config (requestKey config a.req) (spanAfter config (timesOf config (requestKey config a.req) past)) a.now
  · rw [limiter_usedUp hself hused, if_neg fun hor => not_usedUp.mpr hor hused]
    by_cases hw : w.requests ≤ config.maxRequests
    · simp [hw, LimiterAnswer.passes]
    · have hpos := @ceilSeconds_pos ((RateSpan.next config (spanAfter config
        (timesOf config (requestKey config a.req) past)) a.now).start + config.windowMs - a.now)
      simp only [hw, if_false, LimiterAnswer.tooMany.injEq, not_le.mp hw, true_and]
      constructor
      · rintro ⟨headers, retryAfter, ⟨rfl, rfl⟩, hafter, hwithin⟩
        exact ⟨by linarith [hpos.mp hafter], hwithin⟩
      · rintro ⟨hbefore, hwithin⟩
        exact ⟨_, _, ⟨rfl, rfl⟩, hpos.mpr (by linarith), hwithin⟩
  · obtain ⟨headers, hlimiter⟩ := limiter_passes hself hused hmax
    rw [hlimiter, if_pos (not_usedUp.mp hused)]
    by_cases hw : w.requests ≤ config.maxRequests
    · simp [hw, LimiterAnswer.passes]
    · simp [hw]

/-- Every request is answered by its window exactly when the requests are spaced by their spans. -/
theorem rate_limiter_iff (config : RateLimitConfig) (hwindow : 0 < config.windowMs) (hmax : 1 ≤ config.maxRequests)
    (requests : List Arrival) (hsorted : requests.Pairwise fun a b => a.now ≤ b.now) :
    KeepsWindows config requests ↔ SpacedRequests config requests := by
  unfold KeepsWindows SpacedRequests
  refine forall_congr' fun past => forall_congr' fun a => forall_congr' fun rest => forall_congr' fun hsplit => ?_
  subst hsplit
  rw [List.pairwise_append] at hsorted
  exact rightAnswer_iff (tracks_tableAfter hwindow hmax past hsorted.1
    fun b hb => hsorted.2.2 b hb a List.mem_cons_self) hmax

/-! ### Requests of one address -/

/-- A request of the address "a". -/
def plainArrival (now : Int) : Arrival where
  req := { method := units "POST", path := units "/", body := .null, amount := .nan, authorization := none, apiKey := none,
           csrfToken := none, csrfCookie := none, pqSnarkSignature := none, quantumSignature := none,
           quantumPublicKey := none, quantumAlgorithm := none, quantumTimestamp := none,
           apiKeyId := none, userId := none, galaxiaUser := none, ip := some (units "a") }
  now := now

/-- Two requests in a window of a second, of which one is admitted. -/
theorem rate_limiter_pair :
    KeepsWindows ⟨1000, 1, none⟩ [plainArrival 0, plainArrival 10] ↔
      SpacedRequests ⟨1000, 1, none⟩ [plainArrival 0, plainArrival 10] :=
  rate_limiter_iff ⟨1000, 1, none⟩ (by decide) (by decide) _ (by decide)

/-- The third request of a window for two passes, and one that opens a window for one does not. -/
theorem third_request_passes :
    ¬ KeepsWindows ⟨1000, 2, none⟩ [plainArrival 0, plainArrival 10, plainArrival 20] ∧
      ¬ KeepsWindows ⟨1000, 1, none⟩ [plainArrival 0, plainArrival 1500] := by
  constructor
  · intro hkeeps
    obtain ⟨headers, retryAfter, htoo, -⟩ := hkeeps [plainArrival 0, plainArrival 10] (plainArrival 20) [] rfl
    cases htoo
  · intro hkeeps
    exact hkeeps [plainArrival 0] (plainArrival 1500) [] rfl

end GalaxiaAin.Gateway
