import GalaxiaAin.Limits.Memory
import GalaxiaAin.Gateway.Authentication

/-! The rate limiter of the API keys. It compares the end of a window strictly, and tells a
refused caller the seconds to that end rounded up. -/
namespace GalaxiaAin.Limits
open GalaxiaAin.Library
open GalaxiaAin.Gateway (ceilSeconds present UserId)

/-- A request after its API key is checked, and when the limiter handles it. -/
structure KeyedRequest where
  apiKeyId : Option UserId
  now : Int

inductive KeyAnswer where
  /-- `next()`. -/
  | next
  /-- 429 with the text Rate limit exceeded. -/
  | tooMany (retryAfter : Int)
  deriving DecidableEq

/-- What a request of a key is answered, and the record of the key after it. -/
def keyLimit (record : Option Bucket) (now : Int) : KeyAnswer × Bucket :=
  match record with
  | none => (.next, ⟨1, now + 60 * 1000⟩)
  | some record =>
    if record.resetAt < now then (.next, ⟨1, now + 60 * 1000⟩)
    else if 100 ≤ record.count then (.tooMany (ceilSeconds (record.resetAt - now)), record)
    else (.next, { record with count := record.count + 1 })

def rateLimit (req : KeyedRequest) (rateLimitMap : Buckets) : KeyAnswer × Buckets :=
  match present req.apiKeyId with
  | none => (.next, rateLimitMap)
  | some apiKeyId =>
    let (answer, record) := keyLimit (rateLimitMap apiKeyId) req.now
    (answer, Function.update rateLimitMap apiKeyId (some record))

/-- The map after requests that found it empty at first. -/
def rateLimitMapAfter (past : List KeyedRequest) : Buckets :=
  past.foldl (fun rateLimitMap req => (rateLimit req rateLimitMap).2) fun _ => none

def keyAnswer (past : List KeyedRequest) (req : KeyedRequest) : KeyAnswer := (rateLimit req (rateLimitMapAfter past)).1

/-- The chain of the inference route answers a request of a key with the same limiter. -/
theorem rateLimited_keyLimit (env : Gateway.Environment) (apiKeyId : UserId) :
    (Gateway.rateLimited env apiKeyId).isNone = true ↔
      (keyLimit ((env.rateLimitMap apiKeyId).map fun r => ⟨r.count, r.resetAt⟩) env.rateCheckedAt).1 = .next := by
  unfold Gateway.rateLimited
  cases env.rateLimitMap apiKeyId with
  | none => simp [keyLimit]
  | some record =>
    simp only [Option.bind_some, Option.map_some, keyLimit, Nat.cast_lt]
    split
    · simp
    · split <;> simp

/-! ### What the limiter is for -/

/-- The requests of a key. -/
def requestsOn (key : UserId) (requests : List KeyedRequest) : List KeyedRequest :=
  requests.filter fun req => present req.apiKeyId = some key

/-- A window is over after its sixtieth second. -/
def minuteOver (opened now : Int) : Bool := decide (opened + 60 * 1000 < now)

/-- The window of a request of a key at a time. -/
def minuteOf (key : UserId) (past : List KeyedRequest) (now : Int) : Window Int :=
  Window.next minuteOver (Window.last minuteOver ((requestsOn key past).map (·.now))) now

/-- A refusal tells at least a second, and after the seconds it tells the key is admitted. -/
def HonoursHint (key : UserId) (past : List KeyedRequest) (req : KeyedRequest) : Prop :=
  ∀ r, keyAnswer past req = .tooMany r → 1 ≤ r ∧
    ∀ others : List KeyedRequest, (∀ c ∈ others, present c.apiKeyId ≠ some key) →
      ∀ later : KeyedRequest, present later.apiKeyId = some key → req.now + r * 1000 ≤ later.now →
        keyAnswer (past ++ req :: others) later = .next

/-- Of the requests of each key the first hundred of a window are admitted, whatever the
other keys do, and the hints are honoured. -/
def KeepsKeyLimits (requests : List KeyedRequest) : Prop :=
  ∀ past req rest key, requests = past ++ req :: rest → present req.apiKeyId = some key →
    (keyAnswer past req = .next ↔ (minuteOf key past req.now).calls ≤ 100) ∧
    keyAnswer past req = keyAnswer (requestsOn key past) req ∧ HonoursHint key past req

/-! ### The record of a key is its window -/

/-- A window as the map has it: refused requests are not counted. -/
def recordOf (w : Window Int) : Bucket := ⟨min 100 w.calls, w.opened + 60 * 1000⟩

/-- The answer to the last request of a window. -/
def answerIn (w : Window Int) (now : Int) : KeyAnswer :=
  if w.calls ≤ 100 then .next else .tooMany (ceilSeconds (w.opened + 60 * 1000 - now))

theorem keyLimit_view (window : Option (Window Int)) (now : Int) :
    keyLimit (window.map recordOf) now =
      (answerIn (Window.next minuteOver window now) now, recordOf (Window.next minuteOver window now)) := by
  cases window with
  | none => rfl
  | some w =>
    simp only [Option.map_some, keyLimit, Window.next, recordOf, minuteOver, decide_eq_true_eq]
    split
    · rfl
    · have hcalls : (⟨w.opened, w.later ++ [now]⟩ : Window Int).calls = w.calls + 1 := by
        simp only [Window.calls, List.length_append, List.length_cons, List.length_nil]
      rw [answerIn, hcalls]
      split
      · rw [if_neg (by omega), min_eq_left (by omega), min_eq_left (by omega)]
      · rw [if_pos (by omega), min_eq_right (by omega), min_eq_right (by omega)]

/-- A request that has a key, as a call on it. -/
def callOf (req : KeyedRequest) : Option LimitCall := (present req.apiKeyId).map fun key => ⟨key, req.now⟩

theorem callOf_on (key : UserId) (requests : List KeyedRequest) :
    ((requests.filterMap callOf).filter fun c => c.key = key).map (·.now) = (requestsOn key requests).map (·.now) := by
  induction requests with
  | nil => rfl
  | cons req requests ih =>
    simp only [requestsOn] at ih ⊢
    cases hkey : present req.apiKeyId with
    | none => simp [callOf, hkey, ih]
    | some k =>
      by_cases hk : k = key
      · simp [callOf, hkey, hk, ih]
      · simp [callOf, hkey, hk, ih]

theorem rateLimitMapAfter_apply (past : List KeyedRequest) (key : UserId) :
    rateLimitMapAfter past key = (Window.last minuteOver ((requestsOn key past).map (·.now))).map recordOf := by
  have hcalls : rateLimitMapAfter past = keyedRun (fun c : LimitCall => c.key)
      (fun record c => some (keyLimit record c.now).2) (fun _ => none) (past.filterMap callOf) := by
    rw [keyedRun, List.foldl_filterMap, rateLimitMapAfter]
    congr 1
    funext rateLimitMap req
    cases hkey : present req.apiKeyId <;> simp [rateLimit, callOf, hkey]
  rw [hcalls, ← callOf_on]
  exact Window.keyedRun_view (fun record now => (keyLimit record now).2)
    (fun window now => congrArg Prod.snd (keyLimit_view window now)) (past.filterMap callOf) key

variable {key : UserId} {past : List KeyedRequest} {req : KeyedRequest}

theorem keyAnswer_eq (hkey : present req.apiKeyId = some key) :
    keyAnswer past req = answerIn (minuteOf key past req.now) req.now := by
  simp only [keyAnswer, rateLimit, hkey, rateLimitMapAfter_apply, keyLimit_view, minuteOf]

theorem answerIn_next {w : Window Int} {now : Int} : answerIn w now = .next ↔ w.calls ≤ 100 := by
  unfold answerIn
  split <;> simp_all

theorem answerIn_tooMany {w : Window Int} {now r : Int} :
    answerIn w now = .tooMany r ↔ 100 < w.calls ∧ ceilSeconds (w.opened + 60 * 1000 - now) = r := by
  unfold answerIn
  split <;> simp <;> omega

theorem minuteOf_isolated : minuteOf key (requestsOn key past) req.now = minuteOf key past req.now := by
  simp only [minuteOf, requestsOn, List.filter_filter, Bool.and_self]

/-- A request comes no later than its window ends. -/
theorem minuteOf_ends : req.now ≤ (minuteOf key past req.now).opened + 60 * 1000 := by
  have hover : minuteOver req.now req.now = false := by
    simp only [minuteOver, decide_eq_false_iff_not]
    omega
  have := Window.not_over_next (Window.last minuteOver ((requestsOn key past).map (·.now))) hover
  simpa [minuteOver, minuteOf] using this

/-- The window of the next request of a key. -/
theorem minuteOf_after {others : List KeyedRequest} (hkey : present req.apiKeyId = some key)
    (hothers : ∀ c ∈ others, present c.apiKeyId ≠ some key) (now : Int) :
    minuteOf key (past ++ req :: others) now = Window.next minuteOver (some (minuteOf key past req.now)) now := by
  have hnone : ∀ c ∈ others, decide (present c.apiKeyId = some key) = false := fun c hc => decide_eq_false (hothers c hc)
  exact Window.next_after (fun c : KeyedRequest => decide (present c.apiKeyId = some key)) (decide_eq_true hkey) hnone now

theorem calls_next {w : Window Int} {now : Int} (hin : now ≤ w.opened + 60 * 1000) :
    (Window.next minuteOver (some w) now).calls = w.calls + 1 := by
  have hover : minuteOver w.opened now = false := by
    simp only [minuteOver, decide_eq_false_iff_not]
    omega
  simp [Window.next, hover, Window.calls]

theorem calls_next_over {w : Window Int} {now : Int} (hend : w.opened + 60 * 1000 < now) :
    (Window.next minuteOver (some w) now).calls = 1 := by
  have hover : minuteOver w.opened now = true := decide_eq_true hend
  simp [Window.next, hover, Window.calls]

/-- The hint is honoured unless the refusal comes a whole number of seconds after the
window opened: the rounding then adds nothing, and the last instant still is in the window. -/
theorem honoursHint_iff (hkey : present req.apiKeyId = some key) :
    HonoursHint key past req ↔
      (100 < (minuteOf key past req.now).calls → ¬ 1000 ∣ req.now - (minuteOf key past req.now).opened) := by
  have hends : req.now ≤ (minuteOf key past req.now).opened + 60 * 1000 := minuteOf_ends
  generalize hw : minuteOf key past req.now = w at hends ⊢
  constructor
  · intro hhint hcalls hwhole
    have hrefused : keyAnswer past req = .tooMany (ceilSeconds (w.opened + 60 * 1000 - req.now)) := by
      rw [keyAnswer_eq hkey, hw, answerIn_tooMany]
      exact ⟨hcalls, rfl⟩
    have hlast : req.now + ceilSeconds (w.opened + 60 * 1000 - req.now) * 1000 = w.opened + 60 * 1000 := by
      unfold ceilSeconds
      omega
    have hlater := (hhint _ hrefused).2 [] (by simp) ⟨req.apiKeyId, w.opened + 60 * 1000⟩ hkey hlast.le
    have hanswer : keyAnswer (past ++ [req]) ⟨req.apiKeyId, w.opened + 60 * 1000⟩ = _ := keyAnswer_eq hkey
    have hafter : minuteOf key (past ++ [req]) (w.opened + 60 * 1000) = _ := minuteOf_after hkey (by simp) _
    rw [hanswer, answerIn_next, hafter, hw, calls_next le_rfl] at hlater
    omega
  · intro hpart r hr
    rw [keyAnswer_eq hkey, hw, answerIn_tooMany] at hr
    obtain ⟨hcalls, rfl⟩ := hr
    have hpart := hpart hcalls
    have hover : w.opened + 60 * 1000 < req.now + ceilSeconds (w.opened + 60 * 1000 - req.now) * 1000 := by
      unfold ceilSeconds
      omega
    refine ⟨?_, fun others hothers later hlaterKey hlater => ?_⟩
    · unfold ceilSeconds
      omega
    · rw [keyAnswer_eq hlaterKey, answerIn_next, minuteOf_after hkey hothers, hw, calls_next_over (hover.trans_le hlater)]
      decide

/-- The limiter admits a hundred requests of each window and keeps its keys apart; it
honours its hints iff every request past the hundredth comes between whole seconds. -/
theorem key_limits_kept (requests : List KeyedRequest) :
    KeepsKeyLimits requests ↔ ∀ past req rest key, requests = past ++ req :: rest → present req.apiKeyId = some key →
      100 < (minuteOf key past req.now).calls → ¬ 1000 ∣ req.now - (minuteOf key past req.now).opened := by
  constructor
  · intro hkeeps past req rest key hsplit hkey
    exact (honoursHint_iff hkey).mp (hkeeps past req rest key hsplit hkey).2.2
  · intro hpart past req rest key hsplit hkey
    refine ⟨?_, ?_, (honoursHint_iff hkey).mpr (hpart past req rest key hsplit hkey)⟩
    · rw [keyAnswer_eq hkey, answerIn_next]
    · rw [keyAnswer_eq hkey, keyAnswer_eq hkey, minuteOf_isolated]

/-- A request at the last instant of a used window is told to wait no second. -/
theorem key_limits_kept_boundary :
    ¬ KeepsKeyLimits (List.replicate 100 ⟨some (units "k"), 0⟩ ++ [⟨some (units "k"), 60000⟩]) := by
  intro hkeeps
  obtain ⟨-, -, hhint⟩ := hkeeps (List.replicate 100 ⟨some (units "k"), 0⟩) ⟨some (units "k"), 60000⟩ [] (units "k") rfl (by decide)
  have hanswer : keyAnswer (List.replicate 100 ⟨some (units "k"), 0⟩) ⟨some (units "k"), 60000⟩ = .tooMany 0 := by
    decide +kernel
  exact absurd (hhint 0 hanswer).1 (by decide)

end GalaxiaAin.Limits
