import GalaxiaAin.Gateway.Request
import GalaxiaAin.Library.Machine
import Mathlib.Data.List.Perm.Subperm

/-! The distributed rate limiter. Any number of calls of any processes share the counters of
one backend, Upstash over HTTP or Redis; a call is answered from what comes back of INCR and
of EXPIRE. -/
namespace GalaxiaAin.Limits.Distributed
open GalaxiaAin.Library
open GalaxiaAin.Gateway (present)

/-- The environment variables of the backends. -/
structure Settings where
  upstashRedisRestUrl : Option Text
  upstashRedisRestToken : Option Text
  redisUrl : Option Text
  renderRedisUrl : Option Text

inductive Backend where
  | upstash | redis
  deriving DecidableEq

/-- The backend a call uses: Upstash where it has a URL and a token. -/
def Settings.backend (env : Settings) : Option Backend :=
  if (present env.upstashRedisRestUrl).isSome && (present env.upstashRedisRestToken).isSome then some .upstash
  else if ((present env.redisUrl).or (present env.renderRedisUrl)).isSome then some .redis
  else none

inductive RateLimitMode where
  | distributed | memory | unavailable
  deriving DecidableEq

structure RateLimitCheck where
  allowed : Bool
  remaining : Nat
  mode : RateLimitMode
  retryAfterSec : Option Nat
  deriving DecidableEq

/-- A call of `checkDistributedRateLimit`, and the clock when it names its counter. -/
structure LimitedCall where
  key : Text
  limit : Nat
  windowSec : Nat
  now : Nat

namespace LimitedCall
variable (c : LimitedCall)

def window : Nat := c.now / (c.windowSec * 1000)

/-- The name of the counter. -/
def bucket : Text := units "rl:" ++ c.key ++ units ":" ++ decimal c.window

/-- The answer of a call that counted. -/
def counted (count : Nat) : RateLimitCheck where
  allowed := decide (count ≤ c.limit)
  remaining := c.limit - count
  mode := .distributed
  retryAfterSec := if c.limit < count then some c.windowSec else none

/-- The answer of the catch block. -/
def unavailable : RateLimitCheck := ⟨false, 0, .unavailable, some c.windowSec⟩

end LimitedCall

/-- Where a call is. -/
inductive Phase where
  /-- INCR is sent. -/
  | sent (backend : Backend)
  /-- EXPIRE is sent after a count of one, which was read or stands for a missing result. -/
  | expiring (read : Bool)
  /-- The call has returned; null where no backend is configured. -/
  | answered (check : Option RateLimitCheck)

/-- A call with the value its INCR gave the counter, once the backend has executed it. -/
structure CallState where
  call : LimitedCall
  value : Option Nat
  phase : Phase

/-- After a count: the first call of a counter sets its time to live. -/
def CallState.count (c : CallState) (count : Nat) (read : Bool) : CallState :=
  { c with phase := if count = 1 then .expiring read else .answered (some (c.call.counted count)) }

/-- The counters of the backend, those it has forgotten at the end of their time to live, and
the calls. -/
structure World where
  counters : Text → Nat
  forgotten : Text → Prop
  calls : List CallState

inductive Happens where
  | called (call : LimitedCall)
  | incremented (bucket : Text)
  | counted
  | withoutResult
  | failed
  | expireAnswered (read : Bool)
  | expireFailed
  | forgot (bucket : Text)

/-- What can happen next; replies come in any order, or not at all. -/
inductive Step (env : Settings) : Machine World Happens
  | called (w : World) (call : LimitedCall) : Step env w (.called call)
      { w with calls := w.calls ++ [⟨call, none, (env.backend.map Phase.sent).getD (.answered none)⟩] }
  | incremented {w : World} {pre post : List CallState} {c : CallState} {backend : Backend}
      (hcalls : w.calls = pre ++ c :: post) (hphase : c.phase = .sent backend) (hvalue : c.value = none) :
      Step env w (.incremented c.call.bucket) { w with
        counters := Function.update w.counters c.call.bucket (w.counters c.call.bucket + 1)
        calls := pre ++ { c with value := some (w.counters c.call.bucket + 1) } :: post }
  | counted {w : World} {pre post : List CallState} {c : CallState} {backend : Backend} {count : Nat}
      (hcalls : w.calls = pre ++ c :: post) (hphase : c.phase = .sent backend) (hvalue : c.value = some count) :
      Step env w .counted { w with calls := pre ++ c.count count true :: post }
  /-- `incrData.result ?? 1`: a payload of Upstash that tells an error has no result. -/
  | withoutResult {w : World} {pre post : List CallState} {c : CallState} (hcalls : w.calls = pre ++ c :: post)
      (hphase : c.phase = .sent .upstash) : Step env w .withoutResult { w with calls := pre ++ c.count 1 false :: post }
  | failed {w : World} {pre post : List CallState} {c : CallState} {backend : Backend}
      (hcalls : w.calls = pre ++ c :: post) (hphase : c.phase = .sent backend) :
      Step env w .failed { w with calls := pre ++ { c with phase := .answered (some c.call.unavailable) } :: post }
  | expireAnswered {w : World} {pre post : List CallState} {c : CallState} {read : Bool}
      (hcalls : w.calls = pre ++ c :: post) (hphase : c.phase = .expiring read) :
      Step env w (.expireAnswered read)
        { w with calls := pre ++ { c with phase := .answered (some (c.call.counted 1)) } :: post }
  | expireFailed {w : World} {pre post : List CallState} {c : CallState} {read : Bool}
      (hcalls : w.calls = pre ++ c :: post) (hphase : c.phase = .expiring read) :
      Step env w .expireFailed { w with calls := pre ++ { c with phase := .answered (some c.call.unavailable) } :: post }
  | forgot (w : World) (bucket : Text) : Step env w (.forgot bucket) { w with
      counters := Function.update w.counters bucket 0
      forgotten := fun b => b = bucket ∨ w.forgotten b }

def start : World := ⟨fun _ => 0, fun _ => False, []⟩

/-- The call is answered allowed: true. -/
def CallState.allowed (c : CallState) : Bool :=
  match c.phase with
  | .answered (some check) => check.allowed
  | _ => false

/-- The allowed calls of a key with its limit in a window. -/
def allowedIn (key : Text) (limit windowSec window : Nat) (calls : List CallState) : List CallState :=
  calls.filter fun c => c.allowed && decide (c.call.key = key ∧ c.call.limit = limit ∧ c.call.windowSec = windowSec ∧
    c.call.window = window)

/-- The allowed calls of a key in a window are no more than the limit; each has counted a value
up to the limit, and no call returns null. -/
structure LimitKept (w : World) : Prop where
  atMost : ∀ key limit windowSec window, (allowedIn key limit windowSec window w.calls).length ≤ limit
  counted : ∀ c ∈ w.calls, c.allowed = true → ∃ value, c.value = some value ∧ 1 ≤ value ∧ value ≤ c.call.limit
  answered : ∀ c ∈ w.calls, c.phase ≠ .answered none

/-- The backend keeps a counter until its window's calls have counted, and no call is answered
by a count that was not read. -/
def Reliable (w : World) : Happens → Prop
  | .incremented bucket => ¬ w.forgotten bucket
  | .expireAnswered read => read = true
  | _ => True

/-! ### The values of a counter -/

/-- The values that calls gave a counter. -/
def valuesOn (bucket : Text) (calls : List CallState) : List Nat :=
  calls.filterMap fun c => if c.call.bucket = bucket then c.value else none

/-- What a call knows fits what it counted. -/
structure CallState.Sound (c : CallState) : Prop where
  expiring : c.phase = .expiring true → c.value = some 1
  allowed : c.allowed = true → ∃ value, c.value = some value ∧ value ≤ c.call.limit
  answered : c.phase ≠ .answered none

/-- No two calls gave a counter one value, and one that is not forgotten is at least the last. -/
structure World.Inv (w : World) : Prop where
  nodup : ∀ bucket, (valuesOn bucket w.calls).Nodup
  pos : ∀ bucket, ∀ value ∈ valuesOn bucket w.calls, 1 ≤ value
  reached : ∀ bucket, ¬ w.forgotten bucket → ∀ value ∈ valuesOn bucket w.calls, value ≤ w.counters bucket
  sound : ∀ c ∈ w.calls, c.Sound

variable {w : World} {pre post : List CallState} {c c' : CallState}

theorem valuesOn_phase (hcall : c'.call = c.call) (hvalue : c'.value = c.value) (bucket : Text) :
    valuesOn bucket (pre ++ c' :: post) = valuesOn bucket (pre ++ c :: post) := by
  simp only [valuesOn, List.filterMap_append, List.filterMap_cons, hcall, hvalue]

/-- A call that goes on and has counted as before. -/
theorem World.Inv.goOn (h : w.Inv) (hcalls : w.calls = pre ++ c :: post) (hcall : c'.call = c.call) (hvalue : c'.value = c.value)
    (hsound : c'.Sound) : ({ w with calls := pre ++ c' :: post } : World).Inv := by
  have hvalues (bucket : Text) : valuesOn bucket (pre ++ c' :: post) = valuesOn bucket w.calls := by
    rw [hcalls, valuesOn_phase hcall hvalue]
  refine ⟨fun bucket => ?_, fun bucket => ?_, fun bucket => ?_, fun d hd => ?_⟩
  · rw [hvalues]
    exact h.nodup bucket
  · rw [hvalues]
    exact h.pos bucket
  · rw [hvalues]
    exact h.reached bucket
  · rcases mem_replaced hcalls hd with rfl | hd
    · exact hsound
    · exact h.sound d hd

theorem sound_unavailable : ({ c with phase := .answered (some c.call.unavailable) } : CallState).Sound where
  expiring h := by cases h
  allowed h := by cases h
  answered h := by cases h

theorem sound_counted {count : Nat} (hvalue : c.value = some count) :
    ({ c with phase := .answered (some (c.call.counted count)) } : CallState).Sound where
  expiring h := by cases h
  allowed h := ⟨count, hvalue, of_decide_eq_true h⟩
  answered h := by cases h

theorem sound_count {count : Nat} {read : Bool} (hread : read = true → c.value = some count) (hdefault : read = false → count = 1) :
    (c.count count read).Sound := by
  unfold CallState.count
  split
  · rename_i hone
    subst hone
    refine ⟨fun h => hread ?_, (fun h => by cases h), fun h => by cases h⟩
    simpa using h
  · rename_i hnot
    cases read with
    | false => exact absurd (hdefault rfl) hnot
    | true => exact sound_counted (hread rfl)

/-- The values of a counter after a call has counted on it, or on another. -/
theorem valuesOn_incremented (pre post : List CallState) (hvalue : c.value = none) (value : Nat) (bucket : Text) :
    (valuesOn bucket (pre ++ { c with value := some value } :: post)).Perm
      (if c.call.bucket = bucket then value :: valuesOn bucket (pre ++ c :: post) else valuesOn bucket (pre ++ c :: post)) := by
  simp only [valuesOn, List.filterMap_append, List.filterMap_cons, hvalue, ite_self]
  by_cases hbucket : c.call.bucket = bucket
  · simp only [if_pos hbucket]
    exact List.perm_middle
  · simp only [if_neg hbucket]
    exact List.Perm.refl _

/-- A counter that is not forgotten gives the next call a value that no other call has. -/
theorem World.Inv.incremented (h : w.Inv) (hcalls : w.calls = pre ++ c :: post) (hvalue : c.value = none) {backend : Backend}
    (hphase : c.phase = .sent backend) (hkept : ¬ w.forgotten c.call.bucket) :
    ({ w with
      counters := Function.update w.counters c.call.bucket (w.counters c.call.bucket + 1)
      calls := pre ++ { c with value := some (w.counters c.call.bucket + 1) } :: post } : World).Inv := by
  have hperm (bucket : Text) := valuesOn_incremented pre post hvalue (w.counters c.call.bucket + 1) bucket
  rw [← hcalls] at hperm
  have hreached := h.reached _ hkept
  refine ⟨fun bucket => ?_, fun bucket value hmem => ?_, fun bucket hbucket value hmem => ?_, fun d hd => ?_⟩
  · rw [(hperm bucket).nodup_iff]
    split
    · rename_i heq
      subst heq
      refine List.nodup_cons.mpr ⟨fun hmem => ?_, h.nodup _⟩
      have := hreached _ hmem
      omega
    · exact h.nodup bucket
  · rw [(hperm bucket).mem_iff] at hmem
    split at hmem
    · rcases List.mem_cons.mp hmem with rfl | hmem
      · omega
      · exact h.pos bucket value hmem
    · exact h.pos bucket value hmem
  · rw [(hperm bucket).mem_iff] at hmem
    split at hmem
    · rename_i heq
      subst heq
      show value ≤ Function.update w.counters _ _ _
      rw [Function.update_self]
      rcases List.mem_cons.mp hmem with rfl | hmem
      · exact le_rfl
      · exact (hreached value hmem).trans (Nat.le_succ _)
    · rename_i hne
      show value ≤ Function.update w.counters _ _ _
      rw [Function.update_of_ne (Ne.symm hne)]
      exact h.reached bucket hbucket value hmem
  · rcases mem_replaced hcalls hd with rfl | hd
    · exact ⟨(fun he => by simp [hphase] at he), (fun ha => by simp [CallState.allowed, hphase] at ha), by simp [hphase]⟩
    · exact h.sound d hd

/-- A new call has counted nothing. -/
theorem World.Inv.called (h : w.Inv) {call : LimitedCall} {backend : Backend} :
    ({ w with calls := w.calls ++ [⟨call, none, .sent backend⟩] } : World).Inv := by
  have hvalues (bucket : Text) : valuesOn bucket (w.calls ++ [⟨call, none, .sent backend⟩]) = valuesOn bucket w.calls := by
    simp [valuesOn]
  refine ⟨fun bucket => ?_, fun bucket => ?_, fun bucket => ?_, fun d hd => ?_⟩
  · rw [hvalues]
    exact h.nodup bucket
  · rw [hvalues]
    exact h.pos bucket
  · rw [hvalues]
    exact h.reached bucket
  · rcases List.mem_append.mp hd with hd | hd
    · exact h.sound d hd
    · obtain rfl := List.mem_singleton.mp hd
      exact ⟨(fun he => by cases he), (fun ha => by cases ha), fun hn => by cases hn⟩

theorem World.Inv.step {env : Settings} (hconfigured : env.backend.isSome) (h : w.Inv) {e : Happens} (hreliable : Reliable w e)
    {w' : World} (hstep : Step env w e w') : w'.Inv := by
  cases hstep with
  | called _ call =>
    obtain ⟨backend, hbackend⟩ := Option.isSome_iff_exists.mp hconfigured
    rw [hbackend]
    exact h.called
  | incremented hcalls hphase hvalue => exact h.incremented hcalls hvalue hphase hreliable
  | counted hcalls hphase hvalue =>
    refine h.goOn hcalls ?_ ?_ (sound_count (fun _ => hvalue) fun h => by cases h)
    all_goals rfl
  | withoutResult hcalls hphase => exact h.goOn hcalls rfl rfl (sound_count (fun h => by cases h) fun _ => rfl)
  | failed hcalls hphase => exact h.goOn hcalls rfl rfl sound_unavailable
  | expireAnswered hcalls hphase =>
    obtain rfl : _ = true := hreliable
    exact h.goOn hcalls rfl rfl (sound_counted ((h.sound _ (mem_taken hcalls)).expiring hphase))
  | expireFailed hcalls hphase => exact h.goOn hcalls rfl rfl sound_unavailable
  | forgot _ bucket =>
    refine ⟨h.nodup, h.pos, fun b hb => ?_, h.sound⟩
    have hkept : Function.update w.counters bucket 0 b = w.counters b := Function.update_of_ne (fun he => hb (.inl he)) _ _
    intro value hmem
    show value ≤ Function.update w.counters bucket 0 b
    rw [hkept]
    exact h.reached b (fun hf => hb (.inr hf)) value hmem

/-- The values that allowed calls of a window gave its counter are different, and at most the limit. -/
theorem World.Inv.atMost (h : w.Inv) (key : Text) (limit windowSec window : Nat) :
    (allowedIn key limit windowSec window w.calls).length ≤ limit := by
  let bucket := units "rl:" ++ key ++ units ":" ++ decimal window
  let counted : CallState → Option Nat := fun c => if c.call.bucket = bucket then c.value else none
  have hcounted : ∀ c ∈ allowedIn key limit windowSec window w.calls, ∃ value, counted c = some value ∧ value ≤ limit := by
    intro c hc
    obtain ⟨hmem, hallowed⟩ := List.mem_filter.mp hc
    rw [Bool.and_eq_true, decide_eq_true_eq] at hallowed
    obtain ⟨hallowed, rfl, rfl, -, rfl⟩ := hallowed
    obtain ⟨value, hvalue, hle⟩ := (h.sound c hmem).allowed hallowed
    exact ⟨value, by simpa [counted, LimitedCall.bucket, bucket] using hvalue, hle⟩
  have hlength : ((allowedIn key limit windowSec window w.calls).filterMap counted).length =
      (allowedIn key limit windowSec window w.calls).length := by
    rw [List.filterMap_length_eq_length]
    intro c hc
    obtain ⟨value, hvalue, -⟩ := hcounted c hc
    rw [hvalue]
    rfl
  have hsub : ((allowedIn key limit windowSec window w.calls).filterMap counted).Sublist (valuesOn bucket w.calls) :=
    List.filter_sublist.filterMap _
  have hrange : (allowedIn key limit windowSec window w.calls).filterMap counted ⊆ List.range' 1 limit := by
    intro value hvalue
    obtain ⟨c, hc, hcount⟩ := List.mem_filterMap.mp hvalue
    obtain ⟨value', hvalue', hle⟩ := hcounted c hc
    rw [hcount, Option.some.injEq] at hvalue'
    subst hvalue'
    have hpos := h.pos bucket value (hsub.subset hvalue)
    rw [List.mem_range'_1]
    omega
  have := (List.subperm_of_subset (hsub.nodup (h.nodup bucket)) hrange).length_le
  rwa [hlength, List.length_range'] at this

theorem World.Inv.limitKept (h : w.Inv) : LimitKept w where
  atMost := h.atMost
  counted c hc hallowed := by
    obtain ⟨value, hvalue, hle⟩ := (h.sound c hc).allowed hallowed
    refine ⟨value, hvalue, h.pos c.call.bucket value ?_, hle⟩
    exact List.mem_filterMap.mpr ⟨c, hc, by rw [if_pos rfl, hvalue]⟩
  answered c hc := (h.sound c hc).answered

theorem start_inv : start.Inv where
  nodup _ := List.nodup_nil
  pos _ _ hmem := absurd hmem List.not_mem_nil
  reached _ _ _ hmem := absurd hmem List.not_mem_nil
  sound _ hmem := absurd hmem List.not_mem_nil

/-- In every run of a configured limiter whose backend is reliable, the calls of a key that are
allowed in a window are no more than the limit, each by a value it gave the counter. -/
theorem distributed_limit_kept {env : Settings} (hconfigured : env.backend.isSome) {events : List Happens} {w : World}
    (hrun : Machine.Run (Step env) start events w)
    (hreliable : ∀ pre e post u, events = pre ++ e :: post → Machine.Run (Step env) start pre u → Reliable u e) : LimitKept w :=
  (hrun.invariant_of (P := World.Inv) (fun _ _ _ h hguard hstep => h.step hconfigured hguard hstep) hreliable start_inv).limitKept

/-- A counter is forgotten at the end of its time to live only. -/
theorem forgot_mem {env : Settings} {events : List Happens} (hrun : Machine.Run (Step env) start events w) {bucket : Text}
    (h : w.forgotten bucket) : Happens.forgot bucket ∈ events := by
  have hnone : start.forgotten bucket → Happens.forgot bucket ∈ [] := fun hnone => absurd hnone id
  refine Machine.Run.history (P := fun es u => u.forgotten bucket → Happens.forgot bucket ∈ es)
    (fun es u e u' hu hstep hforgotten => ?_) hrun hnone h
  cases hstep with
  | forgot _ other =>
    rcases hforgotten with rfl | hforgotten
    · exact List.mem_append_right _ (List.mem_singleton.mpr rfl)
    · exact List.mem_append_left _ (hu hforgotten)
  | _ => exact List.mem_append_left _ (hu hforgotten)

/-! ### The middleware -/

inductive Verdict where
  | next
  /-- 503, RATE_LIMIT_UNAVAILABLE. -/
  | notConfigured
  /-- 429, RATE_LIMITED. -/
  | tooMany (retryAfter : Option Nat) (mode : RateLimitMode)

/-- `tenantRateLimit` on the answer of the limiter. -/
def tenantRateLimit (env : Settings) (requireDistributedRateLimit : Bool) (rl : Option RateLimitCheck) : Verdict :=
  if requireDistributedRateLimit && env.backend.isNone then .notConfigured
  else
    match rl with
    | some rl => if rl.allowed then .next else .tooMany (rl.retryAfterSec.filter (· ≠ 0)) rl.mode
    | none => .next

/-- With a backend the middleware lets a request through iff its call is allowed. -/
theorem tenantRateLimit_next {env : Settings} (hconfigured : env.backend.isSome) (h : LimitKept w) (hc : c ∈ w.calls)
    {rl : Option RateLimitCheck} (hphase : c.phase = .answered rl) (requireDistributedRateLimit : Bool) :
    tenantRateLimit env requireDistributedRateLimit rl = .next ↔ c.allowed = true := by
  have hnone : env.backend.isNone = false := by
    rwa [Option.isNone_eq_false_iff]
  cases rl with
  | none => exact absurd hphase (h.answered c hc)
  | some rl =>
    simp only [tenantRateLimit, hnone, Bool.and_false, CallState.allowed, hphase]
    cases rl.allowed <;> simp

/-! ### A call that counts and one that does not -/

private def upstashSettings : Settings := ⟨some (units "https://upstash"), some (units "token"), none, none⟩

private def firstCall : LimitedCall := ⟨units "k", 1, 60, 0⟩

private def firstEvents : List Happens :=
  [.called firstCall, .incremented firstCall.bucket, .counted, .expireAnswered true]

private theorem counted_run : Machine.Run (Step upstashSettings) start firstEvents
    ⟨Function.update (fun _ => 0) firstCall.bucket 1, fun _ => False,
      [⟨firstCall, some 1, .answered (some (firstCall.counted 1))⟩]⟩ := by
  have hcalled : Step upstashSettings start (.called firstCall)
      ⟨fun _ => 0, fun _ => False, [] ++ ⟨firstCall, none, .sent .upstash⟩ :: []⟩ := .called _ _
  have hincremented : Step upstashSettings ⟨fun _ => 0, fun _ => False, [] ++ ⟨firstCall, none, .sent .upstash⟩ :: []⟩
      (.incremented firstCall.bucket)
      ⟨Function.update (fun _ => 0) firstCall.bucket 1, fun _ => False, [] ++ ⟨firstCall, some 1, .sent .upstash⟩ :: []⟩ :=
    .incremented (c := ⟨firstCall, none, .sent .upstash⟩) rfl rfl rfl
  have hcounted : Step upstashSettings
      ⟨Function.update (fun _ => 0) firstCall.bucket 1, fun _ => False, [] ++ ⟨firstCall, some 1, .sent .upstash⟩ :: []⟩ .counted
      ⟨Function.update (fun _ => 0) firstCall.bucket 1, fun _ => False, [] ++ ⟨firstCall, some 1, .expiring true⟩ :: []⟩ :=
    .counted (c := ⟨firstCall, some 1, .sent .upstash⟩) rfl rfl rfl
  exact .cons hcalled (.cons hincremented (.cons hcounted (.cons (.expireAnswered rfl rfl) (.nil _))))

theorem distributed_limit_kept_counted : LimitKept ⟨Function.update (fun _ => 0) firstCall.bucket 1, fun _ => False,
    [⟨firstCall, some 1, .answered (some (firstCall.counted 1))⟩]⟩ := by
  refine distributed_limit_kept rfl counted_run fun pre e post u hevents hpre => ?_
  have hmem : e ∈ firstEvents := by
    rw [hevents]
    exact List.mem_append_right _ List.mem_cons_self
  simp only [firstEvents, List.mem_cons, List.not_mem_nil, or_false] at hmem
  rcases hmem with rfl | rfl | rfl | rfl
  · trivial
  · intro hforgotten
    have hforgot : Happens.forgot firstCall.bucket ∈ firstEvents := by
      rw [hevents]
      exact List.mem_append_left _ (forgot_mem hpre hforgotten)
    simp [firstEvents] at hforgot
  · trivial
  · rfl

/-- Upstash answers with an error instead of a result: the call is allowed without a count. -/
theorem distributed_limit_kept_error : ¬ ∀ (env : Settings) (events : List Happens) (w : World), env.backend.isSome →
    Machine.Run (Step env) start events w → LimitKept w := by
  intro hall
  have hcalled : Step upstashSettings start (.called firstCall)
      ⟨fun _ => 0, fun _ => False, [] ++ ⟨firstCall, none, .sent .upstash⟩ :: []⟩ := .called _ _
  have herror : Step upstashSettings ⟨fun _ => 0, fun _ => False, [] ++ ⟨firstCall, none, .sent .upstash⟩ :: []⟩ .withoutResult
      ⟨fun _ => 0, fun _ => False, [] ++ ⟨firstCall, none, .expiring false⟩ :: []⟩ :=
    .withoutResult (c := ⟨firstCall, none, .sent .upstash⟩) rfl rfl
  have hrun : Machine.Run (Step upstashSettings) start [.called firstCall, .withoutResult, .expireAnswered false]
      ⟨fun _ => 0, fun _ => False, [⟨firstCall, none, .answered (some (firstCall.counted 1))⟩]⟩ :=
    .cons hcalled (.cons herror (.cons (.expireAnswered rfl rfl) (.nil _)))
  obtain ⟨value, hvalue, -⟩ := (hall upstashSettings _ _ rfl hrun).counted _ (List.mem_singleton.mpr rfl) rfl
  cases hvalue

end GalaxiaAin.Limits.Distributed
