import GalaxiaAin.Library.Machine
import GalaxiaAin.Library.Json
import Mathlib.Data.List.Basic

/-! The price of GXA. Calls are answered from the cache for a minute, and else by the oracle;
calls and the polls of subscriptions wait for it at the same time, and its answers come in any
order. -/
namespace GalaxiaAin.Galaxia.Oracle
open GalaxiaAin.Library

variable {Raw Number : Type}

/-! ### The client -/

/-- The body of an answer, as far as it is read; a date that is not valid is none. -/
structure FeedData (Raw : Type) where
  value : Raw
  timestamp : Option Int
  attestation : Option Text

structure OracleDataFeed (Raw : Type) where
  value : Raw
  timestamp : Option Int

/-- What comes back for a request: nothing where the fetch, the status or the body is in
error; and the verdict on the attestation, nothing where its check throws. -/
structure OracleReply (Raw : Type) where
  data : Option (FeedData Raw)
  verified : Option Bool

/-- With `validate`. A consensus below `minConsensus` is logged and passes. -/
def getDataFeed (quantumEnabled : Bool) (reply : OracleReply Raw) : Option (OracleDataFeed Raw) :=
  match reply.data with
  | none => none
  | some data =>
    if quantumEnabled && data.attestation.any (· ≠ []) && reply.verified != some true then none
    else some ⟨data.value, data.timestamp⟩

/-! ### The service -/

structure CachedPrice (Number : Type) where
  value : Number
  timestamp : Option Int

def cacheTTL : Int := 60000

/-- `Date.now() - cached.timestamp.getTime() < this.cacheTTL`. -/
def CachedPrice.fresh (cached : CachedPrice Number) (now : Int) : Bool :=
  cached.timestamp.any fun timestamp => decide (now - timestamp < cacheTTL)

def GXA_USD : Text := units "GXA/USD"

/-- The deployment: `parseFloat(feed.value.toString())`, none where that throws. -/
structure PriceSettings (Raw Number : Type) where
  quantumEnabled : Bool
  parse : Raw → Option Number

/-- Who waits for the oracle. -/
inductive Asker where
  | getGXAPrice
  | poll (feedId : Text)

structure PriceWorld (Number : Type) where
  priceCache : Text → Option (CachedPrice Number)
  /-- The feeds with an interval. -/
  subscriptions : Text → Bool
  asking : List Asker
  /-- What the calls of getGXAPrice returned; none where they threw. -/
  returned : List (Option Number)

inductive PriceEvent (Raw : Type) where
  | called (now : Int)
  | subscribed (feedId : Text)
  | unsubscribed (feedId : Text)
  | ticked (feedId : Text)
  /-- The callback of a subscription may throw, too. -/
  | answered (asker : Asker) (reply : OracleReply Raw) (callbackThrows : Bool)

variable (env : PriceSettings Raw Number)

/-- The price that an answer brings. -/
def priceOf (reply : OracleReply Raw) : Option (CachedPrice Number) :=
  (getDataFeed env.quantumEnabled reply).bind fun feed => (env.parse feed.value).map fun price => ⟨price, feed.timestamp⟩

/-- The start of `getGXAPrice`. -/
def PriceWorld.getGXAPrice (now : Int) (w : PriceWorld Number) : PriceWorld Number :=
  match (w.priceCache GXA_USD).filter (·.fresh now) with
  | some cached => { w with returned := w.returned ++ [some cached.value] }
  | none => { w with asking := w.asking ++ [.getGXAPrice] }

/-- What goes on with an answer. -/
def PriceWorld.goOn (asker : Asker) (reply : OracleReply Raw) (callbackThrows : Bool) (w : PriceWorld Number) :
    PriceWorld Number :=
  match asker, priceOf env reply with
  | .getGXAPrice, some price => { w with
      priceCache := Function.update w.priceCache GXA_USD (some price)
      returned := w.returned ++ [some price.value] }
  | .getGXAPrice, none => { w with returned := w.returned ++ [(w.priceCache GXA_USD).map (·.value)] }
  | .poll feedId, some price =>
    if callbackThrows then w else { w with priceCache := Function.update w.priceCache feedId (some price) }
  | .poll _, none => w

inductive PriceStep : Machine (PriceWorld Number) (PriceEvent Raw)
  | called (w : PriceWorld Number) (now : Int) : PriceStep w (.called now) (w.getGXAPrice now)
  | subscribed (w : PriceWorld Number) (feedId : Text) : PriceStep w (.subscribed feedId)
      { w with subscriptions := Function.update w.subscriptions feedId true }
  | unsubscribed (w : PriceWorld Number) (feedId : Text) : PriceStep w (.unsubscribed feedId)
      { w with subscriptions := Function.update w.subscriptions feedId false }
  | ticked {w : PriceWorld Number} {feedId : Text} (hactive : w.subscriptions feedId = true) :
      PriceStep w (.ticked feedId) { w with asking := w.asking ++ [.poll feedId] }
  /-- The interval of a poll in flight may be cleared by now. -/
  | answered {w : PriceWorld Number} {pre post : List Asker} {asker : Asker} (hasking : w.asking = pre ++ asker :: post)
      (reply : OracleReply Raw) (callbackThrows : Bool) : PriceStep w (.answered asker reply callbackThrows)
      (({ w with asking := pre ++ post } : PriceWorld Number).goOn env asker reply callbackThrows)

def noPrices : PriceWorld Number := ⟨fun _ => none, fun _ => false, [], []⟩

/-! ### The prices the oracle gave -/

/-- The price of a feed that an event brings. -/
def given (feedId : Text) : PriceEvent Raw → Option (CachedPrice Number)
  | .answered .getGXAPrice reply _ => if feedId = GXA_USD then priceOf env reply else none
  | .answered (.poll polled) reply callbackThrows => if feedId = polled ∧ ¬callbackThrows then priceOf env reply else none
  | _ => none

/-- The last price of a feed that the oracle gave. -/
def lastGiven (feedId : Text) (events : List (PriceEvent Raw)) : Option (CachedPrice Number) :=
  (events.filterMap (given env feedId)).getLast?

variable {env}

theorem lastGiven_append (feedId : Text) (events : List (PriceEvent Raw)) (e : PriceEvent Raw) :
    lastGiven env feedId (events ++ [e]) = (given env feedId e).or (lastGiven env feedId events) := by
  rw [lastGiven, lastGiven, List.filterMap_append, List.getLast?_append]
  congr 1
  cases hgiven : given env feedId e with
  | none => simp [hgiven]
  | some price => simp [hgiven]

/-- An event puts what it brings in the cache, and nothing else. -/
theorem PriceStep.priceCache {w v : PriceWorld Number} {e : PriceEvent Raw} (h : PriceStep env w e v) (feedId : Text) :
    v.priceCache feedId = (given env feedId e).or (w.priceCache feedId) := by
  cases h with
  | called now =>
    rw [PriceWorld.getGXAPrice]
    split <;> rfl
  | subscribed polled => rfl
  | unsubscribed polled => rfl
  | ticked hactive => rfl
  | answered hasking reply callbackThrows =>
    rename_i pre post asker
    cases asker with
    | getGXAPrice =>
      simp only [PriceWorld.goOn, given]
      cases hprice : priceOf env reply with
      | none => simp
      | some price =>
        by_cases hfeed : feedId = GXA_USD
        · subst hfeed
          simp
        · simp [hfeed]
    | poll polled =>
      simp only [PriceWorld.goOn, given]
      cases hprice : priceOf env reply with
      | none => simp
      | some price =>
        by_cases hfeed : feedId = polled
        · subst hfeed
          cases callbackThrows <;> simp
        · cases callbackThrows <;> simp [hfeed]

/-- In every state the cache has, for each feed, the price that the oracle gave last. -/
theorem priceCache_run {events : List (PriceEvent Raw)} {w : PriceWorld Number}
    (h : Machine.Run (PriceStep env) noPrices events w) (feedId : Text) : w.priceCache feedId = lastGiven env feedId events := by
  have hstep (es : List (PriceEvent Raw)) (s : PriceWorld Number) (e : PriceEvent Raw) (t : PriceWorld Number)
      (hs : s.priceCache feedId = lastGiven env feedId es) (hse : PriceStep env s e t) :
      t.priceCache feedId = lastGiven env feedId (es ++ [e]) := by
    rw [hse.priceCache, lastGiven_append, hs]
  have hstart : (noPrices : PriceWorld Number).priceCache feedId = lastGiven env feedId [] := rfl
  exact h.history hstep hstart

/-- What an event returns is the price in the cache after it. -/
theorem PriceStep.returned {w v : PriceWorld Number} {e : PriceEvent Raw} (h : PriceStep env w e v) :
    v.returned = w.returned ∨ v.returned = w.returned ++ [(v.priceCache GXA_USD).map (·.value)] := by
  cases h with
  | called =>
    rw [PriceWorld.getGXAPrice]
    split
    · rename_i cached hfresh
      have hcached : w.priceCache GXA_USD = some cached := (Option.filter_eq_some_iff.mp hfresh).1
      exact .inr (by rw [hcached]; rfl)
    · exact .inl rfl
  | subscribed polled => exact .inl rfl
  | unsubscribed polled => exact .inl rfl
  | ticked hactive => exact .inl rfl
  | answered hasking reply callbackThrows =>
    rename_i pre post asker
    cases asker with
    | getGXAPrice =>
      simp only [PriceWorld.goOn]
      cases hprice : priceOf env reply with
      | none => exact .inr rfl
      | some price => exact .inr (by simp)
    | poll polled =>
      simp only [PriceWorld.goOn]
      cases priceOf env reply with
      | none => exact .inl rfl
      | some price => cases callbackThrows <;> exact .inl rfl

/-- Which call goes to the oracle. -/
theorem getGXAPrice_asks (now : Int) (w : PriceWorld Number) :
    (w.getGXAPrice now).asking = (if (w.priceCache GXA_USD).any (·.fresh now) then w.asking else w.asking ++ [.getGXAPrice]) ∧
      ((w.priceCache GXA_USD).any (·.fresh now) = false → (w.getGXAPrice now).returned = w.returned) := by
  rw [PriceWorld.getGXAPrice]
  cases hcached : w.priceCache GXA_USD with
  | none => exact ⟨rfl, fun _ => rfl⟩
  | some cached =>
    cases hfresh : cached.fresh now with
    | false => simp [Option.filter, hfresh]
    | true => simp [Option.filter, hfresh]

/-- However the calls, the polls and the answers of the oracle come: the cache has the price of
each feed that the oracle gave last, in the order of the answers and whatever the times they
name; a call of `getGXAPrice` returns that price, fails only where there is none yet, and asks
the oracle exactly when that price names no time after the last minute began. -/
theorem price_is_last_given {events : List (PriceEvent Raw)} {w v : PriceWorld Number} {e : PriceEvent Raw}
    (h : Machine.Run (PriceStep env) noPrices events w) (hs : PriceStep env w e v) :
    (∀ feedId, v.priceCache feedId = lastGiven env feedId (events ++ [e])) ∧
      (∀ r, v.returned = w.returned ++ [r] → r = (lastGiven env GXA_USD (events ++ [e])).map (·.value) ∧
        (r = none → ∀ earlier ∈ events, given env GXA_USD earlier = none)) ∧
      ∀ now, e = .called now → (v.asking ≠ w.asking ↔ ∀ price ∈ lastGiven env GXA_USD events, price.fresh now = false) := by
  have hcache (feedId : Text) : v.priceCache feedId = lastGiven env feedId (events ++ [e]) := priceCache_run (h.snoc hs) feedId
  refine ⟨hcache, fun r hr => ?_, fun now hnow => ?_⟩
  · have hresult : r = (lastGiven env GXA_USD (events ++ [e])).map (·.value) := by
      rcases hs.returned with hsame | hsame
      · rw [hsame] at hr
        exact absurd (congrArg List.length hr) (by simp)
      · rw [hr, hcache] at hsame
        exact List.singleton_injective (List.append_cancel_left hsame)
    refine ⟨hresult, fun hnone earlier hearlier => ?_⟩
    rw [hresult, Option.map_eq_none_iff, lastGiven, List.getLast?_eq_none_iff, List.filterMap_eq_nil_iff] at hnone
    exact hnone earlier (List.mem_append_left _ hearlier)
  · subst hnow
    cases hs with
    | called now =>
      rw [(getGXAPrice_asks now w).1, priceCache_run h]
      cases lastGiven env GXA_USD events with
      | none => simp
      | some price => cases hfresh : price.fresh now <;> simp [hfresh]

/-- An answer that names an earlier time than the one before it. -/
theorem price_is_last_given_late :
    let env : PriceSettings Int Int := ⟨true, some⟩
    let reply (price time : Int) : OracleReply Int := ⟨some ⟨price, some time, none⟩, none⟩
    let events : List (PriceEvent Int) := [.called 0, .called 0, .answered .getGXAPrice (reply 5 100) false]
    (∀ feedId, (Function.update (fun _ => none) GXA_USD (some ⟨3, some 50⟩) : Text → Option (CachedPrice Int)) feedId =
        lastGiven env feedId (events ++ [.answered .getGXAPrice (reply 3 50) false])) ∧
      (some 3 : Option Int) = (lastGiven env GXA_USD (events ++ [.answered .getGXAPrice (reply 3 50) false])).map (·.value) := by
  intro env reply events
  let waiting : PriceWorld Int := ⟨fun _ => none, fun _ => false, [.getGXAPrice, .getGXAPrice], []⟩
  let between : PriceWorld Int :=
    ⟨Function.update (fun _ => none) GXA_USD (some ⟨5, some 100⟩), fun _ => false, [.getGXAPrice], [some 5]⟩
  have hfirst : waiting.asking = [] ++ .getGXAPrice :: [.getGXAPrice] := rfl
  have hsecond : between.asking = [] ++ .getGXAPrice :: [] := rfl
  have hrun : Machine.Run (PriceStep env) noPrices events between :=
    .cons (.called _ 0) (.cons (.called _ 0) (.cons (.answered (w := waiting) hfirst (reply 5 100) false) (.nil _)))
  have hstep : PriceStep env between (.answered .getGXAPrice (reply 3 50) false)
      ⟨Function.update between.priceCache GXA_USD (some ⟨3, some 50⟩), fun _ => false, [], [some 5, some 3]⟩ :=
    .answered (w := between) hsecond (reply 3 50) false
  obtain ⟨hcache, hreturned, -⟩ := price_is_last_given hrun hstep
  refine ⟨fun feedId => ?_, (hreturned (some 3) rfl).1⟩
  rw [← hcache feedId, Function.update_idem]

end GalaxiaAin.Galaxia.Oracle
