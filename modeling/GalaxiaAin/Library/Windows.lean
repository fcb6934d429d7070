import Mathlib.Data.List.Induction
import Mathlib.Logic.Function.Basic
import Mathlib.Order.Defs.PartialOrder

/-! State that is kept apart by key, and windows of time that open lazily: a call opens a
window when there is none or the last is over. -/
namespace GalaxiaAin.Library

/-! ### State under keys -/

section
variable {κ σ ε : Type} [DecidableEq κ] (key : ε → κ) (step : Option σ → ε → Option σ)

/-- Every event changes the entry of its key. -/
def keyedRun (db : κ → Option σ) (events : List ε) : κ → Option σ :=
  events.foldl (fun db e => Function.update db (key e) (step (db (key e)) e)) db

/-- What a run leaves under a key is what the events of the key alone leave. -/
theorem keyedRun_apply (db : κ → Option σ) (events : List ε) (k : κ) :
    keyedRun key step db events k = (events.filter fun e => key e = k).foldl step (db k) := by
  induction events generalizing db with
  | nil => rfl
  | cons e events ih =>
    rw [keyedRun, List.foldl_cons, ← keyedRun, ih, List.filter_cons]
    by_cases he : key e = k
    · rw [if_pos (decide_eq_true he), List.foldl_cons, ← he, Function.update_self]
    · rw [if_neg (by simpa using he), Function.update_of_ne fun h => he h.symm]

end

/-! ### Windows -/

/-- A window, by the time of the call that opens it and the times of the later ones in it. -/
structure Window (τ : Type) where
  opened : τ
  later : List τ

namespace Window
variable {τ σ : Type}

/-- The calls of a window. -/
def calls (w : Window τ) : Nat := w.later.length + 1

/-- The window of a call after another; `ended` tells of a window that opened at a time
whether it is over at a later one. -/
def next (ended : τ → τ → Bool) (window : Option (Window τ)) (now : τ) : Window τ :=
  match window with
  | none => ⟨now, []⟩
  | some w => if ended w.opened now then ⟨now, []⟩ else ⟨w.opened, w.later ++ [now]⟩

/-- The window of the last of some calls. -/
def last (ended : τ → τ → Bool) (times : List τ) : Option (Window τ) :=
  times.foldl (fun window now => some (next ended window now)) none

variable {ended : τ → τ → Bool} {times : List τ} {now : τ}

theorem last_append (ended : τ → τ → Bool) (times : List τ) (now : τ) :
    last ended (times ++ [now]) = some (next ended (last ended times) now) := by
  rw [last, List.foldl_append]
  rfl

/-- A window opens with one of its calls. -/
theorem opened_mem {w : Window τ} (h : last ended times = some w) : w.opened ∈ times := by
  induction times using List.reverseRecOn generalizing w with
  | nil => cases h
  | append_singleton times now ih =>
    rw [last_append, Option.some.injEq] at h
    subst h
    cases hlast : last ended times with
    | none => exact List.mem_append_right _ List.mem_cons_self
    | some w =>
      rw [next]
      split
      · exact List.mem_append_right _ List.mem_cons_self
      · exact List.mem_append_left _ (ih (w := w) hlast)

/-- The window of a call opens no later than the call. -/
theorem next_opened_le [Preorder τ] (h : ∀ t ∈ times, t ≤ now) : (next ended (last ended times) now).opened ≤ now := by
  cases hlast : last ended times with
  | none => exact le_refl now
  | some w =>
    rw [next]
    split
    · exact le_refl now
    · exact h w.opened (opened_mem hlast)

/-- A call is in a window that is not over. -/
theorem not_over_next (window : Option (Window τ)) (hover : ended now now = false) :
    ended (next ended window now).opened now = false := by
  cases window with
  | none => exact hover
  | some w =>
    rw [next]
    split
    · exact hover
    · exact Bool.eq_false_iff.mpr ‹_›

/-- The window of a call that comes after another of its own, with only others between. -/
theorem next_after {ε : Type} (own : ε → Bool) {time : ε → τ} {past others : List ε} {e : ε} (he : own e = true)
    (hothers : ∀ c ∈ others, own c = false) (now : τ) :
    next ended (last ended (((past ++ e :: others).filter own).map time)) now =
      next ended (some (next ended (last ended ((past.filter own).map time)) (time e))) now := by
  have hnone : others.filter own = [] := List.filter_eq_nil_iff.mpr fun c hc => by simp [hothers c hc]
  rw [List.filter_append, List.filter_cons_of_pos he, hnone, List.map_append]
  exact congrArg (fun window => next ended window now) (last_append ended _ _)

/-- A state that is changed as a view of the windows is the view of the last window. -/
theorem foldl_view {view : Window τ → σ} {step : Option σ → τ → σ}
    (hstep : ∀ window now, step (window.map view) now = view (next ended window now)) (times : List τ) :
    times.foldl (fun state now => some (step state now)) none = (last ended times).map view := by
  induction times using List.reverseRecOn with
  | nil => rfl
  | append_singleton times now ih =>
    rw [List.foldl_append, ih, last_append]
    exact congrArg some (hstep _ now)

/-- The state under a key is the view of the last window of its calls. -/
theorem keyedRun_view {κ ε : Type} [DecidableEq κ] {key : ε → κ} {time : ε → τ} {view : Window τ → σ}
    (step : Option σ → τ → σ) (hstep : ∀ window now, step (window.map view) now = view (next ended window now))
    (events : List ε) (k : κ) :
    keyedRun key (fun state e => some (step state (time e))) (fun _ => none) events k =
      (last ended ((events.filter fun e => key e = k).map time)).map view := by
  rw [keyedRun_apply, ← foldl_view hstep, List.foldl_map]

end Window
end GalaxiaAin.Library
