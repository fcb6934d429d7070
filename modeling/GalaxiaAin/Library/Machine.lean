import Mathlib.Logic.Basic
import Mathlib.Data.List.Basic

/-! Machines that take one labelled step after another, and what holds in every state
of their runs. -/
namespace GalaxiaAin.Library

variable {σ ε : Type}

/-- A machine: from which state which event leads where. -/
abbrev Machine (σ ε : Type) := σ → ε → σ → Prop

namespace Machine

/-- The runs of a machine. -/
inductive Run (step : Machine σ ε) : σ → List ε → σ → Prop
  | nil (s : σ) : Run step s [] s
  | cons {s t u : σ} {e : ε} {es : List ε} (h : step s e t) (hr : Run step t es u) : Run step s (e :: es) u

variable {step : Machine σ ε}

theorem Run.append {s t u : σ} {es fs : List ε} (h : Run step s es t) (h' : Run step t fs u) :
    Run step s (es ++ fs) u := by
  induction h with
  | nil s => exact h'
  | cons hs _ ih => exact .cons hs (ih h')

/-- A run of two parts stops in between. -/
theorem Run.split {s u : σ} {es fs : List ε} (h : Run step s (es ++ fs) u) :
    ∃ t, Run step s es t ∧ Run step t fs u := by
  induction es generalizing s with
  | nil => exact ⟨s, .nil s, h⟩
  | cons e es ih =>
    cases h with
    | cons hs hr =>
      obtain ⟨t, ht, hu⟩ := ih hr
      exact ⟨t, .cons hs ht, hu⟩

theorem Run.snoc {s t u : σ} {es : List ε} {e : ε} (h : Run step s es t) (hs : step t e u) :
    Run step s (es ++ [e]) u := h.append (.cons hs (.nil u))

/-- The last step of a run. -/
theorem Run.last {s u : σ} {es : List ε} {e : ε} (h : Run step s (es ++ [e]) u) :
    ∃ t, Run step s es t ∧ step t e u := by
  obtain ⟨t, ht, hu⟩ := h.split
  cases hu with
  | cons hs hr => cases hr; exact ⟨t, ht, hs⟩

/-- What every step preserves holds in every state of a run. -/
theorem Run.invariant {P : σ → Prop} (hstep : ∀ s e t, P s → step s e t → P t) {s t : σ} {es : List ε}
    (h : Run step s es t) (hs : P s) : P t := by
  induction h with
  | nil s => exact hs
  | cons hse _ ih => exact ih (hstep _ _ _ hs hse)

/-- The same for steps that meet a guard on the state before them. -/
theorem Run.invariant_of {P : σ → Prop} {guard : σ → ε → Prop}
    (hstep : ∀ s e t, P s → guard s e → step s e t → P t) {s t : σ} {es : List ε} (h : Run step s es t)
    (hg : ∀ pre e post u, es = pre ++ e :: post → Run step s pre u → guard u e) (hs : P s) : P t := by
  induction h with
  | nil s => exact hs
  | @cons s t u e es hse _ ih =>
    refine ih (fun pre f post v he hv => hg (e :: pre) f post v (by rw [he]; rfl) (.cons hse hv)) ?_
    exact hstep _ _ _ hs (hg [] e es s rfl (.nil s)) hse

/-- A property of the state and the events so far, which every step preserves. -/
theorem Run.history {P : List ε → σ → Prop} (hstep : ∀ es s e t, P es s → step s e t → P (es ++ [e]) t)
    {s t : σ} {es : List ε} (h : Run step s es t) {before : List ε} (hs : P before s) : P (before ++ es) t := by
  induction h generalizing before with
  | nil s => rwa [List.append_nil]
  | @cons s t u e es hse _ ih =>
    have := ih (hstep before s e t hs hse)
    rwa [List.append_assoc] at this

/-- Where a property of the state after a step is a guard on the state before it, the
property holds throughout a run exactly when the guard does. -/
theorem always_iff {P : σ → Prop} {guard : σ → ε → Prop} {start : σ} (hstart : P start)
    (hstep : ∀ es s e t, Run step start es s → step s e t → (P t ↔ guard s e)) (es : List ε) (last : σ) :
    (∀ pre post s, es = pre ++ post → Run step start pre s → Run step s post last → P s) ↔
      ∀ pre e post s t, es = pre ++ e :: post → Run step start pre s → step s e t → Run step t post last →
        guard s e := by
  constructor
  · intro h pre e post s t he hs hse ht
    refine (hstep pre s e t hs hse).mp (h (pre ++ [e]) post t ?_ (hs.snoc hse) ht)
    rw [he, List.append_assoc]; rfl
  · intro h pre post s he hs hlast
    rcases List.eq_nil_or_concat pre with rfl | ⟨init, e, rfl⟩
    · cases hs; exact hstart
    · rw [List.concat_eq_append] at hs he
      obtain ⟨t, ht, hte⟩ := hs.last
      refine (hstep init t e s ht hte).mpr (h init e post t s ?_ ht hte hlast)
      rw [he, List.append_assoc]; rfl

end Machine
/-! ### A task among others -/

section Tasks
variable {τ : Type} {tasks pre post : List τ} {task task' d : τ}

/-- The task that a step takes up is one of those in flight. -/
theorem mem_taken (htasks : tasks = pre ++ task :: post) : task ∈ tasks := by
  rw [htasks]
  exact List.mem_append_right _ List.mem_cons_self

/-- Where it is ended the others were in flight before. -/
theorem mem_ended (htasks : tasks = pre ++ task :: post) (hd : d ∈ pre ++ post) : d ∈ tasks := by
  rw [htasks]
  exact (List.Sublist.append_left (List.sublist_cons_self task post) pre).subset hd

/-- Where another takes its place, the others were in flight before. -/
theorem mem_replaced (htasks : tasks = pre ++ task :: post) (hd : d ∈ pre ++ task' :: post) : d = task' ∨ d ∈ tasks := by
  rcases List.mem_append.mp hd with hd | hd
  · exact .inr (mem_ended htasks (List.mem_append_left _ hd))
  · exact (List.mem_cons.mp hd).imp_right fun hd => mem_ended htasks (List.mem_append_right _ hd)

end Tasks

end GalaxiaAin.Library
