import Mathlib.Data.List.Basic
import Mathlib.Data.List.Range

/-! A loop that takes one turn after another. A turn writes events, and ends the loop or goes on
to the state of the next one. -/
namespace GalaxiaAin.Library

/-- What a turn leads to. -/
inductive Turn (σ ρ : Type) where
  | ends (result : ρ)
  | goesOn (next : σ)

section
variable {σ ω ρ : Type} (turn : Nat → σ → List ω × Turn σ ρ)

/-- The events of at most so many turns, and the result; none while the loop goes on. -/
def turns : Nat → Nat → σ → List ω × Option ρ
  | 0, _, _ => ([], none)
  | fuel + 1, n, s =>
    match turn n s with
    | (events, .ends result) => (events, some result)
    | (events, .goesOn next) => (events ++ (turns fuel (n + 1) next).1, (turns fuel (n + 1) next).2)

end

section
variable {σ ω ρ : Type} {turn : Nat → σ → List ω × Turn σ ρ} {state : Nat → σ} {events : Nat → List ω}

/-- The turn goes on, with its events, to the next state. -/
def GoesOn (turn : Nat → σ → List ω × Turn σ ρ) (state : Nat → σ) (events : Nat → List ω) (n : Nat) : Prop :=
  turn n (state n) = (events n, .goesOn (state (n + 1)))

/-- Turns that go on are taken off the front. -/
theorem turns_along {n : Nat} (h : ∀ j < n, GoesOn turn state events j) (fuel : Nat) :
    turns turn (n + fuel) 0 (state 0) =
      ((List.range n).flatMap events ++ (turns turn fuel n (state n)).1, (turns turn fuel n (state n)).2) := by
  induction n generalizing fuel with
  | zero => rw [Nat.zero_add, List.range_zero, List.flatMap_nil, List.nil_append]
  | succ n ih =>
    have hfront := ih (fun j hj => h j (Nat.lt_succ_of_lt hj)) (fuel + 1)
    have hturn : turn n (state n) = (events n, .goesOn (state (n + 1))) := h n (Nat.lt_succ_self n)
    rw [Nat.succ_add_eq_add_succ, hfront, turns, hturn, List.range_succ, List.flatMap_append, List.flatMap_singleton,
      List.append_assoc]

/-- The loop ends with the first turn that does. -/
theorem turns_ends {n : Nat} (h : ∀ j < n, GoesOn turn state events j) {last : List ω} {result : ρ}
    (hlast : turn n (state n) = (last, .ends result)) {fuel : Nat} (hfuel : n < fuel) :
    turns turn fuel 0 (state 0) = ((List.range n).flatMap events ++ last, some result) := by
  obtain ⟨more, rfl⟩ := Nat.exists_eq_add_of_lt hfuel
  rw [Nat.add_assoc, turns_along h, turns, hlast]

/-- While the turns go on there is no result. -/
theorem turns_goesOn {fuel : Nat} (h : ∀ j < fuel, GoesOn turn state events j) :
    turns turn fuel 0 (state 0) = ((List.range fuel).flatMap events, none) := by
  have hall := turns_along h 0
  rw [turns, List.append_nil] at hall
  exact hall

/-- More fuel only adds events. -/
theorem turns_mono (fuel more n : Nat) (s : σ) : (turns turn fuel n s).1 <+: (turns turn (fuel + more) n s).1 := by
  induction fuel generalizing n s with
  | zero => exact List.nil_prefix
  | succ fuel ih =>
    rw [Nat.succ_add, turns, turns]
    split
    · exact List.prefix_refl _
    · exact (List.prefix_append_right_inj _).mpr (ih _ _)

/-- Where the turns go on, or end within their events, the loop writes the events in order. -/
theorem turns_prefix
    (h : ∀ n, GoesOn turn state events n ∨ ∃ last result, turn n (state n) = (last, .ends result) ∧ last <+: events n)
    (fuel n : Nat) : (turns turn fuel n (state n)).1 <+: (List.range' n fuel).flatMap events := by
  induction fuel generalizing n with
  | zero => exact List.nil_prefix
  | succ fuel ih =>
    rw [turns, List.range'_succ, List.flatMap_cons]
    rcases h n with hgoes | ⟨last, result, hends, hlast⟩
    · rw [hgoes]
      exact (List.prefix_append_right_inj _).mpr (ih (n + 1))
    · rw [hends]
      exact hlast.trans (List.prefix_append _ _)

end
end GalaxiaAin.Library
