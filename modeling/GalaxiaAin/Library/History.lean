import GalaxiaAin.Library.Frame

/-! Runs with a history variable: a value that records, step by step, what the
configuration forgets. Guards and invariants may speak of it; the handlers do not. -/
namespace GalaxiaAin.Library

variable {B : Backend} {α γ : Type} {ι : Type}

namespace Config

/-- The place of the call handler `i` waits for. -/
def site (cfg : Config B ι α) (i : ι) : Option B.Site :=
  match cfg.thread i with
  | ⟨.call σ _ _, _⟩ => some σ
  | _ => none

theorem site_call {ρ : Type} {cfg : Config B ι α} {i : ι} {σ : B.Site} {c : Call B ρ}
    {k : Except B.Error ρ → Async B α} {l : Local B} (h : cfg.thread i = ⟨.call σ c k, l⟩) :
    cfg.site i = some σ := by
  unfold site
  rw [h]

/-- A step that one policy allows is allowed by another that says no more at its site. -/
theorem Enabled.weaken {policy policy' : Policy B} {cfg : Config B ι α} {i : ι} {a : Answer B}
    (h : cfg.Enabled policy i a)
    (hp : ∀ σ, cfg.site i = some σ → ∀ ok, policy σ cfg.store a ok → policy' σ cfg.store a ok) :
    cfg.Enabled policy' i a := by
  obtain ⟨ρ, σ, c, k, l, hi, hpol, hfree⟩ := h.cases
  refine (enabled_call hi a).mpr ⟨?_, hfree⟩
  exact hp σ (site_call hi) _ hpol

variable [DecidableEq ι]

/-- A step keeps its own handler safe, whatever the others are. -/
theorem safe_fire {policy : Policy B} {P : Protocol B} {Q : Post B α} (hrefl : ∀ l s, P.rely l s s)
    {cfg : Config B ι α} {i : ι} {a : Answer B} (he : cfg.Enabled policy i a)
    (h : (cfg.thread i).prog.safe policy P Q cfg.store (cfg.thread i).loc) :
    ((cfg.fire i a).thread i).prog.safe policy P Q (cfg.fire i a).store ((cfg.fire i a).thread i).loc := by
  obtain ⟨ρ, σ, c, k, l, hi, hpol, -⟩ := he.cases
  rw [hi] at h
  obtain ⟨-, hk⟩ := (h cfg.store (hrefl _ _)).2 a hpol
  rw [fire_call hi a]
  simp only [Function.update_self]
  exact Async.safe_settle hk

/-- The value of a history variable after a script. -/
def history (note : γ → Config B ι α → ι → Answer B → γ) : γ → Config B ι α → List (ι × Answer B) → γ
  | g, _, [] => g
  | g, cfg, (i, a) :: rest => history note (note g cfg i a) (cfg.fire i a) rest

/-- Every step of the script meets a guard that may look at the history. -/
def AlongWith (note : γ → Config B ι α → ι → Answer B → γ) (guard : γ → Config B ι α → ι → Answer B → Prop) :
    γ → Config B ι α → List (ι × Answer B) → Prop
  | _, _, [] => True
  | g, cfg, (i, a) :: rest => guard g cfg i a ∧ AlongWith note guard (note g cfg i a) (cfg.fire i a) rest

instance decidableAlongWith {note : γ → Config B ι α → ι → Answer B → γ}
    {guard : γ → Config B ι α → ι → Answer B → Prop} [∀ g cfg i a, Decidable (guard g cfg i a)] :
    (g : γ) → (cfg : Config B ι α) → (script : List (ι × Answer B)) → Decidable (AlongWith note guard g cfg script)
  | _, _, [] => isTrue trivial
  | g, cfg, (i, a) :: rest =>
    have : Decidable (AlongWith note guard (note g cfg i a) (cfg.fire i a) rest) :=
      decidableAlongWith (note g cfg i a) (cfg.fire i a) rest
    inferInstanceAs (Decidable (guard g cfg i a ∧ AlongWith note guard (note g cfg i a) (cfg.fire i a) rest))

/-- An invariant of the history and the configuration holds along a guarded run. -/
theorem AlongWith.invariant {policy : Policy B} {note : γ → Config B ι α → ι → Answer B → γ}
    {guard : γ → Config B ι α → ι → Answer B → Prop} {Inv : γ → Config B ι α → Prop}
    (hstep : ∀ g cfg i a, Inv g cfg → cfg.Enabled policy i a → guard g cfg i a → Inv (note g cfg i a) (cfg.fire i a))
    {g : γ} {cfg : Config B ι α} (script : List (ι × Answer B)) (h : Inv g cfg) (hr : cfg.Runs policy script)
    (hg : AlongWith note guard g cfg script) : Inv (history note g cfg script) (cfg.after script) := by
  induction script generalizing g cfg with
  | nil => exact h
  | cons step rest ih => exact ih (hstep g cfg step.1 step.2 h hr.1 hg.1) hr.2 hg.2

/-- Where each step keeps the store good exactly when it meets the guard, all stores of a run
are good exactly when all its steps meet the guard. -/
theorem AlongWith.iff_good {policy : Policy B} {note : γ → Config B ι α → ι → Answer B → γ}
    {guard : γ → Config B ι α → ι → Answer B → Prop} {Inv : γ → Config B ι α → Prop} {Good : B.Store → Prop}
    (hstep : ∀ g cfg i a, Inv g cfg → cfg.Enabled policy i a → Inv (note g cfg i a) (cfg.fire i a))
    (hgood : ∀ g cfg i a, Inv g cfg → Good cfg.store → cfg.Enabled policy i a →
      (Good (cfg.fire i a).store ↔ guard g cfg i a))
    {g : γ} {cfg : Config B ι α} (script : List (ι × Answer B)) (h : Inv g cfg) (hg : Good cfg.store)
    (hr : cfg.Runs policy script) :
    (∀ pre post, script = pre ++ post → Good (cfg.after pre).store) ↔ AlongWith note guard g cfg script := by
  induction script generalizing g cfg with
  | nil =>
    refine ⟨fun _ => trivial, fun _ pre post hpre => ?_⟩
    rw [(List.append_eq_nil_iff.mp hpre.symm).1]
    exact hg
  | cons step rest ih =>
    have hfirst := hgood g cfg step.1 step.2 h hg hr.1
    have hinv := hstep g cfg step.1 step.2 h hr.1
    constructor
    · intro hall
      have hnext := hall [step] rest rfl
      refine ⟨hfirst.mp hnext, (ih hinv hnext hr.2).mp fun pre post hpre => ?_⟩
      exact hall (step :: pre) post (by rw [hpre, List.cons_append])
    · rintro ⟨hguard, hrest⟩ pre post hpre
      cases pre with
      | nil => exact hg
      | cons first pre =>
        obtain ⟨rfl, htail⟩ := List.cons.inj hpre
        exact (ih hinv (hfirst.mpr hguard) hr.2).mpr hrest pre post htail

end Config
end GalaxiaAin.Library
