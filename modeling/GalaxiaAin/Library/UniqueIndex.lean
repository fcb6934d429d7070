import GalaxiaAin.Library.Frame

/-! Unique indexes. An entry of the index is permanent, and whoever makes one holds the
lock of its key and found it free; so among handlers that keep to this a key is entered
at most once. -/
namespace GalaxiaAin.Library

variable {B : Backend} {α β κ : Type} {ι : Type}

/-- The entries of a key stay, and a free key may be entered once. -/
def Entered (a b : List β) : Prop := b = a ∨ (a = [] ∧ b.length = 1)

namespace Entered

theorem refl (a : List β) : Entered a a := .inl rfl

theorem trans {a b c : List β} (h : Entered a b) (h' : Entered b c) : Entered a c := by
  rcases h with rfl | ⟨rfl, hb⟩
  · exact h'
  · rcases h' with rfl | ⟨rfl, -⟩
    · exact .inr ⟨rfl, hb⟩
    · exact absurd hb (by simp)

/-- A key that is entered keeps its entries. -/
theorem kept {a b : List β} (h : Entered a b) (ha : a ≠ []) : b = a := h.resolve_right fun h => ha h.1

theorem length {a b : List β} (h : Entered a b) (ha : a.length ≤ 1) : b.length ≤ 1 := by
  rcases h with rfl | ⟨-, hb⟩
  · exact ha
  · exact hb.le

end Entered

variable (entries : κ → B.Store → List β) (lock : κ → B.Lock)

/-- Others enter keys whose lock is free; a handler enters a free key whose lock it holds. -/
def indexProtocol : Protocol B where
  rely l s t := ∀ key, Entered (entries key s) (entries key t) ∧ (lock key ∈ l.locks → entries key t = entries key s)
  guar l s t := ∀ key, entries key t = entries key s ∨
    (lock key ∈ l.locks ∧ entries key s = [] ∧ (entries key t).length = 1)
  inv _ _ := True

variable {entries lock}

theorem indexProtocol_compatible : Compatible fun _ : ι => indexProtocol entries lock where
  refl _ _ _ _ := ⟨.refl _, fun _ => rfl⟩
  trans _ _ _ _ _ h h' key := ⟨(h key).1.trans (h' key).1, fun hl => ((h' key).2 hl).trans ((h key).2 hl)⟩
  fits _ _ _ _ _ _ _ hd hg key := by
    rcases hg key with h | ⟨hl, he, hlen⟩
    · exact ⟨.inl h, fun _ => h⟩
    · exact ⟨.inr ⟨he, hlen⟩, fun hm => absurd hm (hd hl)⟩

variable [DecidableEq ι] {policy : Policy B} {P : ι → Protocol B} {Q : ι → Post B α}

/-- Along a run of handlers that keep to it every key keeps its entries, or is entered once. -/
theorem indexed_after (entries : κ → B.Store → List β) (lock : κ → B.Lock) (hP : Compatible P) (hQ : ∀ i, Async.Stable (P i) (Q i))
    (hguar : ∀ i l s t, (P i).guar l s t → (indexProtocol entries lock).guar l s t) {cfg : Config B ι α}
    (h : cfg.Protected policy P Q) {script : List (ι × Answer B)} (hr : cfg.Runs policy script) :
    (∀ key, Entered (entries key cfg.store) (entries key (cfg.after script).store)) ∧ (cfg.after script).Protected policy P Q := by
  have hstep (c : Config B ι α) (i : ι) (a : Answer B)
      (hc : (∀ key, Entered (entries key cfg.store) (entries key c.store)) ∧ c.Protected policy P Q)
      (he : c.Enabled policy i a) :
      (∀ key, Entered (entries key cfg.store) (entries key (c.fire i a).store)) ∧ (c.fire i a).Protected policy P Q := by
    refine ⟨fun key => (hc.1 key).trans ?_, hc.2.fire hP hQ he⟩
    rcases hguar i _ _ _ (hc.2.guar hP.refl he) key with hsame | ⟨-, hfree, hone⟩
    · exact .inl hsame
    · exact .inr ⟨hfree, hone⟩
  exact hr.invariant hstep script ⟨fun _ => .refl _, h⟩

end GalaxiaAin.Library
