import Mathlib.Data.List.Perm.Subperm
import Mathlib.Data.List.Sort
import Mathlib.Tactic.Common

/-! The best of a list by a key. Equal keys keep the order of the list, so an element is left
out exactly when enough others outrank it. -/
namespace GalaxiaAin.Library

variable {α κ : Type} [LinearOrder κ] {key : α → κ} {l : List α}

/-- The greatest keys come first; equal keys stay in order. -/
def ranked (key : α → κ) (l : List α) : List α := l.mergeSort fun a b => decide (key b ≤ key a)

/-- The first `n` of the ranking. -/
def best (n : Nat) (key : α → κ) (l : List α) : List α := (ranked key l).take n

/-- `a` is ranked before `b`. -/
def Outranks (key : α → κ) (l : List α) (a b : α) : Prop := key b < key a ∨ (key a = key b ∧ [a, b].Sublist l)

private theorem order_trans (a b c : α) (h : decide (key b ≤ key a) = true) (h' : decide (key c ≤ key b) = true) :
    decide (key c ≤ key a) = true := decide_eq_true ((of_decide_eq_true h').trans (of_decide_eq_true h))

private theorem order_total (a b : α) : (decide (key b ≤ key a) || decide (key a ≤ key b)) = true := by
  rcases le_total (key b) (key a) with h | h <;> simp [h]

theorem ranked_perm (key : α → κ) (l : List α) : (ranked key l).Perm l := List.mergeSort_perm l _

theorem ranked_pairwise (key : α → κ) (l : List α) : (ranked key l).Pairwise fun a b => key b ≤ key a :=
  (List.pairwise_mergeSort order_trans order_total l).imp of_decide_eq_true

theorem best_length (n : Nat) (key : α → κ) (l : List α) : (best n key l).length = min n l.length := by
  rw [best, List.length_take, (ranked_perm key l).length_eq]

theorem best_subset (n : Nat) (key : α → κ) (l : List α) : ∀ a ∈ best n key l, a ∈ l :=
  fun _ h => (ranked_perm key l).mem_iff.mp (List.mem_of_mem_take h)

/-- Nothing left out has a greater key. -/
theorem best_optimal {n : Nat} {a b : α} (ha : a ∈ best n key l) (hb : b ∈ l) (hout : b ∉ best n key l) : key b ≤ key a := by
  have hsorted := ranked_pairwise key l
  rw [← List.take_append_drop n (ranked key l), List.pairwise_append] at hsorted
  have hrest : b ∈ (ranked key l).take n ++ (ranked key l).drop n := by
    rw [List.take_append_drop]
    exact (ranked_perm key l).mem_iff.mpr hb
  exact hsorted.2.2 a ha b ((List.mem_append.mp hrest).resolve_left hout)

/-- Of two elements one stands before the other. -/
theorem pair_sublist_or {a b : α} (ha : a ∈ l) (hb : b ∈ l) (hne : a ≠ b) : [a, b].Sublist l ∨ [b, a].Sublist l := by
  obtain ⟨l₁, l₂, rfl⟩ := List.append_of_mem ha
  rcases List.mem_append.mp hb with hb | hb
  · exact .inr ((List.singleton_sublist.mpr hb).append (List.singleton_sublist.mpr List.mem_cons_self))
  · have hb := (List.mem_cons.mp hb).resolve_left hne.symm
    exact .inl (((List.singleton_sublist.mpr hb).cons_cons a).trans (List.sublist_append_right _ _))

/-- In a list without duplicates not both do. -/
theorem not_pair_sublist_both {a b : α} (hl : l.Nodup) (h : [a, b].Sublist l) (h' : [b, a].Sublist l) : False := by
  induction l with
  | nil => cases h
  | cons x l ih =>
    obtain ⟨hx, hl⟩ := List.nodup_cons.mp hl
    cases h with
    | cons _ h =>
      cases h' with
      | cons _ h' => exact ih hl h h'
      | cons_cons _ _ => exact hx (h.subset (by simp))
    | cons_cons _ hb =>
      cases h' with
      | cons _ h' => exact hx (h'.subset (by simp))
      | cons_cons _ _ => exact hx (hb.subset List.mem_cons_self)

section Nodup
variable (hl : l.Nodup)
include hl

theorem ranked_nodup : (ranked key l).Nodup := (ranked_perm key l).nodup_iff.mpr hl

/-- The ranking puts one before the other exactly when it outranks it. -/
theorem pair_sublist_ranked {a b : α} (ha : a ∈ l) (hb : b ∈ l) (hne : a ≠ b) :
    [a, b].Sublist (ranked key l) ↔ Outranks key l a b := by
  have hbefore {x y : α} (h : [x, y].Sublist (ranked key l)) : key y ≤ key x := by
    simpa using (ranked_pairwise key l).sublist h
  have hstable {x y : α} (hxy : key y ≤ key x) (h : [x, y].Sublist l) : [x, y].Sublist (ranked key l) :=
    List.pair_sublist_mergeSort order_trans order_total (decide_eq_true hxy) h
  constructor
  · intro h
    rcases (hbefore h).lt_or_eq with hlt | heq
    · exact .inl hlt
    · refine .inr ⟨heq.symm, (pair_sublist_or ha hb hne).resolve_right fun h' => ?_⟩
      exact not_pair_sublist_both (ranked_nodup hl) h (hstable heq.ge h')
  · rintro (hlt | ⟨heq, h⟩)
    · have hmem {x : α} (hx : x ∈ l) : x ∈ ranked key l := (ranked_perm key l).mem_iff.mpr hx
      exact (pair_sublist_or (hmem ha) (hmem hb) hne).resolve_right fun h' => absurd (hbefore h') (not_le.mpr hlt)
    · exact hstable heq.ge h

/-- An element is left out exactly when `n` others outrank it. -/
theorem not_mem_best {n : Nat} {b : α} (hb : b ∈ l) : b ∉ best n key l ↔
    ∃ others : List α, others.Nodup ∧ others.length = n ∧ ∀ a ∈ others, a ∈ l ∧ a ≠ b ∧ Outranks key l a b := by
  obtain ⟨before, after, hsplit⟩ := List.append_of_mem ((ranked_perm key l).mem_iff.mpr hb)
  have hnodup : (before ++ b :: after).Nodup := hsplit ▸ ranked_nodup hl
  have hfresh : b ∉ before := fun h => (List.nodup_append.mp hnodup).2.2 b h b List.mem_cons_self rfl
  have hranked {a : α} (ha : a ∈ l) (hne : a ≠ b) : a ∈ before ↔ Outranks key l a b := by
    rw [← pair_sublist_ranked hl ha hb hne, hsplit]
    constructor
    · exact fun h => (List.singleton_sublist.mpr h).append (List.singleton_sublist.mpr List.mem_cons_self)
    · intro h
      by_contra hnot
      have hafter : a ∈ after := by
        have hmem : a ∈ before ++ b :: after := h.subset List.mem_cons_self
        simpa [hnot, hne] using hmem
      have hback : [b, a].Sublist (before ++ b :: after) :=
        ((List.singleton_sublist.mpr hafter).cons_cons b).trans (List.sublist_append_right _ _)
      exact not_pair_sublist_both hnodup h hback
  have hcount : b ∉ best n key l ↔ n ≤ before.length := by
    rw [best, hsplit, List.take_append]
    constructor
    · intro h
      by_contra hlt
      obtain ⟨k, hk⟩ : ∃ k, n - before.length = k + 1 := ⟨n - before.length - 1, by omega⟩
      exact h (List.mem_append.mpr (.inr (by rw [hk]; exact List.mem_cons_self)))
    · intro h hmem
      rw [Nat.sub_eq_zero_of_le h, List.take_zero, List.append_nil] at hmem
      exact hfresh (List.mem_of_mem_take hmem)
  rw [hcount]
  constructor
  · intro h
    refine ⟨before.take n, (List.nodup_append.mp hnodup).1.sublist (List.take_sublist _ _), by simpa using h, fun a ha => ?_⟩
    have hin := List.mem_of_mem_take ha
    have hne : a ≠ b := fun he => hfresh (he ▸ hin)
    have hal : a ∈ l := (ranked_perm key l).mem_iff.mp (hsplit ▸ List.mem_append.mpr (.inl hin))
    exact ⟨hal, hne, (hranked hal hne).mp hin⟩
  · rintro ⟨others, hothers, rfl, h⟩
    have hsubset : others ⊆ before := fun a ha => (hranked (h a ha).1 (h a ha).2.1).mpr (h a ha).2.2
    exact (List.subperm_of_subset hothers hsubset).length_le

end Nodup

end GalaxiaAin.Library
