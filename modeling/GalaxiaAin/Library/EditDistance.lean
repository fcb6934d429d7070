import Mathlib.Data.List.Basic
import Mathlib.Order.Bounds.Basic
import Mathlib.Order.MinMax

/-! The edit distance of two lists by its recurrence over their last elements, the rows of
the matrix that computes it, and its optimality: no shorter sequence of single edits leads
from one list to the other. The lists are read from their ends. -/
namespace GalaxiaAin.Library

variable {α : Type} [DecidableEq α]

/-- The edit distance of two lists; equal elements cost nothing. -/
def editDistance : List α → List α → Nat
  | [], ys => ys.length
  | x :: xs, [] => (x :: xs).length
  | x :: xs, y :: ys =>
    if x = y then editDistance xs ys
    else min (editDistance xs ys + 1) (min (editDistance (x :: xs) ys + 1) (editDistance xs (y :: ys) + 1))
termination_by xs ys => xs.length + ys.length

namespace EditDistance

@[simp] theorem nil_left (ys : List α) : editDistance [] ys = ys.length := by rw [editDistance]

@[simp] theorem nil_right (xs : List α) : editDistance xs [] = xs.length := by
  cases xs with
  | nil => exact nil_left []
  | cons x xs => rw [editDistance]

theorem cons_cons (x y : α) (xs ys : List α) : editDistance (x :: xs) (y :: ys) = if x = y then editDistance xs ys
    else min (editDistance xs ys + 1) (min (editDistance (x :: xs) ys + 1) (editDistance xs (y :: ys) + 1)) := by
  rw [editDistance]

@[simp] theorem self (xs : List α) : editDistance xs xs = 0 := by
  induction xs with
  | nil => rw [nil_left]; rfl
  | cons x xs ih => rw [cons_cons, if_pos rfl, ih]

theorem comm (xs ys : List α) : editDistance xs ys = editDistance ys xs := by
  induction xs generalizing ys with
  | nil => rw [nil_left, nil_right]
  | cons x xs ihx =>
    induction ys with
    | nil => rw [nil_left, nil_right]
    | cons y ys ihy =>
      rw [cons_cons, cons_cons, ihx ys, ihx (y :: ys), ihy]
      by_cases h : x = y
      · rw [if_pos h, if_pos h.symm]
      · rw [if_neg h, if_neg (Ne.symm h), min_comm (editDistance ys (x :: xs) + 1)]

/-- A row of the matrix after its corner: the distances of a list to the longer and longer
lists that more elements make of another. -/
def row (xs : List α) : List α → List α → List Nat
  | _, [] => []
  | ys, y :: rest => editDistance xs (y :: ys) :: row xs (y :: ys) rest

/-- The first row counts. -/
theorem row_nil (ys rest : List α) : row [] ys rest = (List.range rest.length).map fun i => ys.length + 1 + i := by
  induction rest generalizing ys with
  | nil => rfl
  | cons y rest ih =>
    rw [row, ih, nil_left, List.length_cons, List.length_cons, List.range_succ_eq_map, List.map_cons, List.map_map]
    refine congrArg₂ _ rfl (List.map_congr_left fun i _ => ?_)
    simp only [Function.comp]
    omega

/-- The last entry of a row. -/
theorem getLastD_row (xs ys rest : List α) (d : Nat) :
    (editDistance xs ys :: row xs ys rest).getLastD d = editDistance xs (rest.reverse ++ ys) := by
  induction rest generalizing ys d with
  | nil => rfl
  | cons y rest ih =>
    rw [row, List.getLastD_cons, ih, List.reverse_cons, List.append_assoc]
    rfl

end EditDistance

/-! ### Edits -/

/-- One element is inserted, deleted or substituted. -/
inductive Edit {β : Type} : List β → List β → Prop
  | insert (x : β) (front back : List β) : Edit (front ++ back) (front ++ x :: back)
  | delete (x : β) (front back : List β) : Edit (front ++ x :: back) (front ++ back)
  | substitute (x y : β) (front back : List β) : Edit (front ++ x :: back) (front ++ y :: back)

/-- A number of edits, one after another. -/
inductive Edits {β : Type} : Nat → List β → List β → Prop
  | refl (xs : List β) : Edits 0 xs xs
  | step {n : Nat} {xs ys zs : List β} (h : Edit xs ys) (rest : Edits n ys zs) : Edits (n + 1) xs zs

namespace Edit

theorem cons {β : Type} {xs ys : List β} (h : Edit xs ys) (x : β) : Edit (x :: xs) (x :: ys) := by
  cases h with
  | insert y front back => exact .insert y (x :: front) back
  | delete y front back => exact .delete y (x :: front) back
  | substitute y z front back => exact .substitute y z (x :: front) back

theorem reverse {β : Type} {xs ys : List β} (h : Edit xs ys) : Edit xs.reverse ys.reverse := by
  cases h with
  | insert x front back =>
    simp only [List.reverse_append, List.reverse_cons, List.append_assoc, List.singleton_append]
    exact .insert x back.reverse front.reverse
  | delete x front back =>
    simp only [List.reverse_append, List.reverse_cons, List.append_assoc, List.singleton_append]
    exact .delete x back.reverse front.reverse
  | substitute x y front back =>
    simp only [List.reverse_append, List.reverse_cons, List.append_assoc, List.singleton_append]
    exact .substitute x y back.reverse front.reverse

end Edit

namespace Edits

theorem cons {β : Type} {n : Nat} {xs ys : List β} (h : Edits n xs ys) (x : β) : Edits n (x :: xs) (x :: ys) := by
  induction h with
  | refl xs => exact .refl _
  | step h _ ih => exact .step (h.cons x) ih

theorem reverse {β : Type} {n : Nat} {xs ys : List β} (h : Edits n xs ys) : Edits n xs.reverse ys.reverse := by
  induction h with
  | refl xs => exact .refl _
  | step h _ ih => exact .step h.reverse ih

theorem reverse_iff {β : Type} {n : Nat} {xs ys : List β} : Edits n xs.reverse ys.reverse ↔ Edits n xs ys :=
  ⟨fun h => by simpa using h.reverse, reverse⟩

/-- Every element of a list is inserted. -/
theorem inserted {β : Type} (xs : List β) : Edits xs.length [] xs := by
  induction xs with
  | nil => exact .refl []
  | cons x xs ih => exact .step (.insert x [] []) (ih.cons x)

/-- Every element of a list is deleted. -/
theorem deleted {β : Type} (xs : List β) : Edits xs.length xs [] := by
  induction xs with
  | nil => exact .refl []
  | cons x xs ih => exact .step (.delete x [] xs) ih

end Edits

namespace EditDistance

/-- The distance is reached. -/
theorem edits (xs ys : List α) : Edits (editDistance xs ys) xs ys := by
  induction xs, ys using editDistance.induct with
  | case1 ys => rw [nil_left]; exact .inserted ys
  | case2 x xs => rw [nil_right]; exact .deleted (x :: xs)
  | case3 xs x ys ih => rw [cons_cons, if_pos rfl]; exact ih.cons x
  | case4 x xs y ys hne hsubstitute hinsert hdelete =>
    rw [cons_cons, if_neg hne]
    rcases min_choice (editDistance xs ys + 1) (min (editDistance (x :: xs) ys + 1) (editDistance xs (y :: ys) + 1)) with h | h
    · rw [h]
      exact .step (.substitute x y [] xs) (hsubstitute.cons y)
    · rw [h]
      rcases min_choice (editDistance (x :: xs) ys + 1) (editDistance xs (y :: ys) + 1) with h | h
      · rw [h]
        exact .step (.insert y [] (x :: xs)) (hinsert.cons y)
      · rw [h]
        exact .step (.delete x [] xs) hdelete

/-- One more element costs at most one edit, on the left and on the right: where it meets an
equal one, the move that takes both is at least as good as the two that take one. -/
theorem cons_le (xs ys : List α) :
    (∀ x, editDistance (x :: xs) ys ≤ editDistance xs ys + 1) ∧ ∀ y, editDistance xs ys ≤ editDistance xs (y :: ys) + 1 := by
  induction xs generalizing ys with
  | nil =>
    refine ⟨fun x => ?_, fun y => ?_⟩
    · cases ys with
      | nil => simp
      | cons y ys =>
        rw [cons_cons, nil_left, nil_left]
        split
        · simp only [List.length_cons]; omega
        · simp only [List.length_cons]; omega
    · simp only [nil_left, List.length_cons]; omega
  | cons x' xs ihx =>
    induction ys with
    | nil =>
      refine ⟨fun x => by simp, fun y => ?_⟩
      have hright := (ihx []).2 y
      rw [cons_cons]
      simp only [nil_right, List.length_cons] at hright ⊢
      split <;> omega
    | cons y' ys ihy =>
      refine ⟨fun x => ?_, fun y => ?_⟩
      · rw [cons_cons]
        split
        · exact ihy.2 y'
        · omega
      · have hleft := (ihx (y' :: ys)).1 x'
        have hright := (ihx (y' :: ys)).2 y
        rw [cons_cons x' y xs (y' :: ys)]
        split
        · exact hleft
        · omega

theorem cons_left_le (x : α) (xs ys : List α) : editDistance (x :: xs) ys ≤ editDistance xs ys + 1 := (cons_le xs ys).1 x

theorem le_cons_left (x : α) (xs ys : List α) : editDistance xs ys ≤ editDistance (x :: xs) ys + 1 := by
  rw [comm xs, comm (x :: xs)]
  exact (cons_le ys xs).2 x

/-- Equal elements cost nothing, so a substitution is never dearer than one edit. -/
theorem cons_cons_le (x y : α) (xs ys : List α) : editDistance (x :: xs) (y :: ys) ≤ editDistance xs ys + 1 := by
  rw [cons_cons]
  split <;> omega

/-- The three moves of the last elements, whether or not these are equal. -/
theorem cons_cons_moves (x y : α) (xs ys : List α) :
    editDistance (x :: xs) (y :: ys) ≤ editDistance (x :: xs) ys + 1 ∧
      editDistance (x :: xs) (y :: ys) ≤ editDistance xs (y :: ys) + 1 := by
  refine ⟨?_, cons_left_le x xs (y :: ys)⟩
  rw [comm, comm (x :: xs) ys]
  exact cons_left_le y ys (x :: xs)

theorem substitute_le (x y : α) (xs zs : List α) : editDistance (x :: xs) zs ≤ editDistance (y :: xs) zs + 1 := by
  induction zs with
  | nil => simp
  | cons z zs ih =>
    have hboth := cons_cons_le x z xs zs
    have hmoves := cons_cons_moves x z xs zs
    rw [cons_cons y z]
    split <;> omega

/-- An element in front keeps two lists one edit apart. -/
theorem cons_mono {xs ys : List α} (h : ∀ zs, editDistance xs zs ≤ editDistance ys zs + 1) (x : α) (zs : List α) :
    editDistance (x :: xs) zs ≤ editDistance (x :: ys) zs + 1 := by
  induction zs with
  | nil => simpa using h []
  | cons z zs ih =>
    have hboth := h zs
    have hone := h (z :: zs)
    rw [cons_cons, cons_cons]
    split <;> omega

/-- An edit changes the distance to any list by one at most. -/
theorem edit_le {xs ys : List α} (h : Edit xs ys) (zs : List α) : editDistance xs zs ≤ editDistance ys zs + 1 := by
  cases h with
  | insert x front back =>
    induction front generalizing zs with
    | nil => exact le_cons_left x back zs
    | cons y front ih => exact cons_mono ih y zs
  | delete x front back =>
    induction front generalizing zs with
    | nil => exact cons_left_le x back zs
    | cons y front ih => exact cons_mono ih y zs
  | substitute x y front back =>
    induction front generalizing zs with
    | nil => exact substitute_le x y back zs
    | cons z front ih => exact cons_mono ih z zs

theorem le_edits {n : Nat} {xs ys : List α} (h : Edits n xs ys) : editDistance xs ys ≤ n := by
  induction h with
  | refl xs => rw [self]
  | @step n xs ys zs h _ ih =>
    have hle := edit_le h zs
    omega

/-- The distance is the least number of edits. -/
theorem isLeast (xs ys : List α) : IsLeast {n | Edits n xs ys} (editDistance xs ys) :=
  ⟨edits xs ys, fun _ h => le_edits h⟩

theorem eq_zero_iff (xs ys : List α) : editDistance xs ys = 0 ↔ xs = ys := by
  refine ⟨fun h => ?_, fun h => by rw [h, self]⟩
  have hzero := edits xs ys
  rw [h] at hzero
  cases hzero
  rfl

theorem le_max_length (xs ys : List α) : editDistance xs ys ≤ max xs.length ys.length := by
  induction xs, ys using editDistance.induct with
  | case1 ys => simp
  | case2 x xs => simp
  | case3 xs x ys ih =>
    rw [cons_cons, if_pos rfl]
    simp only [List.length_cons]
    omega
  | case4 x xs y ys hne ih _ _ =>
    have hboth := cons_cons_le x y xs ys
    simp only [List.length_cons]
    omega

end EditDistance
end GalaxiaAin.Library
