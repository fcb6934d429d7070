import Mathlib.Data.List.Basic

/-! Words of a list: the runs of elements that are kept, with the others between them. A list
whose other runs are each replaced by one separator is its words with the separator between
them, but for a separator at either end. -/
namespace GalaxiaAin.Library

variable {α : Type} (keep : α → Bool) (sep : α)

/-- The longest runs of kept elements. -/
def words : List α → List (List α)
  | [] => []
  | c :: rest =>
    if keep c then
      match rest with
      | [] => [[c]]
      | d :: _ =>
        if keep d then
          match words rest with
          | [] => [[c]]
          | word :: more => (c :: word) :: more
        else [c] :: words rest
    else words rest

/-- Each run of other elements becomes one separator; within a run nothing more is written. -/
def squeeze : Bool → List α → List α
  | _, [] => []
  | inRun, c :: rest =>
    if keep c then c :: squeeze false rest
    else if inRun then squeeze true rest
    else sep :: squeeze true rest

variable {keep sep}

theorem squeeze_eq_nil {l : List α} : squeeze keep sep true l = [] ↔ words keep l = [] := by
  induction l with
  | nil => exact ⟨fun _ => rfl, fun _ => rfl⟩
  | cons c rest ih =>
    cases hc : keep c with
    | false => simpa [squeeze, words, hc] using ih
    | true =>
      have hnone : words keep (c :: rest) ≠ [] := by
        simp only [words, hc, if_true]
        split
        · exact List.cons_ne_nil _ _
        · split
          · split <;> exact List.cons_ne_nil _ _
          · exact List.cons_ne_nil _ _
      simp only [squeeze, hc, if_true, hnone, iff_false]
      exact List.cons_ne_nil _ _

/-- The first run is told apart from the others. -/
theorem squeeze_false (l : List α) : squeeze keep sep false l =
    if l.head?.all keep then squeeze keep sep true l else sep :: squeeze keep sep true l := by
  cases l with
  | nil => rfl
  | cons c rest => cases hc : keep c <;> simp [squeeze, hc]

/-- Within a run what is written next is kept. -/
theorem head_squeeze (keep : α → Bool) (sep : α) (l : List α) : (squeeze keep sep true l).head?.all keep = true := by
  induction l with
  | nil => rfl
  | cons c rest ih =>
    cases hc : keep c with
    | true => simp [squeeze, hc]
    | false => simpa [squeeze, hc] using ih

theorem squeeze_length_le (keep : α → Bool) (sep : α) (inRun : Bool) (l : List α) : (squeeze keep sep inRun l).length ≤ l.length := by
  induction l generalizing inRun with
  | nil => exact Nat.le_refl _
  | cons c rest ih =>
    have hfalse := ih false
    have htrue := ih true
    rw [squeeze]
    split
    · simpa using hfalse
    · split
      · exact Nat.le_trans htrue (Nat.le_succ _)
      · simpa using htrue

/-- What is written is kept, or a separator. -/
theorem mem_squeeze {inRun : Bool} {l : List α} {c : α} (h : c ∈ squeeze keep sep inRun l) : keep c = true ∨ c = sep := by
  induction l generalizing inRun with
  | nil => cases h
  | cons d rest ih =>
    rw [squeeze] at h
    split at h
    · rename_i hd
      rcases List.mem_cons.mp h with rfl | h
      · exact .inl hd
      · exact ih h
    · split at h
      · exact ih h
      · rcases List.mem_cons.mp h with rfl | h
        · exact .inr rfl
        · exact ih h

theorem squeeze_squeeze (hsep : keep sep = false) (inRun : Bool) (l : List α) :
    squeeze keep sep inRun (squeeze keep sep inRun l) = squeeze keep sep inRun l := by
  induction l generalizing inRun with
  | nil => rfl
  | cons c rest ih =>
    cases hc : keep c with
    | true => simp [squeeze, hc, ih]
    | false => cases inRun <;> simp [squeeze, hc, hsep, ih]

/-- What is squeezed already is so up to any place. -/
theorem squeeze_take {inRun : Bool} {l : List α} (h : squeeze keep sep inRun l = l) (n : Nat) :
    squeeze keep sep inRun (l.take n) = l.take n := by
  induction l generalizing inRun n with
  | nil => simp [squeeze]
  | cons c rest ih =>
    cases n with
    | zero => rfl
    | succ n =>
      rw [List.take_succ_cons]
      rw [squeeze] at h ⊢
      split at h
      · rename_i hc
        rw [if_pos hc, ih (List.cons.inj h).2]
      · rename_i hc
        rw [if_neg hc]
        split at h
        · have hlength := squeeze_length_le keep sep true rest
          rw [h, List.length_cons] at hlength
          omega
        · rename_i hrun
          obtain ⟨hhead, htail⟩ := List.cons.inj h
          rw [if_neg hrun, ih htail, hhead]

variable [DecidableEq α]

/-- Without one separator in front. -/
def dropFront (sep : α) (l : List α) : List α := if l.head? = some sep then l.tail else l

/-- Without one separator at the end. -/
def dropEnd (sep : α) (l : List α) : List α := if l.getLast? = some sep then l.dropLast else l


theorem dropEnd_cons {c : α} {l : List α} (hl : l ≠ []) : dropEnd sep (c :: l) = c :: dropEnd sep l := by
  obtain ⟨d, rest, rfl⟩ := List.exists_cons_of_ne_nil hl
  unfold dropEnd
  rw [List.getLast?_cons_cons]
  split
  · rfl
  · rfl

theorem dropEnd_squeeze (hsep : keep sep = false) (l : List α) :
    dropEnd sep (squeeze keep sep true l) = [sep].intercalate (words keep l) := by
  induction l with
  | nil => rfl
  | cons c rest ih =>
    cases hc : keep c with
    | false => simpa [squeeze, words, hc] using ih
    | true =>
      have hne : c ≠ sep := fun h => by rw [h, hsep] at hc; cases hc
      have hsqueeze : squeeze keep sep true (c :: rest) = c :: squeeze keep sep false rest := by simp [squeeze, hc]
      rw [hsqueeze, squeeze_false]
      cases rest with
      | nil => simp [squeeze, words, hc, dropEnd, hne, List.intercalate]
      | cons d more =>
        cases hd : keep d with
        | true =>
          have hnil : squeeze keep sep true (d :: more) ≠ [] := by simp [squeeze, hd]
          have hwords : words keep (d :: more) ≠ [] := fun h => hnil (squeeze_eq_nil.mpr h)
          obtain ⟨word, others, hword⟩ := List.exists_cons_of_ne_nil hwords
          have hfront : words keep (c :: d :: more) = (c :: word) :: others := by
            rw [words, if_pos hc]
            simp only [hd, if_true, hword]
          simp only [List.head?_cons, Option.all_some, hd, if_true]
          rw [dropEnd_cons hnil, ih, hword, hfront]
          cases others <;> simp [List.intercalate]
        | false =>
          have hfront : words keep (c :: d :: more) = [c] :: words keep (d :: more) := by
            rw [words, if_pos hc]
            simp only [hd, Bool.false_eq_true, if_false]
          simp only [List.head?_cons, Option.all_some, hd, Bool.false_eq_true, if_false]
          rw [hfront, dropEnd_cons (List.cons_ne_nil _ _)]
          by_cases hnil : squeeze keep sep true (d :: more) = []
          · rw [squeeze_eq_nil.mp hnil, hnil]
            simp [dropEnd, List.intercalate]
          · rw [dropEnd_cons hnil, ih]
            obtain ⟨word, others, hword⟩ := List.exists_cons_of_ne_nil fun h => hnil (squeeze_eq_nil.mpr h)
            rw [hword]
            simp [List.intercalate]

/-- A text that is squeezed and loses the separators at its ends is its words with one
separator between them. -/
theorem dropEnd_dropFront_squeeze (hsep : keep sep = false) (l : List α) :
    dropEnd sep (dropFront sep (squeeze keep sep false l)) = [sep].intercalate (words keep l) := by
  have hfront : dropFront sep (squeeze keep sep false l) = squeeze keep sep true l := by
    rw [squeeze_false]
    split
    · have hhead : (squeeze keep sep true l).head? ≠ some sep := by
        intro h
        have hkept := head_squeeze keep sep l
        rw [h, Option.all_some, hsep] at hkept
        cases hkept
      rw [dropFront, if_neg hhead]
    · rw [dropFront, List.head?_cons, if_pos rfl, List.tail_cons]
  rw [hfront, dropEnd_squeeze hsep]

theorem dropEnd_eq_take (sep : α) (l : List α) : ∃ n, dropEnd sep l = l.take n := by
  unfold dropEnd
  split
  · exact ⟨l.length - 1, List.dropLast_eq_take⟩
  · exact ⟨l.length, List.take_length.symm⟩

/-- What is squeezed from within a run stays, from its front up to any place. -/
theorem squeeze_kept (hsep : keep sep = false) (l : List α) (n : Nat) :
    dropFront sep (squeeze keep sep false ((squeeze keep sep true l).take n)) = (squeeze keep sep true l).take n := by
  have hsqueezed : squeeze keep sep false (squeeze keep sep true l) = squeeze keep sep true l := by
    rw [squeeze_false, if_pos (head_squeeze keep sep l), squeeze_squeeze hsep]
  rw [squeeze_take hsqueezed, dropFront, if_neg]
  intro h
  rw [List.head?_take] at h
  split at h
  · cases h
  · have hkept := head_squeeze keep sep l
    rw [h, Option.all_some, hsep] at hkept
    cases hkept

end GalaxiaAin.Library
