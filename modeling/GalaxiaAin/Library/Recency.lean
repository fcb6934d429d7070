import Mathlib.Data.List.Nodup
import Mathlib.Data.List.TakeDrop

/-! A map that keeps the entries of the keys that were written last, up to a bound. Its log
has the last write first. -/
namespace GalaxiaAin.Library

section
variable {α κ : Type} [DecidableEq κ] (key : α → κ)

/-- The last write of every key, the last of them first. -/
def latest : List α → List α
  | [] => []
  | a :: log => a :: (latest log).filter fun b => key b ≠ key a

/-- Write an entry in front, without the one that has its key, up to a bound. -/
def writeFront (bound : Nat) (a : α) (entries : List α) : List α := (a :: entries.filter fun b => key b ≠ key a).take bound

end

section
variable {α κ : Type} [DecidableEq κ] {key : α → κ}

/-! ### The last writes -/

/-- They stand in the order of the log. -/
theorem latest_sublist (log : List α) : (latest key log).Sublist log := by
  induction log with
  | nil => exact List.Sublist.refl _
  | cons a log ih => exact ((List.filter_sublist).trans ih).cons_cons a

theorem latest_nodup (log : List α) : ((latest key log).map key).Nodup := by
  induction log with
  | nil => exact List.nodup_nil
  | cons a log ih =>
    rw [latest, List.map_cons, List.nodup_cons]
    constructor
    · intro hmem
      obtain ⟨b, hb, hkey⟩ := List.mem_map.mp hmem
      exact absurd hkey (of_decide_eq_true (List.mem_filter.mp hb).2)
    · exact ih.sublist ((List.filter_sublist).map key)

/-- An entry is kept exactly if it is the first of its key in the log. -/
theorem mem_latest {log : List α} {a : α} : a ∈ latest key log ↔ log.find? (fun b => key b = key a) = some a := by
  induction log with
  | nil => simp [latest]
  | cons b log ih =>
    rw [latest, List.mem_cons, List.mem_filter, ih, List.find?_cons]
    by_cases hkey : key b = key a
    · simp only [hkey, decide_true]
      constructor
      · rintro (rfl | ⟨-, hne⟩)
        · rfl
        · exact absurd rfl (of_decide_eq_true hne)
      · intro h
        exact .inl (Option.some.inj h).symm
    · simp only [hkey, decide_false]
      constructor
      · rintro (rfl | ⟨hfind, -⟩)
        · exact absurd rfl hkey
        · exact hfind
      · intro hfind
        exact .inr ⟨hfind, decide_eq_true fun h => hkey h.symm⟩

/-! ### The bounded map -/

/-- What is behind the bound does not matter for the next write. -/
theorem writeFront_take (bound : Nat) (a : α) {entries : List α} (h : (entries.map key).Nodup) :
    writeFront key bound a (entries.take bound) = writeFront key bound a entries := by
  cases bound with
  | zero => rfl
  | succ bound =>
    rw [writeFront, writeFront, List.take_succ_cons, List.take_succ_cons]
    congr 1
    induction entries generalizing bound with
    | nil => rfl
    | cons b entries ih =>
      obtain ⟨hb, hrest⟩ := List.nodup_cons.mp h
      rw [List.take_succ_cons]
      by_cases hkey : key b = key a
      · -- Behind the entry with the key there is no other one.
        have hnone (more : List α) (hmore : more.Sublist entries) : more.filter (fun c => key c ≠ key a) = more := by
          rw [List.filter_eq_self]
          intro c hc
          apply decide_eq_true
          intro hc'
          exact hb (hkey.trans hc'.symm ▸ List.mem_map_of_mem (hmore.subset hc))
        rw [List.filter_cons_of_neg (by simpa using hkey), List.filter_cons_of_neg (by simpa using hkey),
          hnone _ (List.take_sublist _ _), hnone _ (List.Sublist.refl _), List.take_take, Nat.min_self]
      · rw [List.filter_cons_of_pos (by simpa using hkey), List.filter_cons_of_pos (by simpa using hkey)]
        cases bound with
        | zero => rfl
        | succ bound => rw [List.take_succ_cons, List.take_succ_cons, ih hrest]

/-- A bounded map that is written entry after entry has the last writes up to the bound. -/
theorem writeFront_latest (bound : Nat) (a : α) (log : List α) :
    writeFront key bound a ((latest key log).take bound) = (latest key (a :: log)).take bound :=
  writeFront_take bound a (latest_nodup log)

end

end GalaxiaAin.Library
