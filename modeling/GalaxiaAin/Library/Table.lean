import Mathlib.Data.List.Nodup
import Mathlib.Tactic.Common

/-! Tables with a primary key: rows in the order they were inserted, no key twice. -/
namespace GalaxiaAin.Library

/-- A table of rows `ν` under keys `κ`. -/
structure Table (κ ν : Type) where
  rows : List (κ × ν)
  unique : (rows.map Prod.fst).Nodup

namespace Table
variable {κ ν : Type}

def empty : Table κ ν := ⟨[], List.nodup_nil⟩

theorem unique_map (t : Table κ ν) (f : κ → ν → ν) : ((t.rows.map fun r => (r.1, f r.1 r.2)).map Prod.fst).Nodup := by
  rw [List.map_map]
  exact t.unique

/-- Set every row. -/
def mapRows (t : Table κ ν) (f : κ → ν → ν) : Table κ ν := ⟨t.rows.map fun r => (r.1, f r.1 r.2), t.unique_map f⟩

variable [DecidableEq κ]

/-- The row of a key. -/
def get? (t : Table κ ν) (k : κ) : Option ν := (t.rows.find? fun r => r.1 = k).map Prod.snd

/-- Set the row of a key, where there is one. -/
def modify (t : Table κ ν) (k : κ) (f : ν → ν) : Table κ ν := t.mapRows fun k' v => if k' = k then f v else v

theorem get?_eq_some {t : Table κ ν} {k : κ} {v : ν} : t.get? k = some v ↔ (k, v) ∈ t.rows := by
  obtain ⟨rows, unique⟩ := t
  simp only [get?]
  induction rows with
  | nil => simp
  | cons r rows ih =>
    rw [List.map_cons, List.nodup_cons] at unique
    by_cases hr : r.1 = k
    · have hnot : (k, v) ∉ rows := fun h => unique.1 (List.mem_map.mpr ⟨_, h, hr.symm⟩)
      rw [List.find?_cons_of_pos (by simpa using hr), List.mem_cons]
      subst hr
      simp [hnot, Prod.ext_iff, eq_comm]
    · rw [List.find?_cons_of_neg (by simpa using hr), ih unique.2, List.mem_cons]
      have : (k, v) ≠ r := fun h => hr (by rw [← h])
      simp [this]

theorem get?_eq_none {t : Table κ ν} {k : κ} : t.get? k = none ↔ k ∉ t.rows.map Prod.fst := by
  rw [Option.eq_none_iff_forall_ne_some]
  constructor
  · intro h hk
    obtain ⟨r, hr, rfl⟩ := List.mem_map.mp hk
    exact h r.2 (get?_eq_some.mpr hr)
  · intro h v hv
    exact h (List.mem_map.mpr ⟨_, get?_eq_some.mp hv, rfl⟩)

theorem unique_append (t : Table κ ν) {k : κ} (v : ν) (h : t.get? k = none) :
    ((t.rows ++ [(k, v)]).map Prod.fst).Nodup := by
  rw [List.map_append, List.nodup_append]
  refine ⟨t.unique, by simp, ?_⟩
  intro a ha b hb hab
  rw [List.map_cons, List.map_nil, List.mem_singleton] at hb
  subst hb hab
  exact get?_eq_none.mp h ha

/-- Add a row under a new key. -/
def insert (t : Table κ ν) (k : κ) (v : ν) : Table κ ν :=
  if h : t.get? k = none then ⟨t.rows ++ [(k, v)], t.unique_append v h⟩ else t

@[simp] theorem get?_mapRows (t : Table κ ν) (f : κ → ν → ν) (k : κ) : (t.mapRows f).get? k = (t.get? k).map (f k) := by
  cases hv : t.get? k with
  | some v =>
    rw [Option.map_some, get?_eq_some]
    exact List.mem_map.mpr ⟨_, get?_eq_some.mp hv, rfl⟩
  | none =>
    rw [Option.map_none, get?_eq_none]
    rw [get?_eq_none] at hv
    rwa [mapRows, List.map_map]

theorem get?_modify (t : Table κ ν) (k : κ) (f : ν → ν) (k' : κ) :
    (t.modify k f).get? k' = if k' = k then (t.get? k').map f else t.get? k' := by
  rw [modify, get?_mapRows]
  split <;> simp

@[simp] theorem get?_modify_self (t : Table κ ν) (k : κ) (f : ν → ν) : (t.modify k f).get? k = (t.get? k).map f := by
  rw [get?_modify, if_pos rfl]

theorem get?_modify_ne (t : Table κ ν) {k k' : κ} (f : ν → ν) (h : k' ≠ k) : (t.modify k f).get? k' = t.get? k' := by
  rw [get?_modify, if_neg h]

theorem rows_insert {t : Table κ ν} {k : κ} (v : ν) (h : t.get? k = none) : (t.insert k v).rows = t.rows ++ [(k, v)] := by
  rw [insert, dif_pos h]

theorem get?_insert {t : Table κ ν} {k : κ} (v : ν) (h : t.get? k = none) (k' : κ) :
    (t.insert k v).get? k' = if k' = k then some v else t.get? k' := by
  rw [get?, rows_insert v h, List.find?_append]
  split
  · rename_i hk
    subst hk
    rw [get?, Option.map_eq_none_iff] at h
    simp [h]
  · rename_i hk
    have : decide (k = k') = false := by simpa using fun he => hk he.symm
    simp [get?, this]

end Table

/-! ### Rows of a list -/

section
variable {κ ν : Type} [BEq κ] [LawfulBEq κ] {key : ν → κ} {rows : List ν} {k : κ}

/-- A row with a key is there. -/
theorem any_key : (rows.any fun a => key a == k) = true ↔ ∃ a ∈ rows, key a = k := by
  simp only [List.any_eq_true, beq_iff_eq]

/-- No row has the key. -/
theorem not_any_key : ¬ (rows.any fun a => key a == k) = true ↔ ∀ a ∈ rows, key a ≠ k := by
  rw [any_key]
  exact ⟨fun h a ha he => h ⟨a, ha, he⟩, fun h ⟨a, ha, he⟩ => h a ha he⟩

end
end GalaxiaAin.Library
