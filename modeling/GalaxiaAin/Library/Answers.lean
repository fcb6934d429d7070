import GalaxiaAin.Library.Execution
import Mathlib.Data.List.MinMax

/-! What programs that read the store answer, whichever of their calls fail. -/
namespace GalaxiaAin.Library

/-! ### One of several rows -/

/-- `LIMIT 1` of a query without an order: any of the rows may be given. -/
def limitOne {α : Type} (picked : Nat) (rows : List α) : Option α := rows[picked % rows.length]?

section
variable {α : Type} {rows : List α} {a : α}

theorem limitOne_mem {picked : Nat} (h : limitOne picked rows = some a) : a ∈ rows := List.mem_of_getElem? h

/-- Every row may be the one that is given. -/
theorem limitOne_any (h : a ∈ rows) : ∃ picked, limitOne picked rows = some a := by
  obtain ⟨i, hi, rfl⟩ := List.getElem_of_mem h
  refine ⟨i, ?_⟩
  rw [limitOne, Nat.mod_eq_of_lt hi, List.getElem?_eq_getElem hi]

theorem limitOne_isSome (h : rows ≠ []) (picked : Nat) : ∃ a, limitOne picked rows = some a := by
  have hlt : picked % rows.length < rows.length := Nat.mod_lt _ (List.length_pos_iff.mpr h)
  exact ⟨_, List.getElem?_eq_getElem hlt⟩

/-- There is no choice among one row or none. -/
theorem limitOne_toList (picked : Nat) (row : Option α) : limitOne picked row.toList = row := by
  cases row with
  | none => rfl
  | some a => rw [limitOne, Option.toList_some, List.length_singleton, Nat.mod_one, List.getElem?_cons_zero]

/-- `ORDER BY key DESC LIMIT 1`: any of the rows of the greatest key. -/
def limitOneBy {κ : Type} [LinearOrder κ] (key : α → κ) (picked : Nat) (rows : List α) : Option α :=
  limitOne picked (rows.filter fun a => rows.all fun b => decide (key b ≤ key a))

theorem limitOneBy_mem {κ : Type} [LinearOrder κ] {key : α → κ} {picked : Nat} (h : limitOneBy key picked rows = some a) :
    a ∈ rows := List.mem_of_mem_filter (limitOne_mem h)

/-- Among rows there is one of the greatest key. -/
theorem limitOneBy_isSome {κ : Type} [LinearOrder κ] (key : α → κ) (h : rows ≠ []) (picked : Nat) :
    ∃ a, limitOneBy key picked rows = some a := by
  obtain ⟨a, ha⟩ : ∃ a, rows.argmax key = some a :=
    Option.ne_none_iff_exists'.mp fun hnone => h (List.argmax_eq_none.mp hnone)
  refine limitOne_isSome (List.ne_nil_of_mem (List.mem_filter.mpr ⟨List.argmax_mem ha, ?_⟩)) picked
  exact List.all_eq_true.mpr fun b hb => decide_eq_true (List.le_of_mem_argmax hb ha)

end

namespace Async
variable {B : Backend} {α β ρ : Type} {s : B.Store} {σ : B.Site} {f : B.Context → B.Store → ρ}

/-- Every answer that is given is of this kind. -/
def Answers (p : Async B α) (P : α → Prop) (s : B.Store) : Prop :=
  p.post (fun _ => True) (fun r _ _ => ∀ a, r = .ok a → P a) s Local.empty

theorem answers_pure {P : α → Prop} {a : α} : Answers (pure a : Async B α) P s ↔ P a :=
  ⟨fun h => h a rfl, fun h _ ha => Except.ok.inj ha ▸ h⟩

/-- Reads that fail give no answer. -/
theorem answers_read {P : β → Prop} {k : ρ → Async B β} :
    Answers (await σ (.pool (.select f)) >>= k) P s ↔ Answers (k (f B.initial s)) P s := by
  rw [Answers, post_bind, post_pool, Stmt.reply_select, next_ok]
  exact and_iff_left fun _ _ _ h => by cases h

/-- A read whose result is worked on before what follows it. -/
theorem answers_read_map {P : β → Prop} {g : ρ → α} {k : α → Async B β} :
    Answers ((do pure (g (← await σ (.pool (.select f))))) >>= k) P s ↔ Answers (k (g (f B.initial s))) P s := by
  rw [Answers, post_bind, post_bind, post_pool]
  exact and_iff_left fun _ _ _ h => by cases h

/-! ### Programs that only read -/

/-- Where no call fails the answer is `a`; there is no other answer, and nothing is changed. -/
def Reads (p : Async B α) (a : α) (s : B.Store) : Prop := ∀ l,
  p.post (fun _ => False) (fun r s' l' => r = .ok a ∧ s' = s ∧ l' = l) s l ∧
    p.post (fun _ => True) (fun r s' l' => (∀ b, r = .ok b → b = a) ∧ s' = s ∧ l' = l) s l

theorem reads_pure (a : α) : Reads (pure a : Async B α) a s :=
  fun _ => ⟨⟨rfl, rfl, rfl⟩, fun _ h => (Except.ok.inj h).symm, rfl, rfl⟩

theorem reads_select : Reads (await σ (.pool (.select f))) (f B.initial s) s := by
  intro l
  rw [post_pool, post_pool, Stmt.reply_select]
  exact ⟨⟨⟨rfl, rfl, rfl⟩, fun h => h.elim⟩, ⟨fun _ h => (Except.ok.inj h).symm, rfl, rfl⟩, fun _ _ => ⟨fun _ h => (by cases h), rfl, rfl⟩⟩

/-- A read whose parameters are accepted. -/
theorem reads_selection {g : B.Store → Except B.Error ρ} {a : ρ} (h : g s = .ok a) :
    Reads (await σ (.pool (.selection g))) a s := by
  have hrun : (Stmt.selection g).run B.initial s = .ok (a, id) := by
    rw [Stmt.selection, Stmt.statement]
    simp only [h, Except.map]
  intro l
  rw [post_pool, post_pool, Stmt.reply_ok hrun, Stmt.effect_ok hrun]
  exact ⟨⟨⟨rfl, rfl, rfl⟩, fun h => h.elim⟩, ⟨fun _ h => (Except.ok.inj h).symm, rfl, rfl⟩, fun _ _ => ⟨fun _ h => (by cases h), rfl, rfl⟩⟩

theorem reads_bind {p : Async B α} {k : α → Async B β} {a : α} {b : β} (hp : Reads p a s) (hk : Reads (k a) b s) :
    Reads (p >>= k) b s := by
  intro l
  rw [post_bind, post_bind]
  refine ⟨post_mono (hp l).1 fun r s' l' h => ?_, post_mono (hp l).2 fun r s' l' h => ?_⟩
  · obtain ⟨rfl, rfl, rfl⟩ := h
    exact (hk _).1
  · obtain ⟨hr, rfl, rfl⟩ := h
    cases r with
    | error e => exact ⟨fun _ h => (by cases h), rfl, rfl⟩
    | ok a' =>
      obtain rfl := hr a' rfl
      exact (hk _).2

/-- What follows a program that only reads, where no call fails. -/
theorem Reads.post_bind {p : Async B α} {k : α → Async B β} {a : α} (hp : Reads p a s) {Q : Post B β} {l : Local B}
    (hk : (k a).post (fun _ => False) Q s l) : (p >>= k).post (fun _ => False) Q s l := by
  rw [Async.post_bind]
  refine post_mono (hp l).1 fun r s' l' h => ?_
  obtain ⟨rfl, rfl, rfl⟩ := h
  exact hk

end Async
end GalaxiaAin.Library
