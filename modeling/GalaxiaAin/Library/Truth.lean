import Mathlib.Logic.Basic
import Mathlib.Order.Notation

/-! The three-valued logic of SQL. A comparison with NULL is unknown, and WHERE keeps the rows
for which its condition is true. -/
namespace GalaxiaAin.Library

/-- A condition is true, false or, as `none`, unknown. -/
abbrev Truth := Option Bool

namespace Sql
variable {α : Type} [DecidableEq α]

/-- `a = b`. -/
def equals (a b : Option α) : Truth := a.bind fun x => b.map fun y => decide (x = y)

/-- `a != b`. -/
def differs (a b : Option α) : Truth := (equals a b).map not

/-- `c AND d`. -/
def both : Truth → Truth → Truth
  | some false, _ => some false
  | _, some false => some false
  | some true, some true => some true
  | _, _ => none

/-- Whether WHERE keeps the row. -/
def kept (c : Truth) : Bool := c == some true

theorem kept_both (c d : Truth) : kept (both c d) = (kept c && kept d) := by
  cases c with
  | none => cases d with
    | none => rfl
    | some b => cases b <;> rfl
  | some a => cases d with
    | none => cases a <;> rfl
    | some b => cases a <;> cases b <;> rfl

theorem kept_equals {a : Option α} {b : α} : kept (equals a (some b)) = true ↔ a = some b := by
  cases a with
  | none => simp [equals, kept]
  | some a => simp [equals, kept]

/-- NULL does not differ from anything. -/
theorem kept_differs {a : Option α} {b : α} : kept (differs a (some b)) = true ↔ a ≠ none ∧ a ≠ some b := by
  cases a with
  | none => simp [differs, equals, kept]
  | some a => simp [differs, equals, kept]

end Sql
end GalaxiaAin.Library
