import GalaxiaAin.Library.JsonParse
import GalaxiaAin.Library.WellFormed

/-! JSON.stringify with an indentation. The text has the tokens of the one without, so it is
read back to the same value. -/
namespace GalaxiaAin.Library

/-- A line feed, and two blanks for each level. -/
def newline (depth : Nat) : Text := 10 :: List.replicate (2 * depth) 32

namespace Json

mutual
/-- `JSON.stringify(v, null, 2)` of a value at a level. -/
def indented (depth : Nat) : Json → Text
  | .arr [] => [91, 93]
  | .arr (v :: rest) => 91 :: (newline (depth + 1) ++ (v.indented (depth + 1) ++ itemsIndented depth rest))
  | .obj [] => [123, 125]
  | .obj ((key, v) :: rest) =>
    123 :: (newline (depth + 1) ++ (quote key ++ 58 :: 32 :: (v.indented (depth + 1) ++ fieldsIndented depth rest)))
  | v => v.stringify

def itemsIndented (depth : Nat) : List Json → Text
  | [] => newline depth ++ [93]
  | v :: rest => 44 :: (newline (depth + 1) ++ (v.indented (depth + 1) ++ itemsIndented depth rest))

def fieldsIndented (depth : Nat) : List (Text × Json) → Text
  | [] => newline depth ++ [125]
  | (key, v) :: rest =>
    44 :: (newline (depth + 1) ++ (quote key ++ 58 :: 32 :: (v.indented (depth + 1) ++ fieldsIndented depth rest)))
end

end Json

/-! ### Tokens -/

section
variable {readNumber : Text → Numeral}

theorem lex_newline (depth : Nat) (r : Text) : lex readNumber .between (newline depth ++ r) = lex readNumber .between r := by
  have hblanks (n : Nat) : lex readNumber .between (List.replicate n 32 ++ r) = lex readNumber .between r := by
    induction n with
    | zero => rfl
    | succ n ih => rw [List.replicate_succ, List.cons_append, lex_whitespace rfl, ih]
  rw [newline, List.cons_append, lex_whitespace rfl, hblanks]

theorem newline_ended (depth : Nat) (r : Text) : Ended (newline depth ++ r) := by
  intro c hc
  obtain rfl := Option.some.inj hc
  exact .inr rfl

namespace Json

theorem itemsIndented_ended (depth : Nat) (items : List Json) (r : Text) : Ended (itemsIndented depth items ++ r) := by
  cases items with
  | nil =>
    rw [itemsIndented, List.append_assoc]
    exact newline_ended depth _
  | cons v rest =>
    rw [itemsIndented]
    exact (marked_cons rfl _).ended

theorem fieldsIndented_ended (depth : Nat) (fields : List (Text × Json)) (r : Text) : Ended (fieldsIndented depth fields ++ r) := by
  cases fields with
  | nil =>
    rw [fieldsIndented, List.append_assoc]
    exact newline_ended depth _
  | cons f rest =>
    rw [fieldsIndented]
    exact (marked_cons rfl _).ended

mutual
/-- The indented text is cut into the same tokens. -/
theorem lex_indented (depth : Nat) (v : Json) (hv : v.Held readNumber) {r : Text} (hr : Ended r) :
    lex readNumber .between (v.indented depth ++ r) = inFront v.tokens (lex readNumber .between r) := by
  match v with
  | .null => exact lex_word rfl rfl rfl hr
  | .bool true => exact lex_word rfl rfl rfl hr
  | .bool false => exact lex_word rfl rfl rfl hr
  | .num n => exact lex_numeral hv.1 hv.2 hr
  | .str s => exact lex_quote_front s r
  | .arr [] =>
    rw [indented, tokens, List.cons_append, lex_mark_front rfl, List.cons_append, lex_mark_front rfl, ← inFront_append]
    rfl
  | .arr (w :: rest) =>
    rw [indented, tokens, List.cons_append, lex_mark_front rfl, List.append_assoc, lex_newline, List.append_assoc,
      lex_indented (depth + 1) w hv.1 (itemsIndented_ended depth rest r), lex_itemsIndented depth rest hv.2 r, ← inFront_append,
      ← inFront_append]
    rfl
  | .obj [] =>
    rw [indented, tokens, List.cons_append, lex_mark_front rfl, List.cons_append, lex_mark_front rfl, ← inFront_append]
    rfl
  | .obj ((key, w) :: rest) =>
    rw [indented, tokens, List.cons_append, lex_mark_front rfl, List.append_assoc, lex_newline, List.append_assoc,
      lex_quote_front, List.cons_append, lex_mark_front rfl, List.cons_append, lex_whitespace rfl, List.append_assoc,
      lex_indented (depth + 1) w hv.2.1 (fieldsIndented_ended depth rest r), lex_fieldsIndented depth rest hv.2.2 r,
      ← inFront_append, ← inFront_append, ← inFront_append, ← inFront_append]
    rfl

theorem lex_itemsIndented (depth : Nat) (items : List Json) (h : HeldItems readNumber items) (r : Text) :
    lex readNumber .between (itemsIndented depth items ++ r) = inFront (itemsTokens items) (lex readNumber .between r) := by
  match items with
  | [] =>
    rw [itemsIndented, itemsTokens, List.append_assoc, lex_newline, List.cons_append, lex_mark_front rfl]
    rfl
  | w :: rest =>
    rw [itemsIndented, itemsTokens, List.cons_append, lex_mark_front rfl, List.append_assoc, lex_newline, List.append_assoc,
      lex_indented (depth + 1) w h.1 (itemsIndented_ended depth rest r), lex_itemsIndented depth rest h.2 r, ← inFront_append,
      ← inFront_append]
    rfl

theorem lex_fieldsIndented (depth : Nat) (fields : List (Text × Json)) (h : HeldFields readNumber fields) (r : Text) :
    lex readNumber .between (fieldsIndented depth fields ++ r) = inFront (fieldsTokens fields) (lex readNumber .between r) := by
  match fields with
  | [] =>
    rw [fieldsIndented, fieldsTokens, List.append_assoc, lex_newline, List.cons_append, lex_mark_front rfl]
    rfl
  | (key, w) :: rest =>
    rw [fieldsIndented, fieldsTokens, List.cons_append, lex_mark_front rfl, List.append_assoc, lex_newline, List.append_assoc,
      lex_quote_front, List.cons_append, lex_mark_front rfl, List.cons_append, lex_whitespace rfl, List.append_assoc,
      lex_indented (depth + 1) w h.1 (fieldsIndented_ended depth rest r), lex_fieldsIndented depth rest h.2 r,
      ← inFront_append, ← inFront_append, ← inFront_append, ← inFront_append]
    rfl
end

/-- An indented text is read back. -/
theorem parse_indented {v : Json} (hv : v.Held readNumber) : parse readNumber (v.indented 0) = some v := by
  have hend : Ended [] := fun c hc => (nomatch hc)
  have hlex := lex_indented 0 v hv hend
  rw [List.append_nil] at hlex
  have hread := readTokens_tokens v hv [] []
  rw [List.append_nil] at hread
  rw [parse, hlex]
  simp only [lex, Lexing.flush, inFront, Option.map_some, Option.bind_some, List.append_nil]
  rw [hread]
  rfl

end Json
end

/-! ### Bytes -/

theorem wellFormed_newline (depth : Nat) : WellFormed (newline depth) := by
  apply WellFormed.of_units
  intro c hc
  rcases List.mem_cons.mp hc with rfl | hc
  · rfl
  · rw [List.eq_of_mem_replicate hc]
    rfl

namespace Json

mutual
theorem wellFormed_indented (depth : Nat) (v : Json) : WellFormed (v.indented depth) := by
  match v with
  | .null => exact wellFormed_stringify .null
  | .bool true => exact wellFormed_stringify (.bool true)
  | .bool false => exact wellFormed_stringify (.bool false)
  | .num n => exact wellFormed_stringify (.num n)
  | .str s => exact wellFormed_quote s
  | .arr [] => exact wellFormed_stringify (.arr [])
  | .arr (v :: rest) =>
    rw [indented]
    exact .unit (by decide) ((wellFormed_newline _).append
      ((wellFormed_indented (depth + 1) v).append (wellFormed_itemsIndented depth rest)))
  | .obj [] => exact wellFormed_stringify (.obj [])
  | .obj ((key, v) :: rest) =>
    rw [indented]
    exact .unit (by decide) ((wellFormed_newline _).append ((wellFormed_quote key).append
      (.unit (by decide) (.unit (by decide) ((wellFormed_indented (depth + 1) v).append (wellFormed_fieldsIndented depth rest))))))

theorem wellFormed_itemsIndented (depth : Nat) (items : List Json) : WellFormed (itemsIndented depth items) := by
  match items with
  | [] =>
    rw [itemsIndented]
    exact (wellFormed_newline depth).append (.of_all (by decide))
  | v :: rest =>
    rw [itemsIndented]
    exact .unit (by decide) ((wellFormed_newline _).append
      ((wellFormed_indented (depth + 1) v).append (wellFormed_itemsIndented depth rest)))

theorem wellFormed_fieldsIndented (depth : Nat) (fields : List (Text × Json)) : WellFormed (fieldsIndented depth fields) := by
  match fields with
  | [] =>
    rw [fieldsIndented]
    exact (wellFormed_newline depth).append (.of_all (by decide))
  | (key, v) :: rest =>
    rw [fieldsIndented]
    exact .unit (by decide) ((wellFormed_newline _).append ((wellFormed_quote key).append
      (.unit (by decide) (.unit (by decide) ((wellFormed_indented (depth + 1) v).append (wellFormed_fieldsIndented depth rest))))))
end

end Json

/-- An indented text in a file is read back. -/
theorem Json.parse_utf8_indented {readNumber : Text → Numeral} {v : Json} (hv : v.Held readNumber) :
    parse readNumber (decodeUtf8 (utf8 (v.indented 0))) = some v := by
  rw [(wellFormed_indented 0 v).decodeUtf8_utf8, parse_indented hv]

end GalaxiaAin.Library
