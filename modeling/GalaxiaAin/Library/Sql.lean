import GalaxiaAin.Library.Numbers

/-! SQL texts with placeholders. A text is cut into words and commas, and its terms are bound
to the values that are sent with it. -/
namespace GalaxiaAin.Library.Sql

/-! ### Tokens -/

/-- The tokens so far, the word that is being read, and whether it is inside quotes. -/
structure Lexer where
  tokens : List Text
  word : Text
  quoted : Bool
  deriving DecidableEq

def flush (s : Lexer) : Lexer := if s.word = [] then s else ⟨s.tokens ++ [s.word], [], s.quoted⟩

def step (s : Lexer) (c : UInt16) : Lexer :=
  if c = 39 then ⟨s.tokens, s.word ++ [c], !s.quoted⟩
  else if s.quoted then ⟨s.tokens, s.word ++ [c], true⟩
  else if c = 32 ∨ c = 10 then flush s
  else if c = 44 then ⟨(flush s).tokens ++ [[44]], [], false⟩
  else ⟨s.tokens, s.word ++ [c], false⟩

def lex (s : Lexer) (sql : Text) : Lexer := sql.foldl step s

def tokens (sql : Text) : List Text := (flush (lex ⟨[], [], false⟩ sql)).tokens

/-! ### Terms -/

inductive Term where
  | parameter (n : Nat)
  | currentTimestamp
  deriving DecidableEq

/-- `$n`, or the time of the transaction. -/
def readTerm (t : Text) : Option Term :=
  if t = units "CURRENT_TIMESTAMP" then some .currentTimestamp
  else
    match t with
    | 36 :: digits =>
      if digits ≠ [] ∧ digits.all isDigit then some (.parameter (ofDigits 10 (digits.map fun c => c.toNat - 48))) else none
    | _ => none

/-- The value of a term; the parameters are counted from 1. -/
def Term.value {α : Type} (values : List α) (now : α) : Term → Option α
  | .parameter 0 => none
  | .parameter (n + 1) => values[n]?
  | .currentTimestamp => some now

/-! ### Statements -/

/-- `UPDATE table SET set WHERE column = term RETURNING *`. -/
structure Update where
  table : Text
  set : List (Text × Term)
  column : Text
  term : Term

/-- The assignments at the front, and what follows them. -/
def readSet : List Text → Option (List (Text × Term) × List Text)
  | column :: equals :: term :: next :: rest =>
    if equals = units "=" then
      match readTerm term with
      | some t =>
        if next = units "," then (readSet rest).map fun o => ((column, t) :: o.1, o.2)
        else some ([(column, t)], next :: rest)
      | none => none
    else none
  | _ => none

def readUpdate (sql : Text) : Option Update :=
  match tokens sql with
  | update :: table :: set :: rest =>
    if update = units "UPDATE" ∧ set = units "SET" then
      match readSet rest with
      | some (assignments, [condition, column, equals, term, returning, all]) =>
        if condition = units "WHERE" ∧ equals = units "=" ∧ returning = units "RETURNING" ∧ all = units "*" then
          (readTerm term).map fun t => ⟨table, assignments, column, t⟩
        else none
      | _ => none
    else none
  | _ => none

/-- The conditions between WHERE and ORDER BY. -/
def conditions (sql : Text) : List (List Text) :=
  (((tokens sql).dropWhile (· ≠ units "WHERE")).tail.takeWhile (· ≠ units "ORDER")).splitOn (units "AND")

/-! ### How texts are cut -/

theorem lex_append (s : Lexer) (t u : Text) : lex s (t ++ u) = lex (lex s t) u := List.foldl_append

/-- A unit that neither ends a word nor opens quotes. -/
def plain (c : UInt16) : Bool := c != 39 && c != 32 && c != 10 && c != 44

theorem step_plain {c : UInt16} (hc : plain c = true) (ts : List Text) (word : Text) :
    step ⟨ts, word, false⟩ c = ⟨ts, word ++ [c], false⟩ := by
  simp only [plain, Bool.and_eq_true, bne_iff_ne] at hc
  obtain ⟨⟨⟨h39, h32⟩, h10⟩, h44⟩ := hc
  rw [step, if_neg h39, if_neg Bool.false_ne_true, if_neg (not_or.mpr ⟨h32, h10⟩), if_neg h44]

theorem lex_plain {t : Text} (ht : ∀ c ∈ t, plain c = true) (ts : List Text) (word : Text) :
    lex ⟨ts, word, false⟩ t = ⟨ts, word ++ t, false⟩ := by
  induction t generalizing word with
  | nil => rw [List.append_nil]; rfl
  | cons c t ih =>
    rw [lex, List.foldl_cons, step_plain (ht c List.mem_cons_self)]
    refine (ih (fun d hd => ht d (List.mem_cons_of_mem _ hd)) (word ++ [c])).trans ?_
    rw [List.append_assoc]
    rfl

theorem flush_word (ts : List Text) {word : Text} (h : word ≠ []) : flush ⟨ts, word, false⟩ = ⟨ts ++ [word], [], false⟩ := if_neg h

theorem lex_space (ts : List Text) {word : Text} (h : word ≠ []) : lex ⟨ts, word, false⟩ (units " ") = ⟨ts ++ [word], [], false⟩ :=
  flush_word ts h

theorem lex_comma (ts : List Text) {word : Text} (h : word ≠ []) :
    lex ⟨ts, word, false⟩ (units ", ") = ⟨ts ++ [word, units ","], [], false⟩ := by
  have hstep : step ⟨ts, word, false⟩ 44 = ⟨(flush ⟨ts, word, false⟩).tokens ++ [[44]], [], false⟩ := rfl
  have hlex : lex ⟨ts, word, false⟩ (units ", ") = step (step ⟨ts, word, false⟩ 44) 32 := rfl
  rw [hlex, hstep, flush_word ts h, List.append_assoc]
  rfl

theorem lex_newline (ts : List Text) {word : Text} (h : word ≠ []) : lex ⟨ts, word, false⟩ (units "\n") = ⟨ts ++ [word], [], false⟩ :=
  flush_word ts h

theorem flush_prefix (ts : List Text) (s : Lexer) : flush ⟨ts ++ s.tokens, s.word, s.quoted⟩ =
    ⟨ts ++ (flush s).tokens, (flush s).word, (flush s).quoted⟩ := by
  rw [flush, flush]
  split
  · rfl
  · rw [List.append_assoc]

theorem step_prefix (ts : List Text) (s : Lexer) (c : UInt16) : step ⟨ts ++ s.tokens, s.word, s.quoted⟩ c =
    ⟨ts ++ (step s c).tokens, (step s c).word, (step s c).quoted⟩ := by
  simp only [step, flush_prefix]
  split
  · rfl
  · split
    · rfl
    · split
      · rfl
      · split
        · rw [List.append_assoc]
        · rfl

/-- The tokens that are there do not matter. -/
theorem lex_prefix (ts : List Text) (s : Lexer) (t : Text) : lex ⟨ts ++ s.tokens, s.word, s.quoted⟩ t =
    ⟨ts ++ (lex s t).tokens, (lex s t).word, (lex s t).quoted⟩ := by
  induction t generalizing s with
  | nil => rfl
  | cons c t ih =>
    have hleft : lex ⟨ts ++ s.tokens, s.word, s.quoted⟩ (c :: t) = lex (step ⟨ts ++ s.tokens, s.word, s.quoted⟩ c) t := rfl
    have hright : lex s (c :: t) = lex (step s c) t := rfl
    rw [hleft, hright, step_prefix, ih]

/-- A fixed text between two words. -/
theorem lex_fixed {t : Text} {us : List Text} {word : Text} (h : lex ⟨[], [], false⟩ t = ⟨us, word, false⟩) (ts : List Text) :
    lex ⟨ts, [], false⟩ t = ⟨ts ++ us, word, false⟩ := by
  have hprefix := lex_prefix ts ⟨[], [], false⟩ t
  rw [h, List.append_nil] at hprefix
  exact hprefix

/-! ### Placeholders -/

theorem isDigit_decimal (n : Nat) : (decimal n).all isDigit = true := by
  rw [List.all_eq_true]
  unfold decimal
  split
  · intro c hc
    rw [List.mem_singleton.mp hc]
    rfl
  · intro c hc
    obtain ⟨d, hd, rfl⟩ := List.mem_map.mp hc
    have hlt := Nat.digits_lt_base (by omega : 1 < 10) (List.mem_reverse.mp hd)
    interval_cases d <;> rfl

theorem plain_decimal (n : Nat) : ∀ c ∈ decimal n, plain c = true := by
  intro c hc
  have hdigit := List.all_eq_true.mp (isDigit_decimal n) c hc
  simp only [isDigit, Bool.and_eq_true, decide_eq_true_eq] at hdigit
  simp only [plain, Bool.and_eq_true, bne_iff_ne]
  refine ⟨⟨⟨?_, ?_⟩, ?_⟩, ?_⟩ <;> (rintro rfl; exact absurd hdigit.1 (by decide))

/-- A placeholder is read as its number. -/
theorem readTerm_placeholder (n : Nat) : readTerm (36 :: decimal n) = some (.parameter n) := by
  have hne : (36 :: decimal n : Text) ≠ units "CURRENT_TIMESTAMP" := by
    intro h
    exact absurd (List.cons.inj h).1 (by decide)
  rw [readTerm, if_neg hne]
  simp only [isDigit_decimal, and_true, ne_eq, decimal_ne_nil, not_false_eq_true, if_true]
  rw [ofDigits_eq, ← List.map_reverse, ofDigits_decimal]

end GalaxiaAin.Library.Sql
