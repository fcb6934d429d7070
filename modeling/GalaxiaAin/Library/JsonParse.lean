import GalaxiaAin.Library.Numbers
import Mathlib.Data.List.TakeWhile

/-! JSON.parse. A text is cut into tokens, and the tokens are read with a stack of the arrays
and objects that are open. The number of a literal is a parameter: it rests on doubles. -/
namespace GalaxiaAin.Library

/-! ### Number literals -/

def exponentPart : Text → Bool
  | [] => true
  | c :: rest =>
    let digits := match rest with
      | 43 :: digits => digits
      | 45 :: digits => digits
      | digits => digits
    (c == 101 || c == 69) && digits != [] && digits.all isDigit

def fractionPart : Text → Bool
  | 46 :: rest => rest.takeWhile isDigit != [] && exponentPart (rest.dropWhile isDigit)
  | rest => exponentPart rest

def unsignedLiteral : Text → Bool
  | 48 :: rest => fractionPart rest
  | c :: rest => isDigit c && fractionPart (rest.dropWhile isDigit)
  | [] => false

/-- A number of the JSON grammar. -/
def numberLiteral : Text → Bool
  | 45 :: rest => unsignedLiteral rest
  | rest => unsignedLiteral rest

/-! ### Tokens -/

inductive Token where
  /-- A bracket, a brace, a comma or a colon. -/
  | mark (c : UInt16)
  | leaf (v : Json)

/-- What the tokenizer is in. -/
inductive Lexing where
  | between
  | string (s : Text)
  | number (t : Text)
  | word (t : Text)

/-- `[`, `]`, `{`, `}`, `,` and `:`. -/
def isMark (c : UInt16) : Bool := c == 91 || c == 93 || c == 123 || c == 125 || c == 44 || c == 58

def whitespace (c : UInt16) : Bool := c == 9 || c == 10 || c == 13 || c == 32

def numberUnit (c : UInt16) : Bool := numeric c || c == 69

def letter (c : UInt16) : Bool := 97 ≤ c && c ≤ 122

/-- The value of `\c`. -/
def escaped (c : UInt16) : Option UInt16 :=
  if c = 98 then some 8
  else if c = 116 then some 9
  else if c = 110 then some 10
  else if c = 102 then some 12
  else if c = 114 then some 13
  else if c = 34 ∨ c = 92 ∨ c = 47 then some c
  else none

/-- The value of `\uabcd`. -/
def escapedUnicode (a b c d : UInt16) : Option UInt16 :=
  match digitValue a, digitValue b, digitValue c, digitValue d with
  | some a, some b, some c, some d => some (UInt16.ofNat (a * 4096 + b * 256 + c * 16 + d))
  | _, _, _, _ => none

def literalWord (t : Text) : Option Json :=
  if t = units "null" then some .null
  else if t = units "true" then some (.bool true)
  else if t = units "false" then some (.bool false)
  else none

section
variable (readNumber : Text → Numeral)

namespace Lexing

/-- Whether a unit goes on with the number or the word that is being read. -/
def continues : Lexing → UInt16 → Bool
  | .number _, c => numberUnit c
  | .word _, c => letter c
  | _, _ => false

def push : Lexing → UInt16 → Lexing
  | .number t, c => .number (t ++ [c])
  | .word t, c => .word (t ++ [c])
  | mode, _ => mode

/-- The token that ends here. -/
def flush : Lexing → Option (List Token)
  | .between => some []
  | .string _ => none
  | .number t => if numberLiteral t then some [.leaf (.num (readNumber t))] else none
  | .word t => (literalWord t).map fun v => [.leaf v]

/-- What a unit begins outside strings. -/
def start (c : UInt16) : Option (List Token × Lexing) :=
  if numberUnit c then some ([], .number [c])
  else if letter c then some ([], .word [c])
  else if isMark c then some ([.mark c], .between)
  else if c = 34 then some ([], .string [])
  else if whitespace c then some ([], .between)
  else none

end Lexing

def lex : Lexing → Text → Option (List Token)
  | mode, [] => mode.flush readNumber
  | .string s, 34 :: rest => (lex .between rest).map fun tokens => .leaf (.str s) :: tokens
  | .string s, 92 :: 117 :: a :: b :: c :: d :: rest =>
    match escapedUnicode a b c d with
    | some u => lex (.string (s ++ [u])) rest
    | none => none
  | .string s, 92 :: e :: rest =>
    match escaped e with
    | some u => lex (.string (s ++ [u])) rest
    | none => none
  | .string s, c :: rest => if c < 32 ∨ c = 92 then none else lex (.string (s ++ [c])) rest
  | mode, c :: rest =>
    if mode.continues c then lex (mode.push c) rest
    else
      match mode.flush readNumber, Lexing.start c with
      | some ended, some (begun, mode) => (lex mode rest).map fun tokens => ended ++ (begun ++ tokens)
      | _, _ => none

end

/-! ### Values -/

/-- A key that is an array index: digits without leading zeros. -/
def arrayIndex (key : Text) : Option Nat :=
  let n := ofDigits 10 (key.map fun c => c.toNat - 48)
  if key.all isDigit && (key == [48] || key.head? != some 48) && key != [] && decide (n < 4294967295) then some n else none

/-- The property is before one at an index. -/
def below (i : Nat) (key : Text) : Bool := (arrayIndex key).any fun j => j < i

/-- Set an own property. The properties at indices come first, by index, and the others in
the order they were set. -/
def putProperty {α : Type} (fields : List (Text × α)) (key : Text) (v : α) : List (Text × α) :=
  if fields.any fun f => f.1 == key then fields.map fun f => if f.1 = key then (key, v) else f
  else
    match arrayIndex key with
    | none => fields ++ [(key, v)]
    | some i => fields.takeWhile (fun f => below i f.1) ++ (key, v) :: fields.dropWhile fun f => below i f.1

/-- An open array or object, with what it has so far. -/
inductive Opened where
  | arr (items : List Json)
  | obj (fields : List (Text × Json)) (key : Text)

/-- What comes next. -/
inductive Expect where
  | value
  | firstItem
  | firstKey
  | key (fields : List (Text × Json))
  | colon (fields : List (Text × Json)) (key : Text)
  | after (v : Json)

def beginValue (stack : List Opened) : Token → Option (List Opened × Expect)
  | .leaf v => some (stack, .after v)
  | .mark 91 => some (stack, .firstItem)
  | .mark 123 => some (stack, .firstKey)
  | .mark _ => none

def readToken : List Opened → Expect → Token → Option (List Opened × Expect)
  | stack, .value, t => beginValue stack t
  | stack, .firstItem, .mark 93 => some (stack, .after (.arr []))
  | stack, .firstItem, t => beginValue (.arr [] :: stack) t
  | stack, .firstKey, .mark 125 => some (stack, .after (.obj []))
  | stack, .firstKey, .leaf (.str key) => some (stack, .colon [] key)
  | stack, .key fields, .leaf (.str key) => some (stack, .colon fields key)
  | stack, .colon fields key, .mark 58 => some (.obj fields key :: stack, .value)
  | .arr items :: stack, .after v, .mark 44 => some (.arr (items ++ [v]) :: stack, .value)
  | .arr items :: stack, .after v, .mark 93 => some (stack, .after (.arr (items ++ [v])))
  | .obj fields key :: stack, .after v, .mark 44 => some (stack, .key (putProperty fields key v))
  | .obj fields key :: stack, .after v, .mark 125 => some (stack, .after (.obj (putProperty fields key v)))
  | _, _, _ => none

def readTokens : List Opened → Expect → List Token → Option Json
  | [], .after v, [] => some v
  | _, _, [] => none
  | stack, expect, t :: rest =>
    match readToken stack expect t with
    | some (stack, expect) => readTokens stack expect rest
    | none => none

/-- `JSON.parse`; none where it throws. -/
def Json.parse (readNumber : Text → Numeral) (t : Text) : Option Json := (lex readNumber .between t).bind (readTokens [] .value)

/-! ### Strings -/

section Strings
variable {readNumber : Text → Numeral}

/-- The token of a string, with its first units read. -/
def stringToken (s : Text) (o : Option (List Token)) : Option (List Token) := o.map fun tokens => .leaf (.str s) :: tokens

private theorem digitValue_hexDigit {n : Nat} (h : n < 16) : digitValue (hexDigit n) = some n := by
  interval_cases n <;> decide

private theorem lex_unicodeEscape (s : Text) (c : UInt16) (rest : Text) :
    lex readNumber (.string s) (unicodeEscape c ++ rest) = lex readNumber (.string (s ++ [c])) rest := by
  have hc := c.toNat_lt
  have he : escapedUnicode (hexDigit (c.toNat / 4096)) (hexDigit (c.toNat / 256 % 16)) (hexDigit (c.toNat / 16 % 16))
      (hexDigit (c.toNat % 16)) = some c := by
    rw [escapedUnicode, digitValue_hexDigit (by omega), digitValue_hexDigit (by omega), digitValue_hexDigit (by omega),
      digitValue_hexDigit (by omega)]
    have hvalue : c.toNat / 4096 * 4096 + c.toNat / 256 % 16 * 256 + c.toNat / 16 % 16 * 16 + c.toNat % 16 = c.toNat := by
      omega
    simp only [hvalue, UInt16.ofNat_toNat]
  simp only [unicodeEscape, List.cons_append, List.nil_append, lex, he]

private theorem lex_plain (s : Text) {c : UInt16} (h34 : c ≠ 34) (h92 : c ≠ 92) (h32 : ¬ c < 32) (rest : Text) :
    lex readNumber (.string s) (c :: rest) = lex readNumber (.string (s ++ [c])) rest := by
  rw [lex]
  · rw [if_neg (by simp [h32, h92])]
  · exact h34
  · intro _ _ _ _ _ h; exact absurd h h92
  · intro _ _ h; exact absurd h h92

private theorem lex_escapeUnit (s : Text) (c : UInt16) (rest : Text) :
    lex readNumber (.string s) (escapeUnit c ++ rest) = lex readNumber (.string (s ++ [c])) rest := by
  unfold escapeUnit
  split_ifs with h8 h9 h10 h12 h13 h34 h92 h32
  · subst h8; simp [lex, escaped]
  · subst h9; simp [lex, escaped]
  · subst h10; simp [lex, escaped]
  · subst h12; simp [lex, escaped]
  · subst h13; simp [lex, escaped]
  · subst h34; simp [lex, escaped]
  · subst h92; simp [lex, escaped]
  · exact lex_unicodeEscape s c rest
  · exact lex_plain s h34 h92 h32 rest

private theorem lex_surrogate (s : Text) {c : UInt16} (h : 0xD800 ≤ c) (rest : Text) :
    lex readNumber (.string s) (c :: rest) = lex readNumber (.string (s ++ [c])) rest := by
  refine lex_plain s ?_ ?_ (fun h32 => absurd (UInt16.lt_of_le_of_lt h h32) (by decide)) rest <;>
    (rintro rfl; exact absurd h (by decide))

/-- A quoted text is one token. -/
theorem lex_quoteBody (s t rest : Text) :
    lex readNumber (.string s) (quoteBody t ++ 34 :: rest) = stringToken (s ++ t) (lex readNumber .between rest) := by
  induction t using quoteBody.induct generalizing s with
  | case1 => simp [quoteBody, lex, stringToken]
  | case2 c h => rw [quoteBody, if_pos h, lex_unicodeEscape]; simp [lex, stringToken]
  | case3 c h => rw [quoteBody, if_neg h, lex_escapeUnit]; simp [lex, stringToken]
  | case4 c d tail h ih =>
    obtain ⟨hc, hd⟩ := Bool.and_eq_true_iff.mp h
    have hc' : 0xD800 ≤ c := by simp [highSurrogate] at hc; exact hc.1
    have hd' : 0xD800 ≤ d := by
      simp [lowSurrogate] at hd
      exact UInt16.le_trans (by decide : (0xD800 : UInt16) ≤ 0xDC00) hd.1
    rw [quoteBody, if_pos h, List.cons_append, List.cons_append, lex_surrogate s hc', lex_surrogate _ hd', ih]
    simp
  | case5 c d tail h h' ih =>
    rw [quoteBody, if_neg h, if_pos h', List.append_assoc, lex_unicodeEscape, ih]
    simp
  | case6 c d tail h h' ih =>
    rw [quoteBody, if_neg h, if_neg h', List.append_assoc, lex_escapeUnit, ih]
    simp

end Strings

/-! ### The tokens of a value -/

namespace Json

mutual
/-- The tokens of what is stringified. -/
def tokens : Json → List Token
  | .arr [] => [.mark 91, .mark 93]
  | .arr (v :: rest) => .mark 91 :: (v.tokens ++ itemsTokens rest)
  | .obj [] => [.mark 123, .mark 125]
  | .obj ((key, v) :: rest) => .mark 123 :: .leaf (.str key) :: .mark 58 :: (v.tokens ++ fieldsTokens rest)
  | v => [.leaf v]

def itemsTokens : List Json → List Token
  | [] => [.mark 93]
  | v :: rest => .mark 44 :: (v.tokens ++ itemsTokens rest)

def fieldsTokens : List (Text × Json) → List Token
  | [] => [.mark 125]
  | (key, v) :: rest => .mark 44 :: .leaf (.str key) :: .mark 58 :: (v.tokens ++ fieldsTokens rest)
end

/-- The properties come as an object has them: no key twice, the indices first and in order. -/
def Ordered {α : Type} (fields : List (Text × α)) : Prop :=
  fields.Pairwise fun f g => f.1 ≠ g.1 ∧ ∀ i, arrayIndex g.1 = some i → below i f.1 = true

variable (readNumber : Text → Numeral)

mutual
/-- A value JavaScript holds: its numbers are read back, its properties are in order. -/
def Held : Json → Prop
  | .num n => numberLiteral n.text = true ∧ readNumber n.text = n
  | .arr items => HeldItems items
  | .obj fields => Ordered fields ∧ HeldFields fields
  | _ => True

def HeldItems : List Json → Prop
  | [] => True
  | v :: rest => v.Held ∧ HeldItems rest

def HeldFields : List (Text × Json) → Prop
  | [] => True
  | (_, v) :: rest => v.Held ∧ HeldFields rest
end

end Json

section Tokens
variable {readNumber : Text → Numeral}

/-- What may follow a value: a mark or the end. -/
def Marked (r : Text) : Prop := ∀ c ∈ r.head?, isMark c = true

theorem marked_cons {c : UInt16} (h : isMark c = true) (r : Text) : Marked (c :: r) := by
  intro d hd
  obtain rfl := Option.some.inj hd
  exact h

theorem isMark_cases {c : UInt16} (h : isMark c = true) : c = 91 ∨ c = 93 ∨ c = 123 ∨ c = 125 ∨ c = 44 ∨ c = 58 := by
  simpa [isMark, or_assoc] using h

theorem start_mark {c : UInt16} (h : isMark c = true) : Lexing.start c = some ([.mark c], .between) := by
  rcases isMark_cases h with rfl | rfl | rfl | rfl | rfl | rfl <;> rfl

theorem continues_mark (mode : Lexing) {c : UInt16} (h : isMark c = true) : mode.continues c = false := by
  rcases isMark_cases h with rfl | rfl | rfl | rfl | rfl | rfl <;> cases mode <;> rfl

/-- What may follow a value in an indented text: a mark, whitespace or the end. -/
def Ended (r : Text) : Prop := ∀ c ∈ r.head?, isMark c = true ∨ whitespace c = true

theorem Marked.ended {r : Text} (h : Marked r) : Ended r := fun c hc => .inl (h c hc)

theorem whitespace_cases {c : UInt16} (h : whitespace c = true) : c = 9 ∨ c = 10 ∨ c = 13 ∨ c = 32 := by
  simpa [whitespace, or_assoc] using h

theorem start_whitespace {c : UInt16} (h : whitespace c = true) : Lexing.start c = some ([], .between) := by
  rcases whitespace_cases h with rfl | rfl | rfl | rfl <;> rfl

theorem continues_whitespace (mode : Lexing) {c : UInt16} (h : whitespace c = true) : mode.continues c = false := by
  rcases whitespace_cases h with rfl | rfl | rfl | rfl <;> cases mode <;> rfl

/-- Outside strings a unit goes on with what is read, or ends it and begins something else. -/
theorem lex_cons {mode : Lexing} (hmode : ∀ s, mode ≠ .string s) (c : UInt16) (rest : Text) :
    lex readNumber mode (c :: rest) =
      if mode.continues c then lex readNumber (mode.push c) rest
      else
        match mode.flush readNumber, Lexing.start c with
        | some ended, some (begun, mode) => (lex readNumber mode rest).map fun tokens => ended ++ (begun ++ tokens)
        | _, _ => none := by
  cases mode with
  | string s => exact absurd rfl (hmode s)
  | between => rw [lex] <;> simp
  | number t => rw [lex] <;> simp
  | word t => rw [lex] <;> simp

theorem lex_mark {c : UInt16} (h : isMark c = true) (rest : Text) :
    lex readNumber .between (c :: rest) = (lex readNumber .between rest).map fun tokens => .mark c :: tokens := by
  rw [lex_cons (by simp), continues_mark _ h, start_mark h]
  simp [Lexing.flush]

theorem lex_whitespace {c : UInt16} (h : whitespace c = true) (rest : Text) :
    lex readNumber .between (c :: rest) = lex readNumber .between rest := by
  rw [lex_cons (by simp), continues_whitespace _ h, start_whitespace h]
  simp [Lexing.flush]

/-- What is read ends before a mark or whitespace. -/
theorem lex_flush {mode : Lexing} (hmode : ∀ s, mode ≠ .string s) {ended : List Token}
    (hended : mode.flush readNumber = some ended) {r : Text} (hr : Ended r) :
    lex readNumber mode r = (lex readNumber .between r).map fun tokens => ended ++ tokens := by
  cases r with
  | nil =>
    have hnone : lex readNumber .between [] = some [] := rfl
    have hend : lex readNumber mode [] = mode.flush readNumber := by rw [lex]
    rw [hnone, hend, hended]
    simp
  | cons c r =>
    rcases hr c rfl with hc | hc
    · rw [lex_mark hc, lex_cons hmode, continues_mark _ hc, hended, start_mark hc]
      simp only [Bool.false_eq_true, if_false, Option.map_map]
      rfl
    · rw [lex_whitespace hc, lex_cons hmode, continues_whitespace _ hc, hended, start_whitespace hc]
      rfl

theorem lex_quote (t rest : Text) :
    lex readNumber .between (quote t ++ rest) = stringToken t (lex readNumber .between rest) := by
  have hstart : Lexing.start 34 = some ([], .string []) := rfl
  rw [quote, List.cons_append, lex_cons (by simp), hstart]
  simpa [Lexing.continues, Lexing.flush] using @lex_quoteBody readNumber [] t rest

theorem lex_numeric (t : Text) {u : Text} (hu : ∀ c ∈ u, numeric c = true) (rest : Text) :
    lex readNumber (.number t) (u ++ rest) = lex readNumber (.number (t ++ u)) rest := by
  induction u generalizing t with
  | nil => simp
  | cons c u ih =>
    have hc : Lexing.continues (.number t) c = true := by simp [Lexing.continues, numberUnit, hu c List.mem_cons_self]
    rw [List.cons_append, lex_cons (by simp), if_pos hc, Lexing.push, ih _ fun d hd => hu d (List.mem_cons_of_mem _ hd)]
    simp

theorem lex_numeral {n : Numeral} (hliteral : numberLiteral n.text = true) (hread : readNumber n.text = n) {r : Text}
    (hr : Ended r) :
    lex readNumber .between (n.text ++ r) = (lex readNumber .between r).map fun tokens => .leaf (.num n) :: tokens := by
  have hflush : (Lexing.number n.text).flush readNumber = some [.leaf (.num n)] := by
    rw [Lexing.flush, if_pos hliteral, hread]
  obtain ⟨c, u, hu⟩ := List.exists_cons_of_ne_nil n.nonempty
  have hnumeric := n.numeric
  rw [hu] at hnumeric
  have hstart : Lexing.start c = some ([], .number [c]) := by
    rw [Lexing.start, if_pos (by simp [numberUnit, hnumeric c List.mem_cons_self])]
  have hnumber : lex readNumber .between (n.text ++ r) = lex readNumber (.number n.text) r := by
    rw [hu, List.cons_append, lex_cons (by simp), hstart]
    have hrest := @lex_numeric readNumber [c] u (fun d hd => hnumeric d (List.mem_cons_of_mem _ hd)) r
    simpa [Lexing.continues, Lexing.flush] using hrest
  rw [hnumber, lex_flush (by simp) hflush hr]
  rfl

/-- A word that is a value is one token. -/
theorem lex_word {word : Text} {v : Json} (hv : literalWord word = some v) (hword : word.all letter = true)
    (hfirst : word.head?.any (fun c => !numberUnit c) = true) {r : Text} (hr : Ended r) :
    lex readNumber .between (word ++ r) = (lex readNumber .between r).map fun tokens => .leaf v :: tokens := by
  have hletters (t u : Text) (hu : ∀ c ∈ u, letter c = true) :
      lex readNumber (.word t) (u ++ r) = lex readNumber (.word (t ++ u)) r := by
    induction u generalizing t with
    | nil => simp
    | cons c u ih =>
      have hc : Lexing.continues (.word t) c = true := hu c List.mem_cons_self
      rw [List.cons_append, lex_cons (by simp), if_pos hc, Lexing.push, ih _ fun d hd => hu d (List.mem_cons_of_mem _ hd)]
      simp
  have hflush : (Lexing.word word).flush readNumber = some [.leaf v] := by rw [Lexing.flush, hv]; rfl
  have hread : lex readNumber .between (word ++ r) = lex readNumber (.word word) r := by
    cases word with
    | nil => cases hfirst
    | cons c u =>
      obtain ⟨hc, hu⟩ := List.forall_mem_cons.mp (List.all_eq_true.mp hword)
      have hstart : Lexing.start c = some ([], .word [c]) := by
        rw [Lexing.start, if_neg (by simpa using hfirst), if_pos hc]
      rw [List.cons_append, lex_cons (by simp), hstart]
      simpa [Lexing.continues, Lexing.flush] using hletters [c] u hu
  rw [hread, lex_flush (by simp) hflush hr]
  rfl

theorem itemsTail_marked (items : List Json) (r : Text) : Marked (Json.itemsTail items ++ r) := by
  cases items with
  | nil => rw [Json.itemsTail]; exact marked_cons rfl _
  | cons v rest => rw [Json.itemsTail]; exact marked_cons rfl _

theorem fieldsTail_marked (fields : List (Text × Json)) (r : Text) : Marked (Json.fieldsTail fields ++ r) := by
  cases fields with
  | nil => rw [Json.fieldsTail]; exact marked_cons rfl _
  | cons f rest => rw [Json.fieldsTail]; exact marked_cons rfl _

/-- Tokens in front of those of the rest of a text. -/
def inFront (tokens : List Token) (o : Option (List Token)) : Option (List Token) := o.map fun rest => tokens ++ rest

theorem inFront_append (first second : List Token) (o : Option (List Token)) :
    inFront (first ++ second) o = inFront first (inFront second o) := by
  cases o with
  | none => rfl
  | some rest => simp [inFront]

theorem lex_mark_front {c : UInt16} (h : isMark c = true) (rest : Text) :
    lex readNumber .between (c :: rest) = inFront [.mark c] (lex readNumber .between rest) := lex_mark h rest

theorem lex_quote_front (t rest : Text) :
    lex readNumber .between (quote t ++ rest) = inFront [.leaf (.str t)] (lex readNumber .between rest) := lex_quote t rest

namespace Json

mutual
/-- What is stringified is cut into its tokens. -/
theorem lex_stringify (v : Json) (hv : v.Held readNumber) {r : Text} (hr : Marked r) :
    lex readNumber .between (v.stringify ++ r) = inFront v.tokens (lex readNumber .between r) := by
  match v with
  | .null => exact lex_word rfl rfl rfl hr.ended
  | .bool true => exact lex_word rfl rfl rfl hr.ended
  | .bool false => exact lex_word rfl rfl rfl hr.ended
  | .num n => exact lex_numeral hv.1 hv.2 hr.ended
  | .str s => exact lex_quote_front s r
  | .arr [] =>
    rw [stringify, tokens, List.cons_append, lex_mark_front rfl, List.cons_append, lex_mark_front rfl, ← inFront_append]
    rfl
  | .arr (w :: rest) =>
    rw [stringify, tokens, List.cons_append, lex_mark_front rfl, List.append_assoc,
      lex_stringify w hv.1 (itemsTail_marked rest r), lex_itemsTail rest hv.2 r, ← inFront_append, ← inFront_append]
    rfl
  | .obj [] =>
    rw [stringify, tokens, List.cons_append, lex_mark_front rfl, List.cons_append, lex_mark_front rfl, ← inFront_append]
    rfl
  | .obj ((key, w) :: rest) =>
    rw [stringify, tokens, List.cons_append, lex_mark_front rfl, List.append_assoc, lex_quote_front, List.cons_append,
      lex_mark_front rfl, List.append_assoc, lex_stringify w hv.2.1 (fieldsTail_marked rest r),
      lex_fieldsTail rest hv.2.2 r, ← inFront_append, ← inFront_append, ← inFront_append, ← inFront_append]
    rfl

theorem lex_itemsTail (items : List Json) (h : HeldItems readNumber items) (r : Text) :
    lex readNumber .between (itemsTail items ++ r) = inFront (itemsTokens items) (lex readNumber .between r) := by
  match items with
  | [] => rw [itemsTail, itemsTokens, List.cons_append, lex_mark_front rfl]; rfl
  | w :: rest =>
    rw [itemsTail, itemsTokens, List.cons_append, lex_mark_front rfl, List.append_assoc,
      lex_stringify w h.1 (itemsTail_marked rest r), lex_itemsTail rest h.2 r, ← inFront_append, ← inFront_append]
    rfl

theorem lex_fieldsTail (fields : List (Text × Json)) (h : HeldFields readNumber fields) (r : Text) :
    lex readNumber .between (fieldsTail fields ++ r) = inFront (fieldsTokens fields) (lex readNumber .between r) := by
  match fields with
  | [] => rw [fieldsTail, fieldsTokens, List.cons_append, lex_mark_front rfl]; rfl
  | (key, w) :: rest =>
    rw [fieldsTail, fieldsTokens, List.cons_append, lex_mark_front rfl, List.append_assoc, lex_quote_front, List.cons_append,
      lex_mark_front rfl, List.append_assoc, lex_stringify w h.1 (fieldsTail_marked rest r),
      lex_fieldsTail rest h.2 r, ← inFront_append, ← inFront_append, ← inFront_append, ← inFront_append]
    rfl
end

end Json
end Tokens

/-! ### The values of tokens -/

namespace Json

theorem readTokens_cons {stack stack' : List Opened} {expect expect' : Expect} {t : Token}
    (h : readToken stack expect t = some (stack', expect')) (rest : List Token) :
    readTokens stack expect (t :: rest) = readTokens stack' expect' rest := by
  rw [readTokens, h]

/-- A property after all others is appended. -/
theorem putProperty_last {α : Type} {fields : List (Text × α)} {key : Text} {v : α} (h : Ordered (fields ++ [(key, v)])) :
    putProperty fields key v = fields ++ [(key, v)] := by
  have hbefore : ∀ f ∈ fields, f.1 ≠ key ∧ ∀ i, arrayIndex key = some i → below i f.1 = true :=
    fun f hf => (List.pairwise_append.mp h).2.2 f hf (key, v) List.mem_cons_self
  have hnew : fields.any (fun f => f.1 == key) = false := by
    simpa using fun (k : Text) (w : α) (hf : (k, w) ∈ fields) => (hbefore _ hf).1
  rw [putProperty, if_neg (by rw [hnew]; exact Bool.false_ne_true)]
  cases hindex : arrayIndex key with
  | none => rfl
  | some i =>
    have hall : ∀ f ∈ fields, below i f.1 = true := fun f hf => (hbefore f hf).2 i hindex
    simp only
    rw [List.takeWhile_eq_self_iff.mpr hall, List.dropWhile_eq_nil_iff.mpr hall]

/-- The tokens of a value do not begin with a closing bracket. -/
theorem tokens_head (v : Json) : ∃ t rest, v.tokens = t :: rest ∧ t ≠ .mark 93 := by
  cases v with
  | arr items => cases items <;> exact ⟨.mark 91, _, by rw [tokens], by simp⟩
  | obj fields =>
    cases fields with
    | nil => exact ⟨.mark 123, _, by rw [tokens], by simp⟩
    | cons f rest => exact ⟨.mark 123, _, by rw [tokens], by simp⟩
  | _ => exact ⟨.leaf _, [], by rw [tokens] <;> simp, by simp⟩

/-- After an opening bracket a value is the first item. -/
theorem readTokens_firstItem (stack : List Opened) (v : Json) (rest : List Token) :
    readTokens stack .firstItem (v.tokens ++ rest) = readTokens (.arr [] :: stack) .value (v.tokens ++ rest) := by
  obtain ⟨t, ts, ht, hne⟩ := v.tokens_head
  have hstep : readToken stack .firstItem t = readToken (.arr [] :: stack) .value t := by
    rw [readToken, readToken]
    exact hne
  rw [ht, List.cons_append, readTokens, readTokens, hstep]

mutual
/-- The tokens of a value are read as the value. -/
theorem readTokens_tokens {readNumber : Text → Numeral} (v : Json) (hv : v.Held readNumber) (stack : List Opened)
    (rest : List Token) : readTokens stack .value (v.tokens ++ rest) = readTokens stack (.after v) rest := by
  match v with
  | .null => exact readTokens_cons rfl rest
  | .bool b => exact readTokens_cons rfl rest
  | .num n => exact readTokens_cons rfl rest
  | .str s => exact readTokens_cons rfl rest
  | .arr [] => rw [tokens]; exact (readTokens_cons rfl _).trans (readTokens_cons rfl rest)
  | .arr (w :: items) =>
    rw [tokens, List.cons_append, readTokens_cons rfl, List.append_assoc, readTokens_firstItem,
      readTokens_tokens w hv.1, readTokens_items items hv.2]
    rfl
  | .obj [] => rw [tokens]; exact (readTokens_cons rfl _).trans (readTokens_cons rfl rest)
  | .obj ((key, w) :: fields) =>
    rw [tokens, List.cons_append, readTokens_cons rfl, List.cons_append, readTokens_cons rfl, List.cons_append,
      readTokens_cons rfl, List.append_assoc, readTokens_tokens w hv.2.1, readTokens_fields fields hv.2.2 [] hv.1]
    rfl

theorem readTokens_items {readNumber : Text → Numeral} (items : List Json) (h : HeldItems readNumber items)
    (stack : List Opened) (before : List Json) (v : Json) (rest : List Token) :
    readTokens (.arr before :: stack) (.after v) (itemsTokens items ++ rest) =
      readTokens stack (.after (.arr (before ++ v :: items))) rest := by
  match items with
  | [] => rw [itemsTokens]; exact readTokens_cons rfl rest
  | w :: items =>
    rw [itemsTokens, List.cons_append, readTokens_cons rfl, List.append_assoc, readTokens_tokens w h.1,
      readTokens_items items h.2, List.append_assoc]
    rfl

theorem readTokens_fields {readNumber : Text → Numeral} (fields : List (Text × Json)) (h : HeldFields readNumber fields)
    (before : List (Text × Json)) {key : Text} {v : Json} (hordered : Ordered (before ++ (key, v) :: fields))
    (stack : List Opened) (rest : List Token) :
    readTokens (.obj before key :: stack) (.after v) (fieldsTokens fields ++ rest) =
      readTokens stack (.after (.obj (before ++ (key, v) :: fields))) rest := by
  have hput : putProperty before key v = before ++ [(key, v)] :=
    putProperty_last (hordered.sublist (List.Sublist.append_left (List.Sublist.cons_cons _ (List.nil_sublist _)) _))
  match fields with
  | [] =>
    rw [fieldsTokens, List.cons_append, readTokens_cons rfl, hput]
    rfl
  | (key', w) :: fields =>
    have hmore : Ordered ((before ++ [(key, v)]) ++ (key', w) :: fields) := by simpa using hordered
    rw [fieldsTokens, List.cons_append, readTokens_cons rfl, hput, List.cons_append, readTokens_cons rfl, List.cons_append,
      readTokens_cons rfl, List.append_assoc, readTokens_tokens w h.1, readTokens_fields fields h.2 _ hmore, List.append_assoc]
    rfl
end

/-- `JSON.parse` reads back what `JSON.stringify` writes. -/
theorem parse_stringify {readNumber : Text → Numeral} {v : Json} (hv : v.Held readNumber) :
    parse readNumber v.stringify = some v := by
  have hend : Marked [] := fun c hc => (nomatch hc)
  have hlex := lex_stringify v hv hend
  rw [List.append_nil] at hlex
  have hread := readTokens_tokens v hv [] []
  rw [List.append_nil] at hread
  rw [parse, hlex]
  simp only [lex, Lexing.flush, inFront, Option.map_some, Option.bind_some, List.append_nil]
  rw [hread]
  rfl

end Json
end GalaxiaAin.Library
