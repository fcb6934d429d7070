import GalaxiaAin.Library.Utf8

/-! Texts without lone surrogates. They survive UTF-8, and what `JSON.stringify` writes is one. -/
namespace GalaxiaAin.Library

def surrogate (c : UInt16) : Bool := highSurrogate c || lowSurrogate c

/-- A text whose surrogates come in pairs. -/
inductive WellFormed : Text → Prop
  | nil : WellFormed []
  | unit {c : UInt16} {rest : Text} : surrogate c = false → WellFormed rest → WellFormed (c :: rest)
  | pair {c d : UInt16} {rest : Text} : (highSurrogate c && lowSurrogate d) = true → WellFormed rest →
      WellFormed (c :: d :: rest)

namespace WellFormed

theorem append {s t : Text} (hs : WellFormed s) (ht : WellFormed t) : WellFormed (s ++ t) := by
  induction hs with
  | nil => exact ht
  | unit hc _ ih => exact .unit hc ih
  | pair hpair _ ih => exact .pair hpair ih

theorem of_units {t : Text} (h : ∀ c ∈ t, surrogate c = false) : WellFormed t := by
  induction t with
  | nil => exact .nil
  | cons c rest ih => exact .unit (h c (.head _)) (ih fun d hd => h d (.tail _ hd))

/-- For texts of fixed units. -/
theorem of_all {t : Text} (h : (t.all fun c => !surrogate c) = true) : WellFormed t :=
  of_units fun c hc => by simpa using List.all_eq_true.mp h c hc

end WellFormed

theorem codePoints_unit {c : UInt16} (hc : surrogate c = false) (rest : Text) :
    codePoints (c :: rest) = c.toNat :: codePoints rest := by
  have hlone : lonePoint c = c.toNat := if_neg (by simpa [surrogate] using hc)
  cases rest with
  | nil => exact congrArg (fun point => [point]) hlone
  | cons d rest =>
    have hhigh : highSurrogate c = false := by
      rw [surrogate, Bool.or_eq_false_iff] at hc
      exact hc.1
    rw [codePoints, if_neg (by simp [hhigh]), hlone]

theorem utf16_unit (c : UInt16) : utf16 c.toNat = [c] := by
  have hc := c.toNat_lt
  rw [utf16, if_pos (by omega), UInt16.ofNat_toNat]

theorem utf16_pair {c d : UInt16} (h : (highSurrogate c && lowSurrogate d) = true) : utf16 (pairPoint c d) = [c, d] := by
  simp only [highSurrogate, lowSurrogate, Bool.and_eq_true, decide_eq_true_eq, UInt16.le_iff_toNat_le] at h
  simp at h
  have hhigh : 0xD800 + (pairPoint c d - 0x10000) / 1024 = c.toNat := by
    unfold pairPoint
    omega
  have hlow : 0xDC00 + (pairPoint c d - 0x10000) % 1024 = d.toNat := by
    unfold pairPoint
    omega
  rw [utf16, if_neg (by unfold pairPoint; omega), hhigh, hlow, UInt16.ofNat_toNat, UInt16.ofNat_toNat]

theorem WellFormed.toWellFormed {t : Text} (h : WellFormed t) : toWellFormed t = t := by
  unfold Library.toWellFormed
  induction h with
  | nil => rfl
  | unit hc _ ih => rw [codePoints_unit hc, List.flatMap_cons, utf16_unit, ih, List.singleton_append]
  | pair hpair _ ih => rw [codePoints, if_pos hpair, List.flatMap_cons, utf16_pair hpair, ih]; rfl

/-- A well-formed text comes back from its bytes. -/
theorem WellFormed.decodeUtf8_utf8 {t : Text} (h : WellFormed t) : decodeUtf8 (utf8 t) = t :=
  (Library.decodeUtf8_utf8 t).trans h.toWellFormed

/-! ### JSON texts -/

theorem surrogate_hexDigit {n : Nat} (h : n < 16) : surrogate (hexDigit n) = false := by
  revert n
  decide

theorem wellFormed_unicodeEscape (c : UInt16) : WellFormed (unicodeEscape c) := by
  have hc := c.toNat_lt
  refine .unit (by decide) (.unit (by decide) (.unit ?_ (.unit ?_ (.unit ?_ (.unit ?_ .nil)))))
  all_goals exact surrogate_hexDigit (by omega)

theorem wellFormed_escapeUnit {c : UInt16} (hc : surrogate c = false) : WellFormed (escapeUnit c) := by
  unfold escapeUnit
  split_ifs
  all_goals first
    | exact .of_all (by decide)
    | exact wellFormed_unicodeEscape c
    | exact .unit hc .nil

theorem wellFormed_quoteBody (s : Text) : WellFormed (quoteBody s) := by
  induction s using quoteBody.induct with
  | case1 => exact .nil
  | case2 c h =>
    rw [quoteBody, if_pos h]
    exact wellFormed_unicodeEscape c
  | case3 c h =>
    rw [quoteBody, if_neg h]
    exact wellFormed_escapeUnit (by simpa [surrogate] using h)
  | case4 c d rest h ih =>
    rw [quoteBody, if_pos h]
    exact .pair h ih
  | case5 c d rest h h' ih =>
    rw [quoteBody, if_neg h, if_pos h']
    exact (wellFormed_unicodeEscape c).append ih
  | case6 c d rest h h' ih =>
    rw [quoteBody, if_neg h, if_neg h']
    exact (wellFormed_escapeUnit (by simpa [surrogate] using h')).append ih

theorem wellFormed_quote (s : Text) : WellFormed (quote s) :=
  .unit (by decide) ((wellFormed_quoteBody s).append (.of_all (by decide)))

theorem numeric_plain {c : UInt16} (h : numeric c = true) : surrogate c = false := by
  have hsmall : c.toNat ≤ 101 := by
    simp only [numeric, Bool.or_eq_true, Bool.and_eq_true, decide_eq_true_eq, beq_iff_eq, UInt16.le_iff_toNat_le] at h
    rcases h with (((⟨-, h⟩ | rfl) | rfl) | rfl) | rfl
    · exact h.trans (by decide)
    all_goals decide
  rw [surrogate, Bool.or_eq_false_iff, highSurrogate, lowSurrogate]
  simp only [Bool.and_eq_false_iff, decide_eq_false_iff_not, UInt16.le_iff_toNat_le]
  exact ⟨.inl fun hle => absurd (hle.trans hsmall) (by decide), .inl fun hle => absurd (hle.trans hsmall) (by decide)⟩

namespace Json

mutual
theorem wellFormed_stringify (v : Json) : WellFormed v.stringify := by
  match v with
  | .null => exact .of_all (by decide)
  | .bool true => exact .of_all (by decide)
  | .bool false => exact .of_all (by decide)
  | .num n => exact .of_units fun c hc => numeric_plain (n.numeric c hc)
  | .str s => exact wellFormed_quote s
  | .arr [] => exact .of_all (by decide)
  | .arr (v :: rest) =>
    rw [stringify]
    exact .unit (by decide) ((wellFormed_stringify v).append (wellFormed_itemsTail rest))
  | .obj [] => exact .of_all (by decide)
  | .obj ((key, v) :: rest) =>
    rw [stringify]
    exact .unit (by decide) ((wellFormed_quote key).append
      (.unit (by decide) ((wellFormed_stringify v).append (wellFormed_fieldsTail rest))))

theorem wellFormed_itemsTail (items : List Json) : WellFormed (itemsTail items) := by
  match items with
  | [] => exact .of_all (by decide)
  | v :: rest =>
    rw [itemsTail]
    exact .unit (by decide) ((wellFormed_stringify v).append (wellFormed_itemsTail rest))

theorem wellFormed_fieldsTail (fields : List (Text × Json)) : WellFormed (fieldsTail fields) := by
  match fields with
  | [] => exact .of_all (by decide)
  | (key, v) :: rest =>
    rw [fieldsTail]
    exact .unit (by decide) ((wellFormed_quote key).append
      (.unit (by decide) ((wellFormed_stringify v).append (wellFormed_fieldsTail rest))))
end

end Json
end GalaxiaAin.Library
