import GalaxiaAin.Library.Json

/-! Bytes and their text forms: UTF-8 with replacement of what is ill-formed, and
hexadecimal. Encoding and decoding a string again gives its well-formed variant. -/
namespace GalaxiaAin.Library

abbrev Bytes := List UInt8

/-! ### Hexadecimal -/

def hex (bytes : Bytes) : Text := bytes.flatMap fun b => [hexDigit (b.toNat / 16), hexDigit (b.toNat % 16)]

/-- The value of a hexadecimal digit of either case. -/
def digitOf (c : UInt16) : Option Nat :=
  if 48 ≤ c ∧ c ≤ 57 then some (c.toNat - 48)
  else if 97 ≤ c ∧ c ≤ 102 then some (c.toNat - 87)
  else if 65 ≤ c ∧ c ≤ 70 then some (c.toNat - 55)
  else none

/-- `Buffer.from(t, 'hex')`: it stops at the first pair that is no byte. -/
def unhex : Text → Bytes
  | c :: d :: rest =>
    match digitOf c, digitOf d with
    | some a, some b => UInt8.ofNat (a * 16 + b) :: unhex rest
    | _, _ => []
  | _ => []

private theorem digitOf_hexDigit {n : Nat} (h : n < 16) : digitOf (hexDigit n) = some n := by
  interval_cases n <;> decide

theorem unhex_hex (bytes : Bytes) : unhex (hex bytes) = bytes := by
  induction bytes with
  | nil => rfl
  | cons b rest ih =>
    have hb := b.toNat_lt
    have hcons : hex (b :: rest) = hexDigit (b.toNat / 16) :: hexDigit (b.toNat % 16) :: hex rest := rfl
    have hval : b.toNat / 16 * 16 + b.toNat % 16 = b.toNat := by omega
    rw [hcons, unhex, digitOf_hexDigit (by omega), digitOf_hexDigit (by omega)]
    simp only [hval, UInt8.ofNat_toNat, ih]

theorem length_hex (bytes : Bytes) : (hex bytes).length = 2 * bytes.length := by
  induction bytes with
  | nil => rfl
  | cons b rest ih =>
    have hcons : hex (b :: rest) = hexDigit (b.toNat / 16) :: hexDigit (b.toNat % 16) :: hex rest := rfl
    rw [hcons, List.length_cons, List.length_cons, List.length_cons, ih]
    omega

/-- A colon, as any unit that is no digit, does not occur in hexadecimal text. -/
theorem hex_plain {c : UInt16} (hc : digitOf c = none) (bytes : Bytes) : c ∉ hex bytes := by
  intro h
  obtain ⟨b, _, hb⟩ := List.mem_flatMap.mp h
  have hlt := b.toNat_lt
  have hdigit {n : Nat} (hn : n < 16) : c ≠ hexDigit n := by
    rintro rfl
    rw [digitOf_hexDigit hn] at hc
    cases hc
  rcases List.mem_cons.mp hb with hb | hb
  · exact hdigit (by omega) hb
  · exact hdigit (by omega) (List.mem_singleton.mp hb)

/-! ### UTF-8 -/

/-- The bytes of a code point. -/
def encodePoint (point : Nat) : Bytes :=
  if point < 0x80 then [UInt8.ofNat point]
  else if point < 0x800 then [UInt8.ofNat (0xC0 + point / 64), UInt8.ofNat (0x80 + point % 64)]
  else if point < 0x10000 then
    [UInt8.ofNat (0xE0 + point / 4096), UInt8.ofNat (0x80 + point / 64 % 64), UInt8.ofNat (0x80 + point % 64)]
  else
    [UInt8.ofNat (0xF0 + point / 262144), UInt8.ofNat (0x80 + point / 4096 % 64),
      UInt8.ofNat (0x80 + point / 64 % 64), UInt8.ofNat (0x80 + point % 64)]

/-- A unit standing alone; a lone surrogate counts as U+FFFD. -/
def lonePoint (c : UInt16) : Nat := if highSurrogate c || lowSurrogate c then 0xFFFD else c.toNat

/-- The code point of a surrogate pair. -/
def pairPoint (c d : UInt16) : Nat := 0x10000 + (c.toNat - 0xD800) * 1024 + (d.toNat - 0xDC00)

def codePoints : Text → List Nat
  | [] => []
  | [c] => [lonePoint c]
  | c :: d :: rest =>
    if highSurrogate c && lowSurrogate d then pairPoint c d :: codePoints rest
    else lonePoint c :: codePoints (d :: rest)

/-- `Buffer.from(t, 'utf8')`. -/
def utf8 (t : Text) : Bytes := (codePoints t).flatMap encodePoint

/-- The units of a code point. -/
def utf16 (point : Nat) : Text :=
  if point < 0x10000 then [UInt16.ofNat point]
  else [UInt16.ofNat (0xD800 + (point - 0x10000) / 1024), UInt16.ofNat (0xDC00 + (point - 0x10000) % 1024)]

/-- `t.toWellFormed()`. -/
def toWellFormed (t : Text) : Text := (codePoints t).flatMap utf16

/-- Between two bytes: the code point so far, the bytes it still needs, and the range
the next one must be in. -/
structure Utf8State where
  point : Nat
  needed : Nat
  lower : Nat
  upper : Nat

def Utf8State.start : Utf8State := ⟨0, 0, 0x80, 0xBF⟩

/-- The first byte of a code point. -/
def Utf8State.first (b : Nat) : Utf8State × Text :=
  if b < 0x80 then (start, [UInt16.ofNat b])
  else if 0xC2 ≤ b ∧ b ≤ 0xDF then (⟨b - 0xC0, 1, 0x80, 0xBF⟩, [])
  else if 0xE0 ≤ b ∧ b ≤ 0xEF then
    (⟨b - 0xE0, 2, if b = 0xE0 then 0xA0 else 0x80, if b = 0xED then 0x9F else 0xBF⟩, [])
  else if 0xF0 ≤ b ∧ b ≤ 0xF4 then
    (⟨b - 0xF0, 3, if b = 0xF0 then 0x90 else 0x80, if b = 0xF4 then 0x8F else 0xBF⟩, [])
  else (start, [0xFFFD])

/-- A byte out of range ends the code point before it and starts the next. -/
def Utf8State.next (s : Utf8State) (b : Nat) : Utf8State × Text :=
  if s.needed = 0 then first b
  else if b < s.lower ∨ s.upper < b then ((first b).1, 0xFFFD :: (first b).2)
  else if s.needed = 1 then (start, utf16 (s.point * 64 + (b - 0x80)))
  else (⟨s.point * 64 + (b - 0x80), s.needed - 1, 0x80, 0xBF⟩, [])

def Utf8State.decode (s : Utf8State) : Bytes → Text
  | [] => if s.needed = 0 then [] else [0xFFFD]
  | b :: rest => (s.next b.toNat).2 ++ (s.next b.toNat).1.decode rest

/-- The text a decoder makes of bytes. -/
def decodeUtf8 (bytes : Bytes) : Text := Utf8State.start.decode bytes

private theorem byte_toNat {n : Nat} (h : n < 256) : (UInt8.ofNat n).toNat = n := by
  rw [UInt8.toNat_ofNat']; omega

namespace Utf8State

private theorem decode_cons {s : Utf8State} {n : Nat} (h : n < 256) (rest : Bytes) :
    s.decode (UInt8.ofNat n :: rest) = (s.next n).2 ++ (s.next n).1.decode rest := by
  rw [decode, byte_toNat h]

private theorem next_start (n : Nat) : start.next n = first n := rfl

/-- A byte in range that is not the last. -/
private theorem next_more {s : Utf8State} {b : Nat} (hn : 1 < s.needed) (hl : s.lower ≤ b) (hu : b ≤ s.upper) :
    s.next b = (⟨s.point * 64 + (b - 0x80), s.needed - 1, 0x80, 0xBF⟩, []) := by
  rw [next, if_neg (by omega), if_neg (by omega), if_neg (by omega)]

private theorem next_last {s : Utf8State} {b : Nat} (hn : s.needed = 1) (hl : s.lower ≤ b) (hu : b ≤ s.upper) :
    s.next b = (start, utf16 (s.point * 64 + (b - 0x80))) := by
  rw [next, if_neg (by omega), if_neg (by omega), if_pos hn]

end Utf8State

/-- The code points of text: no surrogates. -/
def Scalar (point : Nat) : Prop := point < 0xD800 ∨ (0xE000 ≤ point ∧ point < 0x110000)

open Utf8State in
theorem decode_encodePoint {point : Nat} (h : Scalar point) (rest : Bytes) :
    start.decode (encodePoint point ++ rest) = utf16 point ++ start.decode rest := by
  unfold Scalar at h
  unfold encodePoint
  split
  · rename_i h1
    rw [List.singleton_append, decode_cons (by omega), next_start, first, if_pos h1, utf16, if_pos (by omega)]
  split
  · rename_i h1 h2
    rw [List.cons_append, List.singleton_append, decode_cons (by omega), next_start, first, if_neg (by omega),
      if_pos (by omega), List.nil_append, decode_cons (by omega), next_last rfl (by dsimp only; omega) (by dsimp only; omega)]
    have hp : (0xC0 + point / 64 - 0xC0) * 64 + (0x80 + point % 64 - 0x80) = point := by omega
    rw [hp]
  split
  · rename_i h1 h2 h3
    have hlow : (if 0xE0 + point / 4096 = 0xE0 then 0xA0 else 0x80) ≤ 0x80 + point / 64 % 64 := by
      split <;> omega
    have hup : 0x80 + point / 64 % 64 ≤ (if 0xE0 + point / 4096 = 0xED then 0x9F else 0xBF) := by
      split <;> omega
    rw [List.cons_append, List.cons_append, List.singleton_append, decode_cons (by omega), next_start, first,
      if_neg (by omega), if_neg (by omega), if_pos (by omega), List.nil_append, decode_cons (by omega),
      next_more (by dsimp only; omega) hlow hup, List.nil_append, decode_cons (by omega),
      next_last rfl (by dsimp only; omega) (by dsimp only; omega)]
    have hp : ((0xE0 + point / 4096 - 0xE0) * 64 + (0x80 + point / 64 % 64 - 0x80)) * 64 +
        (0x80 + point % 64 - 0x80) = point := by omega
    rw [hp]
  · rename_i h1 h2 h3
    have hlow : (if 0xF0 + point / 262144 = 0xF0 then 0x90 else 0x80) ≤ 0x80 + point / 4096 % 64 := by
      split <;> omega
    have hup : 0x80 + point / 4096 % 64 ≤ (if 0xF0 + point / 262144 = 0xF4 then 0x8F else 0xBF) := by
      split <;> omega
    rw [List.cons_append, List.cons_append, List.cons_append, List.singleton_append, decode_cons (by omega), next_start,
      first, if_neg (by omega), if_neg (by omega), if_neg (by omega), if_pos (by omega), List.nil_append,
      decode_cons (by omega), next_more (by dsimp only; omega) hlow hup, List.nil_append, decode_cons (by omega),
      next_more (by dsimp only; omega) (by dsimp only; omega) (by dsimp only; omega), List.nil_append,
      decode_cons (by omega), next_last rfl (by dsimp only; omega) (by dsimp only; omega)]
    have hp : (((0xF0 + point / 262144 - 0xF0) * 64 + (0x80 + point / 4096 % 64 - 0x80)) * 64 +
        (0x80 + point / 64 % 64 - 0x80)) * 64 + (0x80 + point % 64 - 0x80) = point := by omega
    rw [hp]

private theorem lonePoint_scalar (c : UInt16) : Scalar (lonePoint c) := by
  have hc := c.toNat_lt
  unfold lonePoint Scalar
  split
  · omega
  · rename_i h
    simp only [highSurrogate, lowSurrogate, Bool.or_eq_true, Bool.and_eq_true, decide_eq_true_eq, UInt16.le_iff_toNat_le] at h
    simp at h
    omega

private theorem pairPoint_scalar {c d : UInt16} (h : (highSurrogate c && lowSurrogate d) = true) : Scalar (pairPoint c d) := by
  simp only [highSurrogate, lowSurrogate, Bool.and_eq_true, decide_eq_true_eq, UInt16.le_iff_toNat_le] at h
  simp at h
  unfold pairPoint Scalar
  omega

theorem codePoints_scalar (t : Text) : ∀ point ∈ codePoints t, Scalar point := by
  induction t using codePoints.induct with
  | case1 => nofun
  | case2 c => intro point hp; rw [List.mem_singleton.mp hp]; exact lonePoint_scalar c
  | case3 c d rest h ih =>
    rw [codePoints, if_pos h]
    exact List.forall_mem_cons.mpr ⟨pairPoint_scalar h, ih⟩
  | case4 c d rest h ih =>
    rw [codePoints, if_neg h]
    exact List.forall_mem_cons.mpr ⟨lonePoint_scalar c, ih⟩

/-- A code point takes a byte, and one outside the basic plane takes four. -/
theorem encodePoint_length (point : Nat) : 1 ≤ (encodePoint point).length ∧ (0x10000 ≤ point → (encodePoint point).length = 4) := by
  unfold encodePoint
  split
  · exact ⟨by simp, by omega⟩
  split
  · exact ⟨by simp, by omega⟩
  split
  · exact ⟨by simp, by omega⟩
  · exact ⟨by simp, fun _ => rfl⟩

/-- A text has no more units than bytes. -/
theorem length_le_utf8 (t : Text) : t.length ≤ (utf8 t).length := by
  induction t using codePoints.induct with
  | case1 => exact Nat.zero_le _
  | case2 c => simpa [utf8, codePoints] using (encodePoint_length (lonePoint c)).1
  | case3 c d rest h ih =>
    have hpair := (encodePoint_length (pairPoint c d)).2 (by unfold pairPoint; omega)
    have hcons : utf8 (c :: d :: rest) = encodePoint (pairPoint c d) ++ utf8 rest := by
      rw [utf8, codePoints, if_pos h]
      rfl
    rw [hcons, List.length_append, hpair, List.length_cons, List.length_cons]
    omega
  | case4 c d rest h ih =>
    have hlone := (encodePoint_length (lonePoint c)).1
    have hcons : utf8 (c :: d :: rest) = encodePoint (lonePoint c) ++ utf8 (d :: rest) := by
      rw [utf8, codePoints, if_neg h]
      rfl
    rw [hcons, List.length_append, List.length_cons]
    omega

/-- What comes back from UTF-8 is the text with lone surrogates replaced. -/
theorem decodeUtf8_utf8 (t : Text) : decodeUtf8 (utf8 t) = toWellFormed t := by
  unfold decodeUtf8 utf8 toWellFormed
  have h := codePoints_scalar t
  generalize codePoints t = points at h ⊢
  induction points with
  | nil => rfl
  | cons point rest ih =>
    rw [List.flatMap_cons, List.flatMap_cons, decode_encodePoint (h point (.head _)),
      ih fun p hp => h p (.tail _ hp)]

end GalaxiaAin.Library
