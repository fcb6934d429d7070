import GalaxiaAin.Library.Numbers

/-! IP addresses and the texts that a URL parser and a resolver write for them. -/
namespace GalaxiaAin.Library

structure IPv4 where
  a : UInt8
  b : UInt8
  c : UInt8
  d : UInt8
  deriving DecidableEq

/-- An address as its eight pieces. -/
structure IPv6 where
  w0 : UInt16
  w1 : UInt16
  w2 : UInt16
  w3 : UInt16
  w4 : UInt16
  w5 : UInt16
  w6 : UInt16
  w7 : UInt16
  deriving DecidableEq

def octet (n : UInt8) : Text := decimal n.toNat

/-- The dotted form. -/
def IPv4.text (ip : IPv4) : Text := octet ip.a ++ 46 :: (octet ip.b ++ 46 :: (octet ip.c ++ 46 :: octet ip.d))

/-- The hexadecimal digits of a piece, in lower case and without leading zeros. -/
def hextet (w : UInt16) : Text :=
  if w = 0 then [48] else (Nat.digits 16 w.toNat).reverse.map hexDigit

namespace IPv6

def words (ip : IPv6) : List UInt16 := [ip.w0, ip.w1, ip.w2, ip.w3, ip.w4, ip.w5, ip.w6, ip.w7]

/-- The number of zero pieces from an index on. -/
def zeroRun (words : List UInt16) (i : Nat) : Nat := ((words.drop i).takeWhile (· == 0)).length

/-- Where the first longest run of more than one zero piece starts. -/
def compress (words : List UInt16) : Option Nat :=
  (List.range words.length).foldl (fun best i =>
    if 1 < zeroRun words i && best.all fun j => decide (zeroRun words j < zeroRun words i) then some i else best) none

/-- The pieces from an index on; `skip` inside the run that is left out. -/
def pieces (compress : Option Nat) : Nat → Bool → List UInt16 → Text
  | _, _, [] => []
  | i, skip, w :: rest =>
    if skip && w == 0 then pieces compress (i + 1) true rest
    else if compress = some i then (if i = 0 then [58, 58] else [58]) ++ pieces compress (i + 1) true rest
    else hextet w ++ (if rest.isEmpty then [] else [58]) ++ pieces compress (i + 1) false rest

/-- The form the URL serializer writes. -/
def text (ip : IPv6) : Text := pieces (compress ip.words) 0 false ip.words

/-- The IPv4 address in the last two pieces. -/
def carried (ip : IPv6) : IPv4 :=
  ⟨(ip.w6 >>> 8).toUInt8, ip.w6.toUInt8, (ip.w7 >>> 8).toUInt8, ip.w7.toUInt8⟩

/-- An address of ::ffff:0:0/96. -/
def mapped (ip : IPv6) : Bool :=
  ip.w0 == 0 && ip.w1 == 0 && ip.w2 == 0 && ip.w3 == 0 && ip.w4 == 0 && ip.w5 == 0xffff

/-- An address of ::/96 other than :: and ::1. -/
def compatible (ip : IPv6) : Bool :=
  ip.w0 == 0 && ip.w1 == 0 && ip.w2 == 0 && ip.w3 == 0 && ip.w4 == 0 && ip.w5 == 0 &&
    !(ip.w6 == 0 && (ip.w7 == 0 || ip.w7 == 1))

/-- The form `inet_ntop` writes, which resolvers answer with: dotted at the end for the
addresses that carry an IPv4 address. -/
def resolved (ip : IPv6) : Text :=
  if ip.mapped then units "::ffff:" ++ ip.carried.text
  else if ip.compatible then units "::" ++ ip.carried.text
  else ip.text

end IPv6

/-! ### Ranges -/

/-- Unspecified, loopback, private or link-local. -/
def IPv4.Internal (ip : IPv4) : Prop :=
  ip = ⟨0, 0, 0, 0⟩ ∨ ip.a = 127 ∨ ip.a = 10 ∨ (ip.a = 172 ∧ 16 ≤ ip.b ∧ ip.b ≤ 31) ∨ (ip.a = 192 ∧ ip.b = 168) ∨
    (ip.a = 169 ∧ ip.b = 254)

instance (ip : IPv4) : Decidable ip.Internal := by unfold IPv4.Internal; infer_instance

/-- An address in fe80::/10. -/
def IPv6.LinkLocal (ip : IPv6) : Prop := 0xfe80 ≤ ip.w0 ∧ ip.w0 ≤ 0xfebf

/-- The same ranges; an IPv4-mapped address counts as the address it carries. -/
def IPv6.Internal (ip : IPv6) : Prop :=
  ip = ⟨0, 0, 0, 0, 0, 0, 0, 0⟩ ∨ ip = ⟨0, 0, 0, 0, 0, 0, 0, 1⟩ ∨ (0xfc00 ≤ ip.w0 ∧ ip.w0 ≤ 0xfdff) ∨ ip.LinkLocal ∨
    (ip.mapped = true ∧ ip.carried.Internal)

/-! ### The dotted form -/

theorem octet_injective : Function.Injective octet := fun _ _ h => UInt8.toNat_inj.mp (decimal_injective h)

theorem octet_digits {n : UInt8} {c : UInt16} (h : c ∈ octet n) : isDigit c = true := by
  unfold octet decimal at h
  split at h
  · rw [List.mem_singleton.mp h]
    decide
  · obtain ⟨d, hd, rfl⟩ := List.mem_map.mp h
    have hlt := Nat.digits_lt_base (by omega : 1 < 10) (List.mem_reverse.mp hd)
    interval_cases d <;> decide

theorem dot_notMem_octet (n : UInt8) : (46 : UInt16) ∉ octet n := fun h => by
  have := octet_digits h
  revert this
  decide

/-- A label with its end is a prefix when it is the first label. -/
theorem label_prefix_iff {x : UInt16} {p q d rest : Text} (hp : x ∉ p) (hd : x ∉ d) :
    (p ++ x :: q).isPrefixOf (d ++ x :: rest) = true ↔ p = d ∧ q.isPrefixOf rest = true := by
  induction p generalizing d with
  | nil =>
    cases d with
    | nil => simp
    | cons y d => simp only [List.nil_append, List.cons_append, List.isPrefixOf_cons_cons, Bool.and_eq_true, beq_iff_eq]; grind
  | cons z p ih =>
    simp only [List.mem_cons, not_or] at hp
    cases d with
    | nil => simp only [List.nil_append, List.cons_append, List.isPrefixOf_cons_cons, Bool.and_eq_true, beq_iff_eq]; grind
    | cons y d =>
      simp only [List.mem_cons, not_or] at hd
      simp only [List.cons_append, List.isPrefixOf_cons_cons, Bool.and_eq_true, beq_iff_eq, ih hp.2 hd.2, List.cons.injEq]
      tauto

theorem IPv4.text_split (ip : IPv4) : ip.text.splitOn 46 = [octet ip.a, octet ip.b, octet ip.c, octet ip.d] := by
  have hdot : ∀ l ∈ [octet ip.a, octet ip.b, octet ip.c, octet ip.d], (46 : UInt16) ∉ l := by
    simp [dot_notMem_octet]
  rw [← List.splitOn_intercalate (46 : UInt16) hdot (by simp)]
  simp [IPv4.text, List.intercalate]

theorem IPv4.text_injective : Function.Injective IPv4.text := by
  intro x y h
  have hsplit := congrArg (fun t : Text => t.splitOn 46) h
  simp only [IPv4.text_split, List.cons.injEq, and_true] at hsplit
  obtain ⟨ha, hb, hc, hd⟩ := hsplit
  cases x
  cases y
  simp only [IPv4.mk.injEq]
  exact ⟨octet_injective ha, octet_injective hb, octet_injective hc, octet_injective hd⟩

theorem stringToNumber_octet (n : UInt8) : stringToNumber (octet n) = .finite n.toNat := by
  have h : ∀ n : Fin 256, stringToNumber (decimal n) = .finite (n : Nat) := by decide +kernel
  exact h ⟨n.toNat, n.toNat_lt⟩

/-! ### The hexadecimal forms -/

namespace IPv6

theorem compress_run {words : List UInt16} {i : Nat} (h : compress words = some i) : 1 < zeroRun words i := by
  have hfold : ∀ (l : List Nat) (best : Option Nat), (∀ j, best = some j → 1 < zeroRun words j) →
      ∀ j, l.foldl (fun best i =>
        if 1 < zeroRun words i && best.all fun j => decide (zeroRun words j < zeroRun words i) then some i else best)
        best = some j → 1 < zeroRun words j := by
    intro l
    induction l with
    | nil => exact fun best hbest => hbest
    | cons k l ih =>
      intro best hbest
      rw [List.foldl_cons]
      apply ih
      intro j hj
      split at hj
      · rename_i hk
        cases hj
        rw [Bool.and_eq_true, decide_eq_true_eq] at hk
        exact hk.1
      · exact hbest j hj
  exact hfold _ _ (fun j hj => by cases hj) i h

/-- A first piece that is not zero is written first. -/
theorem text_of_head {ip : IPv6} (h : ip.w0 ≠ 0) : ∃ rest, ip.text = hextet ip.w0 ++ 58 :: rest := by
  have hc : compress ip.words ≠ some 0 := by
    intro hc
    have hrun := compress_run hc
    simp [zeroRun, words, h] at hrun
  unfold text
  generalize compress ip.words = start at hc
  refine ⟨pieces start 1 false [ip.w1, ip.w2, ip.w3, ip.w4, ip.w5, ip.w6, ip.w7], ?_⟩
  rw [words, pieces]
  simp [hc]

theorem mapped_words {ip : IPv6} (h : ip.mapped = true) : ip = ⟨0, 0, 0, 0, 0, 0xffff, ip.w6, ip.w7⟩ := by
  simp only [mapped, Bool.and_eq_true, beq_iff_eq] at h
  obtain ⟨⟨⟨⟨⟨h0, h1⟩, h2⟩, h3⟩, h4⟩, h5⟩ := h
  cases ip
  simp_all

theorem compress_mapped (a b : UInt16) : compress [0, 0, 0, 0, 0, 0xffff, a, b] = some 0 := by
  have hrange : List.range 8 = [0, 1, 2, 3, 4, 5, 6, 7] := rfl
  by_cases ha : a = 0 <;> by_cases hb : b = 0 <;> simp [compress, zeroRun, hrange, ha, hb]

theorem text_mapped {ip : IPv6} (h : ip.mapped = true) : ∃ rest, ip.text = units "::ffff:" ++ rest := by
  rw [mapped_words h]
  refine ⟨pieces (some 0) 6 false [ip.w6, ip.w7], ?_⟩
  simp only [text, words, compress_mapped]
  rfl

theorem resolved_of_head {ip : IPv6} (h : ip.w0 ≠ 0) : ip.resolved = ip.text := by
  simp [resolved, mapped, compatible, h]

end IPv6

/-- What a hexadecimal form is written with. -/
def hexUnit (c : UInt16) : Bool := isDigit c || (97 ≤ c && c ≤ 102) || c == 58

theorem hexUnit_hextet {w c : UInt16} (h : c ∈ hextet w) : hexUnit c = true := by
  unfold hextet at h
  split at h
  · rw [List.mem_singleton.mp h]
    decide
  · obtain ⟨d, hd, rfl⟩ := List.mem_map.mp h
    have hlt := Nat.digits_lt_base (by omega : 1 < 16) (List.mem_reverse.mp hd)
    interval_cases d <;> decide

theorem hexUnit_pieces {compress : Option Nat} {words : List UInt16} {i : Nat} {skip : Bool} {c : UInt16}
    (h : c ∈ IPv6.pieces compress i skip words) : hexUnit c = true := by
  induction words generalizing i skip with
  | nil => cases h
  | cons w rest ih =>
    rw [IPv6.pieces] at h
    split at h
    · exact ih h
    · split at h
      · rcases List.mem_append.mp h with h | h
        · split at h <;> simp at h <;> subst h <;> decide
        · exact ih h
      · rcases List.mem_append.mp h with h | h
        · rcases List.mem_append.mp h with h | h
          · exact hexUnit_hextet h
          · split at h
            · cases h
            · rw [List.mem_singleton.mp h]
              decide
        · exact ih h

theorem IPv6.hexUnit_text {ip : IPv6} {c : UInt16} (h : c ∈ ip.text) : hexUnit c = true := hexUnit_pieces h

example : (IPv6.mk 0x2001 0xdb8 0 0 1 0 0 1).text = units "2001:db8::1:0:0:1" := by decide +kernel

end GalaxiaAin.Library
