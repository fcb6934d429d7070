import GalaxiaAin.Library.Utf8

/-! Base64: three bytes are four digits of six bits. The decoder knows the digits of both
alphabets and passes over what is no digit; what is left of a byte at the end is dropped. -/
namespace GalaxiaAin.Library

/-- The groups of six bits of bytes; the last is filled up with zeros. -/
def sextets : Bytes → List Nat
  | [] => []
  | [a] => [a.toNat / 4, a.toNat % 4 * 16]
  | [a, b] => [a.toNat / 4, a.toNat % 4 * 16 + b.toNat / 16, b.toNat % 16 * 4]
  | a :: b :: c :: rest =>
    a.toNat / 4 :: (a.toNat % 4 * 16 + b.toNat / 16) :: (b.toNat % 16 * 4 + c.toNat / 64) :: c.toNat % 64 :: sextets rest

/-- The whole bytes of groups of six bits. -/
def unsextets : List Nat → Bytes
  | a :: b :: c :: d :: rest =>
    UInt8.ofNat (a * 4 + b / 16) :: UInt8.ofNat (b % 16 * 16 + c / 4) :: UInt8.ofNat (c % 4 * 64 + d) :: unsextets rest
  | [a, b, c] => [UInt8.ofNat (a * 4 + b / 16), UInt8.ofNat (b % 16 * 16 + c / 4)]
  | [a, b] => [UInt8.ofNat (a * 4 + b / 16)]
  | _ => []

/-- A digit of the alphabet that is safe in URLs. -/
def base64UrlDigit (n : Nat) : UInt16 :=
  if n < 26 then UInt16.ofNat (65 + n) else if n < 52 then UInt16.ofNat (71 + n) else if n < 62 then UInt16.ofNat (n - 4)
  else if n = 62 then 45 else 95

/-- `bytes.toString('base64url')`: without padding. -/
def base64Url (bytes : Bytes) : Text := (sextets bytes).map base64UrlDigit

/-- The value of a digit of either alphabet. -/
def base64Value (c : UInt16) : Option Nat :=
  if 65 ≤ c ∧ c ≤ 90 then some (c.toNat - 65)
  else if 97 ≤ c ∧ c ≤ 122 then some (c.toNat - 71)
  else if 48 ≤ c ∧ c ≤ 57 then some (c.toNat + 4)
  else if c = 43 ∨ c = 45 then some 62
  else if c = 47 ∨ c = 95 then some 63
  else none

/-- `Buffer.from(t, 'base64')`: the padding ends it. -/
def fromBase64 (t : Text) : Bytes := unsextets ((t.takeWhile (· ≠ 61)).filterMap base64Value)

theorem unsextets_sextets (bytes : Bytes) : unsextets (sextets bytes) = bytes := by
  induction bytes using sextets.induct with
  | case1 => rfl
  | case2 a =>
    have ha := a.toNat_lt
    have hbyte : a.toNat / 4 * 4 + a.toNat % 4 * 16 / 16 = a.toNat := by omega
    rw [sextets, unsextets, hbyte, UInt8.ofNat_toNat]
  | case3 a b =>
    have ha := a.toNat_lt
    have hb := b.toNat_lt
    have hfirst : a.toNat / 4 * 4 + (a.toNat % 4 * 16 + b.toNat / 16) / 16 = a.toNat := by omega
    have hsecond : (a.toNat % 4 * 16 + b.toNat / 16) % 16 * 16 + b.toNat % 16 * 4 / 4 = b.toNat := by omega
    rw [sextets, unsextets, hfirst, hsecond, UInt8.ofNat_toNat, UInt8.ofNat_toNat]
  | case4 a b c rest ih =>
    have ha := a.toNat_lt
    have hb := b.toNat_lt
    have hc := c.toNat_lt
    have hfirst : a.toNat / 4 * 4 + (a.toNat % 4 * 16 + b.toNat / 16) / 16 = a.toNat := by omega
    have hsecond : (a.toNat % 4 * 16 + b.toNat / 16) % 16 * 16 + (b.toNat % 16 * 4 + c.toNat / 64) / 4 = b.toNat := by omega
    have hthird : (b.toNat % 16 * 4 + c.toNat / 64) % 4 * 64 + c.toNat % 64 = c.toNat := by omega
    rw [sextets, unsextets, hfirst, hsecond, hthird, ih, UInt8.ofNat_toNat, UInt8.ofNat_toNat, UInt8.ofNat_toNat]

theorem sextets_lt (bytes : Bytes) : ∀ n ∈ sextets bytes, n < 64 := by
  induction bytes using sextets.induct with
  | case1 => exact fun n hn => absurd hn List.not_mem_nil
  | case2 a =>
    have ha := a.toNat_lt
    simp only [sextets, List.forall_mem_cons, List.not_mem_nil, false_imp_iff, implies_true, and_true]
    omega
  | case3 a b =>
    have ha := a.toNat_lt
    have hb := b.toNat_lt
    simp only [sextets, List.forall_mem_cons, List.not_mem_nil, false_imp_iff, implies_true, and_true]
    omega
  | case4 a b c rest ih =>
    have ha := a.toNat_lt
    have hb := b.toNat_lt
    have hc := c.toNat_lt
    simp only [sextets, List.forall_mem_cons]
    exact ⟨by omega, by omega, by omega, by omega, ih⟩

theorem base64Value_digit {n : Nat} (h : n < 64) : base64Value (base64UrlDigit n) = some n := by
  revert n
  decide

/-- A unit that is no digit does not occur in what is encoded. -/
theorem base64Url_plain {c : UInt16} (hc : base64Value c = none) (bytes : Bytes) : c ∉ base64Url bytes := by
  intro h
  obtain ⟨n, hn, rfl⟩ := List.mem_map.mp h
  rw [base64Value_digit (sextets_lt bytes n hn)] at hc
  cases hc

/-- Digits of either alphabet, with any padding, are read as their values. -/
theorem fromBase64_digits {t : Text} {values : List Nat} (h : t.map base64Value = values.map some) (pad : Nat) :
    fromBase64 (t ++ List.replicate pad 61) = unsextets values := by
  have hdigits : ∀ c ∈ t, c ≠ 61 := by
    rintro c hc rfl
    have hmem : base64Value 61 ∈ values.map some := h ▸ List.mem_map_of_mem hc
    obtain ⟨n, -, hn⟩ := List.mem_map.mp hmem
    have hnone : base64Value 61 = none := by decide
    rw [hnone] at hn
    cases hn
  have htake : (t ++ List.replicate pad 61).takeWhile (· ≠ 61) = t := by
    rw [List.takeWhile_append_of_pos fun c hc => by simpa using hdigits c hc]
    cases pad <;> simp [List.replicate_succ]
  have hvalues : t.filterMap base64Value = values := by
    have := congrArg (List.filterMap id) h
    rwa [List.filterMap_map, List.filterMap_map, Function.id_comp, Function.id_comp, List.filterMap_some] at this
  rw [fromBase64, htake, hvalues]

theorem base64Url_values (bytes : Bytes) : (base64Url bytes).map base64Value = (sextets bytes).map some := by
  rw [base64Url, List.map_map]
  exact List.map_congr_left fun n hn => base64Value_digit (sextets_lt bytes n hn)

end GalaxiaAin.Library
