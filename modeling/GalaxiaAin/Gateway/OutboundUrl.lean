import GalaxiaAin.Library.Address

/-! validateOutboundUrl of ssrf.ts. A host is an address or a name, as the URL parser tells
them apart; the checks are made on its text. -/
namespace GalaxiaAin.Gateway
open GalaxiaAin.Library

/-- A host name as the URL parser leaves it: in lower case and without brackets. -/
structure DomainName where
  text : Text
  lowercase : lower text = text
  opening : (91 : UInt16) ∉ text
  closing : (93 : UInt16) ∉ text

inductive Host where
  | ipv4 (ip : IPv4)
  | ipv6 (ip : IPv6)
  | domain (name : DomainName)

/-- A text, and whether `net.isIP` finds an address in it. -/
structure Spelling where
  text : Text
  isIP : Bool

/-- A host without brackets; the URL parser makes an address of every text that is one. -/
def Host.spelling : Host → Spelling
  | .ipv4 ip => ⟨ip.text, true⟩
  | .ipv6 ip => ⟨ip.text, true⟩
  | .domain name => ⟨name.text, false⟩

/-- `ip.startsWith(p)`. -/
def startsWith (ip : Text) (p : String) : Bool := (units p).isPrefixOf ip

/-- `low <= n && n <= high`. -/
def between (low high : ℚ) : Number → Bool
  | .finite x => decide (low ≤ x) && decide (x ≤ high)
  | _ => false

/-- `172.16` to `172.31`, on the parts between the dots. -/
def privateParts (parts : List Number) : Bool :=
  match parts with
  | [first, second, _, _] => first == .finite 172 && between 16 31 second
  | _ => false

def isPrivateIp (ip : Spelling) : Bool :=
  if !ip.isIP then false
  else if [units "0.0.0.0", units "::", units "::1", units "127.0.0.1"].contains ip.text then true
  else if startsWith ip.text "127." then true
  else if startsWith ip.text "10." then true
  else if startsWith ip.text "192.168." then true
  else if startsWith ip.text "169.254." then true
  else if privateParts ((ip.text.splitOn 46).map stringToNumber) then true
  else if startsWith ip.text "fc" || startsWith ip.text "fd" || startsWith ip.text "fe80:" then true
  else false

inductive SsrfCheckResult where
  | allowed
  | refused (reason : Text)
  deriving DecidableEq

/-- What `new URL(..)` reads in a text. -/
structure Url where
  protocol : Text
  host : Host

/-- `url.hostname`: an IPv6 address is written in brackets. -/
def Url.hostname (url : Url) : Text :=
  match url.host with
  | .ipv6 ip => 91 :: (ip.text ++ [93])
  | host => host.spelling.text

/-- `.replace(/^\[|\]$/g, '')`. -/
def stripBrackets (t : Text) : Text :=
  let t := if t.head? = some 91 then t.tail else t
  if t.getLast? = some 93 then t.dropLast else t

/-- The URL parser and the resolver, which may fail. -/
structure Internet where
  parseUrl : Text → Option Url
  resolve4 : Text → Except Unit (List IPv4)
  resolve6 : Text → Except Unit (List IPv6)

def blockedHostnames : List Text := [units "localhost", units "metadata.google.internal", units "metadata.google"]

def blockedSchemes : List Text := [units "file:", units "data:", units "javascript:", units "ftp:", units "gopher:"]

/-- A failed lookup answers nothing. -/
def caughtLookup {α : Type} (lookup : Except Unit (List α)) : List α :=
  match lookup with
  | .ok ips => ips
  | .error _ => []

variable (net : Internet)

/-- `[...v4, ...v6]`. -/
def resolvedIps (host : Text) : List Spelling :=
  (caughtLookup (net.resolve4 host)).map (⟨·.text, true⟩) ++ (caughtLookup (net.resolve6 host)).map (⟨·.resolved, true⟩)

def validateOutboundUrl (raw : Text) : SsrfCheckResult :=
  match net.parseUrl raw with
  | none => .refused (units "invalid URL")
  | some url =>
    if blockedSchemes.contains url.protocol then .refused (units "blocked scheme " ++ url.protocol)
    else if !([units "http:", units "https:"].contains url.protocol) then .refused (units "unsupported scheme " ++ url.protocol)
    else
      let host := stripBrackets (lower url.hostname)
      if blockedHostnames.contains host then .refused (units "blocked hostname")
      else if url.host.spelling.isIP && isPrivateIp url.host.spelling then .refused (units "private/reserved IP")
      else
        match (resolvedIps net host).find? isPrivateIp with
        | some ip => .refused (units "DNS resolved to blocked IP " ++ ip.text)
        | none => .allowed

/-! ### The host the checks see -/

theorem lower_eq {t : Text} (h : ∀ c ∈ t, ¬ (65 ≤ c ∧ c ≤ 90)) : lower t = t := by
  unfold lower
  conv_rhs => rw [← List.map_id t]
  refine List.map_congr_left fun c hc => ?_
  simp [h c hc]

/-- Neither a capital letter nor a bracket. -/
def Plain (c : UInt16) : Prop := ¬ (65 ≤ c ∧ c ≤ 90) ∧ c ≠ 91 ∧ c ≠ 93

theorem plain_of_hexUnit {c : UInt16} (h : hexUnit c = true ∨ c = 46) : Plain c := by
  simp only [Plain, hexUnit, isDigit, Bool.or_eq_true, Bool.and_eq_true, decide_eq_true_eq, beq_iff_eq, ne_eq,
    UInt16.le_iff_toNat_le, ← UInt16.toNat_inj, UInt16.reduceToNat] at h ⊢
  omega

/-- A dotted text is written in digits and dots. -/
theorem mem_ipv4_text {ip : IPv4} {c : UInt16} (h : c ∈ ip.text) : isDigit c = true ∨ c = 46 := by
  simp only [IPv4.text, List.mem_append, List.mem_cons] at h
  rcases h with h | h | h | h | h | h | h
  · exact .inl (octet_digits h)
  · exact .inr h
  · exact .inl (octet_digits h)
  · exact .inr h
  · exact .inl (octet_digits h)
  · exact .inr h
  · exact .inl (octet_digits h)

theorem stripBrackets_of_none {t : Text} (hopening : (91 : UInt16) ∉ t) (hclosing : (93 : UInt16) ∉ t) :
    stripBrackets t = t := by
  have hhead : t.head? ≠ some 91 := fun h => hopening (List.mem_of_head? h)
  have hlast : t.getLast? ≠ some 93 := fun h => hclosing (List.mem_of_getLast? h)
  simp [stripBrackets, hhead, hlast]

theorem stripBrackets_brackets {t : Text} : stripBrackets (91 :: (t ++ [93])) = t := by
  simp [stripBrackets]

/-- What the checks call the host is the text of the host. -/
theorem host_text (url : Url) : stripBrackets (lower url.hostname) = url.host.spelling.text := by
  cases hh : url.host with
  | ipv4 ip =>
    have hplain : ∀ c ∈ ip.text, Plain c := fun c hc =>
      plain_of_hexUnit ((mem_ipv4_text hc).imp_left fun h => by simp [hexUnit, h])
    simp only [Url.hostname, hh, Host.spelling]
    rw [lower_eq fun c hc => (hplain c hc).1]
    exact stripBrackets_of_none (fun h => (hplain _ h).2.1 rfl) fun h => (hplain _ h).2.2 rfl
  | ipv6 ip =>
    have hplain : ∀ c ∈ ip.text, Plain c := fun c hc => plain_of_hexUnit (.inl (IPv6.hexUnit_text hc))
    simp only [Url.hostname, hh, Host.spelling]
    rw [lower_eq, stripBrackets_brackets]
    intro c hc
    simp only [List.mem_cons, List.mem_append, List.not_mem_nil, or_false] at hc
    rcases hc with rfl | hc | rfl
    · decide
    · exact (hplain c hc).1
    · decide
  | domain name =>
    simp only [Url.hostname, hh, Host.spelling, name.lowercase]
    exact stripBrackets_of_none name.opening name.closing

/-! ### What isPrivateIp finds -/

theorem startsWith_label {ip : Text} {n m : UInt8} {rest : Text} {p : String} (hp : units p = octet m ++ [46])
    (hip : ip = octet n ++ 46 :: rest) : startsWith ip p = true ↔ n = m := by
  rw [startsWith, hp, hip, label_prefix_iff (dot_notMem_octet m) (dot_notMem_octet n)]
  simp only [List.isPrefixOf_nil_left, and_true]
  exact ⟨fun h => (octet_injective h).symm, fun h => h ▸ rfl⟩

theorem startsWith_labels {ip : Text} {n m j k : UInt8} {rest : Text} {p : String}
    (hp : units p = octet m ++ 46 :: (octet k ++ [46])) (hip : ip = octet n ++ 46 :: (octet j ++ 46 :: rest)) :
    startsWith ip p = true ↔ n = m ∧ j = k := by
  rw [startsWith, hp, hip, label_prefix_iff (dot_notMem_octet m) (dot_notMem_octet n),
    label_prefix_iff (dot_notMem_octet k) (dot_notMem_octet j)]
  simp only [List.isPrefixOf_nil_left, and_true]
  exact ⟨fun h => ⟨(octet_injective h.1).symm, (octet_injective h.2).symm⟩, fun h => ⟨h.1 ▸ rfl, h.2 ▸ rfl⟩⟩

/-- A text whose first unit is another does not start so. -/
theorem not_startsWith {c d : UInt16} {t : Text} {p : String} {rest : Text} (hp : units p = d :: rest) (hne : d ≠ c) :
    startsWith (c :: t) p = false := by
  rw [startsWith, hp, List.isPrefixOf_cons_cons]
  simp [hne]

theorem privateParts_ipv4 (ip : IPv4) :
    privateParts ((ip.text.splitOn 46).map stringToNumber) = true ↔ ip.a = 172 ∧ 16 ≤ ip.b ∧ ip.b ≤ 31 := by
  simp only [IPv4.text_split, List.map_cons, List.map_nil, stringToNumber_octet, privateParts, between,
    Bool.and_eq_true, beq_iff_eq, Number.finite.injEq, decide_eq_true_eq, UInt8.le_iff_toNat_le, ← UInt8.toNat_inj,
    UInt8.reduceToNat]
  norm_cast

theorem isPrivateIp_iff {t : Text} :
    isPrivateIp ⟨t, true⟩ = true ↔
      (t = units "0.0.0.0" ∨ t = units "::" ∨ t = units "::1" ∨ t = units "127.0.0.1") ∨ startsWith t "127." = true ∨
      startsWith t "10." = true ∨ startsWith t "192.168." = true ∨ startsWith t "169.254." = true ∨
      privateParts ((t.splitOn 46).map stringToNumber) = true ∨
      startsWith t "fc" = true ∨ startsWith t "fd" = true ∨ startsWith t "fe80:" = true := by
  unfold isPrivateIp
  simp only [Bool.not_true, Bool.false_eq_true, if_false, List.contains_eq_mem, List.mem_cons, List.not_mem_nil, or_false,
    decide_eq_true_eq]
  split_ifs <;> simp_all [or_assoc]

theorem mem_of_startsWith {t : Text} {p : String} (h : startsWith t p = true) {c : UInt16} (hc : c ∈ units p) : c ∈ t := by
  obtain ⟨rest, rfl⟩ := List.isPrefixOf_iff_prefix.mp h
  exact List.mem_append_left _ hc

/-- On dotted texts the checks are exact. -/
theorem isPrivateIp_ipv4 (ip : IPv4) : isPrivateIp ⟨ip.text, true⟩ = true ↔ ip.Internal := by
  have hforeign : ∀ c ∈ ip.text, c ≠ 58 ∧ c ≠ 102 := by
    intro c hc
    rcases mem_ipv4_text hc with h | rfl
    · exact ⟨fun he => by rw [he] at h; revert h; decide, fun he => by rw [he] at h; revert h; decide⟩
    · decide
  have hcolon : ip.text ≠ units "::" ∧ ip.text ≠ units "::1" :=
    ⟨fun h => (hforeign 58 (h ▸ by decide)).1 rfl, fun h => (hforeign 58 (h ▸ by decide)).1 rfl⟩
  have hf {p : String} (hp : (102 : UInt16) ∈ units p) : startsWith ip.text p = false :=
    Bool.eq_false_iff.mpr fun h => (hforeign 102 (mem_of_startsWith h hp)).2 rfl
  have hzero : ip.text = units "0.0.0.0" ↔ ip = ⟨0, 0, 0, 0⟩ := by
    rw [show units "0.0.0.0" = IPv4.text ⟨0, 0, 0, 0⟩ by decide]
    exact IPv4.text_injective.eq_iff
  have hlocal : ip.text = units "127.0.0.1" ↔ ip = ⟨127, 0, 0, 1⟩ := by
    rw [show units "127.0.0.1" = IPv4.text ⟨127, 0, 0, 1⟩ by decide +kernel]
    exact IPv4.text_injective.eq_iff
  have hloopback : startsWith ip.text "127." = true ↔ ip.a = 127 :=
    startsWith_label (m := 127) (by decide +kernel) rfl
  have hten : startsWith ip.text "10." = true ↔ ip.a = 10 := startsWith_label (m := 10) (by decide +kernel) rfl
  have h192 : startsWith ip.text "192.168." = true ↔ ip.a = 192 ∧ ip.b = 168 :=
    startsWith_labels (m := 192) (k := 168) (by decide +kernel) rfl
  have h169 : startsWith ip.text "169.254." = true ↔ ip.a = 169 ∧ ip.b = 254 :=
    startsWith_labels (m := 169) (k := 254) (by decide +kernel) rfl
  rw [isPrivateIp_iff, privateParts_ipv4, hzero, hlocal, hf (p := "fc") (by decide),
    hf (p := "fd") (by decide), hf (p := "fe80:") (by decide), hloopback, hten, h192, h169]
  simp only [hcolon, false_or, Bool.false_eq_true, or_false, IPv4.Internal]
  constructor
  · rintro ((h | rfl) | h | h | h | h | h)
    · exact .inl h
    · exact .inr (.inl rfl)
    · exact .inr (.inl h)
    · exact .inr (.inr (.inl h))
    · exact .inr (.inr (.inr (.inr (.inl h))))
    · exact .inr (.inr (.inr (.inr (.inr h))))
    · exact .inr (.inr (.inr (.inl h)))
  · rintro (h | h | h | h | h | h)
    · exact .inl (.inl h)
    · exact .inr (.inl h)
    · exact .inr (.inr (.inl h))
    · exact .inr (.inr (.inr (.inr (.inr h))))
    · exact .inr (.inr (.inr (.inl h)))
    · exact .inr (.inr (.inr (.inr (.inl h))))

/-- A text that starts with a letter or a colon is no number. -/
theorem stringToNumber_foreign {c : UInt16} (hc : c = 58 ∨ c = 102) (t : Text) : stringToNumber (c :: t) = .nan := by
  have hspace : space c = false := by rcases hc with rfl | rfl <;> decide
  have htrim : ∃ t', trim (c :: t) = c :: t' := by
    have hdrop : ∀ l : Text, ∃ l', (l ++ [c]).dropWhile space = l' ++ [c] := by
      intro l
      induction l with
      | nil => exact ⟨[], by simp [hspace]⟩
      | cons x l ih =>
        cases hx : space x with
        | true => simpa [hx] using ih
        | false => exact ⟨x :: l, by simp [hx]⟩
    obtain ⟨l', hl'⟩ := hdrop t.reverse
    exact ⟨l'.reverse, by simp [trim, hspace, hl']⟩
  obtain ⟨t', ht'⟩ := htrim
  rcases hc with rfl | rfl
  · rw [stringToNumber, ht']
    rfl
  · rw [stringToNumber, ht']
    rfl

theorem privateParts_foreign {c : UInt16} (hc : c = 58 ∨ c = 102) (t : Text) :
    privateParts (((c :: t).splitOn 46).map stringToNumber) = false := by
  have hne : c ≠ 46 := by rcases hc with rfl | rfl <;> decide
  have hsplit : ∃ first rest, (c :: t).splitOn 46 = (c :: first) :: rest := by
    rw [List.splitOn_cons_eq_if_modifyHead, if_neg (by simpa using hne)]
    have hnil := List.splitOn_ne_nil 46 t
    generalize t.splitOn 46 = parts at hnil
    cases parts with
    | nil => exact absurd rfl hnil
    | cons first rest => exact ⟨first, rest, rfl⟩
  obtain ⟨first, rest, hsplit⟩ := hsplit
  rw [hsplit, List.map_cons, stringToNumber_foreign hc]
  unfold privateParts
  split
  · rename_i heq
    rw [List.cons.injEq] at heq
    rw [← heq.1]
    rfl
  · rfl

/-- The checks miss link-local addresses past fe80::/16 and internal addresses in mapped form. -/
def Overlooked (ip : IPv6) : Prop :=
  (ip.mapped = true ∧ ip.carried.Internal) ∨ (0xfe81 ≤ ip.w0 ∧ ip.w0 ≤ 0xfebf)

/-- A text that starts with a colon and is neither :: nor ::1 passes all checks. -/
theorem isPrivateIp_colon {t : Text} (h : 58 :: t ≠ units "::") (h1 : 58 :: t ≠ units "::1") :
    isPrivateIp ⟨58 :: t, true⟩ = false := by
  have hn {p : String} {d : UInt16} {rest : Text} (hp : units p = d :: rest) (hne : d ≠ 58) :
      startsWith (58 :: t) p = false := not_startsWith hp hne
  rw [Bool.eq_false_iff, ne_eq, isPrivateIp_iff, privateParts_foreign (.inl rfl), hn (p := "127.") rfl (by decide),
    hn (p := "10.") rfl (by decide), hn (p := "192.168.") rfl (by decide), hn (p := "169.254.") rfl (by decide),
    hn (p := "fc") rfl (by decide), hn (p := "fd") rfl (by decide), hn (p := "fe80:") rfl (by decide)]
  rintro ((hz | hz | hz | hz) | h | h | h | h | h | h | h | h)
  · cases hz
  · exact h hz
  · exact h1 hz
  · cases hz
  all_goals cases h

theorem word_range {low w : UInt16} {n : Nat} (hlow : low ≤ w) (hn : w.toNat < low.toNat + n) :
    ∃ k : Fin n, low + UInt16.ofNat k = w := by
  rw [UInt16.le_iff_toNat_le] at hlow
  refine ⟨⟨w.toNat - low.toNat, by omega⟩, ?_⟩
  have hw := w.toNat_lt
  rw [← UInt16.toNat_inj, UInt16.toNat_add, UInt16.toNat_ofNat']
  simp only
  omega

/-- The pieces past fe80. -/
theorem hextet_linkLocal {w : UInt16} (hlow : 0xfe81 ≤ w) (hhigh : w ≤ 0xfebf) :
    (hextet w).take 2 = [102, 101] ∧ hextet w ≠ units "fe80" ∧ (58 : UInt16) ∉ hextet w := by
  have hall : ∀ k : Fin 63, (hextet (0xfe81 + UInt16.ofNat k)).take 2 = [102, 101] ∧
      hextet (0xfe81 + UInt16.ofNat k) ≠ units "fe80" ∧ (58 : UInt16) ∉ hextet (0xfe81 + UInt16.ofNat k) := by
    decide +kernel
  obtain ⟨k, rfl⟩ := word_range (n := 63) hlow (Nat.lt_succ_of_le hhigh)
  exact hall k

/-- The pieces of fc00::/7. -/
theorem hextet_unique {w : UInt16} (hlow : 0xfc00 ≤ w) (hhigh : w ≤ 0xfdff) (rest : Text) :
    startsWith (hextet w ++ rest) "fc" = true ∨ startsWith (hextet w ++ rest) "fd" = true := by
  have hall : ∀ k : Fin 512, (hextet (0xfc00 + UInt16.ofNat k)).take 2 = units "fc" ∨
      (hextet (0xfc00 + UInt16.ofNat k)).take 2 = units "fd" := by
    decide +kernel
  obtain ⟨k, rfl⟩ := word_range (n := 512) hlow (Nat.lt_succ_of_le hhigh)
  generalize hw : (0xfc00 : UInt16) + UInt16.ofNat k = w
  have hstart (p : Text) (h : (hextet w).take 2 = p) : p.isPrefixOf (hextet w ++ rest) = true :=
    List.isPrefixOf_iff_prefix.mpr ((h ▸ List.take_prefix 2 (hextet w)).trans (List.prefix_append _ _))
  exact (hw ▸ hall k).imp (hstart _) (hstart _)

/-- The texts that start with such a piece pass all checks. -/
theorem isPrivateIp_linkLocal {w : UInt16} (hlow : 0xfe81 ≤ w) (hhigh : w ≤ 0xfebf) (rest : Text) :
    isPrivateIp ⟨hextet w ++ 58 :: rest, true⟩ = false := by
  obtain ⟨htake, hne, hcolon⟩ := hextet_linkLocal hlow hhigh
  obtain ⟨r, hr⟩ : ∃ r, hextet w = 102 :: 101 :: r := by
    refine ⟨(hextet w).drop 2, ?_⟩
    conv_lhs => rw [← List.take_append_drop 2 (hextet w), htake]
    rfl
  have hfe80 : startsWith (hextet w ++ 58 :: rest) "fe80:" = false := by
    rw [Bool.eq_false_iff, ne_eq, startsWith, show units "fe80:" = units "fe80" ++ 58 :: [] by decide,
      label_prefix_iff (by decide) hcolon]
    exact fun h => hne h.1.symm
  rw [hr] at hfe80 ⊢
  have hn {p : String} {d : UInt16} {rest' : Text} (hp : units p = d :: rest') (hne : d ≠ 102) :
      startsWith (102 :: 101 :: r ++ 58 :: rest) p = false := not_startsWith hp hne
  have hfc : startsWith (102 :: 101 :: r ++ 58 :: rest) "fc" = false := rfl
  have hfd : startsWith (102 :: 101 :: r ++ 58 :: rest) "fd" = false := rfl
  have hparts := privateParts_foreign (.inr rfl) (101 :: r ++ 58 :: rest)
  rw [Bool.eq_false_iff, ne_eq, isPrivateIp_iff, hfe80, hfc, hfd, hn (p := "127.") rfl (by decide),
    hn (p := "10.") rfl (by decide), hn (p := "192.168.") rfl (by decide), hn (p := "169.254.") rfl (by decide)]
  rintro ((hz | hz | hz | hz) | h | h | h | h | h | h | h | h)
  · cases hz
  · cases hz
  · cases hz
  · cases hz
  all_goals first | cases h | exact absurd (hparts.symm.trans h) (by decide)

/-- The texts of an address: in a URL and in an answer. -/
def Spells (ip : IPv6) (t : Text) : Prop := t = ip.text ∨ t = ip.resolved

theorem Spells.of_head {ip : IPv6} {t : Text} (ht : Spells ip t) (h : ip.w0 ≠ 0) : ∃ rest, t = hextet ip.w0 ++ 58 :: rest := by
  have heq : t = ip.text := ht.elim id fun ht => ht.trans (IPv6.resolved_of_head h)
  obtain ⟨rest, hrest⟩ := IPv6.text_of_head h
  exact ⟨rest, heq.trans hrest⟩

theorem Spells.of_mapped {ip : IPv6} {t : Text} (ht : Spells ip t) (h : ip.mapped = true) :
    ∃ rest, t = units "::ffff:" ++ rest := by
  rcases ht with rfl | rfl
  · exact IPv6.text_mapped h
  · exact ⟨ip.carried.text, by rw [IPv6.resolved, if_pos h]⟩

/-- The texts of an internal address are caught when it is not one of the overlooked ones. -/
theorem isPrivateIp_ipv6 {ip : IPv6} {t : Text} (ht : Spells ip t) (h : ip.Internal) :
    isPrivateIp ⟨t, true⟩ = true ↔ ¬ Overlooked ip := by
  have hnot_mapped (h0 : ip.w0 ≠ 0) : ip.mapped ≠ true := by simp [IPv6.mapped, h0]
  rcases h with rfl | rfl | ⟨hlow, hhigh⟩ | ⟨hlow, hhigh⟩ | ⟨hmapped, hcarried⟩
  · have htext : t = units "::" := ht.elim (·.trans (by decide +kernel)) (·.trans (by decide +kernel))
    refine iff_of_true (isPrivateIp_iff.mpr (.inl (.inr (.inl htext)))) ?_
    rintro (⟨hm, -⟩ | ⟨hlow, -⟩)
    · revert hm
      decide
    · revert hlow
      decide
  · have htext : t = units "::1" := ht.elim (·.trans (by decide +kernel)) (·.trans (by decide +kernel))
    refine iff_of_true (isPrivateIp_iff.mpr (.inl (.inr (.inr (.inl htext))))) ?_
    rintro (⟨hm, -⟩ | ⟨hlow, -⟩)
    · revert hm
      decide
    · revert hlow
      decide
  · have h0 : ip.w0 ≠ 0 := fun h0 => by rw [h0] at hlow; revert hlow; decide
    obtain ⟨rest, rfl⟩ := ht.of_head h0
    refine iff_of_true (isPrivateIp_iff.mpr ?_) ?_
    · have := hextet_unique hlow hhigh (58 :: rest)
      tauto
    · rintro (⟨hm, -⟩ | ⟨hlow', -⟩)
      · exact hnot_mapped h0 hm
      · exact absurd (UInt16.le_trans hlow' hhigh) (by decide)
  · have h0 : ip.w0 ≠ 0 := fun h0 => by rw [h0] at hlow; revert hlow; decide
    obtain ⟨rest, rfl⟩ := ht.of_head h0
    by_cases hfirst : ip.w0 = 0xfe80
    · refine iff_of_true (isPrivateIp_iff.mpr ?_) ?_
      · have hstart : startsWith (hextet ip.w0 ++ 58 :: rest) "fe80:" = true := by
          rw [hfirst]
          exact List.isPrefixOf_iff_prefix.mpr ⟨rest, by rw [show hextet 0xfe80 = units "fe80" by decide +kernel]; rfl⟩
        simp [hstart]
      · rintro (⟨hm, -⟩ | ⟨hlow', -⟩)
        · exact hnot_mapped h0 hm
        · rw [hfirst] at hlow'
          revert hlow'
          decide
    · have hlow' : 0xfe81 ≤ ip.w0 := by
        rw [UInt16.le_iff_toNat_le] at hlow ⊢
        rw [← UInt16.toNat_inj] at hfirst
        simp only [UInt16.reduceToNat] at hlow hfirst ⊢
        omega
      exact iff_of_false (by rw [isPrivateIp_linkLocal hlow' hhigh]; decide) (not_not.mpr (.inr ⟨hlow', hhigh⟩))
  · obtain ⟨rest, rfl⟩ := ht.of_mapped hmapped
    refine iff_of_false ?_ (not_not.mpr (.inl ⟨hmapped, hcarried⟩))
    rw [show units "::ffff:" ++ rest = 58 :: (units ":ffff:" ++ rest) from rfl, isPrivateIp_colon]
    · decide
    · intro heq
      cases heq
    · intro heq
      cases heq

/-! ### The URLs that are allowed -/

variable {net}

/-- A check finds an address among the answers for a host. -/
def Caught (net : Internet) (host : Text) : Prop := ∃ ip ∈ resolvedIps net host, isPrivateIp ip = true

/-- A web scheme. -/
def Web (protocol : Text) : Prop := protocol = units "http:" ∨ protocol = units "https:"

theorem allowed_iff {raw : Text} :
    validateOutboundUrl net raw = .allowed ↔
      ∃ url, net.parseUrl raw = some url ∧ Web url.protocol ∧ url.host.spelling.text ∉ blockedHostnames ∧
        isPrivateIp url.host.spelling = false ∧ ¬ Caught net url.host.spelling.text := by
  unfold validateOutboundUrl
  cases hurl : net.parseUrl raw with
  | none => simp
  | some url =>
    have hweb : (blockedSchemes.contains url.protocol = false ∧
        [units "http:", units "https:"].contains url.protocol = true) ↔ Web url.protocol := by
      constructor
      · rintro ⟨-, h⟩
        simpa [Web] using h
      · rintro (h | h)
        · rw [h]
          decide +kernel
        · rw [h]
          decide +kernel
    have hisIP : isPrivateIp url.host.spelling = true → url.host.spelling.isIP = true := by
      intro h
      by_contra hnot
      simp [isPrivateIp, hnot] at h
    simp only [host_text, Option.some.injEq, exists_eq_left', Caught]
    rw [← hweb]
    cases hb : blockedSchemes.contains url.protocol with
    | true => simp
    | false =>
      cases hw : [units "http:", units "https:"].contains url.protocol with
      | false => simp
      | true =>
        by_cases hn : url.host.spelling.text ∈ blockedHostnames
        · simp [hn]
        · cases hp : isPrivateIp url.host.spelling with
          | true => simp [hn, hisIP hp]
          | false =>
            cases hf : (resolvedIps net url.host.spelling.text).find? isPrivateIp with
            | none =>
              have hnone := List.find?_eq_none.mp hf
              simp only [Bool.not_eq_true] at hnone
              simpa [hn] using hnone
            | some ip =>
              have hcaught : ∃ ip ∈ resolvedIps net url.host.spelling.text, isPrivateIp ip = true :=
                ⟨ip, List.mem_of_find?_eq_some hf, List.find?_some hf⟩
              simp [hn, hcaught]

/-! ### Soundness -/

variable (net)

/-- A reserved name, also with the dot of the root. -/
def Reserved (host : Text) : Prop := host ∈ blockedHostnames ∨ ∃ name ∈ blockedHostnames, host = name ++ [46]

/-- A resolver gave at least one address. -/
def Resolves (host : Text) : Prop :=
  caughtLookup (net.resolve4 host) ≠ [] ∨ caughtLookup (net.resolve6 host) ≠ []

/-- A host outside the internal ranges. -/
def Outside : Host → Prop
  | .ipv4 ip => ¬ ip.Internal
  | .ipv6 ip => ¬ ip.Internal
  | .domain name =>
    ¬ Reserved name.text ∧ Resolves net name.text ∧ (∀ ip ∈ caughtLookup (net.resolve4 name.text), ¬ ip.Internal) ∧
      ∀ ip ∈ caughtLookup (net.resolve6 name.text), ¬ ip.Internal

/-- An allowed text is the URL of a host outside. -/
def Sound (raw : Text) : Prop :=
  validateOutboundUrl net raw = .allowed → ∃ url, net.parseUrl raw = some url ∧ Web url.protocol ∧ Outside net url.host

/-- The checks cover a host. -/
def CoversHost : Host → Prop
  | .ipv4 _ => True
  | .ipv6 ip => Overlooked ip → Caught net ip.text
  | .domain name =>
    name.text ∈ blockedHostnames ∨ Caught net name.text ∨
      ((∀ reserved ∈ blockedHostnames, name.text ≠ reserved ++ [46]) ∧ Resolves net name.text ∧
        ∀ ip ∈ caughtLookup (net.resolve6 name.text), ¬ Overlooked ip)

def CoversUrl (raw : Text) : Prop :=
  ∀ url, net.parseUrl raw = some url → Web url.protocol → CoversHost net url.host

variable {net}

theorem internal_of_overlooked {ip : IPv6} (h : Overlooked ip) : ip.Internal := by
  rcases h with h | ⟨hlow, hhigh⟩
  · exact .inr (.inr (.inr (.inr h)))
  · exact .inr (.inr (.inr (.inl ⟨UInt16.le_trans (by decide) hlow, hhigh⟩)))

/-- No text of an address is a reserved name. -/
theorem ipv6_not_blocked (ip : IPv6) : ip.text ∉ blockedHostnames := by
  intro h
  have hforeign : ∀ name ∈ blockedHostnames, ∃ c ∈ name, hexUnit c = false := by decide +kernel
  obtain ⟨c, hc, hunit⟩ := hforeign _ h
  rw [IPv6.hexUnit_text hc] at hunit
  cases hunit

theorem caught_of_internal4 {host : Text} {ip : IPv4} (hip : ip ∈ caughtLookup (net.resolve4 host)) (h : ip.Internal) :
    Caught net host :=
  ⟨⟨ip.text, true⟩, List.mem_append_left _ (List.mem_map_of_mem hip), (isPrivateIp_ipv4 ip).mpr h⟩

theorem caught_of_internal6 {host : Text} {ip : IPv6} (hip : ip ∈ caughtLookup (net.resolve6 host)) (h : ip.Internal)
    (hseen : ¬ Overlooked ip) : Caught net host :=
  ⟨⟨ip.resolved, true⟩, List.mem_append_right _ (List.mem_map_of_mem hip), (isPrivateIp_ipv6 (.inr rfl) h).mpr hseen⟩

/-- A host that passes the checks is outside exactly when the checks cover it. -/
theorem outside_iff {host : Host} (hname : host.spelling.text ∉ blockedHostnames)
    (hip : isPrivateIp host.spelling = false) (hcaught : ¬ Caught net host.spelling.text) :
    Outside net host ↔ CoversHost net host := by
  cases host with
  | ipv4 ip => exact iff_of_true (fun h => by rw [Host.spelling, (isPrivateIp_ipv4 ip).mpr h] at hip; cases hip) trivial
  | ipv6 ip =>
    constructor
    · exact fun hout hover => absurd (internal_of_overlooked hover) hout
    · intro hcovers hinternal
      by_cases hover : Overlooked ip
      · exact hcaught (hcovers hover)
      · rw [Host.spelling, (isPrivateIp_ipv6 (.inl rfl) hinternal).mpr hover] at hip
        cases hip
  | domain name =>
    constructor
    · rintro ⟨hreserved, hresolves, -, h6⟩
      refine .inr (.inr ⟨fun reserved hr heq => hreserved (.inr ⟨reserved, hr, heq⟩), hresolves, ?_⟩)
      exact fun ip hmem hover => h6 ip hmem (internal_of_overlooked hover)
    · rintro (hblocked | hcaught' | ⟨hdotted, hresolves, h6⟩)
      · exact absurd hblocked hname
      · exact absurd hcaught' hcaught
      · refine ⟨?_, hresolves, fun ip hmem hint => hcaught (caught_of_internal4 hmem hint), fun ip hmem hint =>
          hcaught (caught_of_internal6 hmem hint (h6 ip hmem))⟩
        rintro (hblocked | ⟨reserved, hr, heq⟩)
        · exact hname hblocked
        · exact hdotted reserved hr heq

/-- What is allowed is sound exactly when the checks cover it. -/
theorem ssrf_sound_iff (net : Internet) (raw : Text) : Sound net raw ↔ CoversUrl net raw := by
  unfold Sound CoversUrl
  constructor
  · intro hsound url hurl hweb
    by_cases hallowed : url.host.spelling.text ∉ blockedHostnames ∧ isPrivateIp url.host.spelling = false ∧
        ¬ Caught net url.host.spelling.text
    · obtain ⟨hname, hip, hcaught⟩ := hallowed
      obtain ⟨url', hurl', -, hout⟩ := hsound (allowed_iff.mpr ⟨url, hurl, hweb, hname, hip, hcaught⟩)
      rw [hurl, Option.some.injEq] at hurl'
      subst hurl'
      exact (outside_iff hname hip hcaught).mp hout
    · cases hhost : url.host with
      | ipv4 ip => trivial
      | ipv6 ip =>
        intro hover
        rw [hhost] at hallowed
        by_contra hcaught
        have hfalse : isPrivateIp ⟨ip.text, true⟩ = false := by
          rw [Bool.eq_false_iff, ne_eq, isPrivateIp_ipv6 (.inl rfl) (internal_of_overlooked hover), not_not]
          exact hover
        exact hallowed ⟨ipv6_not_blocked ip, hfalse, hcaught⟩
      | domain name =>
        rw [hhost] at hallowed
        by_cases hb : name.text ∈ blockedHostnames
        · exact .inl hb
        · by_cases hc : Caught net name.text
          · exact .inr (.inl hc)
          · exact absurd ⟨hb, rfl, hc⟩ hallowed
  · intro hcovers hallowed
    obtain ⟨url, hurl, hweb, hname, hip, hcaught⟩ := allowed_iff.mp hallowed
    exact ⟨url, hurl, hweb, (outside_iff hname hip hcaught).mpr (hcovers url hurl hweb)⟩

/-! ### Hosts that get through -/

/-- The loopback address in mapped form. -/
def mappedLoopback : Url := ⟨units "http:", .ipv6 ⟨0, 0, 0, 0, 0, 0xffff, 0x7f00, 1⟩⟩

/-- The name of the machine with the dot of the root. -/
def dottedLocalhost : Url :=
  ⟨units "http:", .domain ⟨units "localhost.", by decide +kernel, by decide +kernel, by decide +kernel⟩⟩

/-- Two URLs, and no name resolves. -/
def silentInternet : Internet where
  parseUrl raw :=
    if raw = units "http://[::ffff:127.0.0.1]/" then some mappedLoopback
    else if raw = units "http://localhost./" then some dottedLocalhost
    else none
  resolve4 _ := .error ()
  resolve6 _ := .error ()

/-- The loopback address passes in mapped form, and a name passes that does not resolve. -/
theorem mapped_loopback_allowed :
    ¬ Sound silentInternet (units "http://[::ffff:127.0.0.1]/") ∧ ¬ Sound silentInternet (units "http://localhost./") := by
  have hfirst : silentInternet.parseUrl (units "http://[::ffff:127.0.0.1]/") = some mappedLoopback := rfl
  have hsecond : silentInternet.parseUrl (units "http://localhost./") = some dottedLocalhost := rfl
  constructor
  · intro hsound
    obtain ⟨url, hurl, -, hout⟩ := hsound (by decide +kernel)
    rw [hfirst, Option.some.injEq] at hurl
    subst hurl
    exact hout (.inr (.inr (.inr (.inr ⟨by decide, .inr (.inl (by decide))⟩))))
  · intro hsound
    obtain ⟨url, hurl, -, hout⟩ := hsound (by decide +kernel)
    rw [hsecond, Option.some.injEq] at hurl
    subst hurl
    exact hout.1 (.inr ⟨units "localhost", by decide, by decide⟩)

end GalaxiaAin.Gateway
