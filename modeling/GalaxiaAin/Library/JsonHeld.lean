import GalaxiaAin.Library.JsonParse

/-! What JSON.parse gives is a value JavaScript holds: every number is read back from its
canonical text, and the properties of every object are in the order of own keys. -/
namespace GalaxiaAin.Library

/-! ### Array indices -/

/-- The value of a digit. -/
def digitNumber (c : UInt16) : Nat := c.toNat - 48

theorem digitNumber_lt {c : UInt16} (h : isDigit c = true) : digitNumber c < 10 := by
  simp only [isDigit, Bool.and_eq_true, decide_eq_true_eq, UInt16.le_iff_toNat_le] at h
  obtain ⟨hlow, hhigh⟩ := h
  have hnine : (57 : UInt16).toNat = 57 := rfl
  rw [digitNumber]
  omega

theorem digitNumber_inj {c d : UInt16} (hc : isDigit c = true) (hd : isDigit d = true) (h : digitNumber c = digitNumber d) : c = d := by
  simp only [isDigit, Bool.and_eq_true, decide_eq_true_eq, UInt16.le_iff_toNat_le] at hc hd
  have hzero : (48 : UInt16).toNat = 48 := rfl
  rw [digitNumber, digitNumber] at h
  apply UInt16.toNat_inj.mp
  omega

/-- An index is written without leading zeros. -/
theorem arrayIndex_digits {key : Text} {i : Nat} (h : arrayIndex key = some i) :
    (∀ c ∈ key, isDigit c = true) ∧ key ≠ [] ∧ (key = [48] ∧ i = 0 ∨ Nat.digits 10 i = (key.map digitNumber).reverse) := by
  unfold arrayIndex at h
  simp only at h
  split at h
  · rename_i hcond
    simp only [Bool.and_eq_true, Bool.or_eq_true, bne_iff_ne, beq_iff_eq, List.all_eq_true, decide_eq_true_eq] at hcond
    obtain ⟨⟨⟨hdigits, hzero⟩, hne⟩, -⟩ := hcond
    refine ⟨hdigits, hne, ?_⟩
    have hi : i = Nat.ofDigits 10 (key.map digitNumber).reverse := by
      rw [← Option.some.inj h]
      exact ofDigits_eq 10 _
    by_cases hkey : key = [48]
    · left
      refine ⟨hkey, ?_⟩
      rw [hi, hkey]
      rfl
    · right
      have hhead : key.head? ≠ some 48 := hzero.resolve_left hkey
      rw [hi]
      apply Nat.digits_ofDigits 10 (by decide)
      · intro d hd
        obtain ⟨c, hc, rfl⟩ := List.mem_map.mp (List.mem_reverse.mp hd)
        exact digitNumber_lt (hdigits c hc)
      · intro hrev hlast
        cases key with
        | nil => exact hne rfl
        | cons c rest =>
          have hc : digitNumber c = 0 := by simpa using hlast
          have hc48 : c = 48 := digitNumber_inj (hdigits c List.mem_cons_self) (by decide) hc
          exact hhead (by rw [hc48]; rfl)
  · cases h

theorem map_digitNumber_inj {key key' : Text} (h : ∀ c ∈ key, isDigit c = true) (h' : ∀ c ∈ key', isDigit c = true)
    (hmap : key.map digitNumber = key'.map digitNumber) : key = key' := by
  induction key generalizing key' with
  | nil => simpa using hmap.symm
  | cons c key ih =>
    cases key' with
    | nil => cases hmap
    | cons d key' =>
      obtain ⟨hc, hkey⟩ := List.forall_mem_cons.mp h
      obtain ⟨hd, hkey'⟩ := List.forall_mem_cons.mp h'
      obtain ⟨hcd, hrest⟩ := List.cons.inj hmap
      rw [digitNumber_inj hc hd hcd, ih hkey hkey' hrest]

theorem arrayIndex_inj {key key' : Text} {i : Nat} (h : arrayIndex key = some i) (h' : arrayIndex key' = some i) :
    key = key' := by
  obtain ⟨hdigits, hne, hkey⟩ := arrayIndex_digits h
  obtain ⟨hdigits', hne', hkey'⟩ := arrayIndex_digits h'
  have hzero {k : Text} (hk : k ≠ []) (hi : i = 0) : Nat.digits 10 i ≠ (k.map digitNumber).reverse := by
    rw [hi, Nat.digits_zero]
    intro hnil
    exact hk (by simpa using hnil.symm)
  rcases hkey with ⟨rfl, hi⟩ | hkey <;> rcases hkey' with ⟨rfl, hi'⟩ | hkey'
  · rfl
  · exact absurd hkey' (hzero hne' hi)
  · exact absurd hkey (hzero hne hi')
  · have hmap : key.map digitNumber = key'.map digitNumber := List.reverse_injective (hkey.symm.trans hkey')
    exact map_digitNumber_inj hdigits hdigits' hmap

/-! ### Properties -/

namespace Json

theorem below_iff {i : Nat} {key : Text} : below i key = true ↔ ∃ j, arrayIndex key = some j ∧ j < i := by
  simp [below, Option.any_eq_true]

/-- Replacing the value of a property keeps the keys. -/
theorem ordered_map {α : Type} {fields : List (Text × α)} {f : Text × α → Text × α} (hf : ∀ x, (f x).1 = x.1)
    (h : Ordered fields) : Ordered (fields.map f) := by
  rw [Ordered, List.pairwise_map]
  simp only [hf]
  exact h

/-- The first property that is not below an index comes after it, and so do those behind it. -/
theorem after_index {α : Type} {f : Text × α} {fields : List (Text × α)} {key : Text} {i : Nat} (h : Ordered (f :: fields))
    (hkey : f.1 ≠ key) (hindex : arrayIndex key = some i) (hbelow : ¬ below i f.1 = true) :
    ∀ g ∈ f :: fields, ∀ j, arrayIndex g.1 = some j → below j key = true := by
  have hfirst (j : Nat) (hj : arrayIndex f.1 = some j) : i < j := by
    have hle : i ≤ j := Nat.le_of_not_lt fun hlt => hbelow (below_iff.mpr ⟨j, hj, hlt⟩)
    have hne : i ≠ j := by
      rintro rfl
      exact hkey (arrayIndex_inj hj hindex)
    omega
  intro g hg j hj
  apply below_iff.mpr
  refine ⟨i, hindex, ?_⟩
  rcases List.mem_cons.mp hg with rfl | hg
  · exact hfirst j hj
  · obtain ⟨k, hk, hlt⟩ := below_iff.mp (((List.pairwise_cons.mp h).1 g hg).2 j hj)
    exact (hfirst k hk).trans hlt

/-- An index goes before the first property that is not below it. -/
theorem ordered_insert {α : Type} {fields : List (Text × α)} {key : Text} {v : α} {i : Nat} (h : Ordered fields)
    (hnew : ∀ f ∈ fields, f.1 ≠ key) (hindex : arrayIndex key = some i) :
    Ordered (fields.takeWhile (fun f => below i f.1) ++ (key, v) :: fields.dropWhile fun f => below i f.1) := by
  induction fields with
  | nil => exact List.pairwise_singleton _ _
  | cons f fields ih =>
    obtain ⟨hf, hfields⟩ := List.pairwise_cons.mp h
    obtain ⟨hfkey, hnewFields⟩ := List.forall_mem_cons.mp hnew
    by_cases hbelow : below i f.1 = true
    · simp only [List.takeWhile_cons, List.dropWhile_cons, hbelow, if_true, List.cons_append]
      apply List.pairwise_cons.mpr ⟨fun g hg => ?_, ih hfields hnewFields⟩
      rcases List.mem_append.mp hg with hg | hg
      · exact hf g ((List.takeWhile_sublist _).subset hg)
      · rcases List.mem_cons.mp hg with rfl | hg
        · refine ⟨hfkey, fun j hj => ?_⟩
          rw [hindex, Option.some.injEq] at hj
          rwa [← hj]
        · exact hf g ((List.dropWhile_sublist _).subset hg)
    · simp only [List.takeWhile_cons, List.dropWhile_cons, hbelow]
      exact List.pairwise_cons.mpr ⟨fun g hg => ⟨(hnew g hg).symm, after_index h hfkey hindex hbelow g hg⟩, h⟩

/-- A property that is set keeps its object in order. -/
theorem ordered_putProperty {α : Type} {fields : List (Text × α)} {key : Text} {v : α} (h : Ordered fields) :
    Ordered (putProperty fields key v) := by
  unfold putProperty
  split
  · apply ordered_map _ h
    intro f
    split
    · rename_i hkey
      exact hkey.symm
    · rfl
  · rename_i hany
    have hnew : ∀ f ∈ fields, f.1 ≠ key := fun f hf hkey => hany (List.any_eq_true.mpr ⟨f, hf, by simp [hkey]⟩)
    cases hindex : arrayIndex key with
    | none =>
      rw [Ordered, List.pairwise_append]
      refine ⟨h, List.pairwise_singleton _ _, fun f hf g hg => ?_⟩
      rw [List.mem_singleton.mp hg]
      exact ⟨hnew f hf, fun i hi => by rw [hindex] at hi; cases hi⟩
    | some i => exact ordered_insert h hnew hindex

/-- A property that is set, or one that was there. -/
theorem mem_putProperty {α : Type} {fields : List (Text × α)} {key : Text} {v : α} {f : Text × α} (hf : f ∈ putProperty fields key v) :
    f ∈ fields ∨ f = (key, v) := by
  unfold putProperty at hf
  split at hf
  · obtain ⟨g, hg, rfl⟩ := List.mem_map.mp hf
    split
    · exact .inr rfl
    · exact .inl hg
  · split at hf
    · simpa using hf
    · rcases List.mem_append.mp hf with hf | hf
      · exact .inl ((List.takeWhile_sublist _).subset hf)
      · exact (List.mem_cons.mp hf).symm.imp_left fun hf => (List.dropWhile_sublist _).subset hf

section
variable {readNumber : Text → Numeral}

theorem heldFields_iff {fields : List (Text × Json)} : HeldFields readNumber fields ↔ ∀ f ∈ fields, f.2.Held readNumber := by
  induction fields with
  | nil => simp [HeldFields]
  | cons f fields ih => rw [HeldFields, ih, List.forall_mem_cons]

theorem heldItems_iff {items : List Json} : HeldItems readNumber items ↔ ∀ v ∈ items, v.Held readNumber := by
  induction items with
  | nil => simp [HeldItems]
  | cons v items ih => rw [HeldItems, ih, List.forall_mem_cons]

theorem heldFields_putProperty {fields : List (Text × Json)} {key : Text} {v : Json} (h : HeldFields readNumber fields)
    (hv : v.Held readNumber) : HeldFields readNumber (putProperty fields key v) := by
  rw [heldFields_iff] at h ⊢
  intro f hf
  rcases mem_putProperty hf with hf | rfl
  · exact h f hf
  · exact hv

end
end Json

/-! ### What is read -/

section
variable {readNumber : Text → Numeral}

def Token.Held (readNumber : Text → Numeral) : Token → Prop
  | .mark _ => True
  | .leaf v => v.Held readNumber

def Opened.Held (readNumber : Text → Numeral) : Opened → Prop
  | .arr items => Json.HeldItems readNumber items
  | .obj fields _ => Json.Ordered fields ∧ Json.HeldFields readNumber fields

def Expect.Held (readNumber : Text → Numeral) : Expect → Prop
  | .key fields => Json.Ordered fields ∧ Json.HeldFields readNumber fields
  | .colon fields _ => Json.Ordered fields ∧ Json.HeldFields readNumber fields
  | .after v => v.Held readNumber
  | _ => True

/-- A literal is read as a number that its canonical text is read as. -/
def Canonical (readNumber : Text → Numeral) : Prop :=
  ∀ t, numberLiteral t = true → (Json.num (readNumber t)).Held readNumber

theorem literalWord_held {t : Text} {v : Json} (h : literalWord t = some v) : v.Held readNumber := by
  unfold literalWord at h
  split_ifs at h <;> obtain rfl := Option.some.inj h <;> trivial

theorem flush_held (hnumber : Canonical readNumber) {mode : Lexing} {tokens : List Token}
    (h : mode.flush readNumber = some tokens) : ∀ t ∈ tokens, t.Held readNumber := by
  cases mode with
  | between =>
    obtain rfl := Option.some.inj h
    exact fun t ht => absurd ht List.not_mem_nil
  | string s => cases h
  | number text =>
    rw [Lexing.flush] at h
    split at h
    · rename_i hliteral
      obtain rfl := Option.some.inj h
      exact List.forall_mem_singleton.mpr (hnumber text hliteral)
    · cases h
  | word text =>
    obtain ⟨v, hv, rfl⟩ := Option.map_eq_some_iff.mp h
    exact List.forall_mem_singleton.mpr (literalWord_held hv)

theorem start_held {c : UInt16} {begun : List Token} {mode : Lexing} (h : Lexing.start c = some (begun, mode)) :
    ∀ t ∈ begun, t.Held readNumber := by
  unfold Lexing.start at h
  split_ifs at h <;> obtain ⟨rfl, rfl⟩ := Prod.mk.inj (Option.some.inj h) <;> simp [Token.Held]

theorem lex_held (hnumber : Canonical readNumber) {mode : Lexing} {text : Text} {tokens : List Token}
    (h : lex readNumber mode text = some tokens) : ∀ t ∈ tokens, t.Held readNumber := by
  fun_induction lex readNumber mode text generalizing tokens with
  | case1 mode => exact flush_held hnumber h
  | case2 s rest ih =>
    obtain ⟨others, hothers, rfl⟩ := Option.map_eq_some_iff.mp h
    exact List.forall_mem_cons.mpr ⟨trivial, ih hothers⟩
  | case3 s a b c d rest u hu ih => exact ih h
  | case4 => cases h
  | case5 s e rest hrest u hu ih => exact ih h
  | case6 => cases h
  | case7 => cases h
  | case8 s c rest hquote hunicode hescape hplain ih => exact ih h
  | case9 mode c rest hquote hunicode hescape hstring hcontinues ih => exact ih h
  | case10 mode c rest hquote hunicode hescape hstring hcontinues ended begun mode' hstart hflush ih =>
    obtain ⟨others, hothers, rfl⟩ := Option.map_eq_some_iff.mp h
    intro t ht
    rcases List.mem_append.mp ht with ht | ht
    · exact flush_held hnumber hflush t ht
    · rcases List.mem_append.mp ht with ht | ht
      · exact start_held hstart t ht
      · exact ih hothers t ht
  | case11 => cases h

theorem beginValue_held {stack stack' : List Opened} {t : Token} {expect : Expect} (hstack : ∀ o ∈ stack, o.Held readNumber)
    (ht : t.Held readNumber) (h : beginValue stack t = some (stack', expect)) :
    (∀ o ∈ stack', o.Held readNumber) ∧ expect.Held readNumber := by
  unfold beginValue at h
  split at h
  case h_1 =>
    obtain ⟨rfl, rfl⟩ := Prod.mk.inj (Option.some.inj h)
    exact ⟨hstack, ht⟩
  case h_4 => cases h
  all_goals
    obtain ⟨rfl, rfl⟩ := Prod.mk.inj (Option.some.inj h)
    exact ⟨hstack, trivial⟩

theorem heldItems_append {items : List Json} {v : Json} (hitems : Json.HeldItems readNumber items) (hv : v.Held readNumber) :
    Json.HeldItems readNumber (items ++ [v]) := by
  rw [Json.heldItems_iff] at hitems ⊢
  intro w hw
  rcases List.mem_append.mp hw with hw | hw
  · exact hitems w hw
  · rwa [List.mem_singleton.mp hw]

/-- A token keeps what is open and what is complete values JavaScript holds. -/
theorem readToken_held {stack stack' : List Opened} {expect expect' : Expect} {t : Token}
    (hstack : ∀ o ∈ stack, o.Held readNumber) (hexpect : expect.Held readNumber) (ht : t.Held readNumber)
    (h : readToken stack expect t = some (stack', expect')) :
    (∀ o ∈ stack', o.Held readNumber) ∧ expect'.Held readNumber := by
  unfold readToken at h
  split at h
  case h_1 => exact beginValue_held hstack ht h
  case h_2 =>
    obtain ⟨rfl, rfl⟩ := Prod.mk.inj (Option.some.inj h)
    exact ⟨hstack, trivial⟩
  case h_3 =>
    have hempty : (Opened.arr []).Held readNumber := trivial
    exact beginValue_held (List.forall_mem_cons.mpr ⟨hempty, hstack⟩) ht h
  case h_4 =>
    obtain ⟨rfl, rfl⟩ := Prod.mk.inj (Option.some.inj h)
    exact ⟨hstack, List.Pairwise.nil, trivial⟩
  case h_5 =>
    obtain ⟨rfl, rfl⟩ := Prod.mk.inj (Option.some.inj h)
    exact ⟨hstack, List.Pairwise.nil, trivial⟩
  case h_6 =>
    obtain ⟨rfl, rfl⟩ := Prod.mk.inj (Option.some.inj h)
    exact ⟨hstack, hexpect⟩
  case h_7 =>
    obtain ⟨rfl, rfl⟩ := Prod.mk.inj (Option.some.inj h)
    exact ⟨List.forall_mem_cons.mpr ⟨hexpect, hstack⟩, trivial⟩
  case h_8 =>
    obtain ⟨rfl, rfl⟩ := Prod.mk.inj (Option.some.inj h)
    obtain ⟨hitems, hrest⟩ := List.forall_mem_cons.mp hstack
    exact ⟨List.forall_mem_cons.mpr ⟨heldItems_append hitems hexpect, hrest⟩, trivial⟩
  case h_9 =>
    obtain ⟨rfl, rfl⟩ := Prod.mk.inj (Option.some.inj h)
    obtain ⟨hitems, hrest⟩ := List.forall_mem_cons.mp hstack
    exact ⟨hrest, heldItems_append hitems hexpect⟩
  case h_10 =>
    obtain ⟨rfl, rfl⟩ := Prod.mk.inj (Option.some.inj h)
    obtain ⟨⟨hordered, hfields⟩, hrest⟩ := List.forall_mem_cons.mp hstack
    exact ⟨hrest, Json.ordered_putProperty hordered, Json.heldFields_putProperty hfields hexpect⟩
  case h_11 =>
    obtain ⟨rfl, rfl⟩ := Prod.mk.inj (Option.some.inj h)
    obtain ⟨⟨hordered, hfields⟩, hrest⟩ := List.forall_mem_cons.mp hstack
    exact ⟨hrest, Json.ordered_putProperty hordered, Json.heldFields_putProperty hfields hexpect⟩
  case h_12 => cases h

theorem readTokens_held {tokens : List Token} {stack : List Opened} {expect : Expect} {v : Json}
    (htokens : ∀ t ∈ tokens, t.Held readNumber) (hstack : ∀ o ∈ stack, o.Held readNumber) (hexpect : expect.Held readNumber)
    (h : readTokens stack expect tokens = some v) : v.Held readNumber := by
  induction tokens generalizing stack expect with
  | nil =>
    unfold readTokens at h
    split at h
    case h_1 => rwa [← Option.some.inj h]
    case h_2 => cases h
    case h_3 heq => cases heq
  | cons t tokens ih =>
    obtain ⟨ht, hrest⟩ := List.forall_mem_cons.mp htokens
    rw [readTokens] at h
    cases hstep : readToken stack expect t with
    | none => rw [hstep] at h; cases h
    | some next =>
      obtain ⟨stack', expect'⟩ := next
      rw [hstep] at h
      obtain ⟨hstack', hexpect'⟩ := readToken_held hstack hexpect ht hstep
      exact ih hrest hstack' hexpect' h

/-- `JSON.parse` gives values JavaScript holds only. -/
theorem Json.parse_held (hnumber : Canonical readNumber) {t : Text} {v : Json} (h : parse readNumber t = some v) :
    v.Held readNumber := by
  obtain ⟨tokens, htokens, hread⟩ := Option.bind_eq_some_iff.mp h
  have hvalue : Expect.value.Held readNumber := trivial
  exact readTokens_held (lex_held hnumber htokens) (fun o ho => absurd ho List.not_mem_nil) hvalue hread

end
end GalaxiaAin.Library
