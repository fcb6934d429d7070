import GalaxiaAin.Library.Numbers
import GalaxiaAin.Tenant.Gates

/-! What the mainnet guard looks at. Of the fields for a chain and of those for a URL it
converts the first that is not null, so that one more field can hide a blocked one. -/
namespace GalaxiaAin.Tenant
open GalaxiaAin.Library

/-! ### Fields -/

def chainFields : List Text := [units "chainId", units "chain_id", units "networkId"]

def rpcFields : List Text := [units "rpcUrl", units "rpc_url", units "providerUrl", units "endpoint"]

/-- `Number(v)`, when it is a finite number; none when the conversion throws. -/
def convertNumber (v : Json) : Option (Option ℚ) := v.toNumber.map fun n => match n with
  | .finite x => some x
  | _ => none

/-- The deployment converts as JavaScript does. -/
def converting (rt : Runtime) : Runtime := { rt with number := convertNumber }

/-- A value that converts to the number of a blocked chain. -/
def BlockedChain (v : Json) : Prop := ∃ n, convertNumber v = some (some n) ∧ n ∈ BLOCKED_CHAIN_IDS

/-- A value that converts to a text with a blocked pattern. -/
def BlockedRpc (v : Json) : Prop := ∃ rpc, v.text = some rpc ∧ (BLOCKED_RPC_PATTERNS.any fun pat => search pat rpc) = true

/-- A recognised field of the body is blocked. -/
def Recognised (body : Json) : Prop :=
  (∃ f ∈ chainFields, ∃ v, body.get f = some v ∧ BlockedChain v) ∨ ∃ f ∈ rpcFields, ∃ v, body.get f = some v ∧ BlockedRpc v

section Verdicts
variable (rt : Runtime)

def Rejects (body : Json) : Prop := ∃ reason, validateNoMainnetInjection (converting rt) body = .ok (some reason)

def Allows (body : Json) : Prop := validateNoMainnetInjection (converting rt) body = .ok none

/-- The object with one more property. -/
def extended (fields : List (Text × Json)) (f : Text) (v : Json) : Json := .obj (fields ++ [(f, v)])

/-- The guard rejects exactly where a recognised field is blocked, and none that is added
makes it allow what it rejects. -/
structure GuardsEveryField (fields : List (Text × Json)) : Prop where
  exact : Rejects rt (.obj fields) ↔ Recognised (.obj fields)
  monotone : ∀ f ∈ chainFields ++ rpcFields, (Json.obj fields).get f = none → ∀ v,
    Rejects rt (.obj fields) → ¬ Allows rt (extended fields f v)

/-- Every field before the first that is not null is there, as null. -/
def settled (body : Json) : List Text → Bool
  | [] => true
  | key :: rest =>
    match body.get key with
    | none => false
    | some .null => settled body rest
    | some _ => true

/-- The first fields that are not null decide, and none can come before them: the chain is
blocked, and no field can come before it, or else the URL stops the request too; or the
chain is not blocked but the URL is, and no field can come before that. -/
def Decided (body : Json) : Prop :=
  (∃ v, firstPresent body chainFields = some v ∧ BlockedChain v ∧
    (settled body chainFields = true ∨ ∃ w, firstPresent body rpcFields = some w ∧ (BlockedRpc w ∨ w.text = none))) ∨
  ((∀ v, firstPresent body chainFields = some v → ¬ BlockedChain v ∧ convertNumber v ≠ none) ∧
    settled body rpcFields = true ∧ ∃ w, firstPresent body rpcFields = some w ∧ BlockedRpc w)

end Verdicts

/-! ### The first field -/

theorem firstPresent_mem {body : Json} {fields : List Text} {v : Json} (h : firstPresent body fields = some v) :
    ∃ f ∈ fields, body.get f = some v := by
  induction fields with
  | nil => cases h
  | cons key rest ih =>
    rw [firstPresent] at h
    split at h
    · obtain ⟨f, hf, hv⟩ := ih h
      exact ⟨f, List.mem_cons_of_mem _ hf, hv⟩
    · obtain ⟨f, hf, hv⟩ := ih h
      exact ⟨f, List.mem_cons_of_mem _ hf, hv⟩
    · exact ⟨key, List.mem_cons_self, by cases h; assumption⟩

theorem firstPresent_cons_ne (body : Json) {key : Text} {w : Json} (h : body.get key = some w) (hne : w ≠ .null) (rest : List Text) :
    firstPresent body (key :: rest) = some w := by
  rw [firstPresent, h]
  cases w with
  | null => exact absurd rfl hne
  | _ => rfl

theorem get_extended (fields : List (Text × Json)) {f : Text} (hf : (Json.obj fields).get f = none) (v : Json) (key : Text) :
    (extended fields f v).get key = if key = f then some v else (Json.obj fields).get key := by
  simp only [extended, Json.get, List.find?_append, Option.map_eq_none_iff] at hf ⊢
  by_cases hkey : key = f
  · subst hkey
    rw [if_pos rfl, hf]
    simp
  · have hne : (f == key) = false := beq_eq_false_iff_ne.mpr fun h => hkey h.symm
    rw [if_neg hkey, List.find?_singleton, hne]
    simp

/-- A field that comes after the first that is not null is not looked at. -/
theorem firstPresent_extended {fields : List (Text × Json)} {f : Text} (hf : (Json.obj fields).get f = none) (v : Json)
    {keys : List Text} (h : settled (.obj fields) keys = true) (hfirst : ∃ w, firstPresent (.obj fields) keys = some w) :
    firstPresent (extended fields f v) keys = firstPresent (.obj fields) keys := by
  induction keys with
  | nil => rfl
  | cons key rest ih =>
    rw [settled] at h
    split at h
    · cases h
    case h_2 hnull =>
      have hne : key ≠ f := fun he => by rw [he, hf] at hnull; cases hnull
      rw [firstPresent, hnull] at hfirst
      rw [firstPresent, firstPresent, get_extended fields hf, if_neg hne, hnull]
      exact ih h hfirst
    case h_3 w hnull hw =>
      have hne : key ≠ f := fun he => by rw [he, hf] at hw; cases hw
      rw [firstPresent_cons_ne _ hw hnull, firstPresent_cons_ne _ (w := w) (by rw [get_extended fields hf, if_neg hne, hw]) hnull]

/-- A field of another group is not looked at. -/
theorem firstPresent_other {fields : List (Text × Json)} {f : Text} (hf : (Json.obj fields).get f = none) (v : Json)
    {keys : List Text} (h : f ∉ keys) : firstPresent (extended fields f v) keys = firstPresent (.obj fields) keys := by
  induction keys with
  | nil => rfl
  | cons key rest ih =>
    have hne : key ≠ f := fun he => h (he ▸ List.mem_cons_self)
    rw [firstPresent, firstPresent, get_extended fields hf, if_neg hne, ih fun hrest => h (List.mem_cons_of_mem _ hrest)]

/-- Where a field is missing in front, one that is added there comes first. -/
theorem firstPresent_added {fields : List (Text × Json)} {keys : List Text} (h : settled (.obj fields) keys = false) :
    ∃ f ∈ keys, (Json.obj fields).get f = none ∧ ∀ v ≠ .null, firstPresent (extended fields f v) keys = some v := by
  induction keys with
  | nil => cases h
  | cons key rest ih =>
    rw [settled] at h
    split at h
    case h_1 hnone =>
      refine ⟨key, List.mem_cons_self, hnone, fun v hv => ?_⟩
      exact firstPresent_cons_ne _ (by rw [get_extended fields hnone, if_pos rfl]) hv rest
    case h_2 hnull =>
      obtain ⟨f, hmem, hf, hfirst⟩ := ih h
      refine ⟨f, List.mem_cons_of_mem _ hmem, hf, fun v hv => ?_⟩
      have hne : key ≠ f := fun he => by rw [he, hf] at hnull; cases hnull
      rw [firstPresent, get_extended fields hf, if_neg hne, hnull]
      exact hfirst v hv
    · cases h

/-! ### The verdict -/

theorem firstPresent_append (body : Json) (keys keys' : List Text) :
    firstPresent body (keys ++ keys') = (firstPresent body keys).or (firstPresent body keys') := by
  induction keys with
  | nil => rfl
  | cons key rest ih =>
    rw [List.cons_append, firstPresent, firstPresent]
    split
    · exact ih
    · exact ih
    · rfl

theorem chainId_eq (body : Json) : chainId body = firstPresent body chainFields ∨
    (firstPresent body chainFields = none ∧ chainId body = some .null) := by
  have hfields : chainFields = [units "chainId", units "chain_id"] ++ [units "networkId"] := rfl
  rw [hfields, firstPresent_append, chainId]
  cases firstPresent body [units "chainId", units "chain_id"] with
  | some v => exact .inl rfl
  | none =>
    rw [Option.none_or, Option.none_or, firstPresent]
    split
    case h_1 h => exact .inl h
    case h_2 h => exact .inr ⟨rfl, h⟩
    case h_3 h => exact .inl h

theorem not_blockedChain_null : ¬ BlockedChain .null := by
  rintro ⟨n, hn, hmem⟩
  cases hn
  exact absurd hmem (by decide)

/-- The check of the URL. -/
def checkRpc (body : Json) : Except ServiceError (Option Text) :=
  match firstPresent body rpcFields with
  | none => .ok none
  | some v =>
    match v.text with
    | none => .error (.other none)
    | some rpc =>
      if rpc ≠ [] && BLOCKED_RPC_PATTERNS.any fun pat => search pat rpc then .ok (some (units "mainnet RPC pattern blocked"))
      else .ok none

section
variable (rt : Runtime) {body : Json}

theorem validate_chain {v : Json} (hv : firstPresent body chainFields = some v) (h : BlockedChain v) : Rejects rt body := by
  obtain ⟨n, hn, hmem⟩ := h
  have hchain : chainId body = some v := by
    rcases chainId_eq body with he | ⟨hnone, -⟩
    · rw [he, hv]
    · rw [hnone] at hv; cases hv
  have hnumber : (converting rt).number v = some (some n) := hn
  refine ⟨units "chainId " ++ decimal n.num.toNat ++ units " blocked", ?_⟩
  simp only [validateNoMainnetInjection, hchain, hnumber, List.contains_iff_mem.mpr hmem, if_true]
  rfl

theorem validate_throws {v : Json} (hv : firstPresent body chainFields = some v) (h : convertNumber v = none) :
    validateNoMainnetInjection (converting rt) body = .error (.other none) := by
  have hchain : chainId body = some v := by
    rcases chainId_eq body with he | ⟨hnone, -⟩
    · rw [he, hv]
    · rw [hnone] at hv; cases hv
  have hnumber : (converting rt).number v = none := h
  simp only [validateNoMainnetInjection, hchain, hnumber]
  rfl

/-- A chain that is not blocked leaves the check to the URL. -/
theorem validate_rpc (h : ∀ v, firstPresent body chainFields = some v → ¬ BlockedChain v ∧ convertNumber v ≠ none) :
    validateNoMainnetInjection (converting rt) body = checkRpc body := by
  have hrpc : firstPresent body [units "rpcUrl", units "rpc_url", units "providerUrl", units "endpoint"] = firstPresent body rpcFields := rfl
  have hchain : ∀ v, chainId body = some v → ¬ BlockedChain v ∧ convertNumber v ≠ none := by
    intro v hv
    rcases chainId_eq body with he | ⟨-, hnull⟩
    · exact h v (he ▸ hv)
    · rw [hnull] at hv
      cases hv
      exact ⟨not_blockedChain_null, by simp [convertNumber, Json.toNumber]⟩
  cases hid : chainId body with
  | none =>
    simp only [validateNoMainnetInjection, hid, hrpc, checkRpc]
    rfl
  | some v =>
    obtain ⟨hblocked, hconvert⟩ := hchain v hid
    cases hnumber : (converting rt).number v with
    | none => exact absurd hnumber hconvert
    | some o =>
      cases o with
      | none =>
        simp only [validateNoMainnetInjection, hid, hnumber, hrpc, checkRpc]
        rfl
      | some n =>
        have hmem : BLOCKED_CHAIN_IDS.contains n = false := by
          rw [Bool.eq_false_iff]
          intro hn
          exact hblocked ⟨n, hnumber, List.contains_iff_mem.mp hn⟩
        simp only [validateNoMainnetInjection, hid, hnumber, hmem, hrpc, checkRpc]
        rfl

theorem checkRpc_blocked {w : Json} (hw : firstPresent body rpcFields = some w) (h : BlockedRpc w) :
    checkRpc body = .ok (some (units "mainnet RPC pattern blocked")) := by
  obtain ⟨rpc, htext, hany⟩ := h
  have hne : rpc ≠ [] := by
    rintro rfl
    exact absurd hany (by decide)
  rw [checkRpc, hw]
  simp only [htext, hany, hne, ne_eq, not_false_eq_true, decide_true, Bool.and_self, if_true]

theorem checkRpc_allowed (h : ∀ w, firstPresent body rpcFields = some w → ¬ BlockedRpc w ∧ w.text ≠ none) : checkRpc body = .ok none := by
  rw [checkRpc]
  cases hw : firstPresent body rpcFields with
  | none => rfl
  | some w =>
    obtain ⟨hblocked, htext⟩ := h w hw
    cases ht : w.text with
    | none => exact absurd ht htext
    | some rpc =>
      have hany : (BLOCKED_RPC_PATTERNS.any fun pat => search pat rpc) = false := by
        rw [Bool.eq_false_iff]
        exact fun ha => hblocked ⟨rpc, ht, ha⟩
      simp only [ht, hany, Bool.and_false]
      rfl

end

/-! ### Every field -/

section
variable {rt : Runtime} {fields : List (Text × Json)}

theorem not_allows_of_rejects {body : Json} (h : Rejects rt body) : ¬ Allows rt body := by
  obtain ⟨reason, hreason⟩ := h
  intro hnone
  rw [Allows, hreason] at hnone
  cases hnone

/-- What decides is a recognised field. -/
theorem recognised_of_rejects {body : Json} (h : Rejects rt body) : Recognised body := by
  by_cases hchain : ∀ v, firstPresent body chainFields = some v → ¬ BlockedChain v ∧ convertNumber v ≠ none
  · obtain ⟨reason, hreason⟩ := h
    rw [validate_rpc rt hchain] at hreason
    by_cases hrpc : ∀ w, firstPresent body rpcFields = some w → ¬ BlockedRpc w ∧ w.text ≠ none
    · rw [checkRpc_allowed hrpc] at hreason
      cases hreason
    · push Not at hrpc
      obtain ⟨w, hw, hblocked⟩ := hrpc
      by_cases hb : BlockedRpc w
      · obtain ⟨f, hf, hget⟩ := firstPresent_mem hw
        exact .inr ⟨f, hf, w, hget, hb⟩
      · rw [checkRpc, hw] at hreason
        simp only [hblocked hb] at hreason
        cases hreason
  · push Not at hchain
    obtain ⟨v, hv, hblocked⟩ := hchain
    by_cases hb : BlockedChain v
    · obtain ⟨f, hf, hget⟩ := firstPresent_mem hv
      exact .inl ⟨f, hf, v, hget, hb⟩
    · obtain ⟨reason, hreason⟩ := h
      rw [validate_throws rt hv (hblocked hb)] at hreason
      cases hreason

theorem rejects_of_decided {body : Json} (h : Decided body) : Rejects rt body := by
  rcases h with ⟨v, hv, hblocked, -⟩ | ⟨hchain, -, w, hw, hblocked⟩
  · exact validate_chain rt hv hblocked
  · exact ⟨_, (validate_rpc rt hchain).trans (checkRpc_blocked hw hblocked)⟩

/-- What stops a request at its URL, stops it whatever its chain is. -/
theorem not_allows_of_rpc {body : Json} {w : Json} (hw : firstPresent body rpcFields = some w) (h : BlockedRpc w ∨ w.text = none) :
    ¬ Allows rt body := by
  by_cases hchain : ∀ v, firstPresent body chainFields = some v → ¬ BlockedChain v ∧ convertNumber v ≠ none
  · rw [Allows, validate_rpc rt hchain]
    rcases h with hblocked | hthrows
    · rw [checkRpc_blocked hw hblocked]
      exact fun h => nomatch h
    · rw [checkRpc, hw]
      simp only [hthrows]
      exact fun h => nomatch h
  · push Not at hchain
    obtain ⟨v, hv, hblocked⟩ := hchain
    by_cases hb : BlockedChain v
    · exact not_allows_of_rejects (validate_chain rt hv hb)
    · rw [Allows, validate_throws rt hv (hblocked hb)]
      exact fun h => nomatch h

/-- The groups share no field. -/
theorem not_mem_rpcFields {f : Text} (h : f ∈ chainFields) : f ∉ rpcFields := by
  have hnone : ∀ f ∈ chainFields, f ∉ rpcFields := by decide
  exact hnone f h

theorem not_mem_chainFields {f : Text} (h : f ∈ rpcFields) : f ∉ chainFields := fun hc => not_mem_rpcFields hc h

/-- A request that is decided stays refused with one field more. -/
theorem Decided.monotone (h : Decided (.obj fields)) {f : Text} (hmem : f ∈ chainFields ++ rpcFields)
    (hf : (Json.obj fields).get f = none) (v : Json) : ¬ Allows rt (extended fields f v) := by
  rcases h with ⟨c, hc, hblocked, hsettled⟩ | ⟨-, hsettled, w, hw, hblocked⟩
  · rcases List.mem_append.mp hmem with hchain | hrpc
    · rcases hsettled with hsettled | ⟨w, hw, hstops⟩
      · have hsame := (firstPresent_extended hf v hsettled ⟨c, hc⟩).trans hc
        exact not_allows_of_rejects (validate_chain rt hsame hblocked)
      · exact not_allows_of_rpc ((firstPresent_other hf v (not_mem_rpcFields hchain)).trans hw) hstops
    · have hsame := (firstPresent_other hf v (not_mem_chainFields hrpc)).trans hc
      exact not_allows_of_rejects (validate_chain rt hsame hblocked)
  · refine not_allows_of_rpc (w := w) ?_ (.inl hblocked)
    rcases List.mem_append.mp hmem with hchain | hrpc
    · exact (firstPresent_other hf v (not_mem_rpcFields hchain)).trans hw
    · exact (firstPresent_extended hf v hsettled ⟨w, hw⟩).trans hw

theorem not_blocked_false : ¬ BlockedChain (.bool false) ∧ convertNumber (.bool false) ≠ none := by
  refine ⟨?_, by simp [convertNumber, Json.toNumber]⟩
  rintro ⟨n, hn, hmem⟩
  cases hn
  exact absurd hmem (by decide)

theorem not_blocked_empty : ¬ BlockedRpc (.str []) ∧ (Json.str []).text ≠ none := by
  refine ⟨?_, by simp [Json.text]⟩
  rintro ⟨rpc, hrpc, hany⟩
  rw [Json.text] at hrpc
  cases hrpc
  exact absurd hany (by decide)

/-- A request that is refused but not decided is let through with one field more: a chain
`false` in front of the blocked chain, or an empty URL in front of the blocked URL. -/
theorem exists_hiding (h : Rejects rt (.obj fields)) (hdecided : ¬ Decided (.obj fields)) :
    ∃ f ∈ chainFields ++ rpcFields, (Json.obj fields).get f = none ∧ ∃ v, Allows rt (extended fields f v) := by
  by_cases hchain : ∀ v, firstPresent (.obj fields) chainFields = some v → ¬ BlockedChain v ∧ convertNumber v ≠ none
  · have hblocked : ∃ w, firstPresent (.obj fields) rpcFields = some w ∧ BlockedRpc w := by
      obtain ⟨reason, hreason⟩ := h
      rw [validate_rpc rt hchain] at hreason
      by_contra hnone
      push Not at hnone
      rw [checkRpc] at hreason
      split at hreason
      · cases hreason
      case h_2 w hw =>
        have hfree := hnone w hw
        split at hreason
        · cases hreason
        case h_2 rpc hrpc =>
          split at hreason
          case isTrue hany => exact hfree ⟨rpc, hrpc, (Bool.and_eq_true_iff.mp hany).2⟩
          · cases hreason
    have hsettled : settled (.obj fields) rpcFields = false := by
      rw [Bool.eq_false_iff]
      exact fun hs => hdecided (.inr ⟨hchain, hs, hblocked⟩)
    obtain ⟨f, hmem, hf, hfirst⟩ := firstPresent_added hsettled
    refine ⟨f, List.mem_append_right _ hmem, hf, .str [], ?_⟩
    rw [Allows, validate_rpc rt (by rw [firstPresent_other hf _ (not_mem_chainFields hmem)]; exact hchain)]
    refine checkRpc_allowed fun w hw => ?_
    rw [hfirst _ (by simp)] at hw
    cases hw
    exact not_blocked_empty
  · push Not at hchain
    obtain ⟨c, hc, hconvert⟩ := hchain
    have hblocked : BlockedChain c := by
      by_contra hb
      obtain ⟨reason, hreason⟩ := h
      rw [validate_throws rt hc (hconvert hb)] at hreason
      cases hreason
    have hnot : ¬ (settled (.obj fields) chainFields = true ∨
        ∃ w, firstPresent (.obj fields) rpcFields = some w ∧ (BlockedRpc w ∨ w.text = none)) :=
      fun hor => hdecided (.inl ⟨c, hc, hblocked, hor⟩)
    push Not at hnot
    obtain ⟨hsettled, hrpc⟩ := hnot
    obtain ⟨f, hmem, hf, hfirst⟩ := firstPresent_added (Bool.eq_false_iff.mpr hsettled)
    refine ⟨f, List.mem_append_left _ hmem, hf, .bool false, ?_⟩
    have hfree : ∀ v, firstPresent (extended fields f (.bool false)) chainFields = some v →
        ¬ BlockedChain v ∧ convertNumber v ≠ none := by
      intro v hv
      rw [hfirst _ (by simp)] at hv
      cases hv
      exact not_blocked_false
    rw [Allows, validate_rpc rt hfree]
    refine checkRpc_allowed fun w hw => ?_
    rw [firstPresent_other hf _ (not_mem_rpcFields hmem)] at hw
    exact hrpc w hw

end

end GalaxiaAin.Tenant
