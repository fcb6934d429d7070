import GalaxiaAin.Library.Numbers
import GalaxiaAin.Tenant.Jwt

/-! What validateClaims enforces. The claims of a token are untyped: a sum with a text is a
text, and a comparison with what is no number is false. -/
namespace GalaxiaAin.Tenant.Credentials
open GalaxiaAin.Library GalaxiaAin.Tenant

/-- An environment with the arithmetic of the platform and a clock skew, which has a text too. -/
def withClockSkew (env : JwtEnv) (skew : ℚ) : JwtEnv :=
  { env with addSkew := Number.add skew, subSkew := Number.add (-skew), number := Json.toNumber }

/-! ### What is to be enforced -/

def AtLeast (limit : ℚ) : Number → Prop
  | .finite x => limit ≤ x
  | .infinity => True
  | .nan | .negInfinity => False

def AtMost (limit : ℚ) : Number → Prop
  | .finite x => x ≤ limit
  | .negInfinity => True
  | .nan | .infinity => False

/-- Neither a falsy value nor an array or an object of nothing. -/
def NonEmpty (v : Json) : Prop := v.truthy = true ∧ v ≠ .arr [] ∧ v ≠ .obj []

/-- The value is a number of which something holds. -/
def IsNumber (p : Number → Prop) (v : Json) : Prop := ∃ n, v = .num n ∧ p (stringToNumber n.text)

/-- The conditions on the claims of a payload. -/
structure Conforms (env : JwtEnv) (skew : ℚ) (payload : Json) : Prop where
  sub : ∃ v, payload.get (units "sub") = some v ∧ NonEmpty v
  exp : ∀ v, payload.get (units "exp") = some v → IsNumber (fun n => AtLeast env.now (n.add skew)) v
  nbf : ∀ v, payload.get (units "nbf") = some v → IsNumber (fun n => AtMost env.now (n.add (-skew))) v
  iss : ∀ expectedIss, present env.issuer = some expectedIss → payload.get (units "iss") = some (.str expectedIss)
  aud : ∀ expectedAud, present env.audience = some expectedAud → payload.get (units "aud") = some (.str expectedAud) ∨
    ∃ items, payload.get (units "aud") = some (.arr items) ∧ .str expectedAud ∈ items

/-- What is accepted conforms, and what conforms with a text for its subject is accepted. -/
def ClaimsEnforced (env : JwtEnv) (skew : ℚ) (payload : Json) : Prop :=
  (∀ v, validateClaims (withClockSkew env skew) payload = .ok v → Conforms env skew payload) ∧
  ∀ sub, payload.get (units "sub") = some (.str sub) → Conforms env skew payload →
    validateClaims (withClockSkew env skew) payload = .ok payload

/-! ### What is checked -/

/-- Every check of the code lets the payload through. -/
structure Passes (env : JwtEnv) (payload : Json) : Prop where
  notNull : payload ≠ .null
  sub : hasSub payload (payload.get (units "sub")) = true
  exp : expired env (payload.get (units "exp")) = .ok false
  nbf : notYetValid env (payload.get (units "nbf")) = .ok false
  iss : ∀ expectedIss, present env.issuer = some expectedIss → isText (payload.get (units "iss")) expectedIss = true
  aud : ∀ expectedAud, present env.audience = some expectedAud → forAudience (payload.get (units "aud")) expectedAud = true

/-- The payload is no text, its times are numbers, and its subject is not an empty array or object. -/
structure WellTyped (payload : Json) : Prop where
  notText : ∀ s, payload ≠ .str s
  sub : payload.get (units "sub") ≠ some (.arr []) ∧ payload.get (units "sub") ≠ some (.obj [])
  exp : ∀ v, payload.get (units "exp") = some v → IsNumber (· ≠ .nan) v
  nbf : ∀ v, payload.get (units "nbf") = some v → IsNumber (· ≠ .nan) v

variable {env : JwtEnv} {payload : Json}

theorem property_eq (hnull : payload ≠ .null) (name : Text) : property payload name = .ok (payload.get name) := by
  cases payload with
  | null => exact absurd rfl hnull
  | _ => rfl

/-- The checks as a chain, for a payload that has properties to read. -/
theorem checkClaims_eq (hnull : payload ≠ .null) :
    checkClaims env payload =
      if hasSub payload (payload.get (units "sub")) = false then jwtError "MISSING_SUB" "JWT missing sub claim"
      else (expired env (payload.get (units "exp"))).bind fun late =>
        if late then jwtError "TOKEN_EXPIRED" "JWT expired"
        else (notYetValid env (payload.get (units "nbf"))).bind fun early =>
          if early then jwtError "TOKEN_NOT_YET_VALID" "JWT not yet valid"
          else if (present env.issuer).any fun iss => !isText (payload.get (units "iss")) iss then
            jwtError "WRONG_ISSUER" "JWT issuer mismatch"
          else if (present env.audience).any fun aud => !forAudience (payload.get (units "aud")) aud then
            jwtError "WRONG_AUDIENCE" "JWT audience mismatch"
          else .ok () := by
  rw [checkClaims, property_eq hnull]
  simp only [bind, Except.bind, Bool.not_eq_true']

theorem checkClaims_ok : checkClaims env payload = .ok () ↔ Passes env payload := by
  by_cases hnull : payload = .null
  · subst hnull
    exact ⟨(fun h => by cases h), fun h => absurd rfl h.notNull⟩
  rw [checkClaims_eq hnull]
  constructor
  · intro h
    cases hsub : hasSub payload (payload.get (units "sub")) with
    | false => simp [hsub, jwtError] at h
    | true =>
      cases hexp : expired env (payload.get (units "exp")) with
      | error error => simp [hsub, hexp, Except.bind] at h
      | ok late =>
        cases hnbf : notYetValid env (payload.get (units "nbf")) with
        | error error => cases late <;> simp [hsub, hexp, hnbf, Except.bind, jwtError] at h
        | ok early =>
          cases late <;> cases early <;>
            simp only [hsub, hexp, hnbf, Except.bind, jwtError, Bool.true_eq_false, Bool.false_eq_true, if_true, if_false,
              reduceCtorEq] at h
          split at h
          · cases h
          · rename_i hiss
            split at h
            · cases h
            · rename_i haud
              exact ⟨hnull, hsub, hexp, hnbf, (fun iss hiss' => by simpa [hiss'] using hiss),
                fun aud haud' => by simpa [haud'] using haud⟩
  · rintro ⟨-, hsub, hexp, hnbf, hiss, haud⟩
    have hissuer : ((present env.issuer).any fun iss => !isText (payload.get (units "iss")) iss) = false := by
      cases hpresent : present env.issuer with
      | none => rfl
      | some iss => simp [hiss iss hpresent]
    have haudience : ((present env.audience).any fun aud => !forAudience (payload.get (units "aud")) aud) = false := by
      cases hpresent : present env.audience with
      | none => rfl
      | some aud => simp [haud aud hpresent]
    simp [hsub, hexp, hnbf, hissuer, haudience, Except.bind]

theorem validateClaims_passes {v : Json} : validateClaims env payload = .ok v ↔ Passes env payload ∧ v = payload := by
  rw [← checkClaims_ok, validateClaims]
  cases checkClaims env payload with
  | error error => simp [Except.map]
  | ok => simp [Except.map, eq_comm]

theorem isText_iff {claim : Option Json} {expected : Text} : isText claim expected = true ↔ claim = some (.str expected) := by
  unfold isText
  split <;> simp_all

theorem forAudience_iff {aud : Option Json} {expected : Text} :
    forAudience aud expected = true ↔ aud = some (.str expected) ∨ ∃ items, aud = some (.arr items) ∧ .str expected ∈ items := by
  unfold forAudience
  split
  · simp [isText_iff]
  · rename_i hnot
    rw [isText_iff]
    exact ⟨.inl, fun h => h.resolve_right fun ⟨items, hitems, _⟩ => hnot items hitems⟩

theorem not_below {limit : ℚ} {n : Number} (h : n ≠ .nan) : n.below limit = false ↔ AtLeast limit n := by
  cases n <;> simp_all [Number.below, AtLeast]

theorem not_above {limit : ℚ} {n : Number} (h : n ≠ .nan) : n.above limit = false ↔ AtMost limit n := by
  cases n <;> simp_all [Number.above, AtMost]

theorem add_ne_nan {x : ℚ} {n : Number} : n.add x ≠ .nan ↔ n ≠ .nan := by
  cases n <;> simp [Number.add]

theorem atLeast_ne_nan {limit : ℚ} {n : Number} (h : AtLeast limit n) : n ≠ .nan := by
  rintro rfl
  exact h

theorem atMost_ne_nan {limit : ℚ} {n : Number} (h : AtMost limit n) : n ≠ .nan := by
  rintro rfl
  exact h

variable {skew : ℚ}

theorem expired_num {n : Numeral} (h : stringToNumber n.text ≠ .nan) :
    expired (withClockSkew env skew) (some (.num n)) = .ok false ↔ AtLeast env.now ((stringToNumber n.text).add skew) := by
  have hexpired : expired (withClockSkew env skew) (some (.num n)) =
      .ok (((stringToNumber n.text).add skew).below env.now) := rfl
  rw [← not_below (add_ne_nan.mpr h), hexpired, Except.ok.injEq]

theorem notYetValid_num {n : Numeral} (h : stringToNumber n.text ≠ .nan) :
    notYetValid (withClockSkew env skew) (some (.num n)) = .ok false ↔
      AtMost env.now ((stringToNumber n.text).add (-skew)) := by
  have hearly : notYetValid (withClockSkew env skew) (some (.num n)) =
      .ok (((stringToNumber n.text).add (-skew)).above env.now) := rfl
  rw [← not_above (add_ne_nan.mpr h), hearly, Except.ok.injEq]

/-! ### What is checked and what is to be enforced -/

/-- A payload that conforms with a text for its subject passes every check. -/
theorem passes_of_conforms {sub : Text} (hsub : payload.get (units "sub") = some (.str sub)) (h : Conforms env skew payload) :
    Passes (withClockSkew env skew) payload := by
  obtain ⟨⟨v, hv, hempty⟩, hexp, hnbf, hiss, haud⟩ := h
  have hobject : ∃ fields, payload = .obj fields := by
    cases payload with
    | obj fields => exact ⟨fields, rfl⟩
    | _ => cases hsub
  obtain ⟨fields, rfl⟩ := hobject
  refine ⟨by simp, ?_, ?_, ?_, fun expected he => isText_iff.mpr (hiss expected he),
    fun expected he => forAudience_iff.mpr (haud expected he)⟩
  · rw [hv]
    exact hempty.1
  · cases hget : (Json.obj fields).get (units "exp") with
    | none => rfl
    | some exp =>
      obtain ⟨n, rfl, hn⟩ := hexp exp hget
      exact (expired_num (add_ne_nan.mp (atLeast_ne_nan hn))).mpr hn
  · cases hget : (Json.obj fields).get (units "nbf") with
    | none => rfl
    | some nbf =>
      obtain ⟨n, rfl, hn⟩ := hnbf nbf hget
      exact (notYetValid_num (add_ne_nan.mp (atMost_ne_nan hn))).mpr hn

/-- A payload that passes every check conforms iff it is well typed. -/
theorem conforms_iff (h : Passes (withClockSkew env skew) payload) : Conforms env skew payload ↔ WellTyped payload := by
  constructor
  · rintro ⟨⟨v, hv, hempty⟩, hexp, hnbf, -, -⟩
    refine ⟨?_, ?_, fun exp he => ?_, fun nbf hn => ?_⟩
    · rintro s rfl
      cases hv
    · rw [hv]
      exact ⟨fun he => hempty.2.1 (Option.some.inj he), fun he => hempty.2.2 (Option.some.inj he)⟩
    · obtain ⟨n, rfl, hat⟩ := hexp exp he
      exact ⟨n, rfl, add_ne_nan.mp (atLeast_ne_nan hat)⟩
    · obtain ⟨n, rfl, hat⟩ := hnbf nbf hn
      exact ⟨n, rfl, add_ne_nan.mp (atMost_ne_nan hat)⟩
  · rintro ⟨htext, hempty, hexp, hnbf⟩
    refine ⟨?_, fun exp he => ?_, fun nbf hn => ?_, fun expected he => isText_iff.mp (h.iss expected he),
      fun expected he => forAudience_iff.mp (h.aud expected he)⟩
    · have hsub : (payload.get (units "sub")).any Json.truthy = true := by
        have := h.sub
        cases payload with
        | str s => exact absurd rfl (htext s)
        | _ => exact this
      obtain ⟨v, hv, htruthy⟩ := (Option.any_eq_true _ _).mp hsub
      rw [hv] at hempty
      exact ⟨v, hv, htruthy, fun he => hempty.1 (congrArg some he), fun he => hempty.2 (congrArg some he)⟩
    · obtain ⟨n, rfl, hnan⟩ := hexp exp he
      have := h.exp
      rw [he] at this
      exact ⟨n, rfl, (expired_num hnan).mp this⟩
    · obtain ⟨n, rfl, hnan⟩ := hnbf nbf hn
      have := h.nbf
      rw [hn] at this
      exact ⟨n, rfl, (notYetValid_num hnan).mp this⟩

/-- A payload whose time of expiry is a text, from long before the time of the check. -/
private def textExpiry : Json :=
  .obj [(units "sub", .str (units "u1")), (units "exp", .str (units "1000000000"))]

/-- The environment of the sample: no issuer, no audience and a minute of skew. -/
private def expiryEnv : JwtEnv where
  secret := some (units "s")
  issuer := none
  audience := none
  clockSkew := units "60"
  addSkew := Number.add 60
  subSkew := Number.add (-60)
  now := 1763500000
  fromBase64 := fun _ => []
  parseJson := fun _ => none
  number := Json.toNumber
  hmac := fun _ _ => []

end GalaxiaAin.Tenant.Credentials
