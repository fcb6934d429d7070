import GalaxiaAin.Library.Base64
import GalaxiaAin.Library.JsonHeld
import GalaxiaAin.Library.WellFormed
import GalaxiaAin.Tenant.Jwt

/-! HS256 tokens: what is signed is read back, and nothing else passes. The MAC is any
function of the secret and the message; base64, UTF-8 and JSON are the platform's. -/
namespace GalaxiaAin.Tenant.Credentials
open GalaxiaAin.Library GalaxiaAin.Tenant

/-- An environment with the base64 and the JSON of the platform, which reads numbers as given,
and the HMAC of a function to bytes. -/
def onPlatform (env : JwtEnv) (readNumber : Text → Numeral) (mac : Text → Text → Bytes) : JwtEnv :=
  { env with
    fromBase64 := fromBase64
    parseJson := Json.parse readNumber
    hmac := fun secret message => base64Url (mac secret message) }

/-- `base64url(header).base64url(payload).base64url(HMAC)`. -/
def makeJwt (mac : Text → Text → Bytes) (secret : Text) (header payload : Json) : Text :=
  let head := base64Url (utf8 header.stringify)
  let body := base64Url (utf8 payload.stringify)
  head ++ units "." ++ body ++ units "." ++ base64Url (mac secret (head ++ units "." ++ body))

def SaysHs256 (header : Json) : Prop := header.get (units "alg") = some (.str (units "HS256"))

/-- A token of three segments that verifies to a value: the header says HS256, the last segment
is the MAC of the first two, and the second is the value. -/
structure SignedToken (env : JwtEnv) (mac : Text → Text → Bytes) (token secret : Text) (v : Json)
    (header payload signature : Text) : Prop where
  segments : token = header ++ 46 :: (payload ++ 46 :: signature)
  noDots : 46 ∉ header ∧ 46 ∉ payload ∧ 46 ∉ signature
  saysHs256 : ∃ h, decodePart env header = some h ∧ SaysHs256 h
  signed : base64UrlDecode env signature = mac secret (header ++ units "." ++ payload)
  reads : decodePart env payload = some v

/-! ### The decoder -/

theorem replace_value (c : UInt16) :
    base64Value (if c = 45 then 43 else if c = 95 then 47 else c) = base64Value c := by
  split_ifs with hminus hunder
  · rw [hminus]
    decide
  · rw [hunder]
    decide
  · rfl

variable {env : JwtEnv} {readNumber : Text → Numeral} {mac : Text → Text → Bytes}

/-- Digits of either alphabet are decoded, whatever padding their number needs. -/
theorem base64UrlDecode_digits {input : Text} {values : List Nat} (h : input.map base64Value = values.map some) :
    base64UrlDecode (onPlatform env readNumber mac) input = unsextets values := by
  refine fromBase64_digits ?_ _
  rw [List.map_map, ← h]
  exact List.map_congr_left fun c _ => replace_value c

theorem base64UrlDecode_base64Url (bytes : Bytes) : base64UrlDecode (onPlatform env readNumber mac) (base64Url bytes) = bytes := by
  rw [base64UrlDecode_digits (base64Url_values bytes), unsextets_sextets]

theorem decodePart_stringify {v : Json} (h : v.Held readNumber) :
    decodePart (onPlatform env readNumber mac) (base64Url (utf8 v.stringify)) = some v := by
  rw [decodePart, base64UrlDecode_base64Url, v.wellFormed_stringify.decodeUtf8_utf8]
  exact Json.parse_stringify h

/-! ### The segments -/

theorem not_mem_splitOn (token : Text) : ∀ part ∈ token.splitOn 46, (46 : UInt16) ∉ part := by
  induction token with
  | nil => simp
  | cons c token ih =>
    rw [List.splitOn_cons_eq_if_modifyHead]
    split
    · exact List.forall_mem_cons.mpr ⟨List.not_mem_nil, ih⟩
    · rename_i hc
      have hne := List.splitOn_ne_nil 46 token
      generalize token.splitOn 46 = parts at ih hne
      cases parts with
      | nil => exact absurd rfl hne
      | cons part parts =>
        rw [List.modifyHead_cons]
        obtain ⟨hpart, hparts⟩ := List.forall_mem_cons.mp ih
        refine List.forall_mem_cons.mpr ⟨fun hmem => ?_, hparts⟩
        rcases List.mem_cons.mp hmem with hhead | htail
        · exact hc (by simp [← hhead])
        · exact hpart htail

theorem splitOn_three {token header payload signature : Text} :
    token.splitOn 46 = [header, payload, signature] ↔
      token = header ++ 46 :: (payload ++ 46 :: signature) ∧ 46 ∉ header ∧ 46 ∉ payload ∧ 46 ∉ signature := by
  constructor
  · intro h
    have hdots := not_mem_splitOn token
    have hjoin : List.intercalate [46] (token.splitOn 46) = token := List.intercalate_splitOn 46
    rw [h] at hdots hjoin
    simp only [List.forall_mem_cons, List.not_mem_nil, false_imp_iff, implies_true, and_true] at hdots
    exact ⟨by rw [← hjoin]; simp [List.intercalate], hdots⟩
  · rintro ⟨rfl, hheader, hpayload, hsignature⟩
    rw [List.splitOn_append_cons_self_of_not_mem hheader, List.splitOn_append_cons_self_of_not_mem hpayload,
      List.splitOn_eq_singleton hsignature]

/-! ### Verification -/

theorem checkAlgorithm_ok {header : Json} : checkAlgorithm header = .ok () ↔ SaysHs256 header := by
  unfold checkAlgorithm SaysHs256 property
  cases header with
  | null => simp [Json.get, bind, Except.bind]
  | obj fields =>
    cases hget : (Json.obj fields).get (units "alg") with
    | none => simp [bind, Except.bind, hget, jwtError]
    | some alg =>
      cases alg with
      | str alg =>
        simp only [bind, Except.bind, hget, jwtError, Option.some.injEq, Json.str.injEq]
        split
        · simp_all
        · split <;> simp_all
      | _ =>
        simp only [bind, Except.bind, hget]
        split <;> simp
  | _ => simp [Json.get, bind, Except.bind, jwtError]

/-- The value of a token is decided by its three segments. -/
theorem verifyHs256_ok {token secret : Text} {v : Json} :
    verifyHs256 (onPlatform env readNumber mac) token secret = .ok v ↔
      ∃ header payload signature, SignedToken (onPlatform env readNumber mac) mac token secret v header payload signature := by
  constructor
  · intro h
    unfold verifyHs256 at h
    split at h
    · rename_i header payload signature hsplit
      obtain ⟨hsegments, hdots⟩ := splitOn_three.mp hsplit
      cases hheader : decodePart (onPlatform env readNumber mac) header with
      | none => simp [hheader, jwtError] at h
      | some head =>
        rw [hheader] at h
        cases halg : checkAlgorithm head with
        | error error => simp [halg, bind, Except.bind] at h
        | ok =>
          simp only [halg, bind, Except.bind] at h
          split at h
          · rename_i hmac
            cases hpayload : decodePart (onPlatform env readNumber mac) payload with
            | none => simp [hpayload, jwtError] at h
            | some body =>
              rw [hpayload, Except.ok.injEq] at h
              subst h
              refine ⟨header, payload, signature, hsegments, hdots, ⟨head, hheader, checkAlgorithm_ok.mp halg⟩, ?_, hpayload⟩
              rw [hmac]
              exact base64UrlDecode_base64Url _
          · simp [jwtError] at h
    · simp [jwtError] at h
  · rintro ⟨header, payload, signature, hsegments, hdots, ⟨head, hheader, halg⟩, hsigned, hpayload⟩
    have hmac : base64UrlDecode (onPlatform env readNumber mac) signature =
        base64UrlDecode (onPlatform env readNumber mac) ((onPlatform env readNumber mac).hmac secret (header ++ units "." ++ payload)) :=
      hsigned.trans (base64UrlDecode_base64Url _).symm
    rw [verifyHs256, splitOn_three.mpr ⟨hsegments, hdots⟩]
    simp only [hheader, checkAlgorithm_ok.mpr halg, bind, Except.bind, hmac, if_true, hpayload]

/-- A token that is made verifies to its payload. -/
theorem verifyHs256_makeJwt {secret : Text} {header payload : Json} (halg : SaysHs256 header)
    (hheader : header.Held readNumber) (hpayload : payload.Held readNumber) :
    verifyHs256 (onPlatform env readNumber mac) (makeJwt mac secret header payload) secret = .ok payload := by
  have hdot (bytes : Bytes) : (46 : UInt16) ∉ base64Url bytes := base64Url_plain (by decide) bytes
  refine verifyHs256_ok.mpr ⟨_, _, _, ?_, ⟨hdot _, hdot _, hdot _⟩, ⟨header, decodePart_stringify hheader, halg⟩,
    base64UrlDecode_base64Url _, decodePart_stringify hpayload⟩
  simp [makeJwt, units]

/-- What verifies is a value JavaScript holds, so it verifies again when it is signed anew. -/
theorem verifyHs256_again (hnumber : Canonical readNumber) {token secret secret' : Text} {v header : Json}
    (h : verifyHs256 (onPlatform env readNumber mac) token secret = .ok v) (halg : SaysHs256 header)
    (hheader : header.Held readNumber) :
    verifyHs256 (onPlatform env readNumber mac) (makeJwt mac secret' header v) secret' = .ok v := by
  obtain ⟨_, _, _, hsigned⟩ := verifyHs256_ok.mp h
  exact verifyHs256_makeJwt halg hheader (Json.parse_held hnumber hsigned.reads)

/-- A token that is made verifies to its payload; and a token verifies to a value only where it
has three segments, an HS256 header, the MAC of its first two segments and the value. -/
theorem hs256_round_trip (env : JwtEnv) (readNumber : Text → Numeral) (mac : Text → Text → Bytes) (secret : Text) :
    (∀ header payload : Json, SaysHs256 header → header.Held readNumber → payload.Held readNumber →
      verifyHs256 (onPlatform env readNumber mac) (makeJwt mac secret header payload) secret = .ok payload) ∧
    ∀ token v, verifyHs256 (onPlatform env readNumber mac) token secret = .ok v ↔
      ∃ header payload signature, SignedToken (onPlatform env readNumber mac) mac token secret v header payload signature := by
  exact ⟨fun header payload halg hheader hpayload => verifyHs256_makeJwt halg hheader hpayload,
    fun token v => verifyHs256_ok⟩

private def sampleHeader : Json := .obj [(units "alg", .str (units "HS256")), (units "typ", .str (units "JWT"))]

private def five : Numeral := ⟨[53], by simp, List.forall_mem_singleton.mpr rfl⟩

private def samplePayload : Json := .obj [(units "sub", .str (units "user-1")), (units "exp", .num five)]

private def sampleEnv : JwtEnv where
  secret := some (units "s")
  issuer := none
  audience := none
  clockSkew := units "60"
  addSkew := Number.add 60
  subSkew := Number.add (-60)
  now := 0
  fromBase64 := fromBase64
  parseJson := Json.parse fun _ => five
  number := fun _ => none
  hmac := fun _ _ => []

private def sampleMac (secret message : Text) : Bytes := utf8 (message ++ secret)

theorem hs256_round_trip_sample : verifyHs256 (onPlatform sampleEnv (fun _ => five) sampleMac)
    (makeJwt sampleMac (units "s") sampleHeader samplePayload) (units "s") = .ok samplePayload := by
  have hheader : sampleHeader.Held fun _ => five := by
    have htyp : arrayIndex (units "typ") = none := by decide
    refine ⟨List.pairwise_pair.mpr ⟨by decide, fun i hi => ?_⟩, trivial, trivial, trivial⟩
    cases htyp.symm.trans hi
  have hpayload : samplePayload.Held fun _ => five := by
    have hexp : arrayIndex (units "exp") = none := by decide
    refine ⟨List.pairwise_pair.mpr ⟨by decide, fun i hi => ?_⟩, trivial, ⟨by decide, rfl⟩, trivial⟩
    cases hexp.symm.trans hi
  exact (hs256_round_trip sampleEnv (fun _ => five) sampleMac (units "s")).1 sampleHeader samplePayload rfl hheader hpayload

end GalaxiaAin.Tenant.Credentials
