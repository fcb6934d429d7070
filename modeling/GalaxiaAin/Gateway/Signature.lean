import GalaxiaAin.Gateway.Coverage
import GalaxiaAin.Galaxia.Clients
import GalaxiaAin.Library.Numbers

/-! verifyQuantumSignature with SignatureVerifier.verifyRequest written out: the environment
variables as texts, the header as untyped JSON, the two verifiers, and the catch block. -/
namespace GalaxiaAin.Gateway
open GalaxiaAin.Library GalaxiaAin.Galaxia

inductive SignatureScheme where
  | legacyQuantumHeader | pqSnark
  deriving DecidableEq

structure VerifyResult where
  ok : Bool
  schemeTried : Option SignatureScheme
  reason : Option Text

/-- The environment variables, the clock, and what answers the calls of the verifiers. -/
structure SignatureVerifier where
  /-- `REQUIRE_PQ_SIGNATURE`, `PQ_SNARK_ENABLED` and `PQ_SNARK_MAX_SKEW_MS`. -/
  requirePqSignature : Option Text
  pqSnarkEnabled : Option Text
  pqSnarkMaxSkewMs : Option Text
  /-- `Date.now()`. -/
  now : Nat
  /-- `JSON.parse`; none where it throws. -/
  parse : Text → Option Json
  loadVerificationKey : Except Text Json
  /-- `snarkjs.groth16.verify`. -/
  groth16Verify (vk : Json) (publicSignals proof : Value) : Except Text Value
  /-- What the quantum network answers to a verify request. -/
  quantumNetwork : SigningPayload → QuantumSignature → Galaxia.Reply

/-- `(setting || 'false').toLowerCase() === 'true'`. -/
def flag (setting : Option Text) : Bool := lower ((present setting).getD (units "false")) == units "true"

namespace SignatureVerifier
variable (v : SignatureVerifier)

def pqEnabled : Bool := flag v.pqSnarkEnabled

def maxSkewMs : Number := parseInt ((present v.pqSnarkMaxSkewMs).getD (units "300000"))

/-- `parseJsonHeader` of a header that is there; the caller refuses a falsy value too. -/
def parseJsonHeader (header : Text) : Option Json := (v.parse header).filter Json.truthy

/-- `Number(pqSig.timestamp)`: undefined is NaN, and some objects have no number. -/
def timestampOf (pqSig : Json) : Except Text Number :=
  match pqSig.get (units "timestamp") with
  | none => .ok .nan
  | some t =>
    match t.toNumber with
    | some n => .ok n
    | none => .error (units "Cannot convert object to primitive value")

def verifyPqSnarkSignature (pqSig : Json) : Value :=
  match v.loadVerificationKey.bind fun vk =>
    v.groth16Verify vk (pqSig.get (units "publicSignals")) (pqSig.get (units "proof")) with
  | .ok valid => valid
  | .error _ => some (.bool false)

/-- The branch of the header x-pq-snark-signature. -/
def verifyPqSnark (header : Text) : Except Text VerifyResult :=
  match v.parseJsonHeader header with
  | none => .ok ⟨false, some .pqSnark, some (units "Malformed x-pq-snark-signature")⟩
  | some pqSig => do
    let timestamp ← timestampOf pqSig
    if (timestamp.distance v.now).exceeds v.maxSkewMs then
      return ⟨false, some .pqSnark, some (units "Timestamp skew too large")⟩
    else if truthy (v.verifyPqSnarkSignature pqSig) then return ⟨true, some .pqSnark, none⟩
    else return ⟨false, some .pqSnark, some (units "Invalid PQ+SNARK proof")⟩

/-- What the legacy headers of a request are checked with, when both of its parts are there. -/
def legacySig (http : HttpRequest) : Option QuantumSignature :=
  match present http.quantumSignature, present http.quantumPublicKey with
  | some signature, some publicKey =>
    some ⟨signature, publicKey, (present http.quantumAlgorithm).getD (units "CRYSTALS-Dilithium"),
      ((present http.quantumTimestamp).map parseInt).getD (.finite v.now)⟩
  | _, _ => none

/-- `quantumSecurityService.verify`. -/
def verifyLegacySignature (http : HttpRequest) (legacySig : QuantumSignature) : Except Text Value :=
  Galaxia.verify.call (v.quantumNetwork (buildRequestSigningPayload http legacySig.timestamp) legacySig)

def verifyLegacy (http : HttpRequest) : Except Text VerifyResult :=
  match v.legacySig http with
  | none => .ok ⟨true, none, some (units "No signature provided (allowed)")⟩
  | some legacySig => do
    if truthy (← v.verifyLegacySignature http legacySig) then return ⟨true, some .legacyQuantumHeader, none⟩
    else return ⟨false, some .legacyQuantumHeader, some (units "Invalid legacy signature")⟩

/-- The header that selects the PQ scheme. -/
def pqHeader (http : HttpRequest) : Option Text := (present http.pqSnarkSignature).filter fun _ => v.pqEnabled

def verifyRequest (http : HttpRequest) : Except Text VerifyResult :=
  match v.pqHeader http with
  | some header => v.verifyPqSnark header
  | none => v.verifyLegacy http

/-- What the middleware does: call `next`, or answer with a status, an error and a code. -/
inductive Verdict where
  | next
  | answered (status : Nat) (error code : Text)

/-- The middleware `verifyQuantumSignature`. -/
def verifyQuantumSignature (http : HttpRequest) : Verdict :=
  match v.verifyRequest http with
  | .ok result =>
    if result.ok then .next else .answered 401 (units "Invalid signature") (units "QUANTUM_SIGNATURE_INVALID")
  | .error _ =>
    if flag v.requirePqSignature then
      .answered 503 (units "Signature verification unavailable") (units "SIGNATURE_VERIFICATION_UNAVAILABLE")
    else .next

/-! ### What each scheme lets through -/

/-- The proof in a header is accepted by its verifier. -/
def ProofAccepted (header : Text) : Prop :=
  ∃ pqSig, v.parseJsonHeader header = some pqSig ∧ truthy (v.verifyPqSnarkSignature pqSig) = true

/-- The timestamp of a header passes the skew test. -/
def InWindow (header : Text) : Prop :=
  ∃ pqSig t, v.parseJsonHeader header = some pqSig ∧ timestampOf pqSig = .ok t ∧
    (t.distance v.now).exceeds v.maxSkewMs = false

/-- The legacy signature of a request is accepted by its verifier. -/
def LegacyAccepted (http : HttpRequest) : Prop :=
  ∃ legacySig, v.legacySig http = some legacySig ∧
    ∃ valid, v.verifyLegacySignature http legacySig = .ok valid ∧ truthy valid = true

variable {v}

theorem verifyPqSnark_ok {header : Text} :
    (∃ result, v.verifyPqSnark header = .ok result ∧ result.ok = true) ↔ v.ProofAccepted header ∧ v.InWindow header := by
  unfold verifyPqSnark ProofAccepted InWindow
  cases hp : v.parseJsonHeader header with
  | none => simp
  | some pqSig =>
    cases ht : timestampOf pqSig with
    | error e => simp [bind, Except.bind, ht]
    | ok t =>
      simp only [bind, Except.bind, pure, Except.pure, Option.some.injEq, exists_eq_left', ht]
      cases hs : (t.distance v.now).exceeds v.maxSkewMs <;>
        cases ha : truthy (v.verifyPqSnarkSignature pqSig) <;> simp [ht, hs]

theorem verifyLegacy_ok {http : HttpRequest} :
    (∃ result, v.verifyLegacy http = .ok result ∧ result.ok = true) ↔
      v.legacySig http = none ∨ v.LegacyAccepted http := by
  unfold verifyLegacy LegacyAccepted
  cases hl : v.legacySig http with
  | none => simp
  | some legacySig =>
    cases hv : v.verifyLegacySignature http legacySig with
    | error e => simp [bind, Except.bind, hv]
    | ok valid =>
      cases ha : truthy valid <;> simp [bind, Except.bind, pure, Except.pure, hv, ha]

/-- With the flag set, only a result with ok lets a request through. -/
theorem next_iff (hr : flag v.requirePqSignature = true) {http : HttpRequest} :
    v.verifyQuantumSignature http = .next ↔ ∃ result, v.verifyRequest http = .ok result ∧ result.ok = true := by
  unfold verifyQuantumSignature
  cases v.verifyRequest http with
  | error e => simp [hr]
  | ok result => cases hok : result.ok <;> simp [hok]

/-! ### The gate -/

variable (v)

/-- The verifier the request was routed to accepted what the request carries. -/
def Accepted (http : HttpRequest) : Prop :=
  match v.pqHeader http with
  | some header => v.ProofAccepted header
  | none => v.LegacyAccepted http

/-- The timestamp in a header is a number within the skew of the clock. -/
def TimestampNear (header : Text) : Prop :=
  ∃ pqSig n, v.parse header = some pqSig ∧ pqSig.get (units "timestamp") = some (.num n) ∧
    ((stringToNumber n.text).distance v.now).Within v.maxSkewMs

/-- A request is let through only with an accepted signature, and with a PQ header only near the clock. -/
def Gated (http : HttpRequest) : Prop :=
  v.verifyQuantumSignature http = .next →
    v.Accepted http ∧ ∀ header, v.pqHeader http = some header → v.TimestampNear header

/-- The skew test compares two numbers. -/
def Comparable (pqSig : Json) : Prop :=
  v.maxSkewMs ≠ .nan ∧ ∃ n, pqSig.get (units "timestamp") = some (.num n) ∧ stringToNumber n.text ≠ .nan

/-- The skew test refuses the timestamp, or throws on it. -/
def Refused (pqSig : Json) : Prop :=
  ∀ t, timestampOf pqSig = .ok t → (t.distance v.now).exceeds v.maxSkewMs = true

/-- The request reaches neither the branch without a signature nor a skew test on something
that is not a number. -/
def Guarded (http : HttpRequest) : Prop :=
  match v.pqHeader http with
  | some header => ∀ pqSig, v.parseJsonHeader header = some pqSig → truthy (v.verifyPqSnarkSignature pqSig) = true →
      v.Comparable pqSig ∨ v.Refused pqSig
  | none => (present http.quantumSignature).isSome = true ∧ (present http.quantumPublicKey).isSome = true

variable {v}

private theorem parse_of_parseJsonHeader {header : Text} {pqSig : Json} (h : v.parseJsonHeader header = some pqSig) :
    v.parse header = some pqSig :=
  (Option.filter_eq_some_iff.mp h).1

theorem refused_iff {header : Text} {pqSig : Json} (hp : v.parseJsonHeader header = some pqSig) :
    v.Refused pqSig ↔ ¬ v.InWindow header := by
  unfold Refused InWindow
  constructor
  · rintro hr ⟨pqSig', t, hp', ht, hw⟩
    rw [hp, Option.some.injEq] at hp'
    subst hp'
    rw [hr t ht] at hw
    cases hw
  · intro hw t ht
    by_contra hs
    exact hw ⟨pqSig, t, hp, ht, Bool.eq_false_iff.mpr hs⟩

/-- Inside the window, a timestamp that can be compared is a near one. -/
theorem near_iff {header : Text} {pqSig : Json} (hp : v.parseJsonHeader header = some pqSig) (hw : v.InWindow header) :
    v.TimestampNear header ↔ v.Comparable pqSig := by
  have hparse := parse_of_parseJsonHeader hp
  obtain ⟨pqSig', t, hp', ht, hs⟩ := hw
  rw [hp, Option.some.injEq] at hp'
  subst hp'
  constructor
  · rintro ⟨pqSig', n, hparse', hn, hwithin⟩
    rw [hparse, Option.some.injEq] at hparse'
    subst hparse'
    obtain ⟨hd, hmax, -⟩ := (Number.within_iff _ _).mp hwithin
    exact ⟨hmax, n, hn, Number.distance_ne_nan.mp hd⟩
  · rintro ⟨hmax, n, hn, hnan⟩
    have hvalue : stringToNumber n.text = t := by
      simp only [timestampOf, hn, Json.toNumber, Json.text, Option.map_some, Except.ok.injEq] at ht
      exact ht
    refine ⟨pqSig, n, hparse, hn, (Number.within_iff _ _).mpr ⟨Number.distance_ne_nan.mpr hnan, hmax, ?_⟩⟩
    rw [hvalue]
    exact hs

private theorem legacySig_isSome {http : HttpRequest} :
    (v.legacySig http).isSome = true ↔
      (present http.quantumSignature).isSome = true ∧ (present http.quantumPublicKey).isSome = true := by
  unfold legacySig
  cases present http.quantumSignature <;> cases present http.quantumPublicKey <;> simp

private theorem snark_gate {header : Text} :
    (v.ProofAccepted header ∧ v.InWindow header → v.ProofAccepted header ∧ v.TimestampNear header) ↔
      ∀ pqSig, v.parseJsonHeader header = some pqSig → truthy (v.verifyPqSnarkSignature pqSig) = true →
        v.Comparable pqSig ∨ v.Refused pqSig := by
  constructor
  · intro hgate pqSig hp ha
    by_cases hw : v.InWindow header
    · exact .inl ((near_iff hp hw).mp (hgate ⟨⟨pqSig, hp, ha⟩, hw⟩).2)
    · exact .inr ((refused_iff hp).mpr hw)
  · rintro hguard ⟨⟨pqSig, hp, ha⟩, hw⟩
    refine ⟨⟨pqSig, hp, ha⟩, (near_iff hp hw).mpr ?_⟩
    exact (hguard pqSig hp ha).resolve_right fun hr => (refused_iff hp).mp hr hw

private theorem legacy_gate {http : HttpRequest} :
    (v.legacySig http = none ∨ v.LegacyAccepted http → v.LegacyAccepted http) ↔ (v.legacySig http).isSome = true := by
  constructor
  · intro hgate
    cases hl : v.legacySig http with
    | some legacySig => rfl
    | none =>
      obtain ⟨legacySig, hsome, -⟩ := hgate (.inl hl)
      rw [hl] at hsome
      cases hsome
  · rintro hsome (hnone | haccepted)
    · rw [hnone] at hsome
      cases hsome
    · exact haccepted

end SignatureVerifier

/-! ### Requests that get through -/

/-- Signatures are required, and every proof is accepted. -/
def strictVerifier : SignatureVerifier where
  requirePqSignature := some (units "true")
  pqSnarkEnabled := some (units "true")
  pqSnarkMaxSkewMs := none
  now := 1000000
  parse header := if header = units "\x7b\x7d" then some (.obj []) else none
  loadVerificationKey := .ok .null
  groth16Verify _ _ _ := .ok (some (.bool true))
  quantumNetwork _ _ := .error (units "Network Error")

/-- A proof in an object without a timestamp. -/
def timelessRequest : HttpRequest := { plainRequest with pqSnarkSignature := some (units "\x7b\x7d") }

end GalaxiaAin.Gateway
