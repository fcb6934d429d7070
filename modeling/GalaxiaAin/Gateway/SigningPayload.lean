import GalaxiaAin.Gateway.Signature

/-! The text a legacy signature is checked against. It is the JSON of an object with the
domain, the method, the path, the body and the timestamp of a request. -/
namespace GalaxiaAin.Gateway.SigningPayload
open GalaxiaAin.Library

/-- A JavaScript number; a finite one is its canonical text, as in a JSON value. -/
inductive JsNumber where
  | nan
  | infinity
  | negInfinity
  | finite (n : Numeral)
  deriving DecidableEq

/-- What `JSON.stringify` writes for a number. -/
def JsNumber.toJson : JsNumber → Json
  | .finite n => .num n
  | .nan | .infinity | .negInfinity => .null

/-- What the legacy branch reads of a request; the body may be undefined. -/
structure SignedRequest where
  method : Text
  path : Text
  body : Option Json
  quantumSignature : Option Text
  quantumPublicKey : Option Text
  quantumAlgorithm : Option Text
  quantumTimestamp : Option Text

/-- `JSON.stringify` leaves a member out that is undefined. -/
def buildRequestSigningPayload (req : SignedRequest) (timestamp : JsNumber) (domain : Text) : Text :=
  (Json.obj ([(units "domain", .str domain), (units "method", .str req.method), (units "path", .str req.path)] ++
    req.body.toList.map (fun body => (units "body", body)) ++ [(units "timestamp", timestamp.toJson)])).stringify

structure LegacySignature where
  signature : Text
  publicKey : Text
  algorithm : Text
  timestamp : JsNumber

/-- `parseInt` of the platform, the clock, and what the quantum network answers to a verify request. -/
structure LegacyVerifier where
  parseInt : Text → JsNumber
  now : Nat
  quantumNetwork : Text → LegacySignature → Galaxia.Reply

namespace LegacyVerifier
variable (v : LegacyVerifier)

def legacySig (req : SignedRequest) : Option LegacySignature :=
  match present req.quantumSignature, present req.quantumPublicKey with
  | some signature, some publicKey =>
    some ⟨signature, publicKey, (present req.quantumAlgorithm).getD (units "CRYSTALS-Dilithium"),
      ((present req.quantumTimestamp).map v.parseInt).getD (.finite (.ofNat v.now))⟩
  | _, _ => none

/-- `quantumSecurityService.verify`. -/
def verify (data : Text) (signature : LegacySignature) : Except Text Galaxia.Value :=
  Galaxia.verify.call (v.quantumNetwork data signature)

/-- `verifyRequest` from the legacy headers on. -/
def verifyRequest (req : SignedRequest) : Except Text VerifyResult :=
  match v.legacySig req with
  | none => .ok ⟨true, none, some (units "No signature provided (allowed)")⟩
  | some legacySig => do
    let payload := buildRequestSigningPayload req legacySig.timestamp (units "galaxia-request-v1")
    if Galaxia.truthy (← v.verify payload legacySig) then return ⟨true, some .legacyQuantumHeader, none⟩
    else return ⟨false, some .legacyQuantumHeader, some (units "Invalid legacy signature")⟩

/-- The request is accepted by its signature. -/
def AcceptsSigned (req : SignedRequest) : Prop :=
  v.verifyRequest req = .ok ⟨true, some .legacyQuantumHeader, none⟩

/-- The network accepts a signature of a key for the message it was made on and no other. -/
def AcceptsOnlyMade (madeOn : (signature publicKey message : Text) → Prop) : Prop :=
  ∀ message legacySig valid, v.verify message legacySig = .ok valid → Galaxia.truthy valid = true →
    ∀ made, madeOn legacySig.signature legacySig.publicKey made → made = message

end LegacyVerifier

/-- What two signed requests have in common when their payloads are one text: all of it, but
that a timestamp that is not finite is written as null. -/
structure SameSigned (domain : Text) (req : SignedRequest) (timestamp : JsNumber) (domain' : Text) (req' : SignedRequest)
    (timestamp' : JsNumber) : Prop where
  domain : domain = domain'
  method : req.method = req'.method
  path : req.path = req'.path
  body : req.body = req'.body
  timestamp : timestamp = timestamp' ∨ timestamp.toJson = .null ∧ timestamp'.toJson = .null

theorem toJson_eq {t t' : JsNumber} (h : t.toJson = t'.toJson) : t = t' ∨ t.toJson = .null ∧ t'.toJson = .null := by
  cases t <;> cases t' <;> simp_all [JsNumber.toJson]

variable {domain domain' : Text} {req req' : SignedRequest} {timestamp timestamp' : JsNumber}

/-- The members stay apart whatever is in them: the JSON of an object determines it, and
the payload of a request without a body has a member less. -/
theorem sameSigned_of_payload
    (h : buildRequestSigningPayload req timestamp domain = buildRequestSigningPayload req' timestamp' domain') :
    SameSigned domain req timestamp domain' req' timestamp' := by
  have hfields := Json.obj.inj (Json.stringify_injective h)
  cases hbody : req.body <;> cases hbody' : req'.body <;>
    simp only [hbody, hbody', Option.toList_none, Option.toList_some, List.map_nil, List.map_cons, List.append_nil,
      List.cons_append, List.nil_append, List.cons.injEq, Prod.mk.injEq, Json.str.injEq, true_and, and_true,
      reduceCtorEq, and_false] at hfields
  · obtain ⟨hdomain, hmethod, hpath, htimestamp⟩ := hfields
    exact ⟨hdomain, hmethod, hpath, by rw [hbody, hbody'], toJson_eq htimestamp⟩
  · obtain ⟨hdomain, hmethod, hpath, rfl, htimestamp⟩ := hfields
    exact ⟨hdomain, hmethod, hpath, by rw [hbody, hbody'], toJson_eq htimestamp⟩

theorem payload_of_sameSigned (h : SameSigned domain req timestamp domain' req' timestamp') :
    buildRequestSigningPayload req timestamp domain = buildRequestSigningPayload req' timestamp' domain' := by
  have htimestamp : timestamp.toJson = timestamp'.toJson := by
    rcases h.timestamp with heq | ⟨hnull, hnull'⟩
    · rw [heq]
    · rw [hnull, hnull']
  rw [buildRequestSigningPayload, buildRequestSigningPayload, h.domain, h.method, h.path, h.body, htimestamp]

theorem verifyRequest_signed {v : LegacyVerifier} (h : v.AcceptsSigned req) :
    ∃ legacySig, v.legacySig req = some legacySig ∧ ∃ valid, Galaxia.truthy valid = true ∧
      v.verify (buildRequestSigningPayload req legacySig.timestamp (units "galaxia-request-v1")) legacySig = .ok valid := by
  unfold LegacyVerifier.AcceptsSigned LegacyVerifier.verifyRequest at h
  cases hsig : v.legacySig req with
  | none => simp [hsig] at h
  | some legacySig =>
    rw [hsig] at h
    simp only at h
    cases hverify : v.verify (buildRequestSigningPayload req legacySig.timestamp (units "galaxia-request-v1")) legacySig with
    | error error =>
      rw [hverify] at h
      cases h
    | ok valid =>
      refine ⟨legacySig, rfl, valid, ?_, hverify⟩
      rw [hverify] at h
      by_contra hfalse
      simp [Bind.bind, Except.bind, hfalse, pure, Except.pure] at h

/-- Two payloads are one text iff the requests agree in everything and the timestamps too, or
neither is finite; so where the network accepts a signature only for the message it was made
on, the legacy branch accepts it only for such a request. -/
theorem signing_payload_binds :
    (∀ domain req timestamp domain' req' timestamp',
      buildRequestSigningPayload req timestamp domain = buildRequestSigningPayload req' timestamp' domain' ↔
        SameSigned domain req timestamp domain' req' timestamp') ∧
    ∀ (v : LegacyVerifier) (madeOn : Text → Text → Text → Prop), v.AcceptsOnlyMade madeOn →
      ∀ req, v.AcceptsSigned req → ∃ legacySig, v.legacySig req = some legacySig ∧
        ∀ domain' req' timestamp',
          madeOn legacySig.signature legacySig.publicKey (buildRequestSigningPayload req' timestamp' domain') →
          SameSigned domain' req' timestamp' (units "galaxia-request-v1") req legacySig.timestamp := by
  refine ⟨fun _ _ _ _ _ _ => ⟨sameSigned_of_payload, payload_of_sameSigned⟩, fun v madeOn hnetwork req haccepts => ?_⟩
  obtain ⟨legacySig, hsig, valid, hvalid, hverify⟩ := verifyRequest_signed haccepts
  refine ⟨legacySig, hsig, fun domain' req' timestamp' hmade => ?_⟩
  exact sameSigned_of_payload (hnetwork _ _ _ hverify hvalid _ hmade)

/-- A request with no body. -/
private def plainRequest : SignedRequest :=
  ⟨units "POST", units "/v1/inference", none, some (units "s"), some (units "k"), none, some (units "abc")⟩

private def plainPayload : Text := buildRequestSigningPayload plainRequest .nan (units "galaxia-request-v1")

/-- A network that knows the signature of the request. -/
private def plainVerifier : LegacyVerifier where
  parseInt := fun _ => .nan
  now := 0
  quantumNetwork := fun data _ =>
    if data = plainPayload then .ok (.obj [(units "data", .obj [(units "valid", .bool true)])]) else .error (units "invalid")

theorem signing_payload_binds_plain : ∀ domain req timestamp,
    buildRequestSigningPayload req timestamp domain = plainPayload →
      SameSigned domain req timestamp (units "galaxia-request-v1") plainRequest .nan := by
  intro domain req timestamp hmade
  have hnetwork : plainVerifier.AcceptsOnlyMade fun _ _ made => made = plainPayload := by
    rintro message legacySig valid hverify hvalid made rfl
    by_contra hne
    have hrefused : plainVerifier.verify message legacySig = .ok (some (.bool false)) := by
      have hreply : plainVerifier.quantumNetwork message legacySig = .error (units "invalid") := if_neg (Ne.symm hne)
      rw [LegacyVerifier.verify, hreply]
      rfl
    rw [hrefused, Except.ok.injEq] at hverify
    rw [← hverify] at hvalid
    cases hvalid
  have haccepts : plainVerifier.AcceptsSigned plainRequest := by
    have hverify (legacySig : LegacySignature) : plainVerifier.verify plainPayload legacySig = .ok (some (.bool true)) := by
      have hreply : plainVerifier.quantumNetwork plainPayload legacySig =
          .ok (.obj [(units "data", .obj [(units "valid", .bool true)])]) := by
        simp only [plainVerifier, if_true]
      rw [LegacyVerifier.verify, hreply]
      rfl
    show (plainVerifier.verify plainPayload _ >>= fun valid => _) = _
    rw [hverify]
    rfl
  obtain ⟨legacySig, hsig, hsame⟩ := signing_payload_binds.2 plainVerifier _ hnetwork plainRequest haccepts
  cases hsig
  exact hsame domain req timestamp hmade

/-- What `parseInt` reads in no number and in one past the largest is the same in the payload. -/
theorem signing_payload_not_finite :
    ¬ ∀ domain req timestamp domain' req' timestamp',
      buildRequestSigningPayload req timestamp domain = buildRequestSigningPayload req' timestamp' domain' →
        domain = domain' ∧ req.method = req'.method ∧ req.path = req'.path ∧ req.body = req'.body ∧
          timestamp = timestamp' := by
  intro hall
  have hpayload : buildRequestSigningPayload plainRequest .nan [] = buildRequestSigningPayload plainRequest .infinity [] := rfl
  have := (hall _ _ _ _ _ _ hpayload).2.2.2.2
  cases this

end GalaxiaAin.Gateway.SigningPayload
