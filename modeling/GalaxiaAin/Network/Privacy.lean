import GalaxiaAin.Galaxia.Encryption
import GalaxiaAin.Galaxia.Proofs
import GalaxiaAin.Network.TaskQueue

/-! Privacy processing of zkProofs.ts, and the input that goes on from it: the ciphertext
when it succeeds, and the plaintext when it fails. -/
namespace GalaxiaAin.Network
open GalaxiaAin.Library GalaxiaAin.Galaxia

/-- What one processing draws, and what the quantum network answers to its calls. -/
structure PrivacyCalls where
  security : QuantumSecurity
  /-- The network's replies for the public key of a recipient. -/
  network : Value → KeyNetwork
  aesKey : Bytes
  iv : Bytes
  now : Nat

/-- The cipher and the hash of the platform. -/
structure Cryptography where
  aead : Aead
  sha256 : Text → Text

structure PrivacyResult where
  encryptedInput : Option Text
  zkProof : Option ZKProof
  requiresTEE : Bool

variable (crypto : Cryptography) (calls : PrivacyCalls)

def encryptForComputation (data : Text) (recipientPublicKey : Value) : Except Text Text := do
  let encrypted ← Galaxia.encrypt crypto.aead (calls.network recipientPublicKey) calls.aesKey calls.iv data []
  return encrypted.encryptedData

/-- The branch for an input that is to be encrypted, under a key pair of its own. -/
def encryptInput (inputData : Text) : Except Text Text := do
  let keyPair ← calls.security.generateKeyPair (units "CRYSTALS-Kyber")
  encryptForComputation crypto calls inputData keyPair.publicKey

def processPrivateTask (inputData : Text) (privacyLevel : PrivacyLevel) : Except Text PrivacyResult := do
  let encryptedInput ←
    match privacyLevel with
    | .publicLevel => pure none
    | _ => (encryptInput crypto calls inputData).map some
  let zkProof ←
    match privacyLevel with
    | .confidential => (generateZKProof calls.security (crypto.sha256 inputData)
        (crypto.sha256 (units "result-placeholder")) [] calls.now).map some
    | _ => pure none
  return ⟨encryptedInput, zkProof, privacyLevel == .confidential⟩

/-- The input that goes on: a result without ciphertext and a failure leave it as it is. -/
def processedInput (input : Text) : Option PrivacyLevel → Text
  | none | some .publicLevel => input
  | some level =>
    match processPrivateTask crypto calls input level with
    | .ok result => (result.encryptedInput.filter (· != [])).getD input
    | .error _ => input

/-! ### Ciphertexts -/

/-- A ciphertext of the input under some key and IV, as `encrypt` writes it. -/
def Sealed (aead : Aead) (input form : Text) : Prop :=
  ∃ aesKey iv, form = hex (aead.cipher aesKey iv (utf8 input)).1 ++ units ":" ++ hex (aead.cipher aesKey iv (utf8 input)).2

/-- A ciphertext is as long as its plaintext. -/
def Streams (aead : Aead) : Prop := ∀ aesKey iv plaintext, (aead.cipher aesKey iv plaintext).1.length = plaintext.length

variable {crypto calls}

/-- A text is no ciphertext of itself. -/
theorem not_sealed_self {aead : Aead} (haead : Streams aead) (input : Text) : ¬ Sealed aead input input := by
  rintro ⟨aesKey, iv, h⟩
  have hlength := congrArg List.length h
  have hbytes := length_le_utf8 input
  have hcipher := haead aesKey iv (utf8 input)
  have hcolon : (units ":").length = 1 := rfl
  simp only [List.length_append, length_hex] at hlength
  omega

theorem encryptForComputation_sealed {data form : Text} {recipientPublicKey : Value}
    (h : encryptForComputation crypto calls data recipientPublicKey = .ok form) : Sealed crypto.aead data form := by
  unfold encryptForComputation Galaxia.encrypt at h
  cases hkey : Galaxia.encryptKey.call ((calls.network recipientPublicKey).encryptKey (hex calls.aesKey) []) with
  | error e =>
    simp only [hkey] at h
    cases h
  | ok key =>
    simp only [hkey] at h
    obtain rfl := Except.ok.inj h
    exact ⟨calls.aesKey, calls.iv, rfl⟩

theorem encryptInput_sealed {input form : Text} (h : encryptInput crypto calls input = .ok form) :
    Sealed crypto.aead input form := by
  unfold encryptInput at h
  cases hkey : calls.security.generateKeyPair (units "CRYSTALS-Kyber") with
  | error e =>
    simp only [hkey] at h
    cases h
  | ok keyPair =>
    simp only [hkey] at h
    exact encryptForComputation_sealed h

/-- A result of private processing carries a ciphertext. -/
theorem processPrivateTask_sealed {input : Text} {level : PrivacyLevel} (hlevel : level ≠ .publicLevel)
    {result : PrivacyResult} (h : processPrivateTask crypto calls input level = .ok result) :
    ∃ form, result.encryptedInput = some form ∧ Sealed crypto.aead input form := by
  unfold processPrivateTask at h
  cases hencrypt : encryptInput crypto calls input with
  | error e => cases level <;> simp only [hencrypt, ne_eq, not_true_eq_false] at hlevel h <;> cases h
  | ok form =>
    refine ⟨form, ?_, encryptInput_sealed hencrypt⟩
    cases level with
    | publicLevel => exact absurd rfl hlevel
    | privateLevel =>
      simp only [hencrypt] at h
      cases h
      rfl
    | confidential =>
      cases hproof : generateZKProof calls.security (crypto.sha256 input) (crypto.sha256 (units "result-placeholder")) []
          calls.now with
      | error e =>
        simp only [hencrypt, hproof] at h
        cases h
      | ok proof =>
        simp only [hencrypt, hproof] at h
        cases h
        rfl

theorem Sealed.ne_nil {aead : Aead} {input form : Text} (h : Sealed aead input form) : form ≠ [] := by
  obtain ⟨aesKey, iv, rfl⟩ := h
  simp [units]

/-- What goes on is a ciphertext exactly when the processing succeeds. -/
theorem sealed_processedInput_iff (hcrypto : Streams crypto.aead) {input : Text} {level : PrivacyLevel}
    (hlevel : level ≠ .publicLevel) : Sealed crypto.aead input (processedInput crypto calls input (some level)) ↔
      (processPrivateTask crypto calls input level).isOk := by
  have hform : processedInput crypto calls input (some level) =
      match processPrivateTask crypto calls input level with
      | .ok result => (result.encryptedInput.filter (· != [])).getD input
      | .error _ => input := by
    cases level with
    | publicLevel => exact absurd rfl hlevel
    | _ => rfl
  cases hprocess : processPrivateTask crypto calls input level with
  | error e =>
    rw [hform, hprocess]
    exact ⟨fun h => absurd h (not_sealed_self hcrypto input), nofun⟩
  | ok result =>
    obtain ⟨form, hresult, hsealed⟩ := processPrivateTask_sealed hlevel hprocess
    have hne : (form != []) = true := by simpa using hsealed.ne_nil
    have hout : processedInput crypto calls input (some level) = form := by
      rw [hform, hprocess]
      simp only [hresult, Option.filter_some, hne, if_true, Option.getD_some]
    rw [hout]
    exact ⟨fun _ => rfl, fun _ => hsealed⟩

end GalaxiaAin.Network
