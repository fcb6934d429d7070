import GalaxiaAin.Galaxia.Clients
import GalaxiaAin.Library.Utf8

/-! QuantumSecurityService.encrypt and decrypt: AES-256-GCM under a random key, and the
key under the recipient's. The IV encrypt draws is not part of what it returns. -/
namespace GalaxiaAin.Galaxia
open Library

/-- AES-256-GCM: the ciphertext and tag of a plaintext under a key and an IV, and the
plaintext of a ciphertext and tag, when they authenticate. -/
structure Aead where
  cipher (key iv plaintext : Bytes) : Bytes × Bytes
  decipher (key iv tag ciphertext : Bytes) : Option Bytes

/-- The quantum network's replies to the two key calls. -/
structure KeyNetwork where
  encryptKey (key recipientPublicKey : Text) : Reply
  decryptKey (encryptedKey : Value) (privateKeyId : Text) : Reply

structure Encrypted where
  encryptedData : Text
  encryptedKey : Value
  algorithm : Text

variable (aead : Aead) (network : KeyNetwork)

/-- `encrypt`, with the random key and IV it draws. -/
def encrypt (aesKey iv : Bytes) (data recipientPublicKey : Text) : Except Text Encrypted := do
  let encrypted := aead.cipher aesKey iv (utf8 data)
  let key ← Galaxia.encryptKey.call (network.encryptKey (hex aesKey) recipientPublicKey)
  return {
    encryptedData := hex encrypted.1 ++ units ":" ++ hex encrypted.2
    encryptedKey := key
    algorithm := units "AES-256-GCM + CRYSTALS-Kyber" }

/-- `s.split(':')`. -/
def splitColon (s : Text) : List Text := s.splitOn 58

/-- `Buffer.from(v, 'hex')` for the values the network may answer; `bufferFrom` is the
conversion of the ones that are no strings. -/
def keyBytes (bufferFrom : Value → Except Text Bytes) : Value → Except Text Bytes
  | some (.str s) => .ok (unhex s)
  | v => bufferFrom v

/-- `decrypt`, with the random IV it draws. -/
def decrypt (bufferFrom : Value → Except Text Bytes) (iv : Bytes) (encryptedData : Text) (encryptedKey : Value)
    (privateKeyId : Text) : Except Text Text :=
  let decryptionFailed (error : Text) := units "Decryption failed: " ++ error
  match decryptKey.call (network.decryptKey encryptedKey privateKeyId) with
  | .error error => .error error
  | .ok decryptedKey =>
    match keyBytes bufferFrom decryptedKey with
    | .error error => .error (decryptionFailed error)
    | .ok aesKey =>
      match splitColon encryptedData with
      | data :: authTag :: _ =>
        match aead.decipher aesKey iv (unhex authTag) (unhex data) with
        | some plaintext => .ok (decodeUtf8 plaintext)
        | none => .error (decryptionFailed (units "Unsupported state or unable to authenticate data"))
      | _ => .error (decryptionFailed (units ("The first argument must be of type string or an instance of Buffer, " ++
          "ArrayBuffer, or Array or an Array-like Object. Received undefined")))

/-- The key calls undo each other for a recipient. -/
def KeyNetwork.Inverse (recipientPublicKey privateKeyId : Text) : Prop :=
  ∀ key encryptedKey, Galaxia.encryptKey.call (network.encryptKey key recipientPublicKey) = .ok encryptedKey →
    Galaxia.decryptKey.call (network.decryptKey encryptedKey privateKeyId) = .ok (some (.str key))

/-- Under its key, a ciphertext opens with the IV it was made with and with no other. -/
def Aead.Exact : Prop :=
  ∀ key iv iv' plaintext, aead.decipher key iv' (aead.cipher key iv plaintext).2 (aead.cipher key iv plaintext).1 =
    if iv' = iv then some plaintext else none

private theorem split_wire (ciphertext tag : Bytes) :
    splitColon (hex ciphertext ++ units ":" ++ hex tag) = [hex ciphertext, hex tag] := by
  have hcolon (bytes : Bytes) : (58 : UInt16) ∉ hex bytes := hex_plain (by decide) bytes
  rw [show units ":" = [58] from rfl, List.append_assoc, List.singleton_append, splitColon,
    List.splitOn_append_cons_self_of_not_mem (hcolon ciphertext), List.splitOn_eq_singleton (hcolon tag)]

variable {aead network}

/-- Decrypting what encrypt returned gives the message exactly when both drew one IV
and the message is well-formed UTF-16. -/
theorem decrypt_encrypt_iff {recipientPublicKey privateKeyId : Text} (hnet : network.Inverse recipientPublicKey privateKeyId)
    (haead : aead.Exact) (bufferFrom : Value → Except Text Bytes) {aesKey iv iv' : Bytes} {m : Text}
    {sealed : Encrypted} (h : encrypt aead network aesKey iv m recipientPublicKey = .ok sealed) :
    decrypt aead network bufferFrom iv' sealed.encryptedData sealed.encryptedKey privateKeyId = .ok m ↔
      iv' = iv ∧ toWellFormed m = m := by
  cases hk : Galaxia.encryptKey.call (network.encryptKey (hex aesKey) recipientPublicKey) with
  | error e =>
    simp only [encrypt, hk] at h
    cases h
  | ok encryptedKey =>
    simp only [encrypt, hk] at h
    obtain rfl := Except.ok.inj h
    have hkey := hnet _ _ hk
    have hopen := haead aesKey iv iv' (utf8 m)
    simp only [decrypt, hkey, keyBytes, unhex_hex, split_wire, hopen]
    by_cases hiv : iv' = iv
    · simp only [hiv, if_true, true_and, Except.ok.injEq, decodeUtf8_utf8]
    · simp only [hiv, if_false, false_and, reduceCtorEq]

/-- A cipher that authenticates the IV alone. -/
def ivCipher : Aead where
  cipher := fun _ iv plaintext => (plaintext, iv)
  decipher := fun _ iv tag ciphertext => if iv = tag then some ciphertext else none

theorem ivCipher_exact : ivCipher.Exact := fun _ _ _ _ => rfl

/-- A network that answers the key it is given, in the form the clients read. -/
def echoNetwork : KeyNetwork where
  encryptKey := fun key _ => .ok (.obj [(units "data", .obj [(units "encryptedKey", .str key)])])
  decryptKey := fun encryptedKey _ =>
    .ok (.obj [(units "data", .obj [(units "decryptedKey", encryptedKey.getD .null)])])

theorem echoNetwork_inverse (recipientPublicKey privateKeyId : Text) :
    echoNetwork.Inverse recipientPublicKey privateKeyId := by
  intro key encryptedKey h
  cases h
  rfl

/-- What encrypt returns for "hi" under an IV of ones. -/
def sealedHi : Encrypted where
  encryptedData := hex (utf8 (units "hi")) ++ units ":" ++ hex [1]
  encryptedKey := some (.str (hex [7]))
  algorithm := units "AES-256-GCM + CRYSTALS-Kyber"

theorem decrypt_encrypt_hi :
    decrypt ivCipher echoNetwork (fun _ => .ok []) [1] sealedHi.encryptedData sealedHi.encryptedKey [] =
      .ok (units "hi") :=
  (decrypt_encrypt_iff (echoNetwork_inverse [] []) ivCipher_exact _ (rfl : encrypt ivCipher echoNetwork [7] [1]
    (units "hi") [] = .ok sealedHi)).mpr ⟨rfl, by decide⟩

/-- The IV decrypt draws is not the one of encrypt: the message does not come back. -/
theorem fresh_iv_loses_message : ¬ ∀ (aead : Aead) (network : KeyNetwork) (recipientPublicKey privateKeyId : Text)
    (aesKey iv iv' : Bytes) (m : Text) (sealed : Encrypted), network.Inverse recipientPublicKey privateKeyId →
    aead.Exact → encrypt aead network aesKey iv m recipientPublicKey = .ok sealed →
    decrypt aead network (fun _ => .ok []) iv' sealed.encryptedData sealed.encryptedKey privateKeyId = .ok m := by
  intro h
  have hi := h ivCipher echoNetwork [] [] [7] [1] [2] (units "hi") sealedHi (echoNetwork_inverse [] []) ivCipher_exact rfl
  revert hi
  decide

end GalaxiaAin.Galaxia
