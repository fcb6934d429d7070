import GalaxiaAin.Galaxia.Ecosystem

/-! The proofs of zkProofs.ts and verification.ts: signatures over a JSON text. The
checkers sign off on another text than the one the proofs were made on. -/
namespace GalaxiaAin.Galaxia
open Library

structure KeyPair where
  publicKey : Value
  keyId : Value

structure Signature where
  signature : Value
  publicKey : Value
  algorithm : Text
  timestamp : Nat

/-- The calls of QuantumSecurityService the proofs use. -/
structure QuantumSecurity where
  generateKeyPair (algorithm : Text) : Except Text KeyPair
  sign (data : Text) (keyId : Value) : Except Text Signature
  verify (data : Text) (signature : Signature) : Except Text Value

structure ZKProof where
  proof : Value
  publicInputs : List Text
  verificationKey : Value

def strings (items : List Text) : Json := .arr (items.map .str)

def dilithium : Text := units "CRYSTALS-Dilithium"

variable (q : QuantumSecurity)

/-- The proof both generators make: a signature over their data under a fresh key. -/
def signedProof (proofData : Json) (publicInputs : List Text) (prefixed : Text → Text) : Except Text ZKProof :=
  match (do
    let keyPair ← q.generateKeyPair dilithium
    let signature ← q.sign proofData.stringify keyPair.keyId
    return (⟨signature.signature, publicInputs, keyPair.publicKey⟩ : ZKProof)) with
  | .ok proof => .ok proof
  | .error error => .error (prefixed error)

def generateZKProof (computationHash resultHash : Text) (publicInputs : List Text) (now : Nat) : Except Text ZKProof :=
  signedProof q (.obj [(units "computationHash", .str computationHash), (units "resultHash", .str resultHash),
    (units "publicInputs", strings publicInputs), (units "timestamp", .num (.ofNat now))])
    publicInputs fun error => units "ZK proof generation failed: " ++ error

def createVerifiableProof (taskId inputHash outputHash : Text) (nodeIds : List Text) (now : Nat) : Except Text ZKProof :=
  signedProof q (.obj [(units "taskId", .str taskId), (units "inputHash", .str inputHash),
    (units "outputHash", .str outputHash), (units "nodeIds", strings nodeIds), (units "timestamp", .num (.ofNat now))])
    [taskId, inputHash, outputHash] id

/-- The signature object a verifier rebuilds from a proof. -/
def rebuilt (proof verificationKey : Value) (later : Nat) : Signature where
  signature := proof
  publicKey := verificationKey
  algorithm := dilithium
  timestamp := later

/-- The text the verifiers check. -/
def checkedData (publicInputs : List Text) (now : Nat) : Json :=
  .obj [(units "publicInputs", strings publicInputs), (units "timestamp", .num (.ofNat now))]

/-- The check both verifiers make; `now` and `later` are its two readings of the clock. -/
def checkedProof (proof : Value) (publicInputs : List Text) (verificationKey : Value) (now later : Nat) : Value :=
  match q.verify (checkedData publicInputs now).stringify (rebuilt proof verificationKey later) with
  | .ok valid => valid
  | .error _ => some (.bool false)

def verifyZKProof (proof : ZKProof) (now later : Nat) : Value :=
  checkedProof q proof.proof proof.publicInputs proof.verificationKey now later

def verifyComputationProof (proof : Value) (publicInputs : List Text) (verificationKey : Value) (now later : Nat) :
    Value :=
  checkedProof q proof publicInputs verificationKey now later

/-- The network's verify accepts a signature exactly for the message it was made on. -/
def QuantumSecurity.Exact : Prop :=
  ∀ keyPair data signature, q.generateKeyPair dilithium = .ok keyPair → q.sign data keyPair.keyId = .ok signature →
    ∀ data' later, q.verify data' (rebuilt signature.signature keyPair.publicKey later) = .ok (some (.bool true)) ↔
      data' = data

variable {q}

/-- A proof is accepted only over the very text that was signed. -/
private theorem accepted_signed (hq : q.Exact) {proofData : Json} {publicInputs : List Text} {prefixed : Text → Text}
    {proof : ZKProof} (h : signedProof q proofData publicInputs prefixed = .ok proof) {publicInputs' : List Text}
    {now later : Nat}
    (ha : checkedProof q proof.proof publicInputs' proof.verificationKey now later = some (.bool true)) :
    proofData = checkedData publicInputs' now := by
  unfold signedProof at h
  cases hk : q.generateKeyPair dilithium with
  | error e => simp only [hk] at h; cases h
  | ok keyPair =>
    cases hs : q.sign proofData.stringify keyPair.keyId with
    | error e =>
      rw [hk] at h
      simp only [bind, Except.bind, hs] at h
      cases h
    | ok signature =>
      rw [hk] at h
      simp only [bind, Except.bind, hs] at h
      cases h
      unfold checkedProof at ha
      have hverify := hq keyPair _ _ hk hs (checkedData publicInputs' now).stringify later
      split at ha
      · rename_i valid hv
        subst ha
        exact (Json.stringify_injective (hverify.mp hv)).symm
      · cases ha

/-- No proof is ever accepted, with its own public inputs or with others, at any time. -/
theorem proofs_never_accepted (hq : q.Exact) :
    (∀ computationHash resultHash publicInputs made proof,
      generateZKProof q computationHash resultHash publicInputs made = .ok proof →
      ∀ publicInputs' now later, verifyZKProof q { proof with publicInputs := publicInputs' } now later ≠
        some (.bool true)) ∧
    ∀ taskId inputHash outputHash nodeIds made proof,
      createVerifiableProof q taskId inputHash outputHash nodeIds made = .ok proof →
      ∀ publicInputs' now later, verifyComputationProof q proof.proof publicInputs' proof.verificationKey now later ≠
        some (.bool true) := by
  constructor
  · intro computationHash resultHash publicInputs made proof h publicInputs' now later ha
    have hd := accepted_signed hq h ha
    simp only [checkedData, Json.obj.injEq, List.cons.injEq, Prod.mk.injEq] at hd
    exact absurd hd.1.1 (by decide)
  · intro taskId inputHash outputHash nodeIds made proof h publicInputs' now later ha
    have hd := accepted_signed hq h ha
    simp only [checkedData, Json.obj.injEq, List.cons.injEq, Prod.mk.injEq] at hd
    exact absurd hd.1.1 (by decide)

/-- A network whose signature of a message is the message. -/
def plainSignatures : QuantumSecurity where
  generateKeyPair := fun _ => .ok ⟨some (.str (units "pub")), some (.str (units "k1"))⟩
  sign := fun data _ => .ok (rebuilt (some (.str data)) (some (.str (units "pub"))) 0)
  verify := fun data signature =>
    .ok (some (.bool (match signature.signature with | some (.str signed) => data == signed | _ => false)))

/-- The proof of no public inputs made over "c" and "r" at time 5. -/
def plainProof : ZKProof where
  proof := some (.str (Json.obj [(units "computationHash", .str (units "c")), (units "resultHash", .str (units "r")),
    (units "publicInputs", strings []), (units "timestamp", .num (.ofNat 5))]).stringify)
  publicInputs := []
  verificationKey := some (.str (units "pub"))

theorem plainSignatures_exact : plainSignatures.Exact := by
  intro keyPair data signature hk hs data' later
  cases hs
  simp [plainSignatures, rebuilt]

theorem plainProof_rejected : verifyZKProof plainSignatures plainProof 5 5 ≠ some (.bool true) :=
  (proofs_never_accepted plainSignatures_exact).1 (units "c") (units "r") [] 5 plainProof rfl [] 5 5

/-- A fresh proof is rejected in the millisecond it was made. -/
theorem fresh_proof_rejected : ¬ ∀ (q : QuantumSecurity) (computationHash resultHash : Text) (publicInputs : List Text)
    (made now later : Nat) (proof : ZKProof), q.Exact →
    generateZKProof q computationHash resultHash publicInputs made = .ok proof →
    verifyZKProof q proof now later = some (.bool true) := by
  intro h
  have ha := h plainSignatures (units "c") (units "r") [] 5 5 5 plainProof plainSignatures_exact rfl
  simp only [verifyZKProof, checkedProof, plainSignatures, rebuilt, plainProof, Option.some.injEq, Json.bool.injEq,
    beq_iff_eq] at ha
  have hd := Json.stringify_injective ha
  simp only [checkedData, Json.obj.injEq, List.cons.injEq, Prod.mk.injEq] at hd
  exact absurd hd.1.1 (by decide)

end GalaxiaAin.Galaxia
