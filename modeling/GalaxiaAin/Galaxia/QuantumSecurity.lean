import GalaxiaAin.Galaxia.Ecosystem
import GalaxiaAin.Gateway.Request
import Mathlib.Data.Nat.Find

/-! The state of QuantumSecurityService, its cache of keys and its default key, and the
calls of signBackup: it asks for keys until the one it holds is a SPHINCS+ key. -/
namespace GalaxiaAin.Galaxia.SigningKeys
open GalaxiaAin.Library
open GalaxiaAin.Gateway (present)

def kyber : Text := units "CRYSTALS-Kyber"
def dilithium : Text := units "CRYSTALS-Dilithium"
def sphincs : Text := units "SPHINCS+"

/-- What the cache is asked of a key pair. -/
structure KeyPair where
  keyId : Text
  algorithm : Text

/-- The cache, by key id, with the algorithm of each key, and the default. -/
structure Service where
  keyCache : Text → Option Text
  defaultKeyId : Option Text

namespace Service

/-- Cache a key pair; it is the default if there is none. -/
def keep (s : Service) (key : KeyPair) : Service where
  keyCache := Function.update s.keyCache key.keyId (some key.algorithm)
  defaultKeyId := if (present s.defaultKeyId).isNone then some key.keyId else s.defaultKeyId

/-- `keyId || this.defaultKeyId`, if it is truthy. -/
def effectiveKeyId (s : Service) (keyId : Option Text) : Option Text := (present keyId).or (present s.defaultKeyId)

end Service

/-- What comes back of a key generation. -/
structure Generation where
  /-- The key pair of the network; none where the call, or the encryption of its private key, fails. -/
  reply : Option KeyPair
  /-- The random id of a hybrid key pair; none where the encryption of its private key fails. -/
  hybrid : Option { id : Text // id ≠ [] }

variable (allowLegacyEcdsaFallback : Bool)

/-- `generateKeyPair` from the reply on: the key pair it returns, or none where it throws. -/
def generateKeyPair (algorithm : Text) (g : Generation) (s : Service) : Option KeyPair × Service :=
  match g.reply with
  | some key => (some key, s.keep key)
  | none =>
    match g.hybrid.filter fun _ => allowLegacyEcdsaFallback with
    | some id => (some ⟨id, algorithm⟩, s.keep ⟨id, algorithm⟩)
    | none => (none, s)

/-! ### signBackup -/

/-- The remote call `signBackup` waits for. -/
inductive Pending where
  /-- A SPHINCS+ key, in a call with this key id; the first branch makes it the default. -/
  | generate (keyId : Option Text) (makesDefault : Bool)
  | sign (keyId : Text)
  /-- It has returned a signature, or it has thrown. -/
  | finished (returned : Bool)

/-- `signBackup` up to its first remote call. -/
def signBackup (s : Service) (keyId : Option Text) : Pending :=
  match s.effectiveKeyId keyId with
  | none => .generate keyId true
  | some effectiveKeyId =>
    if s.keyCache effectiveKeyId = some sphincs then .sign effectiveKeyId else .generate keyId false

/-- What comes back of a remote call, and whether ECDSA signs with the key of a fallback. -/
structure Answer extends Generation where
  signed : Bool
  ecdsaSigns : Bool

/-- The catch block: `hybridSign` where it is allowed. -/
def fallback (a : Answer) (s : Service) (keyId : Option Text) : Bool :=
  allowLegacyEcdsaFallback && (s.keyCache ((s.effectiveKeyId keyId).getD [])).isSome && a.ecdsaSigns

/-- The service and the call after an answer. -/
def next (a : Answer) : Service × Pending → Service × Pending
  | (s, .generate keyId makesDefault) =>
    match generateKeyPair allowLegacyEcdsaFallback sphincs a.toGeneration s with
    | (some key, s) =>
      let s := if makesDefault then { s with defaultKeyId := some key.keyId } else s
      (s, signBackup s (some key.keyId))
    | (none, s) => (s, .finished (fallback allowLegacyEcdsaFallback a s keyId))
  | (s, .sign keyId) => (s, .finished (a.signed || fallback allowLegacyEcdsaFallback a s (some keyId)))
  | (s, .finished returned) => (s, .finished returned)

/-- The call after a number of answers. -/
def after (answers : Nat → Answer) (s : Service) (keyId : Option Text) : Nat → Service × Pending
  | 0 => (s, signBackup s keyId)
  | n + 1 => next allowLegacyEcdsaFallback (answers n) (after answers s keyId n)

/-- After finitely many remote calls it returns or throws. -/
def Terminates (answers : Nat → Answer) (s : Service) (keyId : Option Text) : Prop :=
  ∃ n returned, (after allowLegacyEcdsaFallback answers s keyId n).2 = .finished returned

/-! ### When it terminates -/

/-- The key with an id, or the default where the id is empty, is cached as a SPHINCS+ key. -/
def NamesSphincs (s : Service) (keyId : Option Text) : Prop :=
  ∃ id, s.effectiveKeyId keyId = some id ∧ s.keyCache id = some sphincs

/-- The service with the key pairs of the first replies. -/
def kept (answers : Nat → Answer) (s : Service) : Nat → Service
  | 0 => s
  | n + 1 => ((answers n).reply.map (kept answers s n).keep).getD (kept answers s n)

/-- A reply that ends the search: a failure, or a key pair whose id names a SPHINCS+ key. -/
def Ends (answers : Nat → Answer) (s : Service) (n : Nat) : Prop :=
  ∀ key, (answers n).reply = some key → NamesSphincs (kept answers s (n + 1)) (some key.keyId)

variable {allowLegacyEcdsaFallback} {answers : Nat → Answer} {s : Service} {keyId keyId' : Option Text}

theorem signBackup_generate (h : ¬ NamesSphincs s keyId) :
    signBackup s keyId = .generate keyId (s.effectiveKeyId keyId).isNone := by
  unfold signBackup
  cases he : s.effectiveKeyId keyId with
  | none => rfl
  | some id => exact if_neg fun hid => h ⟨id, he, hid⟩

theorem signBackup_sign (h : NamesSphincs s keyId) : ∃ id, signBackup s keyId = .sign id := by
  obtain ⟨id, he, hid⟩ := h
  refine ⟨id, ?_⟩
  rw [signBackup, he]
  exact if_pos hid

/-- The first branch makes the key the default, which caching it did already. -/
theorem keep_default {key : KeyPair} (h : s.effectiveKeyId keyId = none) :
    { s.keep key with defaultKeyId := some key.keyId } = s.keep key := by
  have hdefault : present s.defaultKeyId = none := (Option.or_eq_none_iff.mp h).2
  rw [Service.keep, hdefault]
  rfl

/-- A key pair that comes back is cached, and the search goes on with its id. -/
theorem next_key {a : Answer} {key : KeyPair} {s' : Service} (hnames : ¬ NamesSphincs s keyId)
    (hkey : generateKeyPair allowLegacyEcdsaFallback sphincs a.toGeneration s = (some key, s.keep key)) (hs : s' = s.keep key) :
    next allowLegacyEcdsaFallback a (s, signBackup s keyId) = (s', signBackup s' (some key.keyId)) := by
  subst hs
  rw [signBackup_generate hnames, next, hkey]
  cases he : s.effectiveKeyId keyId with
  | none => simp only [Option.isNone_none, if_true, keep_default he]
  | some id => rfl

/-- A failure ends the call, or a hybrid key takes the place of the key pair. -/
theorem next_failed {a : Answer} (hnames : ¬ NamesSphincs s keyId) (hfailed : a.reply = none) :
    (∃ returned, next allowLegacyEcdsaFallback a (s, signBackup s keyId) = (s, .finished returned)) ∨
      ∃ s' keyId', next allowLegacyEcdsaFallback a (s, signBackup s keyId) = (s', signBackup s' keyId') ∧
        NamesSphincs s' keyId' := by
  cases hhybrid : a.hybrid.filter fun _ => allowLegacyEcdsaFallback with
  | none =>
    refine .inl ⟨fallback allowLegacyEcdsaFallback a s keyId, ?_⟩
    rw [signBackup_generate hnames, next, generateKeyPair, hfailed]
    simp only [hhybrid]
  | some id =>
    have hkey : generateKeyPair allowLegacyEcdsaFallback sphincs a.toGeneration s =
        (some ⟨id, sphincs⟩, s.keep ⟨id, sphincs⟩) := by
      simp only [generateKeyPair, hfailed, hhybrid]
    refine .inr ⟨_, _, next_key hnames hkey rfl, id, ?_, Function.update_self _ _ _⟩
    have hid : present (some (id : Text)) = some (id : Text) := by
      simp [present, id.2]
    rw [Service.effectiveKeyId, hid]
    rfl

/-- While no reply ends the search, it goes on with the id of the last. -/
theorem after_kept (hnames : ¬ NamesSphincs s keyId) {n : Nat} (hnone : ∀ m < n, ¬ Ends answers s m) :
    ∃ keyId', after allowLegacyEcdsaFallback answers s keyId n = (kept answers s n, signBackup (kept answers s n) keyId') ∧
      ¬ NamesSphincs (kept answers s n) keyId' := by
  induction n with
  | zero => exact ⟨keyId, rfl, hnames⟩
  | succ n ih =>
    obtain ⟨keyId', hafter, hnot⟩ := ih fun m hm => hnone m (by omega)
    have hgoes := hnone n (by omega)
    simp only [Ends, not_forall] at hgoes
    obtain ⟨key, hkey, hkeyNot⟩ := hgoes
    have hkept : kept answers s (n + 1) = (kept answers s n).keep key := by
      rw [kept, hkey]
      rfl
    refine ⟨some key.keyId, ?_, hkeyNot⟩
    rw [after, hafter]
    refine next_key hnot ?_ hkept
    rw [generateKeyPair, hkey]

/-- A sign request ends the call. -/
theorem terminates_of_names {n : Nat} {s' : Service}
    (h : after allowLegacyEcdsaFallback answers s keyId n = (s', signBackup s' keyId')) (hnames : NamesSphincs s' keyId') :
    Terminates allowLegacyEcdsaFallback answers s keyId := by
  obtain ⟨id, hid⟩ := signBackup_sign hnames
  exact ⟨n + 1, _, by rw [after, h, hid, next]⟩

/-- The first reply that ends the search ends the call, or the sign request after it does. -/
theorem terminates_of_ends (hnames : ¬ NamesSphincs s keyId) {n : Nat} (hfirst : ∀ m < n, ¬ Ends answers s m)
    (hends : Ends answers s n) : Terminates allowLegacyEcdsaFallback answers s keyId := by
  obtain ⟨keyId', hafter, hnot⟩ := after_kept hnames hfirst
  have hnext : after allowLegacyEcdsaFallback answers s keyId (n + 1) =
      next allowLegacyEcdsaFallback (answers n) (kept answers s n, signBackup (kept answers s n) keyId') := by
    rw [after, hafter]
  cases hreply : (answers n).reply with
  | none =>
    rcases next_failed hnot hreply with
      ⟨returned, hfinished⟩ | ⟨s', keyId'', hgoes, hsphincs⟩
    · exact ⟨n + 1, returned, by rw [hnext, hfinished]⟩
    · exact terminates_of_names (hnext.trans hgoes) hsphincs
  | some key =>
    have hkept : kept answers s (n + 1) = (kept answers s n).keep key := by
      rw [kept, hreply]
      rfl
    refine terminates_of_names (hnext.trans (next_key hnot ?_ hkept)) (hends key hreply)
    rw [generateKeyPair, hreply]

theorem not_terminates (hnames : ¬ NamesSphincs s keyId) (hnone : ∀ n, ¬ Ends answers s n) :
    ¬ Terminates allowLegacyEcdsaFallback answers s keyId := by
  rintro ⟨n, returned, hfinished⟩
  obtain ⟨keyId', hafter, hnot⟩ :=
    after_kept hnames fun m (_ : m < n) => hnone m
  rw [hafter, signBackup_generate hnot] at hfinished
  cases hfinished

/-- `signBackup` terminates iff the key it is called with, or the default, is a SPHINCS+ key, or
some reply is a failure or a key pair whose id names a SPHINCS+ key. -/
theorem signBackup_terminates (allowLegacyEcdsaFallback : Bool) (answers : Nat → Answer) (s : Service) (keyId : Option Text) :
    Terminates allowLegacyEcdsaFallback answers s keyId ↔ NamesSphincs s keyId ∨ ∃ n, Ends answers s n := by
  classical
  constructor
  · intro hterminates
    by_contra hnot
    rw [not_or, not_exists] at hnot
    exact not_terminates hnot.1 hnot.2 hterminates
  · intro h
    by_cases hnames : NamesSphincs s keyId
    · exact terminates_of_names (n := 0) rfl hnames
    · have hends := h.resolve_left hnames
      exact terminates_of_ends hnames (fun m hm => Nat.find_min hends hm) (Nat.find_spec hends)

/-- A network that labels every key it makes as a Dilithium key. -/
private def mislabelling : Nat → Answer := fun _ => ⟨⟨some ⟨units "k", dilithium⟩, none⟩, true, false⟩

private def newService : Service := ⟨fun _ => none, none⟩

theorem signBackup_terminates_mislabelled : ¬ ∀ (allowLegacyEcdsaFallback : Bool) (answers : Nat → Answer) (s : Service)
    (keyId : Option Text), Terminates allowLegacyEcdsaFallback answers s keyId := by
  intro hall
  refine not_terminates ?_ (fun n hends => ?_) (hall false mislabelling newService none)
  · rintro ⟨id, hid, -⟩
    cases hid
  · obtain ⟨id, hid, hsphincs⟩ := hends ⟨units "k", dilithium⟩ rfl
    cases hid
    have hkept : (kept mislabelling newService (n + 1)).keyCache (units "k") = some dilithium := by
      simp [kept, mislabelling, Service.keep]
    rw [hkept] at hsphincs
    exact absurd hsphincs (by decide)

end GalaxiaAin.Galaxia.SigningKeys
