import GalaxiaAin.Galaxia.QuantumSecurity
import GalaxiaAin.Library.Machine
import GalaxiaAin.Network.TaskQueue

/-! The default key of QuantumSecurityService over the life of the service: any calls, in any
order and at once, with key generations that fail or answer in any order. -/
namespace GalaxiaAin.Galaxia.SigningKeys
open GalaxiaAin.Library
open GalaxiaAin.Gateway (present)

/-- The algorithms `generateKeyPair` takes. -/
inductive Algorithm where
  | kyber | dilithium | sphincs

def Algorithm.name : Algorithm → Text
  | kyber => SigningKeys.kyber
  | dilithium => SigningKeys.dilithium
  | sphincs => SigningKeys.sphincs

inductive Call where
  | generateKeyPair (algorithm : Algorithm)
  | sign (keyId : Option Text)
  | signBackup (keyId : Option Text)
  | generateRequestHeaders
  | processPrivateTask (privacyLevel : Network.PrivacyLevel)

/-- What a caller of `generateKeyPair` does with the key pair. -/
inductive After where
  | nothing
  /-- `sign` makes it the default and signs with it. -/
  | sign
  /-- `signBackup` goes on with it; its first branch makes it the default. -/
  | signBackup (makesDefault : Bool)
  /-- `generateRequestHeaders` signs with the default. -/
  | headers

/-- A call that waits for the network, or one whose key pair is there but which has not gone on. -/
inductive Waiting where
  | network (algorithm : Algorithm) (after : After)
  | resumed (key : KeyPair) (after : After)

/-- The service, the calls that wait, and the algorithms the network was asked to sign with
for calls of `sign` without a key id. -/
structure World where
  service : Service
  waiting : List Waiting
  asked : List Text

namespace World

def wait (w : World) (algorithm : Algorithm) (after : After) : World :=
  { w with waiting := w.waiting ++ [.network algorithm after] }

/-- `sign`; a key that is not in the cache fails before the network is asked. -/
def sign (w : World) (withoutKeyId : Bool) (keyId : Option Text) : World :=
  match w.service.effectiveKeyId keyId with
  | none => w.wait .dilithium .sign
  | some effectiveKeyId =>
    match w.service.keyCache effectiveKeyId with
    | some algorithm => if withoutKeyId then { w with asked := w.asked ++ [algorithm] } else w
    | none => w

def backup (w : World) (keyId : Option Text) : World :=
  match SigningKeys.signBackup w.service keyId with
  | .generate _ makesDefault => w.wait .sphincs (.signBackup makesDefault)
  | .sign effectiveKeyId => w.sign false (some effectiveKeyId)
  | .finished _ => w

def start (w : World) : Call → World
  | .generateKeyPair algorithm => w.wait algorithm .nothing
  | .sign keyId => w.sign (present keyId).isNone keyId
  | .signBackup keyId => w.backup keyId
  | .generateRequestHeaders =>
    if (present w.service.defaultKeyId).isNone then w.wait .dilithium .headers else w.sign true none
  | .processPrivateTask privacyLevel =>
    if privacyLevel = .publicLevel then w else w.wait .kyber .nothing

def makeDefault (w : World) (keyId : Text) : World :=
  { w with service := { w.service with defaultKeyId := some keyId } }

/-- A caller goes on with its key pair. -/
def goOn (w : World) (key : KeyPair) : After → World
  | .nothing => w
  | .sign => (w.makeDefault key.keyId).sign true (some key.keyId)
  | .signBackup makesDefault => (if makesDefault then w.makeDefault key.keyId else w).backup (some key.keyId)
  | .headers => w.sign true none

end World

inductive Happens where
  | called (call : Call)
  | answered (algorithm : Algorithm) (g : Generation)
  | resumed

variable (allowLegacyEcdsaFallback : Bool)

/-- What can happen next: a call, an answer of the network to a call that waits for it, with a
key of the algorithm it was asked for if with one, or a call going on. -/
inductive World.Step : Machine World Happens
  | called (w : World) (call : Call) : Step w (.called call) (w.start call)
  | thrown {w : World} {pre post : List Waiting} {algorithm : Algorithm} {after : After} {g : Generation} {service : Service}
      (hwaiting : w.waiting = pre ++ .network algorithm after :: post)
      (hkey : generateKeyPair allowLegacyEcdsaFallback algorithm.name g w.service = (none, service)) :
      Step w (.answered algorithm g) { w with service := service, waiting := pre ++ post }
  | returned {w : World} {pre post : List Waiting} {algorithm : Algorithm} {after : After} {g : Generation} {key : KeyPair}
      {service : Service} (hwaiting : w.waiting = pre ++ .network algorithm after :: post)
      (hlabel : ∀ key, g.reply = some key → key.algorithm = algorithm.name)
      (hkey : generateKeyPair allowLegacyEcdsaFallback algorithm.name g w.service = (some key, service)) :
      Step w (.answered algorithm g) { w with service := service, waiting := pre ++ .resumed key after :: post }
  | resumed {w : World} {pre post : List Waiting} {key : KeyPair} {after : After}
      (hwaiting : w.waiting = pre ++ .resumed key after :: post) :
      Step w .resumed (({ w with waiting := pre ++ post } : World).goOn key after)

def isSignatureAlgorithm (algorithm : Text) : Prop := algorithm = dilithium ∨ algorithm = sphincs

/-- The default, where it is set, names a signature key in the cache. -/
def DefaultSigns (s : Service) : Prop :=
  ∀ id, present s.defaultKeyId = some id → ∃ algorithm, s.keyCache id = some algorithm ∧ isSignatureAlgorithm algorithm

/-- The default signs, and `sign` without a key id asked for signatures only. -/
def World.Signs (w : World) : Prop := DefaultSigns w.service ∧ ∀ algorithm ∈ w.asked, isSignatureAlgorithm algorithm

def newWorld : World := ⟨⟨fun _ => none, none⟩, [], []⟩

/-- The key pair that a generation gives. -/
def Generation.key (g : Generation) (algorithm : Algorithm) : Option KeyPair :=
  g.reply.or ((g.hybrid.filter fun _ => allowLegacyEcdsaFallback).map fun id => ⟨id, algorithm.name⟩)

def After.makesDefault : After → Bool
  | .sign => true
  | .signBackup makesDefault => makesDefault
  | .nothing | .headers => false

/-- A Kyber key comes only while there is a default, under an id that is neither the id of the
default nor that of a key about to be the default. -/
def KyberApart (w : World) : Happens → Prop
  | .answered .kyber g => ∀ key, g.key allowLegacyEcdsaFallback .kyber = some key → key.keyId ≠ [] →
    (∃ id, present w.service.defaultKeyId = some id ∧ id ≠ key.keyId) ∧
    ∀ other after, .resumed other after ∈ w.waiting → after.makesDefault = true → other.keyId ≠ key.keyId
  | _ => True

/-! ### What every step keeps -/

/-- With the default, the keys about to be the default sign, and who waits for a Kyber key does
nothing with it. -/
structure World.Inv (w : World) : Prop where
  signs : w.Signs
  resumed : ∀ key after, .resumed key after ∈ w.waiting → after.makesDefault = true → key.keyId ≠ [] →
    ∃ algorithm, w.service.keyCache key.keyId = some algorithm ∧ isSignatureAlgorithm algorithm
  network : ∀ after, .network .kyber after ∈ w.waiting → after = .nothing

variable {allowLegacyEcdsaFallback} {w : World}

theorem generateKeyPair_key (algorithm : Algorithm) (g : Generation) (s : Service) :
    generateKeyPair allowLegacyEcdsaFallback algorithm.name g s =
      (g.key allowLegacyEcdsaFallback algorithm, ((g.key allowLegacyEcdsaFallback algorithm).map s.keep).getD s) := by
  unfold generateKeyPair Generation.key
  cases g.reply with
  | some key => rfl
  | none => cases g.hybrid.filter fun _ => allowLegacyEcdsaFallback <;> rfl

theorem isSignatureAlgorithm_name {algorithm : Algorithm} (h : algorithm ≠ .kyber) : isSignatureAlgorithm algorithm.name := by
  cases algorithm with
  | kyber => exact absurd rfl h
  | dilithium => exact .inl rfl
  | sphincs => exact .inr rfl

/-- A call that waits for a signature key, or with nothing to do after it. -/
theorem World.Inv.wait (h : w.Inv) {algorithm : Algorithm} {after : After} (hafter : algorithm = .kyber → after = .nothing) :
    (w.wait algorithm after).Inv := by
  refine ⟨h.signs, fun key after' hmem => ?_, fun after' hmem => ?_⟩
  · rcases List.mem_append.mp hmem with hmem | hmem
    · exact h.resumed key after' hmem
    · cases List.mem_singleton.mp hmem
  · rcases List.mem_append.mp hmem with hmem | hmem
    · exact h.network after' hmem
    · cases List.mem_singleton.mp hmem
      exact hafter rfl

/-- A sign request without a key id is for the default, or for a key that has become it. -/
theorem World.Inv.sign (h : w.Inv) {withoutKeyId : Bool} {keyId : Option Text}
    (hown : withoutKeyId = true → ∀ id, w.service.effectiveKeyId keyId = some id → present w.service.defaultKeyId = some id) :
    (w.sign withoutKeyId keyId).Inv := by
  unfold World.sign
  cases heffective : w.service.effectiveKeyId keyId with
  | none => exact h.wait (by simp)
  | some id =>
    cases hcache : w.service.keyCache id with
    | none => simpa [hcache] using h
    | some algorithm =>
      simp only [hcache]
      split
      · rename_i hwithout
        obtain ⟨algorithm', hcache', hsigns⟩ := h.signs.1 id (hown hwithout id heffective)
        rw [hcache, Option.some.injEq] at hcache'
        subst hcache'
        refine ⟨⟨h.signs.1, fun a ha => ?_⟩, h.resumed, h.network⟩
        rcases List.mem_append.mp ha with ha | ha
        · exact h.signs.2 a ha
        · rwa [List.mem_singleton.mp ha]
      · exact h

theorem World.Inv.backup (h : w.Inv) (keyId : Option Text) : (w.backup keyId).Inv := by
  unfold World.backup
  split
  · exact h.wait (by simp)
  · exact h.sign (by simp)
  · exact h

theorem World.Inv.sign_default (h : w.Inv) {keyId : Option Text} (hkeyId : present keyId = none) :
    (w.sign true keyId).Inv := by
  refine h.sign fun _ id hid => ?_
  rwa [Service.effectiveKeyId, hkeyId, Option.none_or] at hid

theorem World.Inv.start (h : w.Inv) (call : Call) : (w.start call).Inv := by
  cases call with
  | generateKeyPair algorithm => exact h.wait fun _ => rfl
  | sign keyId =>
    cases hkeyId : present keyId with
    | none => simpa [World.start, hkeyId] using h.sign_default hkeyId
    | some id =>
      rw [World.start, hkeyId]
      exact h.sign (by simp)
  | signBackup keyId => exact h.backup keyId
  | generateRequestHeaders =>
    rw [World.start]
    split
    · exact h.wait (by simp)
    · exact h.sign_default rfl
  | processPrivateTask privacyLevel =>
    rw [World.start]
    split
    · exact h
    · exact h.wait fun _ => rfl

/-- A signature key that was cached becomes the default. -/
theorem World.Inv.makeDefault (h : w.Inv) {keyId : Text} (hkey : keyId ≠ [] →
    ∃ algorithm, w.service.keyCache keyId = some algorithm ∧ isSignatureAlgorithm algorithm) : (w.makeDefault keyId).Inv := by
  refine ⟨⟨fun id hid => ?_, h.signs.2⟩, h.resumed, h.network⟩
  obtain ⟨heq, hne⟩ := Option.filter_eq_some_iff.mp hid
  obtain rfl := Option.some.inj heq
  exact hkey (by simpa using hne)

theorem World.Inv.goOn (h : w.Inv) {key : KeyPair} {after : After} (hkey : after.makesDefault = true → key.keyId ≠ [] →
    ∃ algorithm, w.service.keyCache key.keyId = some algorithm ∧ isSignatureAlgorithm algorithm) : (w.goOn key after).Inv := by
  cases after with
  | nothing => exact h
  | sign =>
    refine (h.makeDefault (hkey rfl)).sign fun _ id hid => ?_
    rw [Service.effectiveKeyId, World.makeDefault] at hid
    simpa [World.makeDefault] using hid
  | signBackup makesDefault =>
    cases makesDefault with
    | false => exact h.backup _
    | true => exact (h.makeDefault (hkey rfl)).backup _
  | headers => exact h.sign_default rfl

/-- What is in the cache after a key is cached, for an id the key does not take from a signature key. -/
theorem keep_signs {s : Service} {key : KeyPair} {id : Text} (hid : id = key.keyId → isSignatureAlgorithm key.algorithm)
    (h : ∃ algorithm, s.keyCache id = some algorithm ∧ isSignatureAlgorithm algorithm) :
    ∃ algorithm, (s.keep key).keyCache id = some algorithm ∧ isSignatureAlgorithm algorithm := by
  by_cases heq : id = key.keyId
  · exact ⟨key.algorithm, by rw [heq]; exact Function.update_self _ _ _, hid heq⟩
  · obtain ⟨algorithm, hcache, hsigns⟩ := h
    exact ⟨algorithm, by rw [← hcache]; exact Function.update_of_ne heq _ _, hsigns⟩

/-- A signature key, or a Kyber key that is kept apart, is cached. -/
theorem World.Inv.returned (h : w.Inv) {pre post : List Waiting} {algorithm : Algorithm} {after : After} {key : KeyPair}
    (hwaiting : w.waiting = pre ++ .network algorithm after :: post) (hlabel : key.algorithm = algorithm.name)
    (hapart : algorithm = .kyber → key.keyId ≠ [] → (∃ id, present w.service.defaultKeyId = some id ∧ id ≠ key.keyId) ∧
      ∀ other after, .resumed other after ∈ w.waiting → after.makesDefault = true → other.keyId ≠ key.keyId) :
    ({ w with service := w.service.keep key, waiting := pre ++ .resumed key after :: post } : World).Inv := by
  have hsigns (hnot : algorithm ≠ .kyber) : isSignatureAlgorithm key.algorithm := by
    rw [hlabel]
    exact isSignatureAlgorithm_name hnot
  have hafter : algorithm = .kyber → after = .nothing := by
    rintro rfl
    exact h.network after (mem_taken hwaiting)
  refine ⟨⟨fun id hid => ?_, h.signs.2⟩, fun other after' hmem hmakes hne => ?_, fun after' hmem => ?_⟩
  · cases hdefault : present w.service.defaultKeyId with
    | none =>
      -- the key has become the default
      have hkey : present (some key.keyId) = some id := by
        simpa [Service.keep, hdefault] using hid
      obtain ⟨heq, hne⟩ := Option.filter_eq_some_iff.mp hkey
      obtain rfl := Option.some.inj heq
      refine ⟨key.algorithm, Function.update_self _ _ _, hsigns fun hkyber => ?_⟩
      obtain ⟨id, hid, -⟩ := (hapart hkyber (by simpa using hne)).1
      rw [hdefault] at hid
      cases hid
    | some id' =>
      have hkept : present w.service.defaultKeyId = some id := by
        simpa [Service.keep, hdefault] using hid
      refine keep_signs (fun heq => hsigns fun hkyber => ?_) (h.signs.1 id hkept)
      have hne : key.keyId ≠ [] := by
        rw [← heq]
        simpa using (Option.filter_eq_some_iff.mp hkept).2
      obtain ⟨id'', hid'', hapart'⟩ := (hapart hkyber hne).1
      rw [hkept, Option.some.injEq] at hid''
      exact hapart' (hid''.symm.trans heq)
  · rcases mem_replaced hwaiting hmem with htask | hmem
    · cases htask
      refine ⟨key.algorithm, Function.update_self _ _ _, hsigns fun hkyber => ?_⟩
      rw [hafter hkyber] at hmakes
      cases hmakes
    · refine keep_signs (fun heq => hsigns fun hkyber => ?_) (h.resumed other after' hmem hmakes hne)
      exact (hapart hkyber (heq ▸ hne)).2 other after' hmem hmakes heq
  · rcases mem_replaced hwaiting hmem with htask | hmem
    · cases htask
    · exact h.network after' hmem

/-- A generation that throws changes nothing. -/
theorem generateKeyPair_none {algorithm : Algorithm} {g : Generation} {s s' : Service}
    (h : generateKeyPair allowLegacyEcdsaFallback algorithm.name g s = (none, s')) : s' = s := by
  rw [generateKeyPair_key, Prod.mk.injEq] at h
  rw [← h.2, h.1]
  rfl

theorem World.Inv.step (h : w.Inv) {e : Happens} (hapart : KyberApart allowLegacyEcdsaFallback w e) {w' : World}
    (hstep : World.Step allowLegacyEcdsaFallback w e w') : w'.Inv := by
  cases hstep with
  | called _ call => exact h.start call
  | @thrown _ pre post algorithm after g service hwaiting hkey =>
    obtain rfl := generateKeyPair_none hkey
    exact ⟨h.signs, fun key after' hmem => h.resumed key after' (mem_ended hwaiting hmem),
      fun after' hmem => h.network after' (mem_ended hwaiting hmem)⟩
  | @returned _ pre post algorithm after g key service hwaiting hlabel hkey =>
    rw [generateKeyPair_key, Prod.mk.injEq] at hkey
    obtain ⟨hkey, rfl⟩ := hkey
    rw [hkey]
    have hname : key.algorithm = algorithm.name := by
      cases hreply : g.reply with
      | some reply =>
        rw [Generation.key, hreply, Option.some_or, Option.some.injEq] at hkey
        rw [← hkey]
        exact hlabel reply hreply
      | none =>
        rw [Generation.key, hreply, Option.none_or] at hkey
        obtain ⟨id, -, rfl⟩ := Option.map_eq_some_iff.mp hkey
        rfl
    apply h.returned hwaiting hname
    rintro rfl
    exact hapart key hkey
  | @resumed _ pre post key after hwaiting =>
    have hrest : ({ w with waiting := pre ++ post } : World).Inv :=
      ⟨h.signs, fun key after' hmem => h.resumed key after' (mem_ended hwaiting hmem),
        fun after' hmem => h.network after' (mem_ended hwaiting hmem)⟩
    exact hrest.goOn (h.resumed key after (mem_taken hwaiting))

theorem newWorld_inv : newWorld.Inv where
  signs := ⟨(fun _ h => by cases h), fun _ h => absurd h List.not_mem_nil⟩
  resumed _ _ h := absurd h List.not_mem_nil
  network _ h := absurd h List.not_mem_nil

/-- In every run in which the Kyber keys are kept apart from the default, the default is a
signature key whenever it is set, and `sign` without a key id asks for signatures only. -/
theorem default_key_signs (allowLegacyEcdsaFallback : Bool) {events : List Happens} {w : World}
    (hrun : Machine.Run (World.Step allowLegacyEcdsaFallback) newWorld events w)
    (hapart : ∀ pre e post u, events = pre ++ e :: post → Machine.Run (World.Step allowLegacyEcdsaFallback) newWorld pre u →
      KyberApart allowLegacyEcdsaFallback u e) : w.Signs :=
  (hrun.invariant_of (P := World.Inv) (fun _ _ _ h hguard hstep => h.step hguard hstep) hapart newWorld_inv).signs

/-- The network makes a key of an algorithm under an id. -/
private def made (keyId algorithm : Text) : Generation := ⟨some ⟨keyId, algorithm⟩, none⟩

/-- The first call asks for a key of an algorithm and has nothing to do with it; then `sign` is
called without a key id. -/
private def signsAfter (algorithm : Algorithm) : List Happens :=
  [.called (.generateKeyPair algorithm), .answered algorithm (made (units "k") algorithm.name), .called (.sign none)]

private def signedWorld (algorithm : Algorithm) : World :=
  ((⟨(⟨fun _ => none, none⟩ : Service).keep ⟨units "k", algorithm.name⟩, [.resumed ⟨units "k", algorithm.name⟩ .nothing], []⟩ :
    World).start (.sign none))

private theorem signsAfter_run (allowLegacyEcdsaFallback : Bool) (algorithm : Algorithm) :
    Machine.Run (World.Step allowLegacyEcdsaFallback) newWorld (signsAfter algorithm) (signedWorld algorithm) := by
  have hwaiting : (newWorld.start (.generateKeyPair algorithm)).waiting = [] ++ .network algorithm .nothing :: [] := rfl
  have hlabel : ∀ key, (made (units "k") algorithm.name).reply = some key → key.algorithm = algorithm.name := by
    intro key hkey
    cases hkey
    rfl
  exact .cons (.called _ _) (.cons (.returned hwaiting hlabel rfl) (.cons (.called _ _) (.nil _)))

theorem default_key_signs_dilithium : (signedWorld .dilithium).Signs := by
  refine default_key_signs false (signsAfter_run false .dilithium) fun pre e post u hevents _ => ?_
  cases e with
  | called call => trivial
  | resumed => trivial
  | answered algorithm g =>
    cases algorithm with
    | kyber =>
      have hmem : Happens.answered .kyber g ∈ signsAfter .dilithium := by
        rw [hevents]
        exact List.mem_append_right _ List.mem_cons_self
      simp [signsAfter] at hmem
    | dilithium => trivial
    | sphincs => trivial

/-- The first key is one for encryption: it is the default, and `sign` asks for a signature with it. -/
theorem default_key_signs_kyber : ¬ ∀ (allowLegacyEcdsaFallback : Bool) (events : List Happens) (w : World),
    Machine.Run (World.Step allowLegacyEcdsaFallback) newWorld events w → w.Signs := by
  intro hall
  have hasked := (hall false _ _ (signsAfter_run false .kyber)).2 kyber
  have hmem : kyber ∈ (signedWorld .kyber).asked := by decide
  rcases hasked hmem with h | h <;> exact absurd h (by decide)

end GalaxiaAin.Galaxia.SigningKeys
