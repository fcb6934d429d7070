import GalaxiaAin.Compliance.Documents
import GalaxiaAin.Library.Table

/-! Consents: one row for each user, document and version, overwritten by every later call,
and read back for the documents a user is asked to accept. -/
namespace GalaxiaAin.Compliance
open GalaxiaAin.Library
open Async (Reads)

/-- The user, the document and its version. -/
structure ConsentKey where
  userId : Text
  documentId : Text
  documentVersion : Text
  deriving DecidableEq

def UserConsent.key (c : UserConsent) : ConsentKey := ⟨c.user_id, c.document_id, c.document_version⟩

/-- The rows of a consent that is given. -/
def consentCount (key : ConsentKey) (db : ComplianceDb) : Nat :=
  (db.user_consents.filter fun c => c.key == key && c.consented).length

def hasUserConsented (userId documentId documentVersion : Text) : Async backend Bool := do
  let count ← Async.await .hasUserConsented (.pool (.select fun _ db => consentCount ⟨userId, documentId, documentVersion⟩ db))
  pure (decide (0 < count))

structure ConsentCall where
  userId : Text
  documentId : Text
  documentVersion : Text
  consented : Bool
  ipAddress : Option Text
  userAgent : Option Text

def ConsentCall.key (call : ConsentCall) : ConsentKey := ⟨call.userId, call.documentId, call.documentVersion⟩

/-- The row that is inserted where there is none. -/
def ConsentCall.row (call : ConsentCall) (now : Nat) : UserConsent where
  user_id := call.userId
  document_id := call.documentId
  consented := call.consented
  consent_method := units "web_ui"
  ip_address := orNull call.ipAddress
  user_agent := orNull call.userAgent
  document_version := call.documentVersion
  consented_at := now

/-- `DO UPDATE SET consented = EXCLUDED.consented, consented_at = CURRENT_TIMESTAMP`. -/
def ConsentCall.overwrite (call : ConsentCall) (now : Nat) (c : UserConsent) : UserConsent :=
  if c.key = call.key then { c with consented := call.consented, consented_at := now } else c

/-- `INSERT ... ON CONFLICT (user_id, document_id, document_version) DO UPDATE`. -/
def upsertConsent (now : Nat) (call : ConsentCall) : Stmt backend Unit :=
  .statement fun db =>
    if db.user_consents.any fun c => c.key == call.key then
      .ok ((), fun db => { db with user_consents := db.user_consents.map (call.overwrite now) })
    else if db.users.contains call.userId && db.legal_documents.any fun d => d.id == call.documentId then
      .ok ((), fun db => { db with user_consents := db.user_consents ++ [call.row now] })
    else .error .foreignKeyViolation

def recordConsent (now : Nat) (call : ConsentCall) : Async backend Unit :=
  Async.await .recordConsent (.pool (upsertConsent now call))

/-- `SELECT detected_country`, of the one row of the user. -/
def detectedCountry (userId : Text) : Async backend (Option Text) :=
  Async.await .detectedCountry
    (.pool (.select fun _ db => (db.user_jurisdictions.find? fun j => j.user_id == userId).bind (·.detected_country)))

/-- The mandatory documents for a jurisdiction; NULL equals none. -/
def mandatoryDocuments (jurisdiction : Option Text) (db : ComplianceDb) : List LegalDocument :=
  db.legal_documents.filter fun d => d.mandatory && d.is_active && d.is_current &&
    ((jurisdiction.isSome && d.jurisdiction == jurisdiction) || d.jurisdiction.isNone)

/-- The consent of each document. -/
def consentStatuses (userId : Text) : List LegalDocument → Async backend (List (LegalDocument × Bool))
  | [] => pure []
  | doc :: documents => do
    let consented ← hasUserConsented userId doc.id doc.version
    let rest ← consentStatuses userId documents
    pure ((doc, consented) :: rest)

/-- The order is that of the database's collation. -/
def getRequiredDocuments (collate : Text → Text → Bool) (userId : Text) (jurisdiction : Option Text) :
    Async backend (List (LegalDocument × Bool)) := do
  let country ← match orNull jurisdiction with
    | some given => pure (some given)
    | none => detectedCountry userId
  let documents ← Async.await .mandatoryDocuments (.pool (.select fun _ db =>
    (mandatoryDocuments (orNull country) db).mergeSort fun a b => collate a.document_type b.document_type))
  consentStatuses userId documents

/-! ### Runs -/

structure Consent where
  now : Nat
  call : ConsentCall
  result : Except ComplianceFailure Unit

/-- Calls of `recordConsent` one at a time; a call may fail. -/
inductive ComplianceDb.Consents : Machine ComplianceDb Consent
  | call {s t : ComplianceDb} {now : Nat} {call : ConsentCall} {r : Except ComplianceFailure Unit} {l : Local backend}
      (h : Async.Exec (fun _ => True) (recordConsent now call) s Local.empty r t l) : ComplianceDb.Consents s ⟨now, call, r⟩ t

/-- No two rows of a user, document and version. -/
def Unique (s : ComplianceDb) : Prop := (s.user_consents.map (·.key)).Nodup

/-- Whether the consent is given. -/
def given (key : ConsentKey) (s : ComplianceDb) : Bool := s.user_consents.any fun c => c.key == key && c.consented

/-- The consent that the last call of a history which returned has recorded. -/
def lastConsent (key : ConsentKey) (history : List Consent) : Option Bool :=
  (history.reverse.find? fun e => e.call.key == key && e.result.isOk).map (·.call.consented)

section
variable {s t : ComplianceDb} {key : ConsentKey} {now : Nat} {call : ConsentCall}

/-- What a call leaves: its row is written, or nothing is changed. -/
inductive Upserts (now : Nat) (call : ConsentCall) (s : ComplianceDb) : ComplianceDb → Prop
  | updated (h : ∃ c ∈ s.user_consents, c.key = call.key) : Upserts now call s { s with
      user_consents := s.user_consents.map (call.overwrite now) }
  | inserted (h : ∀ c ∈ s.user_consents, c.key ≠ call.key) : Upserts now call s { s with
      user_consents := s.user_consents ++ [call.row now] }

theorem ComplianceDb.Consents.effect {e : Consent} (h : ComplianceDb.Consents s e t) :
    (e.result.isOk = false ∧ t = s) ∨ (e.result.isOk = true ∧ Upserts e.now e.call s t) := by
  cases h with
  | @call _ _ now call _ _ hexec =>
    refine hexec.sound (Q := fun r t _ => (r.isOk = false ∧ t = s) ∨ (r.isOk = true ∧ Upserts now call s t)) ?_
    rw [recordConsent, Async.post_pool]
    refine ⟨?_, fun _ _ => .inl ⟨rfl, rfl⟩⟩
    simp only [upsertConsent, Stmt.reply, Stmt.effect, Stmt.statement]
    by_cases hrow : (s.user_consents.any fun c => c.key == call.key) = true
    · rw [if_pos hrow]
      exact .inr ⟨rfl, .updated (any_key.mp hrow)⟩
    · rw [if_neg hrow]
      by_cases href : (s.users.contains call.userId && s.legal_documents.any fun d => d.id == call.documentId) = true
      · rw [if_pos href]
        exact .inr ⟨rfl, .inserted (not_any_key.mp hrow)⟩
      · rw [if_neg href]
        exact .inl ⟨rfl, rfl⟩

@[simp] theorem key_overwrite (c : UserConsent) : (call.overwrite now c).key = c.key := by
  unfold ConsentCall.overwrite
  split <;> rfl

theorem consented_overwrite (c : UserConsent) :
    (call.overwrite now c).consented = if c.key = call.key then call.consented else c.consented := by
  unfold ConsentCall.overwrite
  split <;> rfl

/-- A call writes the consent of its key, and no other. -/
theorem Upserts.given (h : Upserts now call s t) (key : ConsentKey) :
    Compliance.given key t = if key = call.key then call.consented else Compliance.given key s := by
  cases h with
  | updated hrow =>
    obtain ⟨c, hc, hkey⟩ := hrow
    rw [Compliance.given, List.any_map]
    simp only [Function.comp_def, key_overwrite, consented_overwrite]
    split
    · rename_i hsame
      subst hsame
      cases hvalue : call.consented with
      | true => exact List.any_eq_true.mpr ⟨c, hc, by simp [hkey]⟩
      | false =>
        refine List.any_eq_false.mpr fun c' _ => ?_
        by_cases hk : c'.key = call.key <;> simp [hk]
    · rename_i hother
      refine congrArg (List.any s.user_consents) (funext fun c' => ?_)
      by_cases hk : c'.key = call.key
      · simp [hk, beq_eq_false_iff_ne.mpr fun h : call.key = key => hother h.symm]
      · rw [if_neg hk]
  | inserted hrow =>
    have hrowKey : (call.row now).key = call.key := rfl
    rw [Compliance.given, List.any_append, List.any_cons, List.any_nil, Bool.or_false, hrowKey]
    split
    · rename_i hsame
      subst hsame
      have hnone : (s.user_consents.any fun c => c.key == call.key && c.consented) = false :=
        List.any_eq_false.mpr fun c hc => by simp [hrow c hc]
      rw [hnone, Bool.false_or, beq_self_eq_true, Bool.true_and]
      rfl
    · rename_i hother
      have hne : (call.key == key) = false := beq_eq_false_iff_ne.mpr fun h => hother h.symm
      rw [hne, Bool.false_and, Bool.or_false]
      rfl

theorem Upserts.unique (h : Upserts now call s t) (hs : Unique s) : Unique t := by
  cases h with
  | updated _ =>
    have hkeys : (s.user_consents.map (call.overwrite now)).map (·.key) = s.user_consents.map (·.key) := by
      rw [List.map_map]
      exact List.map_congr_left fun c _ => key_overwrite c
    rw [Unique, hkeys]
    exact hs
  | inserted hrow =>
    rw [Unique, List.map_append, List.map_singleton, List.nodup_append_comm]
    refine List.nodup_cons.mpr ⟨fun hmem => ?_, hs⟩
    obtain ⟨c, hc, hkey⟩ := List.mem_map.mp hmem
    exact hrow c hc hkey

theorem Upserts.documents (h : Upserts now call s t) : t = { s with user_consents := t.user_consents } := by
  cases h <;> rfl

/-- A consent after one call. -/
theorem ComplianceDb.Consents.given {e : Consent} (h : ComplianceDb.Consents s e t) (key : ConsentKey) :
    Compliance.given key t = if (e.call.key == key && e.result.isOk) = true then e.call.consented else Compliance.given key s := by
  rcases h.effect with ⟨hfailed, rfl⟩ | ⟨hok, hu⟩
  · rw [hfailed, Bool.and_false, if_neg Bool.false_ne_true]
  · rw [hu.given key, hok, Bool.and_true]
    by_cases hkey : key = e.call.key
    · rw [if_pos hkey, if_pos (beq_iff_eq.mpr hkey.symm)]
    · rw [if_neg hkey, if_neg fun h => hkey (beq_iff_eq.mp h).symm]

theorem lastConsent_cons (key : ConsentKey) (e : Consent) (history : List Consent) (b : Bool) :
    (lastConsent key (e :: history)).getD b = (lastConsent key history).getD
      (if (e.call.key == key && e.result.isOk) = true then e.call.consented else b) := by
  rw [lastConsent, List.reverse_cons, List.find?_append, lastConsent]
  cases history.reverse.find? fun e => e.call.key == key && e.result.isOk with
  | some e' => rfl
  | none =>
    cases hm : (e.call.key == key && e.result.isOk) <;> simp [hm]

/-- The last writer's consent, after any run. -/
theorem given_after {history : List Consent} (hrun : Machine.Run ComplianceDb.Consents s history t) (key : ConsentKey) :
    Compliance.given key t = (lastConsent key history).getD (Compliance.given key s) := by
  induction hrun with
  | nil s => rfl
  | @cons _ _ _ e es h _ ih => rw [ih, h.given key, lastConsent_cons]

theorem unique_after {history : List Consent} (hrun : Machine.Run ComplianceDb.Consents s history t) (hs : Unique s) : Unique t := by
  refine hrun.invariant (fun u e v hu hstep => ?_) hs
  rcases hstep.effect with ⟨-, rfl⟩ | ⟨-, h⟩
  · exact hu
  · exact h.unique hu

/-! ### What is read back -/

theorem consentCount_pos : decide (0 < consentCount key s) = given key s := by
  rw [consentCount, Compliance.given]
  cases h : s.user_consents.any fun c => c.key == key && c.consented with
  | true =>
    obtain ⟨c, hc, hp⟩ := List.any_eq_true.mp h
    exact decide_eq_true (List.length_pos_of_mem (List.mem_filter.mpr ⟨hc, hp⟩))
  | false =>
    have hnone : s.user_consents.filter (fun c => c.key == key && c.consented) = [] :=
      List.filter_eq_nil_iff.mpr fun c hc => by simpa using List.any_eq_false.mp h c hc
    rw [hnone]
    rfl

theorem hasUserConsented_reads (userId documentId documentVersion : Text) :
    Reads (hasUserConsented userId documentId documentVersion) (given ⟨userId, documentId, documentVersion⟩ s) s := by
  rw [← consentCount_pos]
  exact Async.reads_bind Async.reads_select (Async.reads_pure _)

theorem consentStatuses_reads (userId : Text) (documents : List LegalDocument) :
    Reads (consentStatuses userId documents) (documents.map fun d => (d, given ⟨userId, d.id, d.version⟩ s)) s := by
  induction documents with
  | nil => exact Async.reads_pure []
  | cons doc documents ih =>
    exact Async.reads_bind (hasUserConsented_reads userId doc.id doc.version) (Async.reads_bind ih (Async.reads_pure _))

/-- The jurisdiction that is asked for: the given one, or else the detected country. -/
def jurisdictionOf (userId : Text) (jurisdiction : Option Text) (s : ComplianceDb) : Option Text :=
  match orNull jurisdiction with
  | some j => some j
  | none => orNull ((s.user_jurisdictions.find? fun j => j.user_id == userId).bind (·.detected_country))

/-- The documents that apply, each once in the order of their types, with their consents. -/
theorem getRequiredDocuments_reads (collate : Text → Text → Bool) (userId : Text) (jurisdiction : Option Text) :
    Reads (getRequiredDocuments collate userId jurisdiction)
      (((mandatoryDocuments (jurisdictionOf userId jurisdiction s) s).mergeSort fun a b =>
        collate a.document_type b.document_type).map fun d => (d, given ⟨userId, d.id, d.version⟩ s)) s := by
  rw [getRequiredDocuments, jurisdictionOf]
  cases hj : orNull jurisdiction with
  | some j =>
    have hne : orNull (some j) = some j := by
      obtain ⟨-, hne⟩ := Option.filter_eq_some_iff.mp hj
      rw [orNull, Option.filter_some, if_pos hne]
    refine Async.reads_bind (Async.reads_pure (some j)) (Async.reads_bind Async.reads_select ?_)
    rw [hne]
    exact consentStatuses_reads userId _
  | none =>
    refine Async.reads_bind Async.reads_select (Async.reads_bind Async.reads_select ?_)
    exact consentStatuses_reads userId _

/-- A document for the jurisdiction, or for all. -/
def Applies (jurisdiction : Option Text) (d : LegalDocument) : Bool := d.jurisdiction == none || d.jurisdiction == jurisdiction

theorem mandatoryDocuments_eq (jurisdiction : Option Text) : mandatoryDocuments jurisdiction s =
    s.legal_documents.filter fun d => d.mandatory && d.is_active && d.is_current && Applies jurisdiction d := by
  refine List.filter_congr fun d _ => ?_
  have happlies : ((jurisdiction.isSome && d.jurisdiction == jurisdiction) || d.jurisdiction.isNone) = Applies jurisdiction d := by
    rw [Applies]
    cases jurisdiction <;> cases d.jurisdiction <;> simp
  rw [happlies]

/-- After every run of calls, a consent is that of the last call for its user, document and
version; no two rows are of one of them; and the mandatory documents that apply to a user are
answered each once with their consents. -/
theorem consent_ledger {start : ComplianceDb} {history : List Consent} (hstart : Unique start)
    (hrun : Machine.Run ComplianceDb.Consents start history t) :
    (∀ userId documentId documentVersion, Reads (hasUserConsented userId documentId documentVersion)
      ((lastConsent ⟨userId, documentId, documentVersion⟩ history).getD (given ⟨userId, documentId, documentVersion⟩ start)) t) ∧
    Unique t ∧ ∀ collate userId jurisdiction, ∃ documents, Reads (getRequiredDocuments collate userId jurisdiction) documents t ∧
      (documents.map Prod.fst).Perm (t.legal_documents.filter fun d =>
        d.mandatory && d.is_active && d.is_current && Applies (jurisdictionOf userId jurisdiction t) d) ∧
      ∀ p ∈ documents, Reads (hasUserConsented userId p.1.id p.1.version) p.2 t := by
  refine ⟨fun userId documentId documentVersion => ?_, unique_after hrun hstart, fun collate userId jurisdiction =>
    ⟨_, getRequiredDocuments_reads collate userId jurisdiction, ?_, fun p hp => ?_⟩⟩
  · rw [← given_after hrun]
    exact hasUserConsented_reads userId documentId documentVersion
  · rw [List.map_map, ← mandatoryDocuments_eq]
    exact (List.map_id _).symm ▸ List.mergeSort_perm _ _
  · obtain ⟨d, -, rfl⟩ := List.mem_map.mp hp
    exact hasUserConsented_reads userId d.id d.version

end

/-- A user and the terms of service. -/
def termsDb : ComplianceDb := ⟨[units "u1"], [documentRow (units "d1") (terms none)], [], []⟩

def consentTo (consented : Bool) : ConsentCall := ⟨units "u1", units "d1", units "1", consented, none, none⟩

/-- The tables after a call that is served. -/
def ComplianceDb.recorded (s : ComplianceDb) (call : ConsentCall) : ComplianceDb := ((recordConsent 0 call).run [] s Local.empty).2.1

theorem recorded_step (s : ComplianceDb) (call : ConsentCall) : ComplianceDb.Consents s
    ⟨0, call, ((recordConsent 0 call).run [] s Local.empty).1⟩ (s.recorded call) :=
  .call (Async.exec_nil _ (recordConsent 0 call) s Local.empty)

/-- A consent that is given and taken back. -/
theorem consent_ledger_withdrawn : Reads (hasUserConsented (units "u1") (units "d1") (units "1")) false
    ((termsDb.recorded (consentTo true)).recorded (consentTo false)) := by
  have hunique : Unique termsDb := List.nodup_nil
  have hledger := (consent_ledger hunique (.cons (recorded_step termsDb (consentTo true))
    (.cons (recorded_step (termsDb.recorded (consentTo true)) (consentTo false)) (.nil _)))).1 (units "u1") (units "d1") (units "1")
  have hlast : (lastConsent ⟨units "u1", units "d1", units "1"⟩
      [⟨0, consentTo true, ((recordConsent 0 (consentTo true)).run [] termsDb Local.empty).1⟩,
        ⟨0, consentTo false, ((recordConsent 0 (consentTo false)).run [] (termsDb.recorded (consentTo true)) Local.empty).1⟩]).getD
      (given ⟨units "u1", units "d1", units "1"⟩ termsDb) = false := by decide +kernel
  rwa [hlast] at hledger

end GalaxiaAin.Compliance
