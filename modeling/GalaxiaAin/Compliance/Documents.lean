import GalaxiaAin.Compliance.Schema
import GalaxiaAin.Library.Answers
import GalaxiaAin.Library.Machine
import GalaxiaAin.Library.Transaction

/-! Legal documents: a new one is inserted as the current one of its type and jurisdiction,
and others are unset where a new acceptance is required. -/
namespace GalaxiaAin.Compliance
open GalaxiaAin.Library
open Async (Reads)

/-- What `createLegalDocument` is given; a flag may be undefined. -/
structure DocumentData where
  document_type : Text
  version : Text
  jurisdiction : Option Text
  title : Text
  content : Text
  summary : Option Text
  effective_date : Nat
  expiry_date : Option Nat
  mandatory : Option Bool
  requires_reacceptance : Option Bool

/-- `flag !== false`. -/
def notFalse (flag : Option Bool) : Bool := flag != some false

/-- The documents of a type and jurisdiction; NULL is one of them. -/
def LegalDocument.isOf (documentType : Text) (jurisdiction : Option Text) (d : LegalDocument) : Bool :=
  d.document_type == documentType && d.jurisdiction == jurisdiction

/-- `is_current = false` where it is set. -/
def unset (documentType : Text) (jurisdiction : Option Text) (documents : List LegalDocument) : List LegalDocument :=
  documents.map fun d => if d.isOf documentType jurisdiction && d.is_current then { d with is_current := false } else d

def unsetCurrent (documentType : Text) (jurisdiction : Option Text) : Stmt backend Unit :=
  .update fun _ db => { db with legal_documents := unset documentType jurisdiction db.legal_documents }

def documentRow (documentId : Text) (data : DocumentData) : LegalDocument where
  id := documentId
  document_type := data.document_type
  version := data.version
  jurisdiction := orNull data.jurisdiction
  title := data.title
  content := data.content
  summary := orNull data.summary
  effective_date := data.effective_date
  expiry_date := data.expiry_date
  mandatory := notFalse data.mandatory
  requires_reacceptance := notFalse data.requires_reacceptance
  is_active := true
  is_current := true

def insertDocument (row : LegalDocument) : Stmt backend LegalDocument :=
  .statement fun db =>
    if db.legal_documents.any fun d => d.id == row.id then .error .uniqueViolation
    else .ok (row, fun db => { db with legal_documents := db.legal_documents ++ [row] })

/-- Between BEGIN and COMMIT. -/
def replaceDocument (documentId : Text) (data : DocumentData) : Async backend LegalDocument := do
  onlyIf (notFalse data.requires_reacceptance)
    (Async.query .unsetCurrent (unsetCurrent data.document_type (orNull data.jurisdiction)))
  Async.query .insertDocument (insertDocument (documentRow documentId data))

def createLegalDocument (documentId : Text) (data : DocumentData) : Async backend LegalDocument :=
  Async.withClient .connect <| Async.orRollback .rollback do
    Async.await .begin .begin
    let row ← replaceDocument documentId data
    Async.await .commit .commit
    pure row

/-- `ORDER BY jurisdiction NULLS LAST LIMIT 1` of rows of one jurisdiction or of none. -/
def firstByJurisdiction (picked : Nat) (rows : List LegalDocument) : Option LegalDocument :=
  if rows.any (·.jurisdiction.isSome) then limitOne picked (rows.filter (·.jurisdiction.isSome)) else limitOne picked rows

/-- The rows of `getCurrentDocument`. -/
def currentRows (documentType : Text) (jurisdiction : Option Text) (db : ComplianceDb) : List LegalDocument :=
  db.legal_documents.filter fun d => d.document_type == documentType && d.is_active && d.is_current &&
    ((jurisdiction.isSome && d.jurisdiction == jurisdiction) || d.jurisdiction.isNone)

/-- Of rows that are alike to the order any may come first. -/
def getCurrentDocument (picked : Nat) (documentType : Text) (jurisdiction : Option Text) :
    Async backend (Option LegalDocument) :=
  Async.await .currentDocument
    (.pool (.select fun _ db => firstByJurisdiction picked (currentRows documentType (orNull jurisdiction) db)))

/-! ### Runs -/

structure Creation where
  documentId : Text
  data : DocumentData
  result : Except ComplianceFailure LegalDocument

/-- Calls of `createLegalDocument` one at a time, of whose own calls any may fail. -/
inductive ComplianceDb.Creates : Machine ComplianceDb Creation
  | call {s t : ComplianceDb} {documentId : Text} {data : DocumentData} {r : Except ComplianceFailure LegalDocument}
      {l : Local backend} (h : Async.Exec (fun _ => True) (createLegalDocument documentId data) s Local.empty r t l) :
      ComplianceDb.Creates s ⟨documentId, data, r⟩ t

/-- The documents before a new one is inserted. -/
def replaced (data : DocumentData) (documents : List LegalDocument) : List LegalDocument :=
  if notFalse data.requires_reacceptance then unset data.document_type (orNull data.jurisdiction) documents else documents

def created (documentId : Text) (data : DocumentData) (documents : List LegalDocument) : List LegalDocument :=
  replaced data documents ++ [documentRow documentId data]

section
variable {s t : ComplianceDb} {documentId : Text} {data : DocumentData}

theorem replaceDocument_transacts : (replaceDocument documentId data).Transacts (fun _ => True) () s s
    (fun _ u => u = { s with legal_documents := created documentId data s.legal_documents }) fun _ => True := by
  refine Async.transacts_bind (R := fun _ u => u = { s with legal_documents := replaced data s.legal_documents }) ?_ ?_
  · have hunset : Meets ((unsetCurrent data.document_type (orNull data.jurisdiction)).run () s) (fun o => o.2 s =
        { s with legal_documents := unset data.document_type (orNull data.jurisdiction) s.legal_documents }) fun _ => True :=
      meets_ok.mpr rfl
    unfold onlyIf replaced
    split
    · exact Async.transacts_query (R := fun _ u => u = _) hunset (fun _ => trivial) _
    · exact Async.transacts_pure rfl
  · rintro - _ rfl
    refine Async.transacts_query ?_ (fun _ => trivial) _
    simp only [insertDocument, Stmt.statement]
    split
    · exact meets_error.mpr trivial
    · exact meets_ok.mpr rfl

/-- A document is created whole, or nothing is changed. -/
theorem ComplianceDb.Creates.effect {e : Creation} (h : ComplianceDb.Creates s e t) :
    (e.result.isOk = false ∧ t = s) ∨
      (e.result.isOk = true ∧ t = { s with legal_documents := created e.documentId e.data s.legal_documents }) := by
  cases h with
  | @call _ _ documentId data _ _ hexec =>
    refine hexec.sound (Q := fun r t _ => (r.isOk = false ∧ t = s) ∨
      (r.isOk = true ∧ t = { s with legal_documents := created documentId data s.legal_documents })) ?_
    exact Async.Transacts.committed replaceDocument_transacts (fun _ => trivial) (fun _ _ => .inl ⟨rfl, rfl⟩)
      (fun _ _ h => .inr ⟨rfl, h⟩) _ _ _ _

end

/-! ### The current document -/

/-- The documents of a type and jurisdiction, in the order they were created. -/
def documentsOf (documentType : Text) (jurisdiction : Option Text) (documents : List LegalDocument) : List LegalDocument :=
  documents.filter (·.isOf documentType jurisdiction)

/-- Of each type and jurisdiction the document created last is the one current document, and
it is active. -/
def OneCurrent (documents : List LegalDocument) : Prop :=
  (∀ documentType jurisdiction, (documentsOf documentType jurisdiction documents).filter (·.is_current) =
    (documentsOf documentType jurisdiction documents).getLast?.toList) ∧ ∀ d ∈ documents, d.is_active = true

/-- A creation that leaves the documents before it as they are is the first of its type and
jurisdiction. -/
def ReplacesCurrent (s : ComplianceDb) (e : Creation) : Prop :=
  e.result.isOk = true → notFalse e.data.requires_reacceptance = false →
    documentsOf e.data.document_type (orNull e.data.jurisdiction) s.legal_documents = []

/-- The document that is asked for: the jurisdiction's own, or else the one for all. -/
def expectedDocument (documentType : Text) (jurisdiction : Option Text) (documents : List LegalDocument) : Option LegalDocument :=
  ((orNull jurisdiction).bind fun j => (documentsOf documentType (some j) documents).getLast?) <|>
    (documentsOf documentType none documents).getLast?

def LegalDocument.retired (d : LegalDocument) : LegalDocument := { d with is_current := false }

section
variable {s t : ComplianceDb} {documents : List LegalDocument} {documentId documentType : Text} {jurisdiction : Option Text}
  {data : DocumentData} {documentType' : Text} {jurisdiction' : Option Text}

theorem isOf_iff {d : LegalDocument} :
    d.isOf documentType jurisdiction = true ↔ d.document_type = documentType ∧ d.jurisdiction = jurisdiction := by
  rw [LegalDocument.isOf, Bool.and_eq_true, beq_iff_eq, beq_iff_eq]

/-- What is unset is retired; a document that was not current stays the same by it. -/
theorem unset_eq : unset documentType jurisdiction documents =
    documents.map fun d => if d.isOf documentType jurisdiction then d.retired else d := by
  refine List.map_congr_left fun d _ => ?_
  cases ho : d.isOf documentType jurisdiction with
  | false => simp
  | true =>
    obtain ⟨id, type, version, j, title, content, summary, effective, expiry, mandatory, reacceptance, active, current⟩ := d
    cases current <;> rfl

theorem documentsOf_unset : documentsOf documentType' jurisdiction' (unset documentType jurisdiction documents) =
    if documentType' = documentType ∧ jurisdiction' = jurisdiction then
      (documentsOf documentType' jurisdiction' documents).map LegalDocument.retired
    else documentsOf documentType' jurisdiction' documents := by
  have hkept : ∀ d : LegalDocument, (if d.isOf documentType jurisdiction then d.retired else d).isOf documentType' jurisdiction' =
      d.isOf documentType' jurisdiction' := by
    intro d
    split <;> rfl
  rw [unset_eq, documentsOf, List.filter_map]
  simp only [Function.comp_def, hkept]
  split
  · rename_i hsame
    obtain ⟨rfl, rfl⟩ := hsame
    exact List.map_congr_left fun d hd => if_pos (List.mem_filter.mp hd).2
  · rename_i hother
    refine (List.map_congr_left fun d hd => if_neg fun ho => hother ?_).trans (List.map_id _)
    obtain ⟨ht, hj⟩ := isOf_iff.mp (List.mem_filter.mp hd).2
    obtain ⟨ht', hj'⟩ := isOf_iff.mp ho
    exact ⟨ht.symm.trans ht', hj.symm.trans hj'⟩

/-- A creation adds to the documents of its type and jurisdiction, and retires those before. -/
theorem documentsOf_created : documentsOf documentType jurisdiction (created documentId data documents) =
    if data.document_type = documentType ∧ orNull data.jurisdiction = jurisdiction then
      (if notFalse data.requires_reacceptance then (documentsOf documentType jurisdiction documents).map LegalDocument.retired
        else documentsOf documentType jurisdiction documents) ++ [documentRow documentId data]
    else documentsOf documentType jurisdiction documents := by
  have hrow : (documentRow documentId data).isOf documentType jurisdiction = true ↔
      data.document_type = documentType ∧ orNull data.jurisdiction = jurisdiction := isOf_iff
  have happend : documentsOf documentType jurisdiction (created documentId data documents) =
      documentsOf documentType jurisdiction (replaced data documents) ++
        [documentRow documentId data].filter (·.isOf documentType jurisdiction) := List.filter_append _ _
  rw [happend, replaced]
  by_cases hsame : data.document_type = documentType ∧ orNull data.jurisdiction = jurisdiction
  · rw [if_pos hsame, List.filter_cons_of_pos (hrow.mpr hsame), List.filter_nil]
    split
    · rw [documentsOf_unset, if_pos ⟨hsame.1.symm, hsame.2.symm⟩]
    · rfl
  · rw [if_neg hsame, List.filter_cons_of_neg (mt hrow.mp hsame), List.filter_nil, List.append_nil]
    split
    · rw [documentsOf_unset, if_neg fun h => hsame ⟨h.1.symm, h.2.symm⟩]
    · rfl

theorem created_active (h : ∀ d ∈ documents, d.is_active = true) : ∀ d ∈ created documentId data documents, d.is_active = true := by
  intro d hd
  rcases List.mem_append.mp hd with hd | hd
  · rw [replaced] at hd
    split at hd
    · rw [unset_eq] at hd
      obtain ⟨d', hd', rfl⟩ := List.mem_map.mp hd
      split
      · exact h d' hd'
      · exact h d' hd'
    · exact h d hd
  · rw [List.mem_singleton.mp hd]
    rfl

/-- One creation. -/
theorem OneCurrent.created (h : OneCurrent documents)
    (hg : notFalse data.requires_reacceptance = false → documentsOf data.document_type (orNull data.jurisdiction) documents = []) :
    OneCurrent (created documentId data documents) := by
  refine ⟨fun documentType jurisdiction => ?_, created_active h.2⟩
  rw [documentsOf_created]
  split
  · rename_i hsame
    obtain ⟨rfl, rfl⟩ := hsame
    have hnone : (if notFalse data.requires_reacceptance then
        (documentsOf data.document_type (orNull data.jurisdiction) documents).map LegalDocument.retired
        else documentsOf data.document_type (orNull data.jurisdiction) documents).filter (·.is_current) = [] := by
      by_cases hreaccept : notFalse data.requires_reacceptance = true
      · rw [if_pos hreaccept]
        refine List.filter_eq_nil_iff.mpr fun d hd => ?_
        obtain ⟨d', -, rfl⟩ := List.mem_map.mp hd
        exact Bool.false_ne_true
      · rw [if_neg hreaccept, hg (by simpa using hreaccept)]
        rfl
    rw [List.filter_append, hnone, List.getLast?_append]
    rfl
  · exact h.1 documentType jurisdiction

theorem OneCurrent.step (h : OneCurrent s.legal_documents) {e : Creation} (hg : ReplacesCurrent s e)
    (hstep : ComplianceDb.Creates s e t) : OneCurrent t.legal_documents := by
  rcases hstep.effect with ⟨-, rfl⟩ | ⟨hok, rfl⟩
  · exact h
  · exact h.created (hg hok)

/-- The rows that are read for a jurisdiction are the current documents of it and of none. -/
theorem currentRows_filter (hactive : ∀ d ∈ s.legal_documents, d.is_active = true) (k : Text) :
    (currentRows documentType (some k) s).filter (·.jurisdiction.isSome) =
      (documentsOf documentType (some k) s.legal_documents).filter (·.is_current) := by
  rw [currentRows, documentsOf, List.filter_filter, List.filter_filter]
  refine List.filter_congr fun d hd => ?_
  cases hj : d.jurisdiction <;> simp [LegalDocument.isOf, hactive d hd, hj, Bool.and_comm, Bool.and_left_comm]

theorem currentRows_global (hactive : ∀ d ∈ s.legal_documents, d.is_active = true)
    (hown : ∀ k, jurisdiction = some k → (documentsOf documentType (some k) s.legal_documents).filter (·.is_current) = []) :
    currentRows documentType jurisdiction s = (documentsOf documentType none s.legal_documents).filter (·.is_current) := by
  rw [currentRows, documentsOf, List.filter_filter]
  refine List.filter_congr fun d hd => ?_
  cases hj : d.jurisdiction with
  | none => simp [LegalDocument.isOf, hactive d hd, hj, Bool.and_comm]
  | some k =>
    by_cases hk : jurisdiction = some k
    · have hnot : ¬ (d.isOf documentType (some k) && d.is_current) = true := by
        intro h
        have hmem : d ∈ (documentsOf documentType (some k) s.legal_documents).filter (·.is_current) := by
          rw [Bool.and_eq_true] at h
          exact List.mem_filter.mpr ⟨List.mem_filter.mpr ⟨hd, h.1⟩, h.2⟩
        rw [hown k hk] at hmem
        exact absurd hmem List.not_mem_nil
      simp only [LegalDocument.isOf, hj, beq_self_eq_true, Bool.and_true, Bool.not_eq_true] at hnot
      simp only [LegalDocument.isOf, hactive d hd, hj, hk]
      cases ht : d.document_type == documentType <;> cases hc : d.is_current <;> simp_all
    · have hne : (some k == jurisdiction) = false := beq_eq_false_iff_ne.mpr fun h => hk h.symm
      simp [LegalDocument.isOf, hj, hne]

/-- With one current document of each type and jurisdiction there is no choice of the first row. -/
theorem OneCurrent.first (h : OneCurrent s.legal_documents) (picked : Nat) :
    firstByJurisdiction picked (currentRows documentType (orNull jurisdiction) s) =
      expectedDocument documentType jurisdiction s.legal_documents := by
  rw [expectedDocument]
  generalize orNull jurisdiction = given
  have hglobal (hown : ∀ k, given = some k → (documentsOf documentType (some k) s.legal_documents).filter (·.is_current) = []) :
      firstByJurisdiction picked (currentRows documentType given s) = (documentsOf documentType none s.legal_documents).getLast? := by
    have hnone : ¬ ((documentsOf documentType none s.legal_documents).filter (·.is_current)).any (·.jurisdiction.isSome) = true := by
      rw [List.any_eq_true]
      rintro ⟨d, hd, hj⟩
      have := (isOf_iff.mp (List.mem_filter.mp (List.mem_filter.mp hd).1).2).2
      rw [this] at hj
      cases hj
    rw [firstByJurisdiction, currentRows_global h.2 hown, if_neg hnone, h.1, limitOne_toList]
  cases given with
  | none => exact hglobal fun k hk => (by cases hk)
  | some k =>
    cases hlast : (documentsOf documentType (some k) s.legal_documents).getLast? with
    | none =>
      rw [Option.bind_some, hlast]
      refine hglobal fun k' hk => ?_
      obtain rfl := Option.some.inj hk
      rw [h.1, hlast]
      rfl
    | some d =>
      have hrows : (currentRows documentType (some k) s).filter (·.jurisdiction.isSome) = (some d).toList := by
        rw [currentRows_filter h.2, h.1, hlast]
      have hany : (currentRows documentType (some k) s).any (·.jurisdiction.isSome) = true := by
        obtain ⟨hmem, hsome⟩ := List.mem_filter.mp (hrows ▸ List.mem_singleton.mpr rfl :
          d ∈ (currentRows documentType (some k) s).filter (·.jurisdiction.isSome))
        exact List.any_eq_true.mpr ⟨d, hmem, hsome⟩
      rw [firstByJurisdiction, if_pos hany, hrows, limitOne_toList, Option.bind_some, hlast]
      rfl

/-- In every run from an empty table in which a creation that unsets nothing is the first of
its type and jurisdiction, there is one current document of each, the one created last, and it
is what is answered. -/
theorem one_current_document {start : ComplianceDb} {history : List Creation} (hstart : start.legal_documents = [])
    (hrun : Machine.Run ComplianceDb.Creates start history t)
    (hguard : ∀ pre e post u, history = pre ++ e :: post → Machine.Run ComplianceDb.Creates start pre u → ReplacesCurrent u e) :
    OneCurrent t.legal_documents ∧ ∀ picked documentType jurisdiction,
      Reads (getCurrentDocument picked documentType jurisdiction)
        (expectedDocument documentType jurisdiction t.legal_documents) t := by
  have hone : OneCurrent t.legal_documents := by
    refine hrun.invariant_of (P := fun u => OneCurrent u.legal_documents) (fun _ _ _ h hg hs => h.step hg hs) hguard ?_
    rw [hstart]
    exact ⟨fun _ _ => rfl, fun _ hd => absurd hd List.not_mem_nil⟩
  refine ⟨hone, fun picked documentType jurisdiction => ?_⟩
  rw [← hone.first picked]
  exact Async.reads_select

end
def emptyDb : ComplianceDb := ⟨[], [], [], []⟩

/-- Terms of service for every jurisdiction. -/
def terms (requires_reacceptance : Option Bool) : DocumentData where
  document_type := units "terms_of_service"
  version := units "1"
  jurisdiction := none
  title := units "Terms"
  content := units "Text"
  summary := none
  effective_date := 0
  expiry_date := none
  mandatory := none
  requires_reacceptance := requires_reacceptance

/-- The tables after a creation whose calls are all served. -/
def ComplianceDb.with (s : ComplianceDb) (documentId : Text) (data : DocumentData) : ComplianceDb :=
  ((createLegalDocument documentId data).run [] s Local.empty).2.1

theorem created_step (s : ComplianceDb) (documentId : Text) (data : DocumentData) : ComplianceDb.Creates s
    ⟨documentId, data, ((createLegalDocument documentId data).run [] s Local.empty).1⟩ (s.with documentId data) :=
  .call (Async.exec_nil _ (createLegalDocument documentId data) s Local.empty)

theorem one_current_document_terms : OneCurrent (emptyDb.with (units "d1") (terms none)).legal_documents := by
  refine (one_current_document rfl (.cons (created_step emptyDb (units "d1") (terms none)) (.nil _)) ?_).1
  intro pre e post u he _ _ hkeeps
  cases pre with
  | nil =>
    obtain ⟨rfl, _⟩ := List.cons.inj he
    cases hkeeps
  | cons _ pre => exact absurd (List.cons.inj he).2 (by simp)

/-- Two documents without a new acceptance are both current. -/
theorem two_current_documents : ¬ ∀ (t : ComplianceDb) (history : List Creation),
    Machine.Run ComplianceDb.Creates emptyDb history t → OneCurrent t.legal_documents := by
  intro h
  have hone := h _ _ (.cons (created_step emptyDb (units "d1") (terms (some false)))
    (.cons (created_step (emptyDb.with (units "d1") (terms (some false))) (units "d2") (terms (some false))) (.nil _)))
  have hlength := congrArg List.length (hone.1 (units "terms_of_service") none)
  exact absurd hlength (by decide +kernel)

end GalaxiaAin.Compliance
