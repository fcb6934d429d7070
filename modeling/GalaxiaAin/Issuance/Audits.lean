import GalaxiaAin.Issuance.Schema

/-! AuditService: requests, findings and certifications. The signatures of a certification
are awaited and not kept, and the uuids a call draws are its arguments. -/
namespace GalaxiaAin.Issuance
open GalaxiaAin.Library

def insertAuditRequest (row : Audit.AuditRequestRow) : Stmt backend Unit :=
  .statement fun db =>
    if db.audit_requests.any fun r => r.audit_id == row.audit_id then .error .uniqueViolation
    else .ok ((), fun db => { db with audit_requests := db.audit_requests ++ [row] })

def createAuditRequest (auditId : Text) (input : Audit.AuditRequestInput) : Async backend (Text × Text) :=
  Async.withClient .connect <| Async.orRollback .rollback do
    Async.await .begin .begin
    Async.query .insertAuditRequest (insertAuditRequest (Audit.auditRequestRow auditId input))
    Async.await .commit .commit
    Async.emit (.auditRequested auditId input)
    pure (auditId, units "pending")

/-- The row of a finding, whose missing fields are bound as NULL. -/
def findingRow (auditId : Text) (finding : AuditFinding) : Except IssuanceFailure FindingRow := do
  let severity ← required finding.severity
  let category ← required finding.category
  let description ← required finding.description
  return {
    audit_id := auditId
    severity := severity
    category := category
    description := description
    recommendation := finding.recommendation
    code_location := orNull finding.codeLocation
    cwe_id := orNull finding.cweId
    remediation := orNull finding.remediation
    status := units "open" }

def insertFinding (auditId : Text) (finding : AuditFinding) : Stmt backend Unit :=
  .statement fun db => do
    let row ← findingRow auditId finding
    if db.audit_requests.any fun r => r.audit_id == auditId then
      .ok ((), fun db => { db with audit_findings := db.audit_findings ++ [row] })
    else .error .foreignKeyViolation

def insertFindings (auditId : Text) : List AuditFinding → Async backend Unit
  | [] => pure ()
  | finding :: findings => do
    Async.query .insertFinding (insertFinding auditId finding)
    insertFindings auditId findings

def addFindings (auditId : Text) (findings : List AuditFinding) : Async backend Unit :=
  Async.withClient .connect <| Async.orRollback .rollback do
    Async.await .begin .begin
    insertFindings auditId findings
    Async.await .commit .commit
    pure ()

def critical (severity : Option Text) : Bool := severity == some (units "critical")

/-- Certified: no critical finding among those passed, and a score of at least 80. -/
def certifies (findings : List AuditFinding) (complianceScore : JsNumber) : Bool :=
  !(findings.any fun f => critical f.severity) && complianceScore.atLeast 80

/-- A new certification: it does not expire and is not revoked. -/
def certification (certificationId auditId : Text) (certified : Bool) (score : Int) : Certification where
  certification_id := certificationId
  audit_id := auditId
  certified := certified
  expires_at := none
  revoked := false
  compliance_score := some score

def insertCertification (certificationId auditId : Text) (certified : Bool) (complianceScore : JsNumber) :
    Stmt backend Unit :=
  .statement fun db => do
    let score ← integer complianceScore
    if db.audit_certifications.any fun c => c.certification_id == certificationId then .error .uniqueViolation
    else if db.audit_requests.any fun r => r.audit_id == auditId then
      .ok ((), fun db => { db with
        audit_certifications := db.audit_certifications ++ [certification certificationId auditId certified score] })
    else .error .foreignKeyViolation

def completeRequest (auditId : Text) : Stmt backend Unit :=
  .update fun _ db => { db with
    audit_requests := db.audit_requests.map fun r =>
      if r.audit_id = auditId then { r with status := units "completed" } else r }

/-- The findings are added on a client of their own, before the rest of the transaction. -/
def completeAudit (certificationId auditId : Text) (findings : List AuditFinding) (complianceScore : JsNumber) :
    Async backend (Text × Bool) :=
  Async.withClient .connect <| Async.orRollback .rollback do
    Async.await .begin .begin
    addFindings auditId findings
    let certified := certifies findings complianceScore
    Async.await .sign (.remote ())
    Async.await .signBackup (.remote ())
    Async.query .insertCertification (insertCertification certificationId auditId certified complianceScore)
    Async.query .completeRequest (completeRequest auditId)
    Async.await .commit .commit
    Async.emit (.auditCompleted auditId certificationId certified)
    pure (certificationId, certified)

/-- The certification of that id whose audit exists. -/
def findCertification (certificationId : Text) (db : IssuanceDb) : Option Certification :=
  db.audit_certifications.find? fun c =>
    c.certification_id == certificationId && db.audit_requests.any fun r => r.audit_id == c.audit_id

def verifyCertification (now : Nat) (certificationId : Text) : Async backend Audit.Verification :=
  Async.await .verifyCertification (.pool (.select fun _ db =>
    Audit.verification now ((findCertification certificationId db).map (·.toAuditCertification))))

end GalaxiaAin.Issuance
