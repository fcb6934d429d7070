import GalaxiaAin.Tenant.Context
import GalaxiaAin.Tenant.Gates
import Mathlib.Data.List.Sort

/-! Organisations, projects, the daily quota, and the audit and usage tables. -/
namespace GalaxiaAin.Tenant
open GalaxiaAin.Library

variable (rt : Runtime)

/-! ### Organisations and projects -/

def selectOrganization (organizationId : Uuid) : Stmt backend (Option Organization) :=
  .select fun c db => (db.organizations.filter fun o => c.admits rt (some o.id) && o.id == organizationId).head?

def getOrganization (organizationId : Uuid) : Async backend (Option Organization) :=
  withTenantTransaction organizationId (Async.query .read (selectOrganization rt organizationId))

/-- ORDER BY created_at DESC. -/
def selectProjects (organizationId : Uuid) : Stmt backend (List Project) :=
  .select fun c db =>
    (db.projects.filter fun p => c.admits rt (some p.organization_id) && p.organization_id == organizationId).mergeSort
      fun p q => q.created_at ≤ p.created_at

def listProjects (organizationId : Uuid) : Async backend (List Project) :=
  withTenantTransaction organizationId (Async.query .read (selectProjects rt organizationId))

/-- `WHERE id = $1`: the parameter is cast to uuid before any row is read. -/
def selectProject (projectId : Json) : Stmt backend (Option Project) where
  run c db :=
    match projectId with
    | .null => .ok (none, id)
    | v =>
      match rt.uuid (rt.parameter v) with
      | none => .error .invalidText
      | some pid =>
        .ok ((db.projects.filter fun p => c.admits rt (some p.organization_id) && p.id == pid).head?, id)

def getProject (organizationId : Uuid) (projectId : Json) : Async backend (Option Project) :=
  withTenantTransaction organizationId (Async.query .read (selectProject rt projectId))

/-- `id` is the row's uuid_generate_v4(). -/
def insertProject (id organizationId : Uuid) (name slug : Text) : Stmt backend Project where
  run c db :=
    let row : Project := ⟨id, organizationId, name, slug, units "active", db.now⟩
    if !(varchar 255 name && varchar 100 slug) then .error .stringTooLong
    else if !c.admits rt (some organizationId) then .error .rowSecurityViolation
    else if db.projects.any fun p => p.id == id then .error .uniqueViolation
    else if db.projects.any fun p => p.organization_id == organizationId && p.slug == slug then
      .error .uniqueViolation
    else if !db.organizations.any fun o => o.id == organizationId then .error .foreignKeyViolation
    else .ok (row, fun t => { t with projects := t.projects ++ [row] })
  locks _ _ := [.projectId id, .projectSlug organizationId slug]

def createProject (id organizationId : Uuid) (name slug : Text) : Async backend Project :=
  withTenantTransaction organizationId (Async.query .insertProject (insertProject rt id organizationId name slug))

/-! ### The daily quota -/

def msPerDay : Nat := 86400000

/-- `COUNT(*) … created_at >= date_trunc('day', NOW())`. -/
def countUsage (organizationId : Uuid) : Stmt backend Nat :=
  .select fun c db => (db.usage_records.filter fun u => c.admits rt (some u.organization_id) &&
    u.organization_id == organizationId && decide (db.now / msPerDay * msPerDay ≤ u.created_at)).length

/-- The warning starts at 80 percent of the limit. -/
def quotaOf (limit : Int) (planTier : Text) (usedToday : Nat) : Quota :=
  let percentUsed := if 0 < limit then rt.percentUsed usedToday limit else 0
  if limit ≤ usedToday then
    ⟨.QUOTA_EXCEEDED, usedToday, limit, planTier, percentUsed,
      some (units "You have used 100% of your included AI allowance for today.")⟩
  else if limit * 4 ≤ usedToday * 5 then
    ⟨.QUOTA_WARNING, usedToday, limit, planTier, percentUsed,
      some (units "You have used " ++ decimal percentUsed ++ units "% of your included AI allowance.")⟩
  else ⟨.QUOTA_OK, usedToday, limit, planTier, percentUsed, none⟩

/-- The callback of `checkOrganizationQuota`. -/
def readQuota (organizationId : Uuid) : Async backend Quota := do
  let org ← Async.query .read (selectOrganization rt organizationId)
  let plan := resolvePlan rt (org.map (·.plan_tier))
  let limit := (org.bind (·.quota_requests_per_day)).getD plan.quotaRequestsPerDay
  let usedToday ← Async.query (.count organizationId) (countUsage rt organizationId)
  return quotaOf rt limit plan.id usedToday

def checkOrganizationQuota (organizationId : Uuid) : Async backend Quota :=
  withTenantTransaction organizationId (readQuota rt organizationId)

/-! ### Audit and usage -/

/-- `/secret|password|token|key|authorization/i.test(k)`. -/
def secretKey (k : Text) : Bool := ["secret", "password", "token", "key", "authorization"].any fun w => search [units w] k

mutual
/-- Values under telling keys are redacted, in nested objects too. The assignment to
`__proto__` makes no property. -/
def scrubSecrets : List (Text × Json) → List (Text × Json)
  | [] => []
  | (k, v) :: rest =>
    if k = units "__proto__" then scrubSecrets rest
    else (k, if secretKey k then .str (units "[REDACTED]") else scrubValue v) :: scrubSecrets rest

def scrubValue : Json → Json
  | .obj fields => .obj (scrubSecrets fields)
  | v => v
end

structure AuditInput where
  organizationId : Option Uuid := none
  actorId : Option Text := none
  requestId : Option Text := none
  eventType : Text
  resourceType : Option Text := none
  resourceId : Option Text := none
  result : Text
  metadata : List (Text × Json) := []

/-- `v || null` of an optional text. -/
def orNull (v : Option Text) : Option Text := v.filter (· ≠ [])

/-- The row an audit event becomes; a uuid parameter may be malformed. -/
def auditRow (event : AuditInput) (now : Nat) : Except ServiceError AuditEvent := do
  let actor ← uuidParameter rt (event.actorId.map .str)
  return {
    organization_id := orNull event.organizationId
    actor_id := actor
    request_id := orNull event.requestId
    event_type := event.eventType
    resource_type := orNull event.resourceType
    resource_id := orNull event.resourceId
    result := event.result
    metadata := Json.stringify (.obj (scrubSecrets event.metadata))
    created_at := now }

def auditFits (row : AuditEvent) : Bool :=
  row.request_id.all (varchar 64) && varchar 80 row.event_type && row.resource_type.all (varchar 80) &&
    row.resource_id.all (varchar 128) && varchar 30 row.result

def insertAuditEvent (event : AuditInput) : Stmt backend Unit where
  run c db :=
    match auditRow rt event db.now with
    | .error e => .error e
    | .ok row =>
      if !auditFits row then .error .stringTooLong
      else if !c.admits rt row.organization_id then .error .rowSecurityViolation
      else if !row.organization_id.all fun id => db.organizations.any fun o => o.id == id then
        .error .foreignKeyViolation
      else .ok ((), fun t => { t with audit_events := t.audit_events ++ [row] })

/-- What an accepted audit event adds. -/
theorem insertAuditEvent_ok {rt : Runtime} {event : AuditInput} {c : Settings} {s : Db} {r : Unit} {w : Db → Db}
    (hw : (insertAuditEvent rt event).run c s = .ok (r, w)) :
    ∃ row, auditRow rt event s.now = .ok row ∧ w = fun t => { t with audit_events := t.audit_events ++ [row] } := by
  simp only [insertAuditEvent] at hw
  split at hw
  · cases hw
  · rename_i row hrow
    repeat' split at hw
    all_goals cases hw
    exact ⟨row, hrow, rfl⟩

/-- An audit event changes nothing that does not read the audit events. -/
theorem insertAuditEvent_keeps {β : Type} {rt : Runtime} {event : AuditInput} {f : Db → β}
    (h : ∀ t row, f { t with audit_events := t.audit_events ++ [row] } = f t) :
    (insertAuditEvent rt event).Keeps (Frame.of f) :=
  .of_run fun c s r w hw t => by
    obtain ⟨row, -, rfl⟩ := insertAuditEvent_ok hw
    exact h t row

theorem auditRow_ok {rt : Runtime} {event : AuditInput} {now : Nat} {row : AuditEvent}
    (h : auditRow rt event now = .ok row) :
    row.event_type = event.eventType ∧ row.request_id = orNull event.requestId := by
  simp only [auditRow] at h
  cases hu : uuidParameter rt (event.actorId.map .str) with
  | error e => rw [hu] at h; cases h
  | ok user => rw [hu] at h; cases h; exact ⟨rfl, rfl⟩

def appendAuditEvent (event : AuditInput) : Async backend Unit :=
  Async.await .audit (.pool (insertAuditEvent rt event))

structure UsageInput where
  organizationId : Uuid
  projectId : Option Json := none
  userId : Option Text := none
  requestId : Text
  providerId : Option Text := none
  modelId : Option Text := none
  inputTokens : Option Nat := none
  outputTokens : Option Nat := none
  durationMs : Option Nat := none
  status : Text
  estimatedCostUsd : Option ℚ := none

def usageRow (record : UsageInput) (now : Nat) : Except ServiceError UsageRecord := do
  let project ← uuidParameter rt record.projectId
  let user ← uuidParameter rt (record.userId.map .str)
  return {
    organization_id := record.organizationId
    project_id := project
    user_id := user
    request_id := record.requestId
    provider_id := orNull record.providerId
    model_id := orNull record.modelId
    input_tokens := record.inputTokens
    output_tokens := record.outputTokens
    duration_ms := record.durationMs
    status := record.status
    estimated_cost_usd := record.estimatedCostUsd
    created_at := now }

def usageFits (row : UsageRecord) : Bool :=
  varchar 64 row.request_id && row.provider_id.all (varchar 50) && row.model_id.all (varchar 100) &&
    varchar 30 row.status

def insertUsageRecord (record : UsageInput) : Stmt backend Unit where
  run c db :=
    match usageRow rt record db.now with
    | .error e => .error e
    | .ok row =>
      if !usageFits row then .error .stringTooLong
      else if !([row.input_tokens, row.output_tokens, row.duration_ms].all (·.all integer)) then .error .outOfRange
      else if !c.admits rt (some row.organization_id) then .error .rowSecurityViolation
      else if !db.organizations.any fun o => o.id == row.organization_id then .error .foreignKeyViolation
      else if !row.project_id.all fun id => db.projects.any fun p => p.id == id then .error .foreignKeyViolation
      else .ok ((), fun t => { t with usage_records := t.usage_records ++ [row] })

/-- What an accepted usage record adds. -/
theorem insertUsageRecord_ok {rt : Runtime} {record : UsageInput} {c : Settings} {s : Db} {r : Unit} {w : Db → Db}
    (hw : (insertUsageRecord rt record).run c s = .ok (r, w)) :
    ∃ row, usageRow rt record s.now = .ok row ∧ c.admits rt (some row.organization_id) = true ∧
      w = fun t => { t with usage_records := t.usage_records ++ [row] } := by
  simp only [insertUsageRecord] at hw
  split at hw
  · cases hw
  · rename_i row hrow
    repeat' split at hw
    all_goals cases hw
    exact ⟨row, hrow, by simpa using ‹¬ (!c.admits rt (some row.organization_id)) = true›, rfl⟩

/-- The row of a usage record takes its organisation, request and status from the record. -/
theorem usageRow_ok {rt : Runtime} {record : UsageInput} {now : Nat} {row : UsageRecord}
    (h : usageRow rt record now = .ok row) : row.organization_id = record.organizationId ∧
      row.request_id = record.requestId ∧ row.status = record.status ∧ row.created_at = now := by
  simp only [usageRow] at h
  cases hp : uuidParameter rt record.projectId with
  | error e => rw [hp] at h; cases h
  | ok project =>
    cases hu : uuidParameter rt (record.userId.map .str) with
    | error e => rw [hp, hu] at h; cases h
    | ok user => rw [hp, hu] at h; cases h; exact ⟨rfl, rfl, rfl, rfl⟩

/-- A usage record changes nothing that does not read the usage records. -/
theorem insertUsageRecord_keeps {β : Type} {rt : Runtime} {record : UsageInput} {f : Db → β}
    (h : ∀ t row, f { t with usage_records := t.usage_records ++ [row] } = f t) :
    (insertUsageRecord rt record).Keeps (Frame.of f) :=
  .of_run fun c s r w hw t => by
    obtain ⟨row, -, -, rfl⟩ := insertUsageRecord_ok hw
    exact h t row

def appendUsageRecord (record : UsageInput) : Async backend Unit :=
  Async.await .usage (.pool (insertUsageRecord rt record))

end GalaxiaAin.Tenant
