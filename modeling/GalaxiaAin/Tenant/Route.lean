import GalaxiaAin.Tenant.Executor

/-! POST /v1/tenant/inference. -/
namespace GalaxiaAin.Tenant
open GalaxiaAin.Library

variable (rt : Runtime)

/-- A request behind the authentication and rate-limit middleware. `requestId` is the
crypto.randomUUID() its job would get, `elapsed` is `Date.now() - started`. -/
structure Request where
  auth : AuthContext
  body : Json
  xOrgId : Option Text
  requestId : Text
  elapsed : Nat

/-- A request of the pilot organisation under the key `k1`. -/
def pilotRequest (requestId input : String) : Request where
  auth := ⟨units "550e8400-e29b-41d4-a716-446655440000", pilotOrg.id, .DEVELOPER, []⟩
  body := .obj [(units "model", .str (units "gpt-4o-mini")), (units "input", .str (units input)),
    (units "idempotencyKey", .str (units "k1"))]
  xOrgId := none
  requestId := units requestId
  elapsed := 5

/-- What the checks hand to the creation of the job. -/
structure Admission where
  model : ModelEntry
  input : Json
  projectId : Option Json
  idempotencyKey : Option Json
  inputBytes : Nat

def respond (status : Nat) (body : Body) : Async backend Unit := Async.emit (.respond status body)

def reject (status : Nat) (code error : Text) : Async backend (Option Admission) := do
  respond status (.rejected code error none)
  return none

/-- `req.body?.organizationId || req.headers['x-org-id']`. -/
def spoofOrg (req : Request) : Option Json :=
  match (req.body.get (units "organizationId")).filter Json.truthy with
  | some v => some v
  | none => (req.xOrgId.map Json.str).filter Json.truthy

/-- The checks up to the project lookup; `none` is a request already answered. -/
def checkRequest (req : Request) : Async backend (Option (Json × Json)) := do
  Async.ofExcept (authorize req.auth (units "inference:execute"))
  Async.ofExcept (rejectClientRoleOverride req.body)
  let mainnetCheck ← Async.ofExcept (validateNoMainnetInjection rt req.body)
  match mainnetCheck with
  | some reason =>
    respond 403 (.rejected (units "MAINNET_BLOCKED") reason none)
    return none
  | none =>
    match spoofOrg req with
    | some org => Async.ofExcept (assertOrgMatch req.auth org)
    | none => pure ()
    match (req.body.get (units "model")).filter Json.truthy, req.body.get (units "input") with
    | some model, some input =>
      match validatePromptInput (promptText input) none with
      | some (code, message) =>
        respond 400 (.rejected code message none)
        return none
      | none => return some (model, input)
    | _, _ =>
      respond 400 (.rejected (units "INVALID_INPUT") (units "model and input required") none)
      return none

/-- `if (projectId) …`: whether the request goes on. -/
def checkProject (req : Request) (projectId : Option Json) : Async backend Bool :=
  match projectId.filter Json.truthy with
  | none => return true
  | some id => do
    let project ← getProject rt req.auth.organizationId id
    match project with
    | none =>
      respond 404 (.rejected (units "NOT_FOUND") (units "Project not found") none)
      return false
    | some project =>
      Async.ofExcept (assertProjectInOrg req.auth project.organization_id)
      return true

def checkQuota (req : Request) : Async backend Bool := do
  let quota ← checkOrganizationQuota rt req.auth.organizationId
  if quota.state = .QUOTA_EXCEEDED then
    appendAuditEvent rt {
      organizationId := some req.auth.organizationId
      actorId := some req.auth.userId
      eventType := units "QUOTA_EXCEEDED"
      result := units "BLOCKED" }
    respond 429 (.rejected (units "QUOTA_EXCEEDED") (units "Organization quota exceeded") (some quota))
    return false
  else return true

def checkModel (model : Json) : Async backend (Option ModelEntry) := do
  let modelCheck ← Async.ofExcept (resolveModel rt model)
  match modelCheck with
  | .error (code, message) =>
    respond (if code = units "MODEL_NOT_ALLOWED" then 403 else 503) (.rejected code message none)
    return none
  | .ok entry =>
    if (getProviderAdapter rt entry.provider).statusNotConfigured rt then
      respond 503 (.rejected (units "PROVIDER_NOT_CONFIGURED")
        (units "Provider " ++ entry.provider ++ units " is not configured") none)
      return none
    else return some entry

/-- Everything before `createInferenceJob`. -/
def admitRequest (req : Request) : Async backend (Option Admission) := do
  match ← checkRequest rt req with
  | none => return none
  | some (model, input) =>
    let projectId := req.body.get (units "projectId")
    if ← checkProject rt req projectId then
      if ← checkQuota rt req then
        match ← checkModel rt model with
        | none => return none
        | some entry =>
          match input.text with
          | none => throw (.other none)
          | some t => return some ⟨entry, input, projectId, req.body.get (units "idempotencyKey"), byteLength t⟩
      else return none
    else return none

def jobInput (req : Request) (a : Admission) : JobInput where
  organizationId := req.auth.organizationId
  projectId := a.projectId
  userId := some req.auth.userId
  providerId := a.model.provider
  modelId := a.model.id
  idempotencyKey := a.idempotencyKey
  inputBytes := some a.inputBytes

def startedAudit (req : Request) (requestId : Text) : AuditInput where
  organizationId := some req.auth.organizationId
  actorId := some req.auth.userId
  requestId := some requestId
  eventType := units "INFERENCE_STARTED"
  resourceType := some (units "inference")
  resourceId := some requestId
  result := units "ACCEPTED"

def execution (req : Request) (a : Admission) (requestId : Text) : Execution where
  organizationId := req.auth.organizationId
  projectId := a.projectId
  userId := some req.auth.userId
  requestId := requestId
  providerId := a.model.provider
  modelId := a.model.id
  prompt := promptText a.input

/-- The audit event, the 202, setImmediate and the usage record of a new job. -/
def startJob (req : Request) (a : Admission) (job : Job) : Async backend Unit := do
  appendAuditEvent rt (startedAudit req job.requestId)
  respond 202 (.accepted job.requestId)
  Async.emit (.schedule (execution req a job.requestId))
  appendUsageRecord rt {
    organizationId := req.auth.organizationId
    projectId := a.projectId
    userId := some req.auth.userId
    requestId := job.requestId
    providerId := some a.model.provider
    modelId := some a.model.id
    durationMs := some req.elapsed
    status := units "QUEUED" }

/-- From `createInferenceJob` on. -/
def enqueue (req : Request) (a : Admission) : Async backend Unit := do
  let job ← createInferenceJob rt req.requestId (jobInput req a)
  if job.existing then respond 200 (.idempotent job.requestId job.status)
  else startJob rt req a job

/-- The error responder; a second response throws and the handler's promise rejects. -/
def onError : ServiceError → Async backend Unit
  | .idempotencyConflict =>
    respond 409 (.rejected (units "IDEMPOTENCY_CONFLICT") (units "Idempotency key reused with different payload") none)
  | .authorization code message => respond 403 (.rejected code message none)
  | .other _ => respond 500 (.rejected (units "INTERNAL_ERROR") (units "Inference request failed") none)

def postInference (req : Request) : Async backend Unit :=
  Async.handle (do
    match ← admitRequest rt req with
    | none => return ()
    | some a => enqueue rt req a) onError

/-! ### The checks -/

/-- The INFERENCE_STARTED events recorded. -/
def startedEvents (db : Db) : List AuditEvent :=
  db.audit_events.filter fun e => e.event_type == units "INFERENCE_STARTED"

/-- What the checks leave alone. -/
def jobsAndStarts : Frame backend := .of fun db : Db => (db.inference_requests, startedEvents db)

/-- One rejection and nothing else. -/
def Rejected (out : List Event) : Prop := ∃ status code error quota, out = [.respond status (.rejected code error quota)]

/-- What an admission takes from its request. -/
structure Admitted (req : Request) (a : Admission) : Prop where
  model : req.body.get (units "model") = some (.str a.model.id)
  input : req.body.get (units "input") = some a.input
  projectId : a.projectId = req.body.get (units "projectId")
  idempotencyKey : a.idempotencyKey = req.body.get (units "idempotencyKey")
  inputBytes : ∃ t, a.input.text = some t ∧ a.inputBytes = byteLength t

section Checks
variable {rt : Runtime} {F : Frame backend} {n : Nat}

/-- Waiting for a call before anything is emitted. -/
def quiet (out : List Event) : Prop := out = []

theorem quiet_nil : quiet [] := rfl

theorem confined_respond {W : List Event → Prop} {R : Async.Outcome backend Unit} (status : Nat) (body : Body)
    (h : R (.ok ()) [.respond status body]) : (respond status body).Confined F W R n n [] :=
  (Async.confined_emit _ _).mpr h

theorem keeps_selectProject (projectId : Json) : (selectProject rt projectId).Keeps F :=
  .of_run fun c s r w hw t => by
    simp only [selectProject] at hw
    split at hw
    · cases hw; exact F.kept_refl t
    · split at hw <;> cases hw; exact F.kept_refl t

theorem keeps_insertAuditEvent (rt : Runtime) (event : AuditInput) (h : event.eventType ≠ units "INFERENCE_STARTED") :
    (insertAuditEvent rt event).Keeps jobsAndStarts :=
  .of_run fun c s r w hw t => by
    obtain ⟨row, hrow, rfl⟩ := insertAuditEvent_ok hw
    have : (row.event_type == units "INFERENCE_STARTED") = false := by
      rw [(auditRow_ok hrow).1]; exact beq_false_of_ne h
    change (_, startedEvents _) = (_, startedEvents _)
    simp [startedEvents, this]

theorem notAllowed_ne (model : Json) (before after : String) (entry : ModelEntry) :
    notAllowed model before after ≠ .ok (.ok entry) := by
  unfold notAllowed
  cases model.text <;> exact fun h => by cases h

/-- A model that is resolved is the entry found under its id, and enabled. -/
theorem resolveModel_found {model : Json} {entry : ModelEntry} (h : resolveModel rt model = .ok (.ok entry)) :
    (allModels rt).find? (·.named model) = some entry ∧ entry.enabled = true := by
  simp only [resolveModel] at h
  split at h
  · exact absurd h (notAllowed_ne _ _ _ _)
  · rename_i m hm
    split at h
    · exact absurd h (notAllowed_ne _ _ _ _)
    · rename_i henabled
      have hfound : (allModels rt).find? (·.named model) = some m ∧ m.enabled = true := ⟨hm, by simpa using henabled⟩
      repeat' split at h
      all_goals first
        | exact absurd h (notAllowed_ne _ _ _ _)
        | (cases h; done)
        | (cases h; exact hfound)

/-- A model on the allowlist has the id that was asked for. -/
theorem resolveModel_ok {model : Json} {entry : ModelEntry} (h : resolveModel rt model = .ok (.ok entry)) :
    model = .str entry.id := by
  have hnamed := List.find?_some (resolveModel_found h).1
  cases model with
  | str s => exact congrArg Json.str (beq_iff_eq.mp hnamed).symm
  | _ => cases hnamed

theorem checkRequest_confined (req : Request) :
    (checkRequest rt req).Confined F quiet (fun r out => match r with
      | .error _ => out = []
      | .ok none => Rejected out
      | .ok (some o) => out = [] ∧ req.body.get (units "model") = some o.1 ∧ req.body.get (units "input") = some o.2)
      n n [] := by
  have hreject (status : Nat) (code error : Text) :
      (do respond status (.rejected code error none); return none : Async backend (Option (Json × Json))).Confined
        F quiet (fun r out => match r with
          | .error _ => out = []
          | .ok none => Rejected out
          | .ok (some o) =>
            out = [] ∧ req.body.get (units "model") = some o.1 ∧ req.body.get (units "input") = some o.2) n n [] :=
    Async.confined_bind (confined_respond _ _ ⟨rfl, _, _, _, _, rfl⟩)
  unfold checkRequest
  refine Async.confined_bind ((Async.confined_ofExcept _ _).mpr ?_)
  cases authorize req.auth (units "inference:execute") with
  | error e => rfl
  | ok _ =>
  refine Async.confined_bind ((Async.confined_ofExcept _ _).mpr ?_)
  cases rejectClientRoleOverride req.body with
  | error e => rfl
  | ok _ =>
  refine Async.confined_bind ((Async.confined_ofExcept _ _).mpr ?_)
  cases validateNoMainnetInjection rt req.body with
  | error e => rfl
  | ok mainnetCheck =>
  cases mainnetCheck with
  | some reason => exact hreject _ _ _
  | none =>
  have hrest : (match (req.body.get (units "model")).filter Json.truthy, req.body.get (units "input") with
      | some model, some input =>
        match validatePromptInput (promptText input) none with
        | some (code, message) => do
          respond 400 (.rejected code message none)
          return none
        | none => return some (model, input)
      | _, _ => do
        respond 400 (.rejected (units "INVALID_INPUT") (units "model and input required") none)
        return none : Async backend (Option (Json × Json))).Confined F quiet (fun r out => match r with
      | .error _ => out = []
      | .ok none => Rejected out
      | .ok (some o) => out = [] ∧ req.body.get (units "model") = some o.1 ∧ req.body.get (units "input") = some o.2)
      n n [] := by
    split
    · rename_i model input hmodel hinput
      split
      · exact hreject _ _ _
      · exact ⟨rfl, rfl, (Option.filter_eq_some_iff.mp hmodel).1, hinput⟩
    · exact hreject _ _ _
  dsimp only [Async.nextConfined]
  split
  · refine Async.confined_bind ((Async.confined_ofExcept _ _).mpr ?_)
    cases assertOrgMatch req.auth _ with
    | error e => rfl
    | ok _ => exact hrest
  · exact hrest

theorem checkProject_confined (req : Request) (projectId : Option Json) :
    (checkProject rt req projectId).Confined F quiet (fun r out => match r with
      | .error _ => out = []
      | .ok false => Rejected out
      | .ok true => out = []) n n [] := by
  unfold checkProject
  split
  · exact ⟨rfl, rfl⟩
  · refine Async.confined_bind (confined_withTenantTransaction quiet_nil (fun _ => rfl) ?_)
    refine Async.confined_query quiet_nil (Nat.succ_pos n) (keeps_selectProject _) (fun r => ⟨quiet_nil, ?_, fun _ => rfl⟩) _
    cases r with
    | error e => rfl
    | ok project =>
      dsimp only [Async.nextConfined]
      split
      · exact Async.confined_bind (confined_respond _ _ ⟨rfl, _, _, _, _, rfl⟩)
      · refine Async.confined_bind ((Async.confined_ofExcept _ _).mpr ?_)
        cases assertProjectInOrg req.auth _ with
        | error e => rfl
        | ok _ => exact ⟨rfl, rfl⟩

theorem checkOrganizationQuota_confined (organizationId : Uuid) {R : Async.Outcome backend Quota}
    (hr : ∀ r, R r []) : (checkOrganizationQuota rt organizationId).Confined F quiet R n n [] := by
  refine confined_withTenantTransaction quiet_nil (fun _ => hr _) (Async.confined_bind ?_)
  refine Async.confined_query quiet_nil (Nat.succ_pos n) (Stmt.keeps_select _ _) (fun r => ?_) _
  cases r with
  | error e => exact ⟨quiet_nil, hr _, fun _ => hr _⟩
  | ok org =>
    refine Async.confined_bind (Async.confined_query quiet_nil (Nat.succ_pos n) (Stmt.keeps_select _ _) (fun r => ?_) _)
    cases r with
    | error e => exact ⟨quiet_nil, hr _, fun _ => hr _⟩
    | ok used => exact ⟨rfl, quiet_nil, hr _, fun _ => hr _⟩

theorem checkQuota_confined
    (haudit : ∀ event, event.eventType ≠ units "INFERENCE_STARTED" → (insertAuditEvent rt event).Keeps F) (req : Request) :
    (checkQuota rt req).Confined F quiet (fun r out => match r with
      | .error _ => out = []
      | .ok false => Rejected out
      | .ok true => out = []) n n [] := by
  refine Async.confined_bind (checkOrganizationQuota_confined _ fun r => ?_)
  cases r with
  | error e => rfl
  | ok quota =>
    dsimp only [Async.nextConfined]
    split
    · have hevent : units "QUOTA_EXCEEDED" ≠ units "INFERENCE_STARTED" := by decide
      refine Async.confined_bind (Async.confined_pool quiet_nil (haudit _ hevent) (fun r => ?_) _)
      cases r with
      | error e => rfl
      | ok _ => exact Async.confined_bind (confined_respond _ _ ⟨rfl, _, _, _, _, rfl⟩)
    · exact ⟨rfl, rfl⟩

theorem checkModel_confined (model : Json) :
    (checkModel rt model).Confined F quiet (fun r out => match r with
      | .error _ => out = []
      | .ok none => Rejected out
      | .ok (some entry) => out = [] ∧ model = .str entry.id) n n [] := by
  refine Async.confined_bind ((Async.confined_ofExcept _ _).mpr ?_)
  cases hr : resolveModel rt model with
  | error e => rfl
  | ok check =>
    cases check with
    | error o => exact Async.confined_bind (confined_respond _ _ ⟨rfl, _, _, _, _, rfl⟩)
    | ok entry =>
      dsimp only [Async.nextConfined]
      split
      · exact Async.confined_bind (confined_respond _ _ ⟨rfl, _, _, _, _, rfl⟩)
      · exact ⟨rfl, rfl, resolveModel_ok hr⟩

/-- The checks either reject the request, once, or hand over what it asked for with
nothing emitted; they only record audit events that are no starts. -/
theorem admitRequest_confined
    (haudit : ∀ event, event.eventType ≠ units "INFERENCE_STARTED" → (insertAuditEvent rt event).Keeps F) (req : Request) :
    (admitRequest rt req).Confined F quiet (fun r out => match r with
      | .error _ => out = []
      | .ok none => Rejected out
      | .ok (some a) => out = [] ∧ Admitted req a) n n [] := by
  refine Async.confined_bind (Async.confined_mono (checkRequest_confined req) fun r out h => ?_)
  match r with
  | .error e => exact h
  | .ok none => exact ⟨rfl, h⟩
  | .ok (some (model, input)) =>
  obtain ⟨rfl, hmodel, hinput⟩ := h
  refine Async.confined_bind (Async.confined_mono (checkProject_confined req _) fun r out h => ?_)
  match r with
  | .error e => exact h
  | .ok false => exact ⟨rfl, h⟩
  | .ok true =>
  obtain rfl : out = [] := h
  refine Async.confined_bind (Async.confined_mono (checkQuota_confined haudit req) fun r out h => ?_)
  match r with
  | .error e => exact h
  | .ok false => exact ⟨rfl, h⟩
  | .ok true =>
  obtain rfl : out = [] := h
  refine Async.confined_bind (Async.confined_mono (checkModel_confined model) fun r out h => ?_)
  match r with
  | .error e => exact h
  | .ok none => exact ⟨rfl, h⟩
  | .ok (some entry) =>
  obtain ⟨rfl, rfl⟩ := h
  dsimp only [Async.nextConfined]
  split
  · exact ⟨rfl, rfl⟩
  · rename_i t ht
    exact ⟨rfl, rfl, hmodel, hinput, rfl, rfl, t, ht, rfl⟩

end Checks

/-! ### The route among other handlers -/

theorem onError_respond (e : ServiceError) :
    ∃ status code error, onError e = respond status (.rejected code error none) := by
  cases e <;> exact ⟨_, _, _, rfl⟩

/-- The error responder of a request that has not been answered. -/
theorem safe_onError {policy : Policy backend} {P : Protocol backend} {Q : Post backend Unit} (e : ServiceError)
    {s : Db} {sessions : List (Session backend)}
    (h : ∀ out, Rejected out → Q (.ok ()) s ⟨sessions, out⟩) : (onError e).safe policy P Q s ⟨sessions, []⟩ := by
  obtain ⟨status, code, error, he⟩ := onError_respond e
  rw [he, respond, Async.safe_emit]
  exact h _ ⟨status, code, error, none, rfl⟩

/-- After a response the error responder throws. -/
theorem safe_onError_answered {policy : Policy backend} {P : Protocol backend} {Q : Post backend Unit} (e : ServiceError)
    {s : Db} {l : Local backend} (hout : l.out.any Event.isResponse = true) (h : Q (.error .headersSent) s l) :
    (onError e).safe policy P Q s l := by
  obtain ⟨status, code, error, he⟩ := onError_respond e
  have hrefuse : refuse l.out (.respond status (.rejected code error none)) = some .headersSent := by
    simp [refuse, Event.isResponse, hout]
  rw [he, respond, Async.safe_emit]
  simp only [hrefuse]
  exact h

/-- An admitted request is safe when its acknowledgement and its new job are. -/
theorem safe_enqueue {rt : Runtime} {policy : Policy backend} {P : Protocol backend} {I : Db → Local backend → Prop}
    (hI : Carried P I) (hrefl : ∀ l s, P.guar l s s) {req : Request} {Q : Post backend Unit}
    (hrejected : ∀ s out, I s .empty → Rejected out → Q (.ok ()) s ⟨[], out⟩)
    {a : Admission}
    (hfound : ∀ s reply key row rest job, I s .empty → (jobInput req a).key rt = some key →
      policy (.lookup req.auth.organizationId key ((jobInput req a).hash rt)) s (.done reply) true →
      rowsFor rt (jobInput req a) key s = row :: rest → acknowledge ((jobInput req a).hash rt) row = .ok job →
      ∀ l' t, I t .empty → P.rely l' s t → Q (.ok ()) t ⟨[], [.respond 200 (.idempotent job.requestId job.status)]⟩)
    (hnew : ∀ s w, I s .empty →
      (insertJob rt req.requestId (jobInput req a)).run (setOrganization req.auth.organizationId {}) s = .ok ((), w) →
      ∀ l' t, I t .empty → (∀ k ∈ (insertJob rt req.requestId (jobInput req a)).locks {} s, k ∈ l'.locks) →
      P.rely l' s t → P.guar l' t (w t) ∧
        ((startJob rt req a ⟨req.requestId, .QUEUED, false⟩).handle onError).safe policy P Q (w t) .empty)
    {s : Db} (hs : I s .empty) :
    (enqueue rt req a).safe policy P (Async.caughtSafe policy P onError Q) s .empty := by
  have herror (e : ServiceError) (t : Db) (ht : I t .empty) : (onError e).safe policy P Q t .empty :=
    safe_onError e fun out hout => hrejected t out ht hout
  rw [enqueue, Async.safe_bind]
  -- nothing is emitted before the job is there, so a failure is answered by the error responder
  refine safe_createInferenceJob hI hrefl (fun e u hu => herror e u hu) (fun u reply key row rest job hu hkey hp hrows
    hack l' v hv hr => ?_) (fun u w hu hrun l' v hv hlocks hr => ?_) hs
  · have := hfound u reply key row rest job hu hkey hp hrows hack l' v hv hr
    rw [acknowledge_ok hack] at this ⊢
    change (respond 200 _).safe policy P _ v _
    rw [respond, Async.safe_emit]
    exact this
  · obtain ⟨hg, hq⟩ := hnew u w hu hrun l' v hv hlocks hr
    rw [Async.safe_handle] at hq
    exact ⟨hg, hq⟩

/-- What the checks leave a handler with: its assertion, and one rejection or an admission. -/
def Checked (I : Db → Local backend → Prop) (req : Request) : Post backend (Option Admission) := fun r s l =>
  I s .empty ∧ l.sessions = [] ∧ match r with
    | .error _ => l.out = []
    | .ok none => Rejected l.out
    | .ok (some a) => l.out = [] ∧ Admitted req a

/-- The route after its checks. -/
theorem safe_checked {rt : Runtime} {policy : Policy backend} {P : Protocol backend} {I : Db → Local backend → Prop}
    {req : Request} {Q : Post backend Unit} (hrejected : ∀ s out, I s .empty → Rejected out → Q (.ok ()) s ⟨[], out⟩)
    (henqueue : ∀ a s, Admitted req a → I s .empty →
      (enqueue rt req a).safe policy P (Async.caughtSafe policy P onError Q) s .empty)
    {s : Db} (hchecks : (admitRequest rt req).safe policy P (Checked I req) s .empty) :
    (postInference rt req).safe policy P Q s .empty := by
  rw [postInference, Async.safe_handle, Async.safe_bind]
  refine Async.safe_mono hchecks fun r t l ⟨ht, hl, hr⟩ => ?_
  obtain ⟨sessions, out⟩ := l
  obtain rfl : sessions = [] := hl
  match r with
  | .error e =>
    obtain rfl : out = [] := hr
    exact safe_onError e fun out hout => hrejected t out ht hout
  | .ok none => exact hrejected t out ht hr
  | .ok (some a) =>
    obtain ⟨rfl, ha⟩ := hr
    exact henqueue a t ha ht

/-- The route is safe when its rejections, its acknowledgements and its new jobs are. -/
theorem safe_postInference {rt : Runtime} {policy : Policy backend} {P : Protocol backend} {I : Db → Local backend → Prop}
    (hI : Carried P I) (hrefl : ∀ l s, P.guar l s s) (hframe : ∀ l s t, jobsAndStarts.kept s t → P.guar l s t)
    (hkept : ∀ s t l l', I s l → jobsAndStarts.kept s t → quiet l'.out → I t l') {req : Request} {Q : Post backend Unit}
    (hrejected : ∀ s out, I s .empty → Rejected out → Q (.ok ()) s ⟨[], out⟩)
    (hfound : ∀ a s reply key row rest job, Admitted req a → I s .empty → (jobInput req a).key rt = some key →
      policy (.lookup req.auth.organizationId key ((jobInput req a).hash rt)) s (.done reply) true →
      rowsFor rt (jobInput req a) key s = row :: rest → acknowledge ((jobInput req a).hash rt) row = .ok job →
      ∀ l' t, I t .empty → P.rely l' s t → Q (.ok ()) t ⟨[], [.respond 200 (.idempotent job.requestId job.status)]⟩)
    (hnew : ∀ a s w, Admitted req a → I s .empty →
      (insertJob rt req.requestId (jobInput req a)).run (setOrganization req.auth.organizationId {}) s = .ok ((), w) →
      ∀ l' t, I t .empty → (∀ k ∈ (insertJob rt req.requestId (jobInput req a)).locks {} s, k ∈ l'.locks) →
      P.rely l' s t → P.guar l' t (w t) ∧
        ((startJob rt req a ⟨req.requestId, .QUEUED, false⟩).handle onError).safe policy P Q (w t) .empty)
    {s : Db} (hs : I s .empty) : (postInference rt req).safe policy P Q s .empty := by
  refine safe_checked hrejected (fun a t ha ht => safe_enqueue hI hrefl hrejected (fun u reply key row rest job =>
    hfound a u reply key row rest job ha) (fun u w => hnew a u w ha) ht) ?_
  refine Async.safe_mono ((admitRequest_confined (keeps_insertAuditEvent rt) req).safe hI hframe hkept
    (Local.owns_zero.mpr rfl) fun l' hq => hI.sessions s .empty l' hs hq) fun r t l ⟨ht, hl, hr⟩ => ?_
  exact ⟨ht .empty rfl, Local.owns_zero.mp hl, hr⟩

end GalaxiaAin.Tenant
