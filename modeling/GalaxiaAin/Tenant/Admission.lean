import GalaxiaAin.Tenant.Idempotency
import GalaxiaAin.Tenant.QuotaCap

/-! The gate in front of a new job: what POST /v1/tenant/inference has checked when a row of
inference_requests is there. -/
namespace GalaxiaAin.Tenant
open GalaxiaAin.Library

variable {rt : Runtime} {may : Site → Prop}

/-- The caller may execute inference, and the body sets no identity. -/
structure Permitted (req : Request) : Prop where
  scope : units "inference:execute" ∈ ROLE_PERMISSIONS req.auth.role ∨ units "inference:execute" ∈ req.auth.scopes
  role : req.body.get (units "role") = none
  organizationId : req.body.get (units "organizationId") = none
  orgId : req.body.get (units "orgId") = none

/-- The model and the input of a request; the prompt is short enough. -/
structure Asked (req : Request) (asked : Json × Json) : Prop where
  model : req.body.get (units "model") = some asked.1
  input : req.body.get (units "input") = some asked.2
  short : (promptText asked.2).length ≤ 128000

/-- A project id in the body names a project of the caller's organisation. -/
def OwnProject (rt : Runtime) (db : Db) (req : Request) (projectId : Option Json) : Prop :=
  ∀ id, projectId = some id → id.truthy = true →
    ∃ project ∈ db.projects, rt.uuid (rt.parameter id) = some project.id ∧
      project.organization_id = req.auth.organizationId

/-- The count of the day is below the limit. -/
def WithinQuota (rt : Runtime) (db : Db) (organizationId : Uuid) : Prop :=
  (usedToday rt organizationId db : Int) < dailyLimit rt organizationId db

/-- A model of the allowlist whose provider is configured. -/
structure Available (rt : Runtime) (model : Json) (entry : ModelEntry) : Prop where
  listed : entry ∈ allModels rt
  enabled : entry.enabled = true
  named : model = .str entry.id
  configured : (getProviderAdapter rt entry.provider).statusNotConfigured rt = false

/-! ### Each check -/

theorem authorize_ok {ctx : AuthContext} {scope : Text} (h : authorize ctx scope = .ok ()) :
    scope ∈ ROLE_PERMISSIONS ctx.role ∨ scope ∈ ctx.scopes := by
  unfold authorize at h
  split at h
  · rename_i hscope
    simpa using hscope
  · cases h

theorem rejectClientRoleOverride_ok {body : Json} (h : rejectClientRoleOverride body = .ok ()) :
    body.get (units "role") = none ∧ body.get (units "organizationId") = none ∧ body.get (units "orgId") = none := by
  unfold rejectClientRoleOverride at h
  split at h
  · cases h
  · rename_i hset
    simpa [and_assoc] using hset

theorem validatePromptInput_none {input : Text} (h : validatePromptInput input none = none) : input.length ≤ 128000 := by
  unfold validatePromptInput at h
  split at h
  · cases h
  · exact not_lt.mp ‹_›

/-- A response and a result: the responder may throw instead. -/
theorem post_respond_return {α : Type} {status : Nat} {body : Body} {a : α} {R : Except ServiceError α → Db → Prop}
    {s : Db} {l : Local backend} (hreturn : R (.ok a) s) (herror : ∀ e, R (.error e) s) :
    (do respond status body; return a : Async backend α).post may (fun r t _ => R r t) s l := by
  rw [respond, Async.post_bind, Async.post_emit]
  split
  · exact hreturn
  · exact herror _

/-- The checks of the body let nothing pass without its scope, its model and its input. -/
theorem checkRequest_gate (req : Request) (s : Db) (l : Local backend) :
    (checkRequest rt req).post may (fun r t _ => t = s ∧ ∀ o, r = .ok (some o) → Permitted req ∧ Asked req o) s l := by
  have hthrow (e : ServiceError) : s = s ∧ ∀ o, (.error e : Except ServiceError (Option (Json × Json))) = .ok (some o) →
      Permitted req ∧ Asked req o := ⟨rfl, fun o ho => by cases ho⟩
  have hrefuse (status : Nat) (code error : Text) (l : Local backend) :
      (do respond status (.rejected code error none); return none : Async backend (Option (Json × Json))).post may
        (fun r t _ => t = s ∧ ∀ o, r = .ok (some o) → Permitted req ∧ Asked req o) s l :=
    post_respond_return (R := fun r t => t = s ∧ ∀ o, r = .ok (some o) → Permitted req ∧ Asked req o)
      ⟨rfl, fun o ho => by cases ho⟩ hthrow
  rw [checkRequest, Async.post_bind, Async.post_ofExcept]
  cases hscope : authorize req.auth (units "inference:execute") with
  | error e => exact hthrow e
  | ok _ =>
  rw [Async.next_ok, Async.post_bind, Async.post_ofExcept]
  cases hrole : rejectClientRoleOverride req.body with
  | error e => exact hthrow e
  | ok _ =>
  obtain ⟨hr, ho, hi⟩ := rejectClientRoleOverride_ok hrole
  have hpermitted : Permitted req := ⟨authorize_ok hscope, hr, ho, hi⟩
  rw [Async.next_ok, Async.post_bind, Async.post_ofExcept]
  cases validateNoMainnetInjection rt req.body with
  | error e => exact hthrow e
  | ok mainnetCheck =>
  cases mainnetCheck with
  | some reason => exact hrefuse _ _ _ l
  | none =>
  rw [Async.next_ok]
  dsimp only
  split
  any_goals
    rw [Async.post_bind, Async.post_ofExcept]
    cases assertOrgMatch req.auth _
    case error e => exact hthrow e
  -- with or without an organisation to compare, the rest is the same
  all_goals
    split
    · rename_i model input hmodel hinput
      split
      · exact hrefuse _ _ _ l
      · rename_i hshort
        refine ⟨rfl, fun o ho => ?_⟩
        cases ho
        exact ⟨hpermitted, (Option.filter_eq_some_iff.mp hmodel).1, hinput, validatePromptInput_none hshort⟩
    · exact hrefuse _ _ _ l

/-- A transaction of one SELECT. -/
theorem post_read {α : Type} {σ : Site} {organizationId : Uuid} {q : Stmt backend α} {Q : Post backend α} {s : Db}
    {l : Local backend} (hread : ∀ c t r w, q.run c t = .ok (r, w) → w = id)
    (hreply : Q (q.reply (setOrganization organizationId {}) s) s l) (hfault : ∀ f, Q (.error (.other f)) s l) :
    (withTenantTransaction organizationId (Async.query σ q)).post may Q s l := by
  refine post_withTenantTransaction ?_ fun _ f => hfault f
  rw [Async.post_query_active]
  refine ⟨?_, fun _ f => ⟨hfault f, fun _ g => hfault g⟩⟩
  cases hrun : q.run (setOrganization organizationId {}) s with
  | error e =>
    rw [Stmt.reply_error hrun] at hreply
    rw [id, Stmt.reply_error hrun]
    exact ⟨hreply, fun _ f => hfault f⟩
  | ok o =>
    obtain ⟨r, w⟩ := o
    obtain rfl := hread _ _ _ _ hrun
    rw [Stmt.reply_ok hrun] at hreply
    rw [id, Stmt.reply_ok hrun, Stmt.effect_ok hrun]
    exact ⟨hreply, fun _ f => hfault f⟩

theorem assertProjectInOrg_ok {ctx : AuthContext} {organizationId : Uuid}
    (h : assertProjectInOrg ctx organizationId = .ok ()) : organizationId = ctx.organizationId := by
  unfold assertProjectInOrg at h
  split at h
  · assumption
  · cases h

/-- The project found under a truthy id is a row with that id. -/
theorem selectProject_ok {projectId : Json} (ht : projectId.truthy = true) {c : Settings} {s : Db}
    {found : Option Project} {w : Db → Db} (h : (selectProject rt projectId).run c s = .ok (found, w)) :
    w = id ∧ ∀ project, found = some project →
      project ∈ s.projects ∧ rt.uuid (rt.parameter projectId) = some project.id := by
  simp only [selectProject] at h
  split at h
  · cases ht
  · split at h
    · cases h
    · rename_i pid hpid
      cases h
      refine ⟨rfl, fun project hfound => ?_⟩
      have hmem := List.mem_filter.mp (List.mem_of_mem_head? hfound)
      have hid : project.id = pid := by
        have := hmem.2
        rw [Bool.and_eq_true, beq_iff_eq] at this
        exact this.2
      exact ⟨hmem.1, hid ▸ hpid⟩

/-- The project lookup finds a project of the caller's, or lets nothing pass. -/
theorem checkProject_gate (req : Request) (projectId : Option Json) (s : Db) (l : Local backend) :
    (checkProject rt req projectId).post may (fun r t _ => t = s ∧ (r = .ok true → OwnProject rt s req projectId)) s l := by
  unfold checkProject
  split
  · rename_i hnone
    refine ⟨rfl, fun _ id hid ht => ?_⟩
    rw [hid, Option.filter_some_pos ht] at hnone
    cases hnone
  · rename_i asked hid
    obtain ⟨hid, ht⟩ := Option.filter_eq_some_iff.mp hid
    have herror (e : ServiceError) : s = s ∧ ((.error e : Except ServiceError Bool) = .ok true →
        OwnProject rt s req projectId) := ⟨rfl, fun h => by cases h⟩
    rw [Async.post_bind]
    refine post_read (fun _ _ _ _ h => (selectProject_ok ht h).1) ?_ fun f => herror _
    cases hrun : (selectProject rt asked).run (setOrganization req.auth.organizationId {}) s with
    | error e => rw [Stmt.reply_error hrun]; exact herror e
    | ok found =>
      obtain ⟨project, w⟩ := found
      rw [Stmt.reply_ok hrun, Async.next_ok]
      cases project with
      | none =>
        exact post_respond_return (R := fun r t => t = s ∧ (r = .ok true → OwnProject rt s req projectId))
          ⟨rfl, fun h => by cases h⟩ herror
      | some project =>
        obtain ⟨hmem, huuid⟩ := (selectProject_ok ht hrun).2 project rfl
        dsimp only
        rw [Async.post_bind, Async.post_ofExcept]
        cases hown : assertProjectInOrg req.auth project.organization_id with
        | error e => exact herror e
        | ok _ =>
          refine ⟨rfl, fun _ asked' hasked' _ => ?_⟩
          obtain rfl : asked = asked' := Option.some.inj (hid.symm.trans hasked')
          exact ⟨project, hmem, huuid, assertProjectInOrg_ok hown⟩

/-- The quota check reads the limit and the count, and writes nothing. -/
theorem post_checkOrganizationQuota {organizationId : Uuid} {Q : Post backend Quota} {s : Db} {l : Local backend}
    (hread : ∀ tier, Q (.ok (quotaOf rt (dailyLimit rt organizationId s) tier (usedToday rt organizationId s))) s l)
    (hfault : ∀ f, Q (.error (.other f)) s l) : (checkOrganizationQuota rt organizationId).post may Q s l := by
  refine post_withTenantTransaction ?_ fun _ f => hfault f
  rw [readQuota, Async.post_bind, Async.post_query_active]
  refine ⟨?_, fun _ f => ⟨hfault f, fun _ g => hfault g⟩⟩
  change (Async.query (.count organizationId) (countUsage rt organizationId) >>= _ : Async backend Quota).post may _ s _
  rw [Async.post_bind, Async.post_query_active]
  refine ⟨?_, fun _ f => ⟨hfault f, fun _ g => hfault g⟩⟩
  exact ⟨hread _, fun _ f => hfault f⟩

/-- An audit event is no job. -/
theorem post_appendAuditEvent (event : AuditInput) (s : Db) (l : Local backend) :
    (appendAuditEvent rt event).post may (fun _ t _ => t.inference_requests = s.inference_requests) s l := by
  rw [appendAuditEvent, Async.post_pool]
  refine ⟨?_, fun _ _ => rfl⟩
  cases hrun : (insertAuditEvent rt event).run backend.initial s with
  | error e => rw [Stmt.effect_error hrun]; rfl
  | ok o =>
    obtain ⟨row, -, hw⟩ := insertAuditEvent_ok (r := o.1) (w := o.2) hrun
    rw [Stmt.effect_ok (r := o.1) (w := o.2) hrun, hw]

/-- The quota check lets a request pass below the limit, and creates no job. -/
theorem checkQuota_gate (req : Request) (s : Db) (l : Local backend) :
    (checkQuota rt req).post may (fun r t _ => t.inference_requests = s.inference_requests ∧
      (r = .ok true → WithinQuota rt s req.auth.organizationId)) s l := by
  have herror (e : ServiceError) {t : Db} (ht : t.inference_requests = s.inference_requests) :
      t.inference_requests = s.inference_requests ∧ ((.error e : Except ServiceError Bool) = .ok true →
        WithinQuota rt s req.auth.organizationId) := ⟨ht, fun h => by cases h⟩
  rw [checkQuota, Async.post_bind]
  refine post_checkOrganizationQuota (fun tier => ?_) fun f => herror _ rfl
  rw [Async.next_ok]
  dsimp only
  split
  · rw [Async.post_bind]
    refine Async.post_mono (post_appendAuditEvent _ s l) fun r t k ht => ?_
    cases r with
    | error e => exact herror e ht
    | ok _ => exact post_respond_return (R := fun r t => t.inference_requests = s.inference_requests ∧
        (r = .ok true → WithinQuota rt s req.auth.organizationId)) ⟨ht, fun h => by cases h⟩ fun e => herror e ht
  · rename_i hstate
    exact ⟨rfl, fun _ => not_le.mp fun h => hstate (quotaOf_exceeded.mpr h)⟩

theorem checkModel_gate (model : Json) (s : Db) (l : Local backend) :
    (checkModel rt model).post may (fun r t _ => t = s ∧ ∀ entry, r = .ok (some entry) → Available rt model entry) s l := by
  have herror (e : ServiceError) : s = s ∧ ∀ entry, (.error e : Except ServiceError (Option ModelEntry)) = .ok (some entry) →
      Available rt model entry := ⟨rfl, fun _ h => by cases h⟩
  have hrefuse (status : Nat) (body : Body) : (do respond status body; return none : Async backend (Option ModelEntry)).post
      may (fun r t _ => t = s ∧ ∀ entry, r = .ok (some entry) → Available rt model entry) s l :=
    post_respond_return (R := fun r t => t = s ∧ ∀ entry, r = .ok (some entry) → Available rt model entry)
      ⟨rfl, fun _ h => by cases h⟩ herror
  rw [checkModel, Async.post_bind, Async.post_ofExcept]
  cases hresolved : resolveModel rt model with
  | error e => exact herror e
  | ok check =>
    rw [Async.next_ok]
    cases check with
    | error refused => exact hrefuse _ _
    | ok entry =>
      dsimp only
      split
      · exact hrefuse _ _
      · rename_i hconfigured
        refine ⟨rfl, fun entry' hentry => ?_⟩
        cases hentry
        obtain ⟨hfound, henabled⟩ := resolveModel_found hresolved
        exact ⟨List.mem_of_find?_eq_some hfound, henabled, resolveModel_ok hresolved, by simpa using hconfigured⟩

/-! ### The route -/

/-- What has been checked of an admitted request. -/
structure Gated (rt : Runtime) (db : Db) (req : Request) (a : Admission) : Prop where
  permitted : Permitted req
  input : req.body.get (units "input") = some a.input
  short : (promptText a.input).length ≤ 128000
  ownProject : OwnProject rt db req a.projectId
  projectId : a.projectId = req.body.get (units "projectId")
  withinQuota : WithinQuota rt db req.auth.organizationId
  available : ∃ model, req.body.get (units "model") = some model ∧ Available rt model a.model

/-- The checks create no job, and admit only what passes them all. -/
theorem admitRequest_gate (req : Request) (s : Db) (l : Local backend) :
    (admitRequest rt req).post may (fun r t _ => t.inference_requests = s.inference_requests ∧
      ∀ a, r = .ok (some a) → Gated rt s req a) s l := by
  have herror (e : ServiceError) {t : Db} (ht : t.inference_requests = s.inference_requests) :
      t.inference_requests = s.inference_requests ∧ ∀ a, (.error e : Except ServiceError (Option Admission)) = .ok (some a) →
        Gated rt s req a := ⟨ht, fun _ h => by cases h⟩
  have hanswered {t : Db} (ht : t.inference_requests = s.inference_requests) :
      t.inference_requests = s.inference_requests ∧ ∀ a, (.ok none : Except ServiceError (Option Admission)) = .ok (some a) →
        Gated rt s req a := ⟨ht, fun _ h => by cases h⟩
  rw [admitRequest, Async.post_bind]
  refine Async.post_mono (checkRequest_gate req s l) fun r t k h => ?_
  obtain ⟨ht, hrequest⟩ := h
  subst ht
  rcases r with e | _ | ⟨model, input⟩
  · exact herror e rfl
  · exact hanswered rfl
  obtain ⟨hpermitted, hasked⟩ := hrequest _ rfl
  rw [Async.next_ok]
  dsimp only
  rw [Async.post_bind]
  refine Async.post_mono (checkProject_gate req _ t k) fun r u k h => ?_
  obtain ⟨hu, hproject⟩ := h
  subst hu
  rcases r with e | _ | _
  · exact herror e rfl
  · exact hanswered rfl
  have hown := hproject rfl
  rw [Async.next_ok, if_pos rfl, Async.post_bind]
  refine Async.post_mono (checkQuota_gate req u k) fun r v k h => ?_
  obtain ⟨hv, hquota⟩ := h
  rcases r with e | _ | _
  · exact herror e hv
  · exact hanswered hv
  have hwithin := hquota rfl
  rw [Async.next_ok, if_pos rfl, Async.post_bind]
  refine Async.post_mono (checkModel_gate model v k) fun r w k h => ?_
  obtain ⟨hw, hmodel⟩ := h
  subst hw
  rcases r with e | _ | entry
  · exact herror e hv
  · exact hanswered hv
  rw [Async.next_ok]
  dsimp only
  split
  · exact herror _ hv
  · refine ⟨hv, fun a ha => ?_⟩
    cases ha
    exact ⟨hpermitted, hasked.input, hasked.short, hown, rfl, hwithin, model, hasked.model, hmodel entry rfl⟩

/-- The row of a request that passed the gate: in the caller's organisation and under the
project it names, for the provider and model that were checked. -/
structure JobGate (rt : Runtime) (db : Db) (req : Request) (row : InferenceRequest) : Prop where
  permitted : Permitted req
  short : ∃ input, req.body.get (units "input") = some input ∧ (promptText input).length ≤ 128000
  ownProject : OwnProject rt db req (req.body.get (units "projectId"))
  project_id : ∀ id, row.project_id = some id → ∃ asked, req.body.get (units "projectId") = some asked ∧
    asked.truthy = true ∧ rt.uuid (rt.parameter asked) = some id
  withinQuota : WithinQuota rt db req.auth.organizationId
  available : ∃ model entry, req.body.get (units "model") = some model ∧ Available rt model entry ∧
    row.provider_id = entry.provider ∧ row.model_id = entry.id
  organization_id : row.organization_id = req.auth.organizationId

theorem uuidParameter_some {v : Option Json} {id : Uuid} (h : uuidParameter rt v = .ok (some id)) :
    ∃ asked, v = some asked ∧ asked.truthy = true ∧ rt.uuid (rt.parameter asked) = some id := by
  cases v with
  | none => cases h
  | some asked =>
    simp only [uuidParameter] at h
    split at h
    · rename_i ht
      split at h
      · rename_i hid
        cases h
        exact ⟨asked, rfl, ht, hid⟩
      · cases h
    · cases h

/-- The row takes its provider and model from the input. -/
theorem jobRow_model {requestId : Text} {input : JobInput} {now : Nat} {row : InferenceRequest}
    (h : jobRow rt requestId input now = .ok row) : row.provider_id = input.providerId ∧ row.model_id = input.modelId := by
  simp only [jobRow] at h
  cases hp : uuidParameter rt input.projectId with
  | error e => rw [hp] at h; cases h
  | ok project =>
    cases hu : uuidParameter rt (input.userId.map .str) with
    | error e => rw [hp, hu] at h; cases h
    | ok user => rw [hp, hu] at h; cases h; exact ⟨rfl, rfl⟩

theorem Gated.row {req : Request} {a : Admission} {db : Db} {requestId : Text} {now : Nat} {row : InferenceRequest}
    (h : Gated rt db req a) (hrow : jobRow rt requestId (jobInput req a) now = .ok row) : JobGate rt db req row := by
  obtain ⟨horganization, -, -, -, -, hproject⟩ := jobRow_ok hrow
  obtain ⟨hprovider, hmodel⟩ := jobRow_model hrow
  obtain ⟨model, hasked, havailable⟩ := h.available
  refine ⟨h.permitted, ⟨a.input, h.input, h.short⟩, h.projectId ▸ h.ownProject, fun id hid => ?_, h.withinQuota,
    ⟨model, a.model, hasked, havailable, hprovider, hmodel⟩, horganization⟩
  rw [hid] at hproject
  exact h.projectId ▸ uuidParameter_some hproject

/-- No job, or one that has passed the gate. -/
def AtMostOneGated (rt : Runtime) (db : Db) (req : Request) (t : Db) : Prop :=
  t.inference_requests = db.inference_requests ∨
    ∃ row, t.inference_requests = db.inference_requests ++ [row] ∧ JobGate rt db req row

theorem AtMostOneGated.congr {db t u : Db} {req : Request} (h : AtMostOneGated rt db req t)
    (hu : u.inference_requests = t.inference_requests) : AtMostOneGated rt db req u := by
  unfold AtMostOneGated
  rwa [hu]

theorem onError_gate {req : Request} {db : Db} (e : ServiceError) {t : Db} (l : Local backend)
    (h : AtMostOneGated rt db req t) : (onError e).post may (fun _ u _ => AtMostOneGated rt db req u) t l := by
  refine Async.post_mono (post_onError e t l) fun _ u _ h => ?_
  obtain ⟨hu, _⟩ := h
  rwa [hu]

/-- Whatever fails on the way, a new row of inference_requests has passed the gate. -/
theorem job_admission_gate {req : Request} {db db' : Db} {r : Except ServiceError Unit} {l : Local backend}
    (h : (postInference rt req).Exec (fun _ => True) db .empty r db' l) : AtMostOneGated rt db req db' := by
  refine h.sound (Q := fun _ t _ => AtMostOneGated rt db req t) ?_
  rw [postInference, Async.post_handle, Async.post_bind]
  refine Async.post_mono (admitRequest_gate req db .empty) fun r s k h => ?_
  obtain ⟨hs, hgated⟩ := h
  rcases r with e | _ | a
  · exact onError_gate e k (.inl hs)
  · exact .inl hs
  have hgated := hgated a rfl
  rw [Async.next_ok]
  change Async.post _ (enqueue rt req a) _ s k
  rw [enqueue, Async.post_bind]
  refine post_createInferenceJob (fun _ _ f => onError_gate _ k (.inl hs)) (fun key row rest hkey hrows => ?_)
    (fun e _ _ => onError_gate e k (.inl hs)) (fun w hw => ?_)
  · cases hack : acknowledge ((jobInput req a).hash rt) row with
    | error e => exact onError_gate e k (.inl hs)
    | ok job =>
      rw [acknowledge_ok hack, Async.next_ok]
      change (respond 200 _).post _ _ _ _
      rw [respond, Async.post_emit]
      split
      · exact .inl hs
      · exact onError_gate _ k (.inl hs)
  · obtain ⟨row, hrow, -, -, -, rfl⟩ := insertJob_ok hw
    have hcreated : AtMostOneGated rt db req { s with inference_requests := s.inference_requests ++ [row] } :=
      .inr ⟨row, congrArg (· ++ [row]) hs, hgated.row hrow⟩
    rw [Async.next_ok]
    change (startJob rt req a _).post _ _ _ _
    refine Async.post_mono (post_startJob req a _ _ _) fun r t k ht => ?_
    cases r with
    | ok _ => exact hcreated.congr ht
    | error e => exact onError_gate e k (hcreated.congr ht)

/-- The pilot's request creates a job, which has passed the gate. -/
theorem pilot_job_gated :
    let rt := Runtime.pilot false id
    let req := pilotRequest "6f1e1d2c-0001-4000-8000-000000000001" "aa"
    let db := ((postInference rt req).run [] pilotDb .empty).2.1
    db.inference_requests ≠ pilotDb.inference_requests ∧ AtMostOneGated rt pilotDb req db := by
  intro rt req db
  refine ⟨fun h => ?_, job_admission_gate (Async.exec_nil _ (postInference rt req) pilotDb .empty)⟩
  have hcreated : db.inference_requests.length = 1 ∧ pilotDb.inference_requests.length = 0 := by decide +kernel
  rw [h] at hcreated
  omega

end GalaxiaAin.Tenant
