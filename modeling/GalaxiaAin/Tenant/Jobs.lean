import GalaxiaAin.Tenant.Services

/-! Inference jobs: creation under an idempotency key, status updates and cancellation. -/
namespace GalaxiaAin.Tenant
open GalaxiaAin.Library

variable (rt : Runtime)

/-- `{ modelId, inputBytes, projectId }`; undefined properties are left out of the text. -/
def payload (modelId : Text) (inputBytes : Option Nat) (projectId : Option Json) : Json :=
  .obj ((units "modelId", .str modelId) ::
    ((inputBytes.map fun n => (units "inputBytes", Json.num (.ofNat n))).toList ++
      (projectId.map fun p => (units "projectId", p)).toList))

def payloadHash (modelId : Text) (inputBytes : Option Nat) (projectId : Option Json) : Text :=
  rt.sha256 (payload modelId inputBytes projectId).stringify

structure JobInput where
  organizationId : Uuid
  projectId : Option Json
  userId : Option Text
  providerId : Text
  modelId : Text
  idempotencyKey : Option Json
  inputBytes : Option Nat

structure Job where
  requestId : Text
  status : InferenceJobStatus
  existing : Bool
  deriving DecidableEq

/-- `input.idempotencyKey` where it is truthy, as the text of a parameter. -/
def JobInput.key (input : JobInput) : Option Text :=
  (input.idempotencyKey.filter Json.truthy).map rt.parameter

def JobInput.hash (input : JobInput) : Text := payloadHash rt input.modelId input.inputBytes input.projectId

def selectByKey (organizationId : Uuid) (key : Text) : Stmt backend (List InferenceRequest) :=
  .select fun c db => db.inference_requests.filter fun r =>
    c.admits rt (some r.organization_id) && r.organization_id == organizationId && r.idempotency_key == some key

/-- The row a new job becomes; uuid parameters may be malformed. -/
def jobRow (requestId : Text) (input : JobInput) (now : Nat) : Except ServiceError InferenceRequest := do
  let project ← uuidParameter rt input.projectId
  let user ← uuidParameter rt (input.userId.map .str)
  return {
    organization_id := input.organizationId
    project_id := project
    user_id := user
    request_id := requestId
    idempotency_key := input.key rt
    payload_hash := (input.key rt).map fun _ => input.hash rt
    provider_id := input.providerId
    model_id := input.modelId
    status := .QUEUED
    input_bytes := input.inputBytes
    output_bytes := none
    duration_ms := none
    error_code := none
    created_at := now
    updated_at := now
    completed_at := none }

def jobFits (row : InferenceRequest) : Bool :=
  varchar 64 row.request_id && row.idempotency_key.all (varchar 128) && row.payload_hash.all (varchar 64) &&
    varchar 50 row.provider_id && varchar 100 row.model_id

/-- `r` and `row` have the same entry in idx_inference_idempotency. -/
def sameKey (row r : InferenceRequest) : Bool :=
  row.idempotency_key.isSome && r.organization_id == row.organization_id && r.idempotency_key == row.idempotency_key

def insertJob (requestId : Text) (input : JobInput) : Stmt backend Unit where
  run c db :=
    match jobRow rt requestId input db.now with
    | .error e => .error e
    | .ok row =>
      if !jobFits row then .error .stringTooLong
      else if !row.input_bytes.all integer then .error .outOfRange
      else if !c.admits rt (some row.organization_id) then .error .rowSecurityViolation
      else if db.inference_requests.any fun r => r.request_id == row.request_id then .error .uniqueViolation
      else if db.inference_requests.any (sameKey row) then .error .uniqueViolation
      else if !db.organizations.any fun o => o.id == row.organization_id then .error .foreignKeyViolation
      else if !row.project_id.all fun id => db.projects.any fun p => p.id == id then .error .foreignKeyViolation
      else .ok ((), fun t => { t with inference_requests := t.inference_requests ++ [row] })
  locks _ _ := .requestId requestId :: (input.key rt).toList.map (.idempotency input.organizationId)

/-- The insertion of a job whose key is not in use; `requestId` is crypto.randomUUID(). -/
def insertQueued (requestId : Text) (input : JobInput) : Async backend Job := do
  Async.query .insertJob (insertJob rt requestId input)
  return ⟨requestId, .QUEUED, false⟩

/-- The answer to a key that is in use already: the job, or a conflict. -/
def acknowledge (hash : Text) (row : InferenceRequest) : Except ServiceError Job :=
  match row.payload_hash with
  | some h => if h ≠ [] && h ≠ hash then .error .idempotencyConflict else .ok ⟨row.request_id, row.status, true⟩
  | none => .ok ⟨row.request_id, row.status, true⟩

/-- The callback of `createInferenceJob`. -/
def findOrInsert (requestId : Text) (input : JobInput) : Async backend Job :=
  match input.key rt with
  | some key => do
    let existing ← Async.query (.lookup input.organizationId key (input.hash rt))
      (selectByKey rt input.organizationId key)
    match existing with
    | row :: _ => Async.ofExcept (acknowledge (input.hash rt) row)
    | [] => insertQueued rt requestId input
  | none => insertQueued rt requestId input

def createInferenceJob (requestId : Text) (input : JobInput) : Async backend Job :=
  withTenantTransaction input.organizationId (findOrInsert rt requestId input)

/-- An acknowledged job is an existing one. -/
theorem acknowledge_ok {hash : Text} {row : InferenceRequest} {job : Job} (h : acknowledge hash row = .ok job) :
    job = ⟨row.request_id, row.status, true⟩ := by
  unfold acknowledge at h
  split at h
  · split at h <;> cases h; rfl
  · cases h; rfl

structure JobPatch where
  status : InferenceJobStatus
  outputBytes : Option Nat := none
  durationMs : Option Nat := none
  errorCode : Option Text := none

/-- The SET list of `updateInferenceJob`. -/
def JobPatch.apply (patch : JobPatch) (now : Nat) (r : InferenceRequest) : InferenceRequest :=
  { r with
    status := patch.status
    output_bytes := patch.outputBytes.or r.output_bytes
    duration_ms := patch.durationMs.or r.duration_ms
    error_code := patch.errorCode.or r.error_code
    updated_at := now
    completed_at := if patch.status.completed then some now else r.completed_at }

/-- The rows of a job that a statement finds. -/
def jobRows (c : Settings) (db : Db) (organizationId : Uuid) (requestId : Text) : List InferenceRequest :=
  db.inference_requests.filter fun r =>
    c.admits rt (some r.organization_id) && r.organization_id == organizationId && r.request_id == requestId

/-- Rewrite the rows with an organisation and a request id. -/
def Db.mapJob (organizationId : Uuid) (requestId : Text) (f : InferenceRequest → InferenceRequest) (db : Db) : Db :=
  { db with inference_requests := db.inference_requests.map fun r =>
      if r.organization_id == organizationId && r.request_id == requestId then f r else r }

def updateJob (organizationId : Uuid) (requestId : Text) (patch : JobPatch) : Stmt backend Unit where
  run c db :=
    if jobRows rt c db organizationId requestId = [] then .ok ((), id)
    else if !patch.errorCode.all (varchar 50) then .error .stringTooLong
    else if !([patch.outputBytes, patch.durationMs].all (·.all integer)) then .error .outOfRange
    else .ok ((), fun t => t.mapJob organizationId requestId (patch.apply db.now))
  locks c db := (jobRows rt c db organizationId requestId).map fun r => .job r.request_id

def updateInferenceJob (organizationId : Uuid) (requestId : Text) (patch : JobPatch) : Async backend Unit :=
  withTenantTransaction organizationId (Async.query .updateJob (updateJob rt organizationId requestId patch))

def selectJob (organizationId : Uuid) (requestId : Text) : Stmt backend (Option InferenceRequest) :=
  .select fun c db => (jobRows rt c db organizationId requestId).head?

def getInferenceJob (organizationId : Uuid) (requestId : Text) : Async backend (Option InferenceRequest) :=
  withTenantTransaction organizationId (Async.query .read (selectJob rt organizationId requestId))

/-- `status IN ('QUEUED','RUNNING')`. -/
def InferenceRequest.cancellable (r : InferenceRequest) : Bool := r.status == .QUEUED || r.status == .RUNNING

/-- The rows the cancellation finds; UPDATE … RETURNING answers with as many. -/
def cancelJob (organizationId : Uuid) (requestId : Text) : Stmt backend Nat where
  run c db :=
    let found := (jobRows rt c db organizationId requestId).filter InferenceRequest.cancellable
    if found = [] then .ok (0, id)
    else .ok (found.length, fun t => t.mapJob organizationId requestId fun r =>
      if r.cancellable then
        { r with status := .CANCELLED, updated_at := db.now, completed_at := some db.now }
      else r)
  locks c db := ((jobRows rt c db organizationId requestId).filter InferenceRequest.cancellable).map
    fun r => .job r.request_id

/-- The callback of `cancelInferenceJob`. -/
def cancelFound (organizationId : Uuid) (requestId : Text) : Async backend Bool := do
  let rowCount ← Async.query .cancelJob (cancelJob rt organizationId requestId)
  return 0 < rowCount

def cancelInferenceJob (organizationId : Uuid) (requestId : Text) : Async backend Bool :=
  withTenantTransaction organizationId (cancelFound rt organizationId requestId)

/-! ### Specifications -/

section Specifications
variable {rt : Runtime}

/-- The row of a job takes its organisation, id and key from the input. -/
theorem jobRow_ok {requestId : Text} {input : JobInput} {now : Nat} {row : InferenceRequest}
    (h : jobRow rt requestId input now = .ok row) :
    row.organization_id = input.organizationId ∧ row.request_id = requestId ∧ row.idempotency_key = input.key rt ∧
      row.payload_hash = (input.key rt).map (fun _ => input.hash rt) ∧ row.status = .QUEUED ∧
      uuidParameter rt input.projectId = .ok row.project_id := by
  simp only [jobRow] at h
  cases hp : uuidParameter rt input.projectId with
  | error e => rw [hp] at h; cases h
  | ok project =>
    cases hu : uuidParameter rt (input.userId.map .str) with
    | error e => rw [hp, hu] at h; cases h
    | ok user => rw [hp, hu] at h; cases h; exact ⟨rfl, rfl, rfl, rfl, rfl, rfl⟩

/-- What an accepted insertion of a job does. -/
theorem insertJob_ok {requestId : Text} {input : JobInput} {c : Settings} {s : Db} {r : Unit} {w : Db → Db}
    (hw : (insertJob rt requestId input).run c s = .ok (r, w)) :
    ∃ row, jobRow rt requestId input s.now = .ok row ∧ c.admits rt (some row.organization_id) = true ∧
      (s.inference_requests.any fun r => r.request_id == row.request_id) = false ∧
      s.inference_requests.any (sameKey row) = false ∧
      w = fun t => { t with inference_requests := t.inference_requests ++ [row] } := by
  simp only [insertJob] at hw
  split at hw
  · cases hw
  · rename_i row hrow
    repeat' split at hw
    all_goals cases hw
    exact ⟨row, hrow, by simpa using ‹¬ (!c.admits rt (some row.organization_id)) = true›,
      by simpa using ‹¬ (s.inference_requests.any fun r => r.request_id == row.request_id) = true›,
      by simpa using ‹¬ s.inference_requests.any (sameKey row) = true›, rfl⟩

/-- The insertion of a job changes nothing that does not read the jobs. -/
theorem insertJob_keeps {β : Type} {requestId : Text} {input : JobInput} {f : Db → β}
    (h : ∀ t row, f { t with inference_requests := t.inference_requests ++ [row] } = f t) :
    (insertJob rt requestId input).Keeps (Frame.of f) :=
  .of_run fun c s r w hw t => by
    obtain ⟨row, -, -, -, -, rfl⟩ := insertJob_ok hw
    exact h t row

/-- Nor does a status update. -/
theorem updateJob_keeps {β : Type} {organizationId : Uuid} {requestId : Text} {patch : JobPatch} {f : Db → β}
    (h : ∀ t g, f (t.mapJob organizationId requestId g) = f t) :
    (updateJob rt organizationId requestId patch).Keeps (Frame.of f) :=
  .of_run fun c s r w hw t => by
    simp only [updateJob] at hw
    split at hw
    · cases hw
      rfl
    · repeat' split at hw
      all_goals cases hw
      exact h t _

/-- The lookup of a key as its transaction sees the store. -/
def rowsFor (rt : Runtime) (input : JobInput) (key : Text) (s : Db) : List InferenceRequest :=
  s.inference_requests.filter fun r => (setOrganization input.organizationId {}).admits rt (some r.organization_id) &&
    r.organization_id == input.organizationId && r.idempotency_key == some key

/-- `createInferenceJob` acknowledges the job of its key, or inserts one. -/
theorem post_createInferenceJob {may : Site → Prop} {requestId : Text} {input : JobInput} {Q : Post backend Job}
    {s : Db} {l : Local backend} (hfault : ∀ σ, may σ → ∀ f, Q (.error (.other f)) s l)
    (hfound : ∀ key row rest, input.key rt = some key → rowsFor rt input key s = row :: rest →
      Q (acknowledge (input.hash rt) row) s l)
    (hrefused : ∀ e, (insertJob rt requestId input).run (setOrganization input.organizationId {}) s = .error e →
      (∀ key, input.key rt = some key → rowsFor rt input key s = []) → Q (.error e) s l)
    (hnew : ∀ w, (insertJob rt requestId input).run (setOrganization input.organizationId {}) s = .ok ((), w) →
      Q (.ok ⟨requestId, .QUEUED, false⟩) (w s) l) :
    (createInferenceJob rt requestId input).post may Q s l := by
  have hinsert (hno : ∀ key, input.key rt = some key → rowsFor rt input key s = []) (held : List Lock)
      (p : Db → Db) (hp : p = id) : (insertQueued rt requestId input).post may (settles may Q) s
        ⟨.active (setOrganization input.organizationId {}) held p :: l.sessions, l.out⟩ := by
    subst hp
    rw [insertQueued, Async.post_bind, Async.post_query_active]
    refine ⟨?_, fun hm f => ⟨hfault _ hm f, hfault _⟩⟩
    cases hrun : (insertJob rt requestId input).run (setOrganization input.organizationId {}) s with
    | error e => rw [id, Stmt.reply_error hrun]; exact ⟨hrefused e hrun hno, hfault _⟩
    | ok o =>
      obtain ⟨⟨⟩, w⟩ := o
      rw [id, Stmt.reply_ok hrun, Stmt.effect_ok hrun]
      exact ⟨hnew w hrun, hfault _⟩
  refine post_withTenantTransaction ?_ (hfault _)
  unfold findOrInsert
  cases hkey : input.key rt with
  | none => exact hinsert (by simp [hkey]) _ _ rfl
  | some key =>
    rw [Async.post_bind, Async.post_query_active]
    refine ⟨?_, fun hm f => ⟨hfault _ hm f, hfault _⟩⟩
    change Async.post (B := backend) may (match rowsFor rt input key s with
      | row :: _ => _
      | [] => _) _ s _
    cases hrows : rowsFor rt input key s with
    | nil => exact hinsert (fun k hk => by rw [hkey] at hk; cases hk; exact hrows) _ _ rfl
    | cons row rest =>
      refine (Async.post_ofExcept (B := backend) may _ _ _ _).mpr ?_
      have := hfound key row rest hkey hrows
      cases hack : acknowledge (input.hash rt) row with
      | error e => rw [hack] at this; exact ⟨this, hfault _⟩
      | ok job => rw [hack] at this; exact ⟨this, hfault _⟩

/-- The same among other handlers: the lookup, the insertion and the commit each happen
in a store the rely leads to. -/
theorem safe_createInferenceJob {policy : Policy backend} {P : Protocol backend} {I : Db → Local backend → Prop}
    (hI : Carried P I) (hrefl : ∀ l s, P.guar l s s) {requestId : Text} {input : JobInput} {Q : Post backend Job}
    {l : Local backend} (herr : ∀ e s, I s l → Q (.error e) s l)
    (hfound : ∀ s reply key row rest job, I s l → input.key rt = some key →
      policy (.lookup input.organizationId key (input.hash rt)) s (.done reply) true →
      rowsFor rt input key s = row :: rest → acknowledge (input.hash rt) row = .ok job →
      ∀ l' t, I t l → P.rely l' s t → Q (.ok job) t l)
    (hnew : ∀ s w, I s l →
      (insertJob rt requestId input).run (setOrganization input.organizationId {}) s = .ok ((), w) →
      ∀ l' t, I t l → (∀ k ∈ (insertJob rt requestId input).locks {} s, k ∈ l'.locks) →
        P.rely l' s t → P.guar l' t (w t) ∧ Q (.ok ⟨requestId, .QUEUED, false⟩) (w t) l)
    {s : Db} (hs : I s l) : (createInferenceJob rt requestId input).safe policy P Q s l := by
  have hcarry {v t : Db} {l' : Local backend} (hv : I v l) (ht : P.rely l' v t) (ho : l'.out = l.out) :
      I t l' ∧ I t l := by
    have := hI.rely v t l' (hI.sessions v l l' hv ho) ht
    exact ⟨this, hI.sessions t l' l this ho.symm⟩
  have hinsert (u : Db) (held : List Lock) (p : Db → Db) (hp : p = id) (hu : I u l) :
      (insertQueued rt requestId input).safe policy P (fun r s' l' => I s' l' ∧ l'.sessions.tail = l.sessions ∧
        l'.out = l.out ∧ ∀ a, r = .ok a → ∀ t, P.rely l' s' t →
          P.guar l' t (l'.top.commit t) ∧ Q (.ok a) (l'.top.commit t) l) u
        ⟨.active (setOrganization input.organizationId {}) held p :: l.sessions, l.out⟩ := by
    subst hp
    rw [insertQueued, Async.safe_bind, Async.query, Async.safe_await]
    intro v hv
    obtain ⟨hv', hvl⟩ := hcarry hu hv rfl
    refine ⟨hI.inv v _ hv', fun a _ => ?_⟩
    cases a with
    | fault f => exact ⟨hrefl _ v, hI.sessions v l _ hvl rfl, rfl, rfl, fun a ha => by cases ha⟩
    | done reply =>
      simp only [Call.exec, Call.serve, Local.top_cons, Local.setTop_cons, Session.query, id]
      cases hrun : (insertJob rt requestId input).run (setOrganization input.organizationId {}) v with
      | error e =>
        rw [Stmt.reply_error hrun]
        exact ⟨hrefl _ v, hI.sessions v l _ hvl rfl, rfl, rfl, fun a ha => by cases ha⟩
      | ok o =>
        obtain ⟨⟨⟩, w⟩ := o
        rw [Stmt.reply_ok hrun, Stmt.effect_ok hrun]
        refine ⟨hrefl _ v, hI.sessions v l _ hvl rfl, rfl, rfl, fun a ha t ht => ?_⟩
        cases ha
        exact hnew v w hvl hrun _ t (hcarry hvl ht rfl).2
          (fun k hk => by simp only [Local.locks, List.flatMap_cons, Session.locks, List.mem_append]; exact .inl (.inl hk)) ht
  refine safe_withTenantTransaction hI hrefl herr (fun u hu => ?_) hs
  unfold findOrInsert
  cases hkey : input.key rt with
  | none => exact hinsert u _ _ rfl hu
  | some key =>
    rw [Async.safe_bind, Async.query, Async.safe_await]
    intro v hv
    obtain ⟨hv', hvl⟩ := hcarry hu hv rfl
    refine ⟨hI.inv v _ hv', fun a ha => ?_⟩
    cases a with
    | fault f => exact ⟨hrefl _ v, hI.sessions v l _ hvl rfl, rfl, rfl, fun a ha => by cases ha⟩
    | done reply =>
      refine ⟨hrefl _ v, ?_⟩
      change Async.safe policy P (match rowsFor rt input key v with
        | row :: _ => _
        | [] => _) _ v _
      cases hrows : rowsFor rt input key v with
      | nil => exact hinsert v _ _ rfl hvl
      | cons row rest =>
        refine (Async.safe_ofExcept _ _ _ _).mpr ⟨hI.sessions v l _ hvl rfl, rfl, rfl, fun job hack t ht => ?_⟩
        exact ⟨hrefl _ t, hfound v reply key row rest job hvl hkey ha hrows hack _ t (hcarry hvl ht rfl).2 ht⟩

end Specifications

end GalaxiaAin.Tenant
