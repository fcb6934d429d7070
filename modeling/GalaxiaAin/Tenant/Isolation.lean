import GalaxiaAin.Library.Lockstep
import GalaxiaAin.Tenant.Jobs
import Mathlib.Logic.Relation

/-! Tenant isolation: pooled connections carry no context from one client to the
next, and a tenant's services neither read nor change the rows of another. -/
namespace GalaxiaAin.Tenant
open GalaxiaAin.Library

variable {α : Type} {ι : Type}

/-! ### Pooled connections -/

/-- The store, and each pooled connection as its last client left it. -/
structure Pool (ι : Type) where
  store : Db
  connection : ι → Session backend

/-- One client's use of a pooled connection: any callback, which may throw, and any
call may fail. -/
inductive Pool.Use [DecidableEq ι] (pool : Pool ι) : Pool ι → Prop
  | tenant {α : Type} (i : ι) (organizationId : Uuid) {fn : Async backend α} {r : Except ServiceError α} {s : Db}
      {x : Session backend} {out : List Event}
      (h : (transaction (setOrganization organizationId) fn).Exec (fun _ => True) pool.store
        ⟨[pool.connection i], []⟩ r s ⟨[x], out⟩) : Pool.Use pool ⟨s, Function.update pool.connection i x⟩
  | bootstrap {α : Type} (i : ι) {fn : Async backend α} {r : Except ServiceError α} {s : Db}
      {x : Session backend} {out : List Event}
      (h : (transaction setBootstrap fn).Exec (fun _ => True) pool.store
        ⟨[pool.connection i], []⟩ r s ⟨[x], out⟩) : Pool.Use pool ⟨s, Function.update pool.connection i x⟩

/-- Any sequence of uses. -/
def Pool.Uses [DecidableEq ι] : Pool ι → Pool ι → Prop := Relation.ReflTransGen Pool.Use

/-- No transaction, and so no setting, is left on any connection. -/
def Pool.Clean (pool : Pool ι) : Prop := ∀ i, pool.connection i = .idle

/-- Whatever the callback does, its client is idle when it is released. -/
theorem transaction_idle (may : Site → Prop) (set : Settings → Settings) (fn : Async backend α) (s : Db)
    (l : Local backend) : (transaction set fn).post may (fun _ _ l' => l'.top = .idle) s l := by
  have hback (e : ServiceError) (t : Db) (k : Local backend) :
      (do Async.await .transaction .rollback; .raise e : Async backend α).post may
        (fun _ _ l' => l'.top = .idle) t k := by
    rw [Async.post_bind, Async.post_await]
    exact ⟨fun _ => rfl, fun _ _ => rfl⟩
  have hbegin (c : Call backend Unit) (f : Unit → Async backend α) (t : Db) (k : Local backend)
      (hf : ∀ t k, (f ()).post may (Async.caught may (fun e => do Async.await .transaction .rollback; .raise e)
        fun _ _ l' => l'.top = .idle) t k) :
      (Async.await Site.transaction c >>= f).post may (Async.caught may
        (fun e => do Async.await .transaction .rollback; .raise e) fun _ _ l' => l'.top = .idle) t k := by
    rw [Async.post_bind, Async.post_await]
    refine ⟨fun reply => ?_, fun _ f => hback _ _ _⟩
    cases (c.serve reply t k).1 with
    | ok _ => exact hf _ _
    | error e => exact hback _ _ _
  rw [transaction, Async.post_orRollback]
  refine hbegin _ _ s l fun s l => hbegin _ _ s l fun s l => ?_
  rw [Async.post_bind]
  refine Async.post_of_forall fun r t k => ?_
  cases r with
  | error e => exact hback _ _ _
  | ok a =>
    rw [Async.next_ok, Async.post_bind, Async.post_await]
    exact ⟨fun _ => rfl, fun _ _ => hback _ _ _⟩

theorem Pool.Use.clean [DecidableEq ι] {pool pool' : Pool ι} (h : pool.Use pool') (hc : pool.Clean) :
    pool'.Clean := by
  have hupdate (i : ι) {x : Session backend} (hx : x = .idle) (s : Db) :
      (Pool.mk s (Function.update pool.connection i x)).Clean := fun j => by
    by_cases hj : j = i
    · subst hj; simpa using hx
    · simpa [Function.update_of_ne hj] using hc j
  cases h with
  | tenant i organizationId h => exact hupdate i (h.sound (transaction_idle _ _ _ _ _)) _
  | bootstrap i h => exact hupdate i (h.sound (transaction_idle _ _ _ _ _)) _

/-- No setting survives on a connection that is used again. -/
theorem Pool.Uses.clean [DecidableEq ι] {pool pool' : Pool ι} (h : pool.Uses pool') (hc : pool.Clean) :
    pool'.Clean := by
  induction h with
  | refl => exact hc
  | tail _ hstep ih => exact hstep.clean ih

/-! ### Rows -/

/-- The rows whose organisation satisfies `p`. -/
def Db.rowsOf (p : Option Uuid → Bool) (db : Db) : Db where
  now := db.now
  organizations := db.organizations.filter fun o => p (some o.id)
  projects := db.projects.filter fun r => p (some r.organization_id)
  inference_requests := db.inference_requests.filter fun r => p (some r.organization_id)
  usage_records := db.usage_records.filter fun r => p (some r.organization_id)
  audit_events := db.audit_events.filter fun r => p r.organization_id

/-- Two states that agree on the rows of organisation `A`. -/
def AgreeOn (A : Uuid) (s t : Db) : Prop := s.rowsOf (· == some A) = t.rowsOf (· == some A)

/-- No row of another organisation differs. -/
def SameForeign (A : Uuid) (s t : Db) : Prop := s.rowsOf (· != some A) = t.rowsOf (· != some A)

instance (A : Uuid) (s t : Db) : Decidable (AgreeOn A s t) := inferInstanceAs (Decidable (_ = _))
instance (A : Uuid) (s t : Db) : Decidable (SameForeign A s t) := inferInstanceAs (Decidable (_ = _))

private theorem filter_within {β : Type} {p q : β → Bool} {l l' : List β} (h : l.filter p = l'.filter p)
    (hq : ∀ x, q x = true → p x = true) : l.filter q = l'.filter q := by
  have key (m : List β) : m.filter q = (m.filter p).filter q := by
    rw [List.filter_filter]
    refine List.filter_congr fun x _ => ?_
    cases hx : q x
    · rfl
    · simp [hq x hx]
  rw [key l, key l', h]

private theorem any_within {β : Type} {p q : β → Bool} {l l' : List β} (h : l.filter p = l'.filter p)
    (hq : ∀ x ∈ l, q x = true → p x = true) (hq' : ∀ x ∈ l', q x = true → p x = true) : l.any q = l'.any q := by
  have key (m : List β) (hm : ∀ x ∈ m, q x = true → p x = true) : m.any q = (m.filter p).any q := by
    rw [Bool.eq_iff_iff, List.any_eq_true, List.any_eq_true]
    exact ⟨fun ⟨x, hx, hxq⟩ => ⟨x, List.mem_filter.mpr ⟨hx, hm x hx hxq⟩, hxq⟩,
      fun ⟨x, hx, hxq⟩ => ⟨x, (List.mem_filter.mp hx).1, hxq⟩⟩
  rw [key l hq, key l' hq', h]

section Tables
variable {A : Uuid} {s t : Db}

private theorem AgreeOn.table {β : Type} (h : AgreeOn A s t) (f : Db → β) :
    f (s.rowsOf (· == some A)) = f (t.rowsOf (· == some A)) := congrArg f h

theorem AgreeOn.now (h : AgreeOn A s t) : s.now = t.now := h.table Db.now
theorem AgreeOn.organizations (h : AgreeOn A s t) :
    s.organizations.filter (fun o => some o.id == some A) = t.organizations.filter fun o => some o.id == some A :=
  h.table Db.organizations
theorem AgreeOn.projects (h : AgreeOn A s t) :
    s.projects.filter (fun r => some r.organization_id == some A) =
      t.projects.filter fun r => some r.organization_id == some A := h.table Db.projects
theorem AgreeOn.inference_requests (h : AgreeOn A s t) :
    s.inference_requests.filter (fun r => some r.organization_id == some A) =
      t.inference_requests.filter fun r => some r.organization_id == some A := h.table Db.inference_requests
theorem AgreeOn.usage_records (h : AgreeOn A s t) :
    s.usage_records.filter (fun r => some r.organization_id == some A) =
      t.usage_records.filter fun r => some r.organization_id == some A := h.table Db.usage_records

end Tables

/-- A table update commutes with the selection of rows by organisation. -/
theorem rowsOf_mapJob (p : Option Uuid → Bool) (organizationId : Uuid) (requestId : Text)
    (f : InferenceRequest → InferenceRequest) (hf : ∀ r, (f r).organization_id = r.organization_id) (db : Db) :
    (db.mapJob organizationId requestId f).rowsOf p = (db.rowsOf p).mapJob organizationId requestId f := by
  simp only [Db.rowsOf, Db.mapJob, List.filter_map]
  congr 2
  refine List.filter_congr fun r _ => ?_
  simp only [Function.comp_apply]
  split
  · rw [hf]
  · rfl

/-- Other organisations' rows are none of a job's rows. -/
theorem mapJob_foreign (A : Uuid) (requestId : Text) (f : InferenceRequest → InferenceRequest) (db : Db) :
    (db.rowsOf (· != some A)).mapJob A requestId f = db.rowsOf (· != some A) := by
  have h : ∀ r ∈ db.inference_requests.filter (fun r => some r.organization_id != some A),
      (if r.organization_id == A && r.request_id == requestId then f r else r) = r := by
    intro r hr
    have := (List.mem_filter.mp hr).2
    rw [if_neg (by simp_all)]
  simp only [Db.mapJob, Db.rowsOf, List.map_congr_left h, List.map_id']

theorem AgreeOn.mapJob {A : Uuid} {s t : Db} (h : AgreeOn A s t) (requestId : Text)
    {f : InferenceRequest → InferenceRequest} (hf : ∀ r, (f r).organization_id = r.organization_id) :
    AgreeOn A (s.mapJob A requestId f) (t.mapJob A requestId f) := by
  rw [AgreeOn, rowsOf_mapJob _ _ _ _ hf, rowsOf_mapJob _ _ _ _ hf, h]

theorem SameForeign.mapJob (A : Uuid) (requestId : Text) {f : InferenceRequest → InferenceRequest}
    (hf : ∀ r, (f r).organization_id = r.organization_id) (s : Db) : SameForeign A s (s.mapJob A requestId f) := by
  rw [SameForeign, rowsOf_mapJob _ _ _ _ hf, mapJob_foreign]

/-! ### The tenant's services -/

/-- The services run through `withTenantTransaction`, with their arguments. -/
inductive Service where
  | getOrganization
  | listProjects
  | getProject (projectId : Json)
  | createProject (id : Uuid) (name slug : Text)
  | createInferenceJob (requestId : Text) (input : JobInput)
  | updateInferenceJob (requestId : Text) (patch : JobPatch)
  | getInferenceJob (requestId : Text)
  | cancelInferenceJob (requestId : Text)
  | checkOrganizationQuota

namespace Service

def Result : Service → Type
  | .getOrganization => Option Organization
  | .listProjects => List Project
  | .getProject _ => Option Project
  | .createProject _ _ _ => Project
  | .createInferenceJob _ _ => Job
  | .updateInferenceJob _ _ => Unit
  | .getInferenceJob _ => Option InferenceRequest
  | .cancelInferenceJob _ => Bool
  | .checkOrganizationQuota => Quota

/-- The service called for organisation `A`. -/
def call (rt : Runtime) (A : Uuid) : (svc : Service) → Async backend svc.Result
  | .getOrganization => Tenant.getOrganization rt A
  | .listProjects => Tenant.listProjects rt A
  | .getProject projectId => Tenant.getProject rt A projectId
  | .createProject id name slug => Tenant.createProject rt id A name slug
  | .createInferenceJob requestId input => Tenant.createInferenceJob rt requestId { input with organizationId := A }
  | .updateInferenceJob requestId patch => Tenant.updateInferenceJob rt A requestId patch
  | .getInferenceJob requestId => Tenant.getInferenceJob rt A requestId
  | .cancelInferenceJob requestId => Tenant.cancelInferenceJob rt A requestId
  | .checkOrganizationQuota => Tenant.checkOrganizationQuota rt A

/-- The callback the service hands to `withTenantTransaction`. -/
def program (rt : Runtime) (A : Uuid) : (svc : Service) → Async backend svc.Result
  | .getOrganization => Async.query .read (selectOrganization rt A)
  | .listProjects => Async.query .read (selectProjects rt A)
  | .getProject projectId => Async.query .read (selectProject rt projectId)
  | .createProject id name slug => Async.query .insertProject (insertProject rt id A name slug)
  | .createInferenceJob requestId input => findOrInsert rt requestId { input with organizationId := A }
  | .updateInferenceJob requestId patch => Async.query .updateJob (updateJob rt A requestId patch)
  | .getInferenceJob requestId => Async.query .read (selectJob rt A requestId)
  | .cancelInferenceJob requestId => cancelFound rt A requestId
  | .checkOrganizationQuota => readQuota rt A

theorem call_eq (rt : Runtime) (A : Uuid) (svc : Service) :
    svc.call rt A = withTenantTransaction A (svc.program rt A) := by cases svc <;> rfl

/-- The service's transaction on a connection as the pool hands it out. -/
def on (rt : Runtime) (A : Uuid) (svc : Service) (x : Session backend) (script : List (Answer backend)) (s : Db) :
    Except ServiceError svc.Result × Db × Local backend :=
  (transaction (setOrganization A) (svc.program rt A)).run script s ⟨[x], []⟩

/-- Generated ids are in no other organisation's rows, and a job's project is absent or
one of the organisation's own. -/
def Admissible (rt : Runtime) (A : Uuid) (db : Db) : Service → Prop
  | .createProject id _ _ => ∀ p ∈ db.projects, p.organization_id ≠ A → p.id ≠ id
  | .createInferenceJob requestId input =>
    (∀ r ∈ db.inference_requests, r.organization_id ≠ A → r.request_id ≠ requestId) ∧
      ∀ pid, uuidParameter rt input.projectId = .ok (some pid) →
        ∃ p ∈ db.projects, p.organization_id = A ∧ p.id = pid
  | _ => True

end Service

theorem SameForeign.trans {A : Uuid} {s t u : Db} (h : SameForeign A s t) (h' : SameForeign A t u) :
    SameForeign A s u := Eq.trans h h'

/-- What organisation `A` sees while it runs a service. -/
def tenantView (rt : Runtime) (A : Uuid) (svc : Service) : View backend where
  same s t := AgreeOn A s t ∧ svc.Admissible rt A s ∧ svc.Admissible rt A t
  kept := SameForeign A
  kept_refl _ := rfl
  kept_trans _ _ _ := SameForeign.trans

section Statements
variable {rt : Runtime} {A : Uuid} {V : View backend}

/-- Under the policies the context of `A` admits rows of `A` only. -/
theorem tenant_admits (hrt : rt.rowSecurity = true) {organization_id : Option Uuid}
    (h : (setOrganization A {}).admits rt organization_id = true) : organization_id = some A := by
  simp only [Settings.admits, hrt, bootstrap_setOrganization, bootstrap_initial,
    currentOrganizationId_setOrganization, Bool.not_true, Bool.false_or, Bool.and_eq_true, beq_iff_eq] at h
  obtain ⟨hsome, h⟩ := h
  by_cases hA : A = []
  · rw [h, if_pos hA] at hsome; cases hsome
  · rw [h, if_neg hA]

theorem selectOrganization_respects (hV : ∀ s t, V.same s t → AgreeOn A s t) :
    (selectOrganization rt A).Respects V (setOrganization A {}) :=
  .select fun s t h => congrArg List.head? (filter_within (hV s t h).organizations fun o ho => by
    simp only [Bool.and_eq_true, beq_iff_eq] at ho; simp [ho.2])

theorem selectProjects_respects (hV : ∀ s t, V.same s t → AgreeOn A s t) :
    (selectProjects rt A).Respects V (setOrganization A {}) :=
  .select fun s t h => congrArg (List.mergeSort · _) (filter_within (hV s t h).projects fun o ho => by
    simp only [Bool.and_eq_true, beq_iff_eq] at ho; simp [ho.2])

theorem countUsage_respects (hV : ∀ s t, V.same s t → AgreeOn A s t) :
    (countUsage rt A).Respects V (setOrganization A {}) :=
  .select fun s t h => by
    rw [(hV s t h).now]
    exact congrArg List.length (filter_within (hV s t h).usage_records fun o ho => by
      simp only [Bool.and_eq_true, beq_iff_eq] at ho; simp [ho.1.2])

theorem selectByKey_respects (hV : ∀ s t, V.same s t → AgreeOn A s t) (key : Text) :
    (selectByKey rt A key).Respects V (setOrganization A {}) :=
  .select fun s t h => filter_within (hV s t h).inference_requests fun o ho => by
    simp only [Bool.and_eq_true, beq_iff_eq] at ho; simp [ho.1.2]

theorem jobRows_agree {s t : Db} (h : AgreeOn A s t) (c : Settings) (requestId : Text) :
    jobRows rt c s A requestId = jobRows rt c t A requestId :=
  filter_within h.inference_requests fun o ho => by
    simp only [Bool.and_eq_true, beq_iff_eq] at ho; simp [ho.1.2]

theorem selectJob_respects (hV : ∀ s t, V.same s t → AgreeOn A s t) (requestId : Text) :
    (selectJob rt A requestId).Respects V (setOrganization A {}) :=
  .select fun s t h => congrArg List.head? (jobRows_agree (hV s t h) _ requestId)

/-- `getProject` does not filter by organisation itself: the policies do. -/
theorem selectProject_respects (hrt : rt.rowSecurity = true) (hV : ∀ s t, V.same s t → AgreeOn A s t)
    (projectId : Json) : (selectProject rt projectId).Respects V (setOrganization A {}) := by
  have hrun (s t : Db) (h : V.same s t) :
      (selectProject rt projectId).run (setOrganization A {}) s = (selectProject rt projectId).run (setOrganization A {}) t := by
    have hrows (pid : Uuid) := filter_within (q := fun p : Project => (setOrganization A {}).admits rt
      (some p.organization_id) && p.id == pid) (hV s t h).projects fun p hp => by
        simp only [Bool.and_eq_true] at hp; rw [tenant_admits hrt hp.1]; simp
    simp only [selectProject, hrows]
  have hid (s : Db) (r : Option Project) (w : Db → Db)
      (hw : (selectProject rt projectId).run (setOrganization A {}) s = .ok (r, w)) : w = id := by
    simp only [selectProject] at hw
    split at hw
    · cases hw; rfl
    · split at hw
      · cases hw
      · cases hw; rfl
  refine .of_run hrun (fun s r w hw s' t' h => ?_) (fun s r w hw s' => ?_)
  · rw [hid s r w hw]; exact h
  · rw [hid s r w hw]; exact V.kept_refl s'

theorem updateJob_respects (hV : ∀ s t, V.same s t ↔ AgreeOn A s t) (hk : ∀ s t, V.kept s t ↔ SameForeign A s t)
    (requestId : Text) (patch : JobPatch) :
    (updateJob rt A requestId patch).Respects V (setOrganization A {}) := by
  have heff (s : Db) (r : Unit) (w : Db → Db)
      (hw : (updateJob rt A requestId patch).run (setOrganization A {}) s = .ok (r, w)) :
      w = id ∨ ∃ now, w = fun t => t.mapJob A requestId (patch.apply now) := by
    simp only [updateJob] at hw
    split at hw
    · cases hw; exact .inl rfl
    · split at hw
      · cases hw
      · split at hw <;> cases hw
        exact .inr ⟨_, rfl⟩
  refine .of_run (fun s t h => ?_) (fun s r w hw s' t' h => ?_) (fun s r w hw s' => ?_)
  · have := (hV s t).mp h
    simp only [updateJob, jobRows_agree this, this.now]
  · rcases heff s r w hw with rfl | ⟨now, rfl⟩
    · exact h
    · exact (hV _ _).mpr (((hV _ _).mp h).mapJob requestId fun _ => rfl)
  · rcases heff s r w hw with rfl | ⟨now, rfl⟩
    · exact V.kept_refl s'
    · exact (hk _ _).mpr (.mapJob A requestId (f := patch.apply now) (fun _ => rfl) s')

theorem cancelJob_respects (hV : ∀ s t, V.same s t ↔ AgreeOn A s t) (hk : ∀ s t, V.kept s t ↔ SameForeign A s t)
    (requestId : Text) : (cancelJob rt A requestId).Respects V (setOrganization A {}) := by
  have heff (s : Db) (r : Nat) (w : Db → Db)
      (hw : (cancelJob rt A requestId).run (setOrganization A {}) s = .ok (r, w)) :
      w = id ∨ ∃ f, (∀ r, (f r).organization_id = r.organization_id) ∧ w = fun t => t.mapJob A requestId f := by
    simp only [cancelJob] at hw
    split at hw <;> cases hw
    · exact .inl rfl
    · refine .inr ⟨_, fun r => ?_, rfl⟩
      split <;> rfl
  refine .of_run (fun s t h => ?_) (fun s r w hw s' t' h => ?_) (fun s r w hw s' => ?_)
  · have := (hV s t).mp h
    simp only [cancelJob, jobRows_agree this, this.now]
  · rcases heff s r w hw with rfl | ⟨f, hf, rfl⟩
    · exact h
    · exact (hV _ _).mpr (((hV _ _).mp h).mapJob requestId hf)
  · rcases heff s r w hw with rfl | ⟨f, hf, rfl⟩
    · exact V.kept_refl s'
    · exact (hk _ _).mpr (.mapJob A requestId hf s')

/-- A generated id is in use exactly where it is in use among the own rows. -/
private theorem fresh_any {β : Type} {key : β → Text} {org : β → Uuid} {id : Text} {l l' : List β}
    (h : l.filter (fun x => some (org x) == some A) = l'.filter fun x => some (org x) == some A)
    (hl : ∀ x ∈ l, org x ≠ A → key x ≠ id) (hl' : ∀ x ∈ l', org x ≠ A → key x ≠ id) :
    (l.any fun x => key x == id) = l'.any fun x => key x == id := by
  refine any_within h (fun x hx hk => ?_) (fun x hx hk => ?_)
  all_goals
    rw [beq_iff_eq] at hk ⊢
    by_contra hne
  · exact hl x hx (fun he => hne (congrArg some he)) hk
  · exact hl' x hx (fun he => hne (congrArg some he)) hk

theorem rowsOf_addProject (p : Option Uuid → Bool) (row : Project) (t : Db) :
    ({ t with projects := t.projects ++ [row] } : Db).rowsOf p =
      { t.rowsOf p with projects := (t.rowsOf p).projects ++ [row].filter fun r => p (some r.organization_id) } := by
  simp only [Db.rowsOf, List.filter_append]

theorem rowsOf_addJob (p : Option Uuid → Bool) (row : InferenceRequest) (t : Db) :
    ({ t with inference_requests := t.inference_requests ++ [row] } : Db).rowsOf p =
      { t.rowsOf p with inference_requests :=
          (t.rowsOf p).inference_requests ++ [row].filter fun r => p (some r.organization_id) } := by
  simp only [Db.rowsOf, List.filter_append]

theorem insertProject_respects (id : Uuid) (name slug : Text) :
    (insertProject rt id A name slug).Respects (tenantView rt A (.createProject id name slug))
      (setOrganization A {}) := by
  have heff (s : Db) (r : Project) (w : Db → Db)
      (hw : (insertProject rt id A name slug).run (setOrganization A {}) s = .ok (r, w)) :
      r.organization_id = A ∧ w = fun t => { t with projects := t.projects ++ [r] } := by
    simp only [insertProject] at hw
    repeat' split at hw
    all_goals cases hw
    exact ⟨rfl, rfl⟩
  refine .of_run (fun s t ⟨h, hs, ht⟩ => ?_) (fun s r w hw s' t' ⟨h, hs, ht⟩ => ?_) (fun s r w hw s' => ?_)
  · have hid := fresh_any h.projects hs ht
    have hslug : (s.projects.any fun p => p.organization_id == A && p.slug == slug) =
        t.projects.any fun p => p.organization_id == A && p.slug == slug := by
      refine any_within h.projects ?_ ?_ <;>
        exact fun x _ hx => by simp only [Bool.and_eq_true, beq_iff_eq] at hx; simp [hx.1]
    have horg : (s.organizations.any fun o => o.id == A) = t.organizations.any fun o => o.id == A := by
      refine any_within h.organizations ?_ ?_ <;>
        exact fun x _ hx => by rw [beq_iff_eq] at hx; simp [hx]
    simp only [insertProject, h.now, hid, hslug, horg]
  · obtain ⟨hr, rfl⟩ := heff s r w hw
    refine ⟨?_, ?_, ?_⟩
    · rw [AgreeOn, rowsOf_addProject, rowsOf_addProject, h]
    all_goals
      intro p hp hne
      rcases List.mem_append.mp hp with hp | hp
    · exact hs p hp hne
    · rw [List.mem_singleton.mp hp] at hne; exact absurd hr hne
    · exact ht p hp hne
    · rw [List.mem_singleton.mp hp] at hne; exact absurd hr hne
  · obtain ⟨hr, rfl⟩ := heff s r w hw
    change SameForeign A _ _
    rw [SameForeign, rowsOf_addProject]
    simp [hr]

theorem insertJob_respects (requestId : Text) (input : JobInput) (hA : input.organizationId = A) :
    (insertJob rt requestId input).Respects (tenantView rt A (.createInferenceJob requestId input))
      (setOrganization A {}) := by
  refine .of_run (fun s t ⟨h, hs, ht⟩ => ?_) (fun s r w hw s' t' ⟨h, hs, ht⟩ => ?_) (fun s r w hw s' => ?_)
  · simp only [insertJob, h.now]
    cases hrow : jobRow rt requestId input t.now with
    | error e => rfl
    | ok row =>
      obtain ⟨horg, hid, -, -, -, hproject⟩ := jobRow_ok hrow
      have hfresh : (s.inference_requests.any fun r => r.request_id == row.request_id) =
          t.inference_requests.any fun r => r.request_id == row.request_id := by
        rw [hid]; exact fresh_any h.inference_requests hs.1 ht.1
      have hkey : s.inference_requests.any (sameKey row) = t.inference_requests.any (sameKey row) := by
        refine any_within h.inference_requests ?_ ?_ <;>
          exact fun x _ hx => by
            simp only [sameKey, Bool.and_eq_true, beq_iff_eq] at hx; simp [hx.1.2, horg, hA]
      have horgs : (s.organizations.any fun o => o.id == row.organization_id) =
          t.organizations.any fun o => o.id == row.organization_id := by
        refine any_within h.organizations ?_ ?_ <;>
          exact fun x _ hx => by rw [beq_iff_eq] at hx; simp [hx, horg, hA]
      have hproj : (row.project_id.all fun id => s.projects.any fun p => p.id == id) =
          row.project_id.all fun id => t.projects.any fun p => p.id == id := by
        cases hp : row.project_id with
        | none => rfl
        | some pid =>
          have hmem {u : Db} (hu : ∃ p ∈ u.projects, p.organization_id = A ∧ p.id = pid) :
              (u.projects.any fun p => p.id == pid) = true :=
            List.any_eq_true.mpr ⟨hu.choose, hu.choose_spec.1, by simp [hu.choose_spec.2.2]⟩
          rw [hp] at hproject
          simp only [Option.all_some, hmem (hs.2 pid hproject), hmem (ht.2 pid hproject)]
      simp only [hfresh, hkey, horgs, hproj]
  · obtain ⟨row, hrow, -, -, -, rfl⟩ := insertJob_ok hw
    have horg : row.organization_id = A := (jobRow_ok hrow).1.trans hA
    refine ⟨?_, ⟨?_, hs.2⟩, ⟨?_, ht.2⟩⟩
    · rw [AgreeOn, rowsOf_addJob, rowsOf_addJob, h]
    all_goals
      intro p hp hne
      rcases List.mem_append.mp hp with hp | hp
    · exact hs.1 p hp hne
    · rw [List.mem_singleton.mp hp] at hne; exact absurd horg hne
    · exact ht.1 p hp hne
    · rw [List.mem_singleton.mp hp] at hne; exact absurd horg hne
  · obtain ⟨row, hrow, -, -, -, rfl⟩ := insertJob_ok hw
    have horg : row.organization_id = A := (jobRow_ok hrow).1.trans hA
    change SameForeign A _ _
    rw [SameForeign, rowsOf_addJob]
    simp [horg]

end Statements

/-- Every service stays within the view of its organisation. -/
theorem Service.within (rt : Runtime) (hrt : rt.rowSecurity = true) (A : Uuid) (svc : Service) :
    (svc.program rt A).Within fun q => q.Respects (tenantView rt A svc) (setOrganization A {}) := by
  have hV (s t : Db) (h : (tenantView rt A svc).same s t) : AgreeOn A s t := h.1
  cases svc with
  | getOrganization => exact Async.within_query (selectOrganization_respects hV) _
  | listProjects => exact Async.within_query (selectProjects_respects hV) _
  | getProject projectId => exact Async.within_query (selectProject_respects hrt hV projectId) _
  | createProject id name slug => exact Async.within_query (insertProject_respects id name slug) _
  | updateInferenceJob requestId patch =>
    exact Async.within_query (updateJob_respects (fun s t => by simp [tenantView, Service.Admissible])
      (fun _ _ => Iff.rfl) requestId patch) _
  | getInferenceJob requestId => exact Async.within_query (selectJob_respects hV requestId) _
  | cancelInferenceJob requestId =>
    exact Async.within_bind (Async.within_query (cancelJob_respects
      (fun s t => by simp [tenantView, Service.Admissible]) (fun _ _ => Iff.rfl) requestId) _) fun _ => trivial
  | checkOrganizationQuota =>
    exact Async.within_bind (Async.within_query (selectOrganization_respects hV) _) fun org =>
      Async.within_bind (Async.within_query (countUsage_respects hV) _) fun _ => trivial
  | createInferenceJob requestId input =>
    have hinsert : (insertQueued rt requestId { input with organizationId := A }).Within fun q =>
        q.Respects (tenantView rt A (.createInferenceJob requestId input)) (setOrganization A {}) :=
      Async.within_bind (Async.within_query (insertJob_respects requestId { input with organizationId := A } rfl) _)
        fun _ => trivial
    simp only [Service.program, findOrInsert]
    split
    · refine Async.within_bind (Async.within_query (selectByKey_respects hV _) _) fun existing => ?_
      split
      · exact Async.within_ofExcept _
      · exact hinsert
    · exact hinsert

/-- After any sequence of transactions on the pool, a tenant's service answers alike and
leaves the same rows of its organisation from two states that agree on them, and it
changes no row of another organisation. -/
theorem tenant_noninterference [DecidableEq ι] (rt : Runtime) (hrt : rt.rowSecurity = true) {pool pool' : Pool ι}
    (hpool : pool.Clean) (huses : pool.Uses pool') (i : ι) (A : Uuid) (svc : Service)
    (script : List (Answer backend)) {s t : Db} (hst : AgreeOn A s t) (hs : svc.Admissible rt A s)
    (ht : svc.Admissible rt A t) :
    (svc.on rt A (pool'.connection i) script s).1 = (svc.on rt A (pool'.connection i) script t).1 ∧
      AgreeOn A (svc.on rt A (pool'.connection i) script s).2.1 (svc.on rt A (pool'.connection i) script t).2.1 ∧
      SameForeign A s (svc.on rt A (pool'.connection i) script s).2.1 ∧
      SameForeign A t (svc.on rt A (pool'.connection i) script t).2.1 := by
  rw [huses.clean hpool i]
  have h := Async.lockstep_transaction (V := tenantView rt A svc) Site.transaction (setOrganization A)
    (svc.within rt hrt A) ⟨hst, hs, ht⟩ []
  obtain ⟨hr, hsame, hks, hkt, -, -⟩ := Async.lockstep_run h script
  exact ⟨hr, hsame.1, hks, hkt⟩

/-- A project created on a connection that a throwing bootstrap transaction used before,
in two states that differ in another organisation's projects. -/
theorem tenant_noninterference_create :
    let A := units "7c9e6679-7425-40de-944b-e07fc1f90ae7"
    let F := units "16fd2706-8baf-433b-82eb-8c7fada847da"
    let org (id : Uuid) : Organization := ⟨id, units "Org", id, units "active", units "NOT_CONFIGURED",
      units "METERING_ONLY", units "FREE", false, some 100⟩
    let s : Db := ⟨0, [org A, org F], [], [], [], []⟩
    let t : Db := { s with projects := [⟨units "f47ac10b-58cc-4372-a567-0e02b2c3d479", F, units "P", units "p",
      units "active", 0⟩] }
    let svc := Service.createProject (units "9b2d4c1e-3f60-4a7b-8c5d-1e2f3a4b5c6d") (units "P") (units "p")
    let rt := Runtime.pilot true id
    (svc.on rt A .idle [] s).1 = (svc.on rt A .idle [] t).1 ∧
      AgreeOn A (svc.on rt A .idle [] s).2.1 (svc.on rt A .idle [] t).2.1 ∧
      SameForeign A s (svc.on rt A .idle [] s).2.1 ∧ SameForeign A t (svc.on rt A .idle [] t).2.1 := by
  intro A F org s t svc rt
  let pool : Pool Unit := ⟨s, fun _ => .idle⟩
  let fn : Async backend Unit := throw (.other none)
  have hexec := Async.exec_run (fun _ => True) (transaction setBootstrap fn) [] s ⟨[.idle], []⟩ (by simp)
  have huse : pool.Uses ⟨s, Function.update pool.connection () .idle⟩ := .single (.bootstrap () hexec)
  have hclean : pool.Clean := fun _ => rfl
  have h := tenant_noninterference rt rfl hclean huse () A svc [] (s := s) (t := t) (by decide)
    (by simp [svc, s, Service.Admissible]) (by simp only [svc, t, Service.Admissible]; decide)
  simpa using h

end GalaxiaAin.Tenant
