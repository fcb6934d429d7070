import GalaxiaAin.Library.History
import GalaxiaAin.Tenant.Route
import Mathlib.Data.Fintype.Card

/-! The metering of a day: requests, executions and the clock beside each other, what the
quota check reads, and the jobs accepted. -/
namespace GalaxiaAin.Tenant
open GalaxiaAin.Library

variable {rt : Runtime} {ι : Type}

/-- Time passes. -/
def passTime (elapsed : Nat) : Stmt backend Unit := .update fun _ db => { db with now := db.now + elapsed }

/-- The passing of time, in steps. -/
def tick : List Nat → Async backend Unit
  | [] => pure ()
  | elapsed :: rest => do
    Async.await (.clock elapsed) (.pool (passTime elapsed))
    tick rest

/-- Who takes part: requests, executions of jobs, and the clock. -/
inductive Party where
  | request (req : Request)
  | execution (job : Execution)
  | clock (elapsed : List Nat)

namespace Party

def program (rt : Runtime) : Party → Async backend Unit
  | .request req => postInference rt req
  | .execution job => executeInferenceJob rt job
  | .clock elapsed => tick elapsed

/-- The request id a request would give its job. -/
def requestId : Party → Option Text
  | .request req => some req.requestId
  | _ => none

/-- A request of the organisation. -/
def requests (organizationId : Uuid) : Party → Bool
  | .request req => req.auth.organizationId == organizationId
  | _ => false

end Party

/-- The time that passes at a site. -/
def Site.elapsed : Site → Nat
  | .clock elapsed => elapsed
  | _ => 0

/-- Any call may be served or fail; the clock stays within the day. -/
def sameDay : Policy backend := fun site db a _ =>
  ¬ a.Faulty → (db.now + site.elapsed) / msPerDay = db.now / msPerDay

instance (site : Site) (db : Db) (a : Answer backend) (ok : Bool) : Decidable (sameDay site db a ok) :=
  inferInstanceAs (Decidable (¬ a.Faulty → _ = _))

/-- The parties, before their first step. -/
def workload (rt : Runtime) (party : ι → Party) (db : Db) : Config backend ι Unit :=
  ⟨db, fun i => Thread.start ((party i).program rt)⟩

/-- The rows the quota check counts. -/
def todaysUsage (rt : Runtime) (organizationId : Uuid) (db : Db) : List UsageRecord :=
  db.usage_records.filter fun u => (setOrganization organizationId {}).admits rt (some u.organization_id) &&
    u.organization_id == organizationId && decide (db.now / msPerDay * msPerDay ≤ u.created_at)

/-- `usedToday` of the quota check. -/
def usedToday (rt : Runtime) (organizationId : Uuid) (db : Db) : Nat := (todaysUsage rt organizationId db).length

/-- `limit` of the quota check. -/
def dailyLimit (rt : Runtime) (organizationId : Uuid) (db : Db) : Int :=
  let org := (db.organizations.filter fun o =>
    (setOrganization organizationId {}).admits rt (some o.id) && o.id == organizationId).head?
  (org.bind (·.quota_requests_per_day)).getD (resolvePlan rt (org.map (·.plan_tier))).quotaRequestsPerDay

theorem dailyLimit_congr {s t : Db} (h : t.organizations = s.organizations) (organizationId : Uuid) :
    dailyLimit rt organizationId t = dailyLimit rt organizationId s := by
  unfold dailyLimit
  rw [h]

/-- The 202 of an accepted job. -/
def Event.isAcceptance : Event → Bool
  | .respond 202 (.accepted _) => true
  | _ => false

/-- A handler has accepted its job. -/
def Accepted (out : List Event) : Prop := out.any Event.isAcceptance = true

instance (out : List Event) : Decidable (Accepted out) := inferInstanceAs (Decidable (_ = true))

theorem not_accepted_nil : ¬ Accepted [] := by decide

theorem Rejected.not_accepted {out : List Event} (h : Rejected out) : ¬ Accepted out := by
  obtain ⟨status, code, error, quota, rfl⟩ := h
  simp [Accepted, Event.isAcceptance]

/-- The number of jobs accepted for an organisation. -/
def accepted [Fintype ι] (party : ι → Party) (organizationId : Uuid) (cfg : Config backend ι Unit) : Nat :=
  (Finset.univ.filter fun i => (party i).requests organizationId = true ∧ Accepted (cfg.thread i).loc.out).card

/-! ### What the programs leave alone -/

section Confined
variable {F : Frame backend} {W : List Event → Prop} {n : Nat} {out : List Event}

theorem createInferenceJob_confined {R : Async.Outcome backend Job} {requestId : Text} {input : JobInput} (hw : W out)
    (hjob : (insertJob rt requestId input).Keeps F) (hr : ∀ r, R r out) :
    (createInferenceJob rt requestId input).Confined F W R n n out := by
  have hn : 1 ≤ n + 1 := Nat.succ_pos n
  have hinsert : (insertQueued rt requestId input).Confined F W (fun r out => W out ∧ R r out ∧ ∀ e, R (.error e) out)
      (n + 1) (n + 1) out := by
    refine Async.confined_bind (Async.confined_query hw hn hjob (fun r => ?_) _)
    cases r with
    | error e => exact ⟨hw, hr _, fun _ => hr _⟩
    | ok _ => exact ⟨rfl, hw, hr _, fun _ => hr _⟩
  refine confined_withTenantTransaction hw (fun _ => hr _) ?_
  unfold findOrInsert
  split
  · refine Async.confined_bind (Async.confined_query hw hn (Stmt.keeps_select _ _) (fun r => ?_) _)
    cases r with
    | error e => exact ⟨hw, hr _, fun _ => hr _⟩
    | ok existing =>
      cases existing with
      | nil => exact hinsert
      | cons row rest => exact (Async.confined_ofExcept _ _).mpr ⟨hw, hr _, fun _ => hr _⟩
  · exact hinsert

theorem updateInferenceJob_confined {R : Async.Outcome backend Unit} {organizationId : Uuid} {requestId : Text}
    {patch : JobPatch} (hw : W out) (hjob : (updateJob rt organizationId requestId patch).Keeps F) (hr : ∀ r, R r out) :
    (updateInferenceJob rt organizationId requestId patch).Confined F W R n n out := by
  refine confined_withTenantTransaction hw (fun _ => hr _) ?_
  exact Async.confined_query hw (Nat.succ_pos n) hjob (fun r => ⟨hw, hr r, fun _ => hr _⟩) _

theorem generate_confined {R : Async.Outcome backend GenerateResult} {provider : ProviderAdapter} {input : GenerateInput}
    (hw : W out) (hr : ∀ r, R r out) : (provider.generate rt input).Confined F W R n n out := by
  cases provider with
  | notConfigured id reason => exact ⟨rfl, hr _⟩
  | openAi =>
    simp only [ProviderAdapter.generate, openAiGenerate]
    split
    · exact ⟨rfl, hr _⟩
    · split
      · exact ⟨rfl, hr _⟩
      · refine ⟨hw, fun r => ?_⟩
        cases r with
        | error e => exact ⟨rfl, hr _⟩
        | ok data =>
          change Async.Confined F W R n n out (if _ then _ else _)
          split
          · exact ⟨rfl, hr _⟩
          · exact ⟨rfl, hr _⟩

/-- The error responder answers or throws. -/
theorem onError_confined {R : Async.Outcome backend Unit} (e : ServiceError) (hthrow : R (.error .headersSent) out)
    (hrespond : ∀ status code error, R (.ok ()) (out ++ [.respond status (.rejected code error none)])) :
    (onError e).Confined F W R n n out := by
  obtain ⟨status, code, error, he⟩ := onError_respond e
  rw [he, respond, Async.confined_emit]
  split
  · exact hrespond _ _ _
  · rename_i err hrefuse
    have : err = .headersSent := by
      simp only [refuse] at hrefuse
      split at hrefuse <;> cases hrefuse
      rfl
    rw [this]
    exact hthrow

end Confined

/-! ### Whole programs -/

section Programs
variable {F : Frame backend} {R : Async.Outcome backend Unit}

/-- No condition on what is emitted. -/
abbrev anyOut : List Event → Prop := fun _ => True

theorem startJob_confined (haudit : ∀ event, (insertAuditEvent rt event).Keeps F)
    (husage : ∀ record, (insertUsageRecord rt record).Keeps F) (req : Request) (a : Admission) (job : Job)
    (hr : ∀ r out, R r out) : (startJob rt req a job).Confined F anyOut R 0 0 [] := by
  refine Async.confined_bind (Async.confined_pool trivial (haudit _) (fun r => ?_) _)
  cases r with
  | error e => exact hr _ _
  | ok _ =>
    refine Async.confined_bind ((Async.confined_emit _ _).mpr ?_)
    refine Async.confined_bind ((Async.confined_emit _ _).mpr ?_)
    exact Async.confined_pool trivial (husage _) (fun r => hr r _) _

theorem postInference_confined (haudit : ∀ event, (insertAuditEvent rt event).Keeps F)
    (husage : ∀ record, (insertUsageRecord rt record).Keeps F)
    (hjob : ∀ requestId input, (insertJob rt requestId input).Keeps F) (req : Request) :
    (postInference rt req).Confined F anyOut (fun _ _ => True) 0 0 [] := by
  have hcaught (r : Except ServiceError Unit) (out : List Event) :
      Async.caughtConfined F anyOut 0 onError (fun _ _ => True) r out := by
    cases r with
    | ok _ => trivial
    | error e => exact onError_confined e trivial fun _ _ _ => trivial
  refine Async.confined_handle (Async.confined_bind ?_)
  refine Async.confined_weaken (fun _ _ => trivial) (Async.confined_mono (admitRequest_confined (fun event _ => haudit event) req)
    fun r out h => ?_)
  match r with
  | .error e => exact hcaught (.error e) out
  | .ok none => exact ⟨rfl, hcaught _ _⟩
  | .ok (some a) =>
    obtain rfl : out = [] := h.1
    refine Async.confined_bind (createInferenceJob_confined trivial (hjob _ _) fun r => ?_)
    cases r with
    | error e => exact hcaught (.error e) []
    | ok job =>
      dsimp only [Async.nextConfined]
      split
      · exact confined_respond _ _ (hcaught _ _)
      · exact startJob_confined haudit husage req a job hcaught

theorem recordFailure_confined {W : List Event → Prop} {out : List Event}
    (haudit : ∀ event, (insertAuditEvent rt event).Keeps F)
    (hupdate : ∀ organizationId requestId patch, (updateJob rt organizationId requestId patch).Keeps F)
    (job : Execution) (e : ServiceError) (hw : W out) (hr : ∀ r, R r out) :
    (recordFailure rt job e).Confined F W R 0 0 out := by
  refine Async.confined_bind (updateInferenceJob_confined hw (hupdate _ _ _) fun r => ?_)
  cases r with
  | error e => exact hr _
  | ok _ => exact Async.confined_pool hw (haudit _) hr _

theorem executeInferenceJob_confined (haudit : ∀ event, (insertAuditEvent rt event).Keeps F)
    (husage : ∀ record, (insertUsageRecord rt record).Keeps F)
    (hupdate : ∀ organizationId requestId patch, (updateJob rt organizationId requestId patch).Keeps F)
    (job : Execution) : (executeInferenceJob rt job).Confined F anyOut (fun _ _ => True) 0 0 [] := by
  have hcaught (r : Except ServiceError Unit) (out : List Event) :
      Async.caughtConfined F anyOut 0 (recordFailure rt job) (fun _ _ => True) r out := by
    cases r with
    | ok _ => trivial
    | error e => exact recordFailure_confined haudit hupdate job e trivial fun _ => trivial
  refine Async.confined_bind (updateInferenceJob_confined trivial (hupdate _ _ _) fun r => ?_)
  cases r with
  | error e => trivial
  | ok _ =>
    refine Async.confined_handle (Async.confined_bind (generate_confined trivial fun r => ?_))
    cases r with
    | error e => exact hcaught (.error e) []
    | ok result =>
      refine Async.confined_bind (updateInferenceJob_confined trivial (hupdate _ _ _) fun r => ?_)
      cases r with
      | error e => exact hcaught (.error e) []
      | ok _ =>
        refine Async.confined_bind (Async.confined_pool trivial (husage _) (fun r => ?_) _)
        cases r with
        | error e => exact hcaught (.error e) []
        | ok _ => exact Async.confined_pool trivial (haudit _) (fun _ => hcaught _ _) _

theorem tick_confined (htime : ∀ elapsed, (passTime elapsed).Keeps F) (elapsed : List Nat) :
    (tick elapsed).Confined F anyOut (fun _ _ => True) 0 0 [] := by
  induction elapsed with
  | nil => exact ⟨rfl, trivial⟩
  | cons d rest ih =>
    refine Async.confined_bind (Async.confined_pool trivial (htime d) (fun r => ?_) _)
    cases r with
    | error e => trivial
    | ok _ => exact ih

/-- A frame that every statement keeps holds of every party. -/
theorem Party.confined (haudit : ∀ event, (insertAuditEvent rt event).Keeps F)
    (husage : ∀ record, (insertUsageRecord rt record).Keeps F)
    (hjob : ∀ requestId input, (insertJob rt requestId input).Keeps F)
    (hupdate : ∀ organizationId requestId patch, (updateJob rt organizationId requestId patch).Keeps F)
    (htime : ∀ elapsed, (passTime elapsed).Keeps F) (p : Party) :
    (p.program rt).Confined F anyOut (fun _ _ => True) 0 0 [] := by
  cases p with
  | request req => exact postInference_confined haudit husage hjob req
  | execution job => exact executeInferenceJob_confined haudit husage hupdate job
  | clock elapsed => exact tick_confined htime elapsed

end Programs

end GalaxiaAin.Tenant
