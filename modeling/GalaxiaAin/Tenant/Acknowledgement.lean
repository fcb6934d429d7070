import GalaxiaAin.Tenant.Uniqueness

/-! Acknowledged jobs among concurrent requests. A new job is acknowledged and scheduled in
the turn that records its start; a job found under its key is acknowledged by itself. -/
namespace GalaxiaAin.Tenant
open GalaxiaAin.Library

variable {rt : Runtime} {ι : Type}

namespace Event

/-- The request id a response with `ok: true` carries. -/
def acknowledged : Event → Option Text
  | .respond _ body => body.acknowledges
  | .schedule _ => none

/-- The request id `executeInferenceJob` is scheduled for. -/
def scheduled : Event → Option Text
  | .respond _ _ => none
  | .schedule job => some job.requestId

end Event

/-- The audit log has the start of a job. -/
def Started (requestId : Text) (db : Db) : Prop := ∃ e ∈ startedEvents db, e.request_id = some requestId

instance (requestId : Text) (db : Db) : Decidable (Started requestId db) :=
  inferInstanceAs (Decidable (∃ e ∈ startedEvents db, e.request_id = some requestId))

/-- Any call may fail; a lookup that acknowledges a job finds it started. -/
def findsStarted (rt : Runtime) : Policy backend
  | .lookup organizationId key hash, db, .done _, _ =>
    match (db.inference_requests.filter fun r => (setOrganization organizationId {}).admits rt (some r.organization_id) &&
      r.organization_id == organizationId && r.idempotency_key == some key).head? with
    | some row => (acknowledge hash row).isOk = true → Started row.request_id db
    | none => True
  | _, _, _, _ => True

instance (site : Site) (db : Db) (a : Answer backend) (ok : Bool) : Decidable (findsStarted rt site db a ok) := by
  unfold findsStarted
  split
  · split <;> infer_instance
  · infer_instance

/-- The concurrent requests, before their first step. -/
def requests (rt : Runtime) (req : ι → Request) (db : Db) : Config backend ι Unit :=
  ⟨db, fun i => Thread.start (postInference rt (req i))⟩

/-- Whatever a response acknowledged was scheduled, by a handler or before the run. -/
def AllScheduled (before : List Text) (cfg : Config backend ι Unit) : Prop :=
  ∀ i requestId, some requestId ∈ (cfg.thread i).loc.out.map Event.acknowledged →
    requestId ∈ before ∨ ∃ j, some requestId ∈ (cfg.thread j).loc.out.map Event.scheduled

/-- A handler has responded at most once, and once when it has ended. -/
def AllAnswered (cfg : Config backend ι Unit) : Prop :=
  ∀ i, (cfg.thread i).loc.out.countP Event.isResponse ≤ 1 ∧
    ((cfg.thread i).prog.result ≠ none → (cfg.thread i).loc.out.countP Event.isResponse = 1)

theorem startedEvents_congr {s t : Db} (h : startedEvents t = startedEvents s) (requestId : Text) :
    Started requestId t ↔ Started requestId s := by unfold Started; rw [h]

/-- Starts are only added; a handler adds its own request's. -/
def startProtocol (ids : Text → Prop) (before : List Text) (known : Text → Db → Prop) (requestId : Text) :
    Protocol backend where
  rely _ s t := (∀ r, Started r s → Started r t) ∧ ∀ r, Started r t → Started r s ∨ (r ≠ requestId ∧ ids r)
  guar _ s t := (∀ r, Started r s → Started r t) ∧ ∀ r, Started r t → Started r s ∨ r = requestId
  inv s l := (∀ r, Started r s → r ∈ before ∨ ids r) ∧
    (Started requestId s → requestId ∈ before ∨ some requestId ∈ l.out.map Event.scheduled) ∧
    (∀ r, some r ∈ l.out.map Event.acknowledged → known r s ∨ some r ∈ l.out.map Event.scheduled) ∧
    l.out.countP Event.isResponse ≤ 1

section Handler
variable {ids : Text → Prop} {before : List Text} {known : Text → Db → Prop} {requestId : Text}

/-- The handler has ended with one response. -/
def Told (ids : Text → Prop) (before : List Text) (known : Text → Db → Prop) (requestId : Text) : Post backend Unit :=
  fun _ s l => (startProtocol ids before known requestId).inv s l ∧ l.out.countP Event.isResponse = 1

/-- Before the handler's own job is there, nothing has been emitted. -/
def Unstarted (ids : Text → Prop) (before : List Text) (requestId : Text) (s : Db) (l : Local backend) : Prop :=
  (∀ r, Started r s → r ∈ before ∨ ids r) ∧ (Started requestId s → requestId ∈ before) ∧ l.out = []

theorem startProtocol_compatible (req : ι → Request) (hids : Function.Injective fun i => (req i).requestId) :
    Compatible fun i => startProtocol (fun r => ∃ j, (req j).requestId = r) before known (req i).requestId where
  refl _ _ _ := ⟨fun _ h => h, fun _ h => .inl h⟩
  trans _ _ _ _ _ h h' := ⟨fun r hr => h'.1 r (h.1 r hr), fun r hr => (h'.2 r hr).elim (h.2 r) .inr⟩
  fits i _ _ _ _ _ hij _ h :=
    ⟨h.1, fun r hr => (h.2 r hr).imp_right fun he => ⟨fun hr' => hij (hids (he.symm.trans hr')), i, he.symm⟩⟩

theorem guar_of_starts {l : Local backend} {s t : Db} (h : startedEvents t = startedEvents s) :
    (startProtocol ids before known requestId).guar l s t :=
  ⟨fun r => (startedEvents_congr h r).mpr, fun r hr => .inl ((startedEvents_congr h r).mp hr)⟩

/-- Others' steps leave what the handler has told true. -/
theorem inv_rely (hknown : ∀ r s t, (∀ r, Started r s → Started r t) → known r s → known r t) {s t : Db}
    {l l' : Local backend} (h : (startProtocol ids before known requestId).inv s l)
    (hr : (startProtocol ids before known requestId).rely l' s t) : (startProtocol ids before known requestId).inv t l := by
  obtain ⟨hall, hown, hack, hcount⟩ := h
  refine ⟨fun r hst => (hr.2 r hst).elim (hall r) fun h => .inr h.2, fun hst => ?_, fun r hm => ?_, hcount⟩
  · exact (hr.2 _ hst).elim hown fun h => absurd rfl h.1
  · exact (hack r hm).imp_left (hknown r s t hr.1)

theorem told_stable (hknown : ∀ r s t, (∀ r, Started r s → Started r t) → known r s → known r t) :
    Async.Stable (startProtocol ids before known requestId) (Told ids before known requestId) :=
  fun _ _ _ _ h hr => ⟨inv_rely hknown h.1 hr, h.2⟩

theorem carried_unstarted :
    Carried (startProtocol ids before known requestId) (Unstarted ids before requestId) where
  rely s t l h hr := ⟨fun r hst => (hr.2 r hst).elim (h.1 r) fun h => .inr h.2,
    fun hst => (hr.2 _ hst).elim h.2.1 fun h => absurd rfl h.1, h.2.2⟩
  sessions s l l' h ho := ⟨h.1, h.2.1, ho.trans h.2.2⟩
  inv s l h := ⟨h.1, fun hst => .inl (h.2.1 hst), by rw [h.2.2]; simp, by rw [h.2.2]; simp⟩

/-- A rejection of an unanswered request tells nothing false. -/
theorem told_rejected {s : Db} {out : List Event} {r : Except ServiceError Unit}
    (hs : Unstarted ids before requestId s .empty) (hout : Rejected out) :
    Told ids before known requestId r s ⟨[], out⟩ := by
  obtain ⟨status, code, error, quota, rfl⟩ := hout
  refine ⟨⟨hs.1, fun hst => .inl (hs.2.1 hst), fun r hr => ?_, by simp [Event.isResponse]⟩, by simp [Event.isResponse]⟩
  simp [Event.acknowledged, Body.acknowledges] at hr

/-- The responses and the schedule of a new job tell the truth. -/
theorem told_answered {req : Request} (a : Admission) {s : Db} (hs : ∀ r, Started r s → r ∈ before ∨ ids r)
    (r : Except ServiceError Unit) : Told ids before known req.requestId r s
      ⟨[], [.respond 202 (.accepted req.requestId), .schedule (execution req a req.requestId)]⟩ := by
  refine ⟨⟨hs, fun _ => .inr (by simp [Event.scheduled, execution]), fun r hr => .inr ?_, Nat.le_refl 1⟩, rfl⟩
  have : r = req.requestId := by simpa [Event.acknowledged, Body.acknowledges, eq_comm] using hr
  simp [this, Event.scheduled, execution]

/-- The usage record of a job that is answered and scheduled; its failure tells nothing new. -/
theorem safe_recordUsage {policy : Policy backend} {req : Request} (a : Admission) {s : Db}
    (hs : ∀ r, Started r s → r ∈ before ∨ ids r) (record : UsageInput) :
    (appendUsageRecord rt record).safe policy (startProtocol ids before known req.requestId)
      (Async.caughtSafe policy (startProtocol ids before known req.requestId) onError
        (Told ids before known req.requestId)) s
      ⟨[], [.respond 202 (.accepted req.requestId), .schedule (execution req a req.requestId)]⟩ := by
  rw [appendUsageRecord, Async.safe_await]
  intro t hr
  have ht (r : Text) (h : Started r t) : r ∈ before ∨ ids r := (hr.2 r h).elim (hs r) fun h => .inr h.2
  refine ⟨(told_answered a ht (.ok ())).1, fun answer _ => ?_⟩
  cases answer with
  | fault f => exact ⟨guar_of_starts rfl, safe_onError_answered _ rfl (told_answered a ht _)⟩
  | done reply =>
    have hkept : startedEvents ((insertUsageRecord rt record).effect backend.initial t t) = startedEvents t :=
      insertUsageRecord_keeps (f := startedEvents) (fun _ _ => rfl) _ _ _
    have hu := fun r h => ht r ((startedEvents_congr hkept r).mp h)
    refine ⟨guar_of_starts hkept, ?_⟩
    simp only [Call.exec, Call.serve]
    cases (insertUsageRecord rt record).reply backend.initial t with
    | error e => exact safe_onError_answered _ rfl (told_answered a hu _)
    | ok _ => exact told_answered a hu (.ok ())

/-- The start of the handler's own job: recorded, acknowledged and scheduled in one turn. -/
theorem safe_startJob {policy : Policy backend} {req : Request} (hid : ids req.requestId) (a : Admission) {s : Db}
    (hs : Unstarted ids before req.requestId s .empty) :
    ((startJob rt req a ⟨req.requestId, .QUEUED, false⟩).handle onError).safe policy
      (startProtocol ids before known req.requestId) (Told ids before known req.requestId) s .empty := by
  have hI : Carried (startProtocol ids before known req.requestId) (Unstarted ids before req.requestId) :=
    carried_unstarted
  have hfailed (e : ServiceError) (t : Db) (ht : Unstarted ids before req.requestId t .empty) :
      (onError e).safe policy (startProtocol ids before known req.requestId) (Told ids before known req.requestId) t
        .empty := safe_onError e fun out hout => told_rejected ht hout
  rw [Async.safe_handle, startJob, Async.safe_bind, appendAuditEvent, Async.safe_await]
  intro t hr
  have ht := hI.rely s t .empty hs hr
  refine ⟨hI.inv t _ ht, fun answer _ => ?_⟩
  cases answer with
  | fault f => exact ⟨guar_of_starts rfl, hfailed _ t ht⟩
  | done reply =>
    simp only [Call.exec, Call.serve]
    cases hw : (insertAuditEvent rt (startedAudit req req.requestId)).run backend.initial t with
    | error e =>
      rw [Stmt.reply_error hw, Stmt.effect_error hw]
      exact ⟨guar_of_starts rfl, hfailed e t ht⟩
    | ok o =>
      obtain ⟨⟨⟩, w⟩ := o
      rw [Stmt.reply_ok hw, Stmt.effect_ok hw]
      obtain ⟨row, hrow, rfl⟩ := insertAuditEvent_ok hw
      have hrowId : row.request_id = orNull (some req.requestId) := (auditRow_ok hrow).2
      have hgrows (r : Text) : Started r t → Started r { t with audit_events := t.audit_events ++ [row] } := by
        rintro ⟨e, he, hid⟩
        refine ⟨e, ?_, hid⟩
        rw [startedEvents, List.mem_filter] at he ⊢
        exact ⟨List.mem_append_left _ he.1, he.2⟩
      have hadds (r : Text) (h : Started r { t with audit_events := t.audit_events ++ [row] }) :
          Started r t ∨ r = req.requestId := by
        obtain ⟨e, he, hid⟩ := h
        rw [startedEvents, List.mem_filter] at he
        rcases List.mem_append.mp he.1 with hold | hnew
        · exact .inl ⟨e, List.mem_filter.mpr ⟨hold, he.2⟩, hid⟩
        · rw [List.mem_singleton.mp hnew, hrowId, orNull, Option.filter_eq_some_iff] at hid
          exact .inr (Option.some.inj hid.1).symm
      have hall (r : Text) (h : Started r { t with audit_events := t.audit_events ++ [row] }) : r ∈ before ∨ ids r :=
        (hadds r h).elim (ht.1 r) fun he => .inr (he ▸ hid)
      refine ⟨⟨hgrows, hadds⟩, ?_⟩
      -- the 202 and the schedule are emitted before the next call
      change Async.safe policy _ (appendUsageRecord rt _) _ _ ⟨[], [.respond 202 (.accepted req.requestId),
        .schedule (execution req a req.requestId)]⟩
      exact safe_recordUsage a hall _

/-- The route keeps its protocol when what its lookups find is known to be scheduled. -/
theorem safe_postInference_told (hknown : ∀ r s t, (∀ r, Started r s → Started r t) → known r s → known r t)
    {policy : Policy backend} {req : Request} (hid : ids req.requestId)
    (hfound : ∀ s reply key row rest job (input : JobInput),
      policy (.lookup input.organizationId key (input.hash rt)) s (.done reply) true →
      rowsFor rt input key s = row :: rest → acknowledge (input.hash rt) row = .ok job → known job.requestId s)
    {s : Db} (hs : ∀ r, Started r s → r ∈ before) :
    (postInference rt req).safe policy (startProtocol ids before known req.requestId)
      (Told ids before known req.requestId) s .empty := by
  refine safe_postInference carried_unstarted (fun _ _ => guar_of_starts rfl)
    (fun l t u h => guar_of_starts (congrArg Prod.snd h)) ?_ (fun t out ht hout => told_rejected ht hout) ?_ ?_
    ⟨fun r h => .inl (hs r h), fun h => hs _ h, rfl⟩
  · intro t u l l' ht hk hq
    have hstarts : startedEvents u = startedEvents t := congrArg Prod.snd hk
    exact ⟨fun r h => ht.1 r ((startedEvents_congr hstarts r).mp h),
      fun h => ht.2.1 ((startedEvents_congr hstarts _).mp h), hq⟩
  · intro a t reply key row rest job _ _ _ hpol hrows hack l' u hu hr
    refine ⟨⟨hu.1, fun h => .inl (hu.2.1 h), fun r hr' => .inl ?_, Nat.le_refl 1⟩, rfl⟩
    have : r = job.requestId := by simpa [Event.acknowledged, Body.acknowledges, eq_comm] using hr'
    rw [this]
    exact hknown _ t u hr.1 (hfound t reply key row rest job _ hpol hrows hack)
  · intro a t w _ _ hrun l' u hu _ _
    obtain ⟨row, -, -, -, -, rfl⟩ := insertJob_ok hrun
    exact ⟨guar_of_starts rfl, safe_startJob hid a hu⟩

end Handler

/-- The handlers of a run keep their protocols. -/
theorem requests_protected [DecidableEq ι] {req : ι → Request} (hids : Function.Injective fun i => (req i).requestId)
    {before : List Text} (known : Text → Db → Prop) {policy : Policy backend}
    (hknown : ∀ r s t, (∀ r, Started r s → Started r t) → known r s → known r t)
    (hfound : ∀ s reply key row rest job (input : JobInput),
      policy (.lookup input.organizationId key (input.hash rt)) s (.done reply) true →
      rowsFor rt input key s = row :: rest → acknowledge (input.hash rt) row = .ok job → known job.requestId s)
    {db : Db} (hdb : ∀ r, Started r db → r ∈ before) {script : List (ι × Answer backend)}
    (hruns : (requests rt req db).Runs policy script) (i : ι) :
    let cfg := (requests rt req db).after script
    (startProtocol (fun r => ∃ j, (req j).requestId = r) before known (req i).requestId).inv cfg.store
        (cfg.thread i).loc ∧
      ((cfg.thread i).prog.result ≠ none → (cfg.thread i).loc.out.countP Event.isResponse = 1) := by
  intro cfg
  have hcompat : Compatible fun i =>
      startProtocol (fun r => ∃ j, (req j).requestId = r) before known (req i).requestId :=
    startProtocol_compatible req hids
  have hstart : (requests rt req db).Protected policy
      (fun i => startProtocol (fun r => ∃ j, (req j).requestId = r) before known (req i).requestId)
      (fun i => Told (fun r => ∃ j, (req j).requestId = r) before known (req i).requestId) :=
    Config.Protected.start fun i => safe_postInference_told hknown ⟨i, rfl⟩ hfound hdb
  have hprot := Config.Protected.after hcompat (fun i => told_stable hknown) script hstart hruns
  cases hr : (cfg.thread i).prog.result with
  | none => exact ⟨hprot.inv hcompat i hr, fun h => absurd rfl h⟩
  | some r => exact ⟨(hprot.outcome i hr).1, fun _ => (hprot.outcome i hr).2⟩

/-- In every run of concurrent requests, whichever calls fail, each is answered once; and
where every lookup that acknowledges a job finds it started, whatever is acknowledged has
been scheduled. -/
theorem acknowledged_jobs_scheduled [DecidableEq ι] (req : ι → Request)
    (hids : Function.Injective fun i => (req i).requestId) {before : List Text} {db : Db}
    (hdb : ∀ r, Started r db → r ∈ before) (script : List (ι × Answer backend))
    (hruns : (requests rt req db).Runs (fun _ _ _ _ => True) script) :
    let cfg := (requests rt req db).after script
    AllAnswered cfg ∧ ((requests rt req db).Runs (findsStarted rt) script → AllScheduled before cfg) := by
  intro cfg
  refine ⟨fun i => ?_, fun hfinds i r hr => ?_⟩
  · have := requests_protected hids (fun _ _ => True) (fun _ _ _ _ h => h)
      (fun _ _ _ _ _ _ _ _ _ _ => trivial) hdb hruns i
    exact ⟨this.1.2.2.2, this.2⟩
  · have h := requests_protected hids (fun r db => r ∈ before ∨ Started r db)
      (fun r s t hmono h => h.imp_right (hmono r)) (fun s reply key row rest job input hpol hrows hack => ?_) hdb hfinds
    · rcases (h i).1.2.2.1 r hr with (hbefore | hstarted) | hscheduled
      · exact .inl hbefore
      · rcases (h i).1.1 r hstarted with hbefore | ⟨j, rfl⟩
        · exact .inl hbefore
        · exact ((h j).1.2.1 hstarted).imp_right fun hs => ⟨j, hs⟩
      · exact .inr ⟨i, hscheduled⟩
    · rw [findsStarted, show (s.inference_requests.filter _).head? = some row from congrArg List.head? hrows] at hpol
      have hrow := hpol (by rw [hack]; rfl)
      rw [acknowledge_ok hack]
      exact .inr hrow

/-- The audit append of a new job fails and the request is retried: the retry is answered
with the job, and nothing is scheduled. -/
theorem retry_acknowledges_unscheduled :
    let rt := Runtime.pilot false pilotDigest
    let req (retry : Bool) := pilotRequest (if retry then "r2" else "r1") "aa"
    let served : Answer backend := .done backend.usual
    let script := List.replicate 12 (false, served) ++ (false, .fault none) :: List.replicate 11 (true, served)
    let cfg := (requests rt req pilotDb).after script
    (requests rt req pilotDb).Runs (fun _ _ _ _ => True) script ∧
      (cfg.thread true).loc.out.map Event.response = [some (200, .idempotent (units "r1") .QUEUED)] ∧
      ¬ AllScheduled [] cfg := by
  intro rt req served script cfg
  obtain ⟨hruns, hout, hack, hnone⟩ : (requests rt req pilotDb).Runs (fun _ _ _ _ => True) script ∧
      (cfg.thread true).loc.out.map Event.response = [some (200, .idempotent (units "r1") .QUEUED)] ∧
      some (units "r1") ∈ (cfg.thread true).loc.out.map Event.acknowledged ∧
      ∀ i, some (units "r1") ∉ (cfg.thread i).loc.out.map Event.scheduled := by decide +kernel
  clear_value cfg
  refine ⟨hruns, hout, fun h => ?_⟩
  rcases h true _ hack with hbefore | ⟨i, hi⟩
  · cases hbefore
  · exact hnone i hi

/-- Two requests under one key: the first starts its job, the second is answered with it. -/
theorem acknowledged_jobs_scheduled_retry :
    let rt := Runtime.pilot false pilotDigest
    let req (retry : Bool) := pilotRequest (if retry then "r2" else "r1") "aa"
    let served : Answer backend := .done backend.usual
    let script := List.replicate 14 (false, served) ++ List.replicate 11 (true, served)
    let cfg := (requests rt req pilotDb).after script
    AllAnswered cfg ∧ AllScheduled [] cfg := by
  intro rt req served script cfg
  have hids : Function.Injective fun retry => (req retry).requestId := by decide
  have hdb : ∀ r, Started r pilotDb → r ∈ ([] : List Text) := fun r ⟨e, he, _⟩ => by cases he
  obtain ⟨hruns, hfinds⟩ : (requests rt req pilotDb).Runs (fun _ _ _ _ => True) script ∧
      (requests rt req pilotDb).Runs (findsStarted rt) script := by decide +kernel
  have h := acknowledged_jobs_scheduled req hids hdb script hruns
  rw [show (requests rt req pilotDb).after script = cfg from rfl] at h
  exact ⟨h.1, h.2 hfinds⟩

end GalaxiaAin.Tenant
