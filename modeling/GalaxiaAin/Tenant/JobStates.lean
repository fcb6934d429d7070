import GalaxiaAin.Tenant.Executor

/-! The states of a job under its executor and its cancellations. Every change of the status
is committed under the lock of the job's row; only a cancellation looks at the status first. -/
namespace GalaxiaAin.Tenant
open GalaxiaAin.Library

variable {rt : Runtime} {κ : Type}

/-- The statuses of a job's rows. -/
def statuses (organizationId : Uuid) (requestId : Text) (db : Db) : List InferenceJobStatus :=
  (db.inference_requests.filter fun r => r.organization_id == organizationId && r.request_id == requestId).map (·.status)

theorem statuses_mapJob {organizationId : Uuid} {requestId : Text} {f : InferenceRequest → InferenceRequest}
    {g : InferenceJobStatus → InferenceJobStatus}
    (hf : ∀ r, (f r).organization_id = r.organization_id ∧ (f r).request_id = r.request_id ∧ (f r).status = g r.status)
    (db : Db) : statuses organizationId requestId (db.mapJob organizationId requestId f) =
      (statuses organizationId requestId db).map g := by
  let named (r : InferenceRequest) : Bool := r.organization_id == organizationId && r.request_id == requestId
  have hnamed : (named ∘ fun r => if named r then f r else r) = named := by
    funext r
    have hfr : named (f r) = named r := by simp only [named, (hf r).1, (hf r).2.1]
    by_cases hr : named r <;> simp [hr, hfr]
  change (((db.inference_requests.map fun r => if named r then f r else r).filter named).map (·.status)) =
    ((db.inference_requests.filter named).map (·.status)).map g
  rw [List.filter_map, hnamed, List.map_map, List.map_map]
  refine List.map_congr_left fun r hr => ?_
  simp [(List.mem_filter.mp hr).2, (hf r).2.2]

/-- What a statement finds of a job it locks. -/
theorem statuses_of_jobRows {c : Settings} {organizationId : Uuid} {requestId : Text} {db : Db} {r : InferenceRequest}
    (h : r ∈ jobRows rt c db organizationId requestId) :
    r.request_id = requestId ∧ r.status ∈ statuses organizationId requestId db := by
  simp only [jobRows, List.mem_filter, Bool.and_eq_true, beq_iff_eq] at h
  refine ⟨h.2.2, List.mem_map.mpr ⟨r, List.mem_filter.mpr ⟨h.1, ?_⟩, rfl⟩⟩
  simp [h.2.1.2, h.2.2]

theorem mem_locks_of_jobRows {organizationId : Uuid} {requestId : Text} {c : Settings} {db : Db} {p : InferenceRequest → Bool}
    {r : InferenceRequest} (h : r ∈ (jobRows rt c db organizationId requestId).filter p) :
    Lock.job requestId ∈ ((jobRows rt c db organizationId requestId).filter p).map fun r => Lock.job r.request_id :=
  List.mem_map.mpr ⟨r, h, congrArg Lock.job (statuses_of_jobRows (List.mem_filter.mp h).1).1⟩

/-- An update finds nothing, or it locks the job's row and gives it the new status. -/
theorem updateJob_ok {organizationId : Uuid} {requestId : Text} {patch : JobPatch} {c : Settings} {s : Db} {x : Unit}
    {w : Db → Db} (hw : (updateJob rt organizationId requestId patch).run c s = .ok (x, w)) :
    w = id ∨ (Lock.job requestId ∈ (updateJob rt organizationId requestId patch).locks c s ∧
      ∀ t st, statuses organizationId requestId t = [st] → statuses organizationId requestId (w t) = [patch.status]) := by
  simp only [updateJob] at hw
  split at hw
  · cases hw; exact .inl rfl
  · rename_i hfound
    repeat' split at hw
    all_goals cases hw
    obtain ⟨r, rest, hrows⟩ := List.exists_cons_of_ne_nil hfound
    have hr : r ∈ jobRows rt c s organizationId requestId := hrows ▸ List.mem_cons_self
    refine .inr ⟨List.mem_map.mpr ⟨r, hr, congrArg Lock.job (statuses_of_jobRows hr).1⟩, fun t st ht => ?_⟩
    rw [statuses_mapJob (f := patch.apply s.now) (g := fun _ => patch.status) (fun r => ⟨rfl, rfl, rfl⟩), ht]
    rfl

/-- The status a cancellation leaves behind. -/
def cancelled (st : InferenceJobStatus) : InferenceJobStatus :=
  if st == .QUEUED || st == .RUNNING then .CANCELLED else st

/-- A cancellation finds nothing, or it locks the row of a job that is QUEUED or RUNNING. -/
theorem cancelJob_ok {organizationId : Uuid} {requestId : Text} {c : Settings} {s : Db} {n : Nat} {w : Db → Db}
    {st : InferenceJobStatus} (hs : statuses organizationId requestId s = [st])
    (hw : (cancelJob rt organizationId requestId).run c s = .ok (n, w)) :
    (n = 0 ∧ w = id) ∨ (Lock.job requestId ∈ (cancelJob rt organizationId requestId).locks c s ∧ st.completed = false ∧
      ∀ t, statuses organizationId requestId t = [st] → statuses organizationId requestId (w t) = [.CANCELLED]) := by
  simp only [cancelJob] at hw
  split at hw
  · cases hw; exact .inl ⟨rfl, rfl⟩
  · rename_i hfound
    cases hw
    obtain ⟨r, rest, hrows⟩ := List.exists_cons_of_ne_nil hfound
    have hr := List.mem_filter.mp (hrows ▸ List.mem_cons_self)
    obtain rfl : r.status = st := List.mem_singleton.mp (hs ▸ (statuses_of_jobRows hr.1).2)
    have hst : r.status = .QUEUED ∨ r.status = .RUNNING := by simpa [InferenceRequest.cancellable] using hr.2
    refine .inr ⟨mem_locks_of_jobRows (hrows ▸ List.mem_cons_self), by rcases hst with h | h <;> rw [h] <;> rfl,
      fun t ht => ?_⟩
    rw [statuses_mapJob (g := cancelled) (fun r => ?_), ht]
    · rcases hst with h | h <;> rw [h] <;> rfl
    · unfold cancelled
      cases h : r.cancellable
      · have : (r.status == .QUEUED || r.status == .RUNNING) = false := h
        simp [this]
      · have : (r.status == .QUEUED || r.status == .RUNNING) = true := h
        simp [this]

variable (job : Execution)

/-- The job has one row, with a status of the kind. -/
def InState (p : InferenceJobStatus → Prop) (db : Db) : Prop :=
  ∃ st, statuses job.organizationId job.requestId db = [st] ∧ p st

/-- The job is QUEUED or RUNNING. -/
abbrev Pending : Db → Prop := InState job fun st => st.completed = false

/-- A change of the status is committed under the row's lock, and the job was pending. -/
def Moves (l : Local backend) (s t : Db) : Prop :=
  statuses job.organizationId job.requestId t = statuses job.organizationId job.requestId s ∨
    (Lock.job job.requestId ∈ l.locks ∧ Pending job s ∧ InState job (fun _ => True) t)

/-- While it runs, the executor relies on nobody else changing the status. -/
def executorProtocol : Protocol backend where
  rely _ s t := statuses job.organizationId job.requestId t = statuses job.organizationId job.requestId s
  guar := Moves job
  inv _ _ := True

/-- A cancellation relies on its lock, and on terminal states being kept. -/
def cancelProtocol : Protocol backend where
  rely l s t :=
    (Lock.job job.requestId ∈ l.locks →
      statuses job.organizationId job.requestId t = statuses job.organizationId job.requestId s) ∧
    (InState job (fun _ => True) s → InState job (fun _ => True) t) ∧
    ∀ st, InState job (fun st' => st' = st ∧ st.completed = true) s → InState job (· = st) t
  guar := Moves job
  inv _ _ := True

/-- After SUCCEEDED is recorded, the executor's usage and audit calls do not throw; any
other call may fail. -/
def keepsSuccess : Policy backend := fun site db _ ok =>
  site = .usage ∨ site = .audit → statuses job.organizationId job.requestId db = [.SUCCEEDED] → ok = true

instance (site : Site) (db : Db) (a : Answer backend) (ok : Bool) : Decidable (keepsSuccess job site db a ok) :=
  inferInstanceAs (Decidable (_ → _))

section Executor
variable {job}

theorem InState.congr {p : InferenceJobStatus → Prop} {s t : Db} (h : InState job p s)
    (hr : statuses job.organizationId job.requestId t = statuses job.organizationId job.requestId s) : InState job p t :=
  h.imp fun _ h => ⟨hr.trans h.1, h.2⟩

theorem carried_inState (p : InferenceJobStatus → Prop) : Carried (executorProtocol job) fun s _ => InState job p s where
  rely _ _ _ h hr := h.congr hr
  sessions _ _ _ h _ := h
  inv _ _ _ := trivial

/-- An update of a pending job by its executor: the new status, or the job as it was. -/
theorem safe_updateInferenceJob {policy : Policy backend} {patch : JobPatch} {Q : Post backend Unit} {l : Local backend}
    (herr : ∀ e t, Pending job t → Q (.error e) t l)
    (hok : ∀ t, InState job (fun st => st.completed = false ∨ st = patch.status) t → Q (.ok ()) t l)
    {s : Db} (hs : Pending job s) :
    (updateInferenceJob rt job.organizationId job.requestId patch).safe policy (executorProtocol job) Q s l := by
  have hkeep {t : Db} (h : Pending job t) : InState job (fun st => st.completed = false ∨ st = patch.status) t :=
    h.imp fun _ h => ⟨h.1, .inl h.2⟩
  refine safe_withTenantTransaction (carried_inState _) (fun _ _ => .inl rfl) herr (fun t ht => ?_) hs
  rw [Async.query, Async.safe_await]
  intro u hu
  have hu' : Pending job u := ht.congr hu
  refine ⟨trivial, fun a _ => ?_⟩
  cases a with
  | fault f => exact ⟨.inl rfl, hu', rfl, rfl, fun _ h => by cases h⟩
  | done reply =>
    simp only [Call.exec, Call.serve, Local.top_cons, Local.setTop_cons, Session.query, id]
    cases hrun : (updateJob rt job.organizationId job.requestId patch).run (setOrganization job.organizationId {}) u with
    | error e =>
      rw [Stmt.reply_error hrun]
      exact ⟨.inl rfl, hu', rfl, trivial, fun _ h => by cases h⟩
    | ok o =>
      obtain ⟨⟨⟩, w⟩ := o
      rw [Stmt.reply_ok hrun, Stmt.effect_ok hrun]
      refine ⟨.inl rfl, hu', rfl, trivial, fun _ _ v hv => ?_⟩
      have hv' : Pending job v := hu'.congr hv
      rcases updateJob_ok hrun with rfl | ⟨hlock, hnew⟩
      · exact ⟨.inl rfl, hok v (hkeep hv')⟩
      · have hw := hnew v _ hv'.choose_spec.1
        refine ⟨.inr ⟨?_, hv', _, hw, trivial⟩, hok _ ⟨_, hw, .inr rfl⟩⟩
        simp [Local.locks, Session.locks, hlock]

/-- The provider changes nothing here. -/
theorem safe_generate {policy : Policy backend} {Q : Post backend GenerateResult} {l : Local backend}
    (provider : ProviderAdapter) (input : GenerateInput) {p : InferenceJobStatus → Prop}
    (hq : ∀ r t, InState job p t → Q r t l) {s : Db} (hs : InState job p s) :
    (provider.generate rt input).safe policy (executorProtocol job) Q s l := by
  cases provider with
  | notConfigured _ _ => exact hq _ s hs
  | openAi =>
    simp only [ProviderAdapter.generate, openAiGenerate]
    split
    · exact hq _ s hs
    · split
      · exact hq _ s hs
      · rw [Async.safe_bind, Async.safe_await]
        intro t ht
        have ht' := hs.congr ht
        refine ⟨trivial, fun a _ => ⟨by cases a <;> exact .inl rfl, ?_⟩⟩
        cases a with
        | fault f => exact hq _ t ht'
        | done reply =>
          change Async.safe _ _ (if _ then _ else _) _ t l
          split <;> exact hq _ t ht'

/-- A usage or audit record of the executor: when it throws, SUCCEEDED has not been recorded. -/
theorem safe_record {Q : Post backend Unit} {l : Local backend} {site : Site} (hsite : site = .usage ∨ site = .audit)
    {q : Stmt backend Unit} (hkeeps : q.Keeps (Frame.of (statuses job.organizationId job.requestId)))
    {p : InferenceJobStatus → Prop} (herr : ∀ e t, InState job (fun st => p st ∧ st ≠ .SUCCEEDED) t → Q (.error e) t l)
    (hok : ∀ t, InState job p t → Q (.ok ()) t l) {s : Db} (hs : InState job p s) :
    (Async.await site (.pool q)).safe (keepsSuccess job) (executorProtocol job) Q s l := by
  rw [Async.safe_await]
  intro t ht
  obtain ⟨st, hst, hp⟩ := hs.congr ht
  have hkept : statuses job.organizationId job.requestId (q.effect backend.initial t t) =
      statuses job.organizationId job.requestId t := hkeeps _ _ _
  refine ⟨trivial, fun a ha => ?_⟩
  have hthrown (h : (Call.exec (.pool q) a t l).1.isOk = false) : st ≠ .SUCCEEDED := by
    rintro rfl
    exact absurd (ha hsite hst) (by rw [h]; decide)
  cases a with
  | fault f => exact ⟨.inl rfl, herr _ t ⟨st, hst, hp, hthrown rfl⟩⟩
  | done reply =>
    refine ⟨.inl hkept, ?_⟩
    simp only [Call.exec, Call.serve] at hthrown ⊢
    cases hq : q.reply backend.initial t with
    | error e => exact herr e _ ⟨st, hkept.trans hst, hp, hthrown (by rw [hq]; rfl)⟩
    | ok _ => exact hok _ ⟨st, hkept.trans hst, hp⟩

/-- The executor moves the job from pending states only. -/
theorem safe_executeInferenceJob {Q : Post backend Unit} (hq : ∀ r s, Q r s .empty) {s : Db} (hs : Pending job s) :
    (executeInferenceJob rt job).safe (keepsSuccess job) (executorProtocol job) Q s .empty := by
  have hfailure (e : ServiceError) (t : Db) (ht : Pending job t) :
      (recordFailure rt job e).safe (keepsSuccess job) (executorProtocol job) Q t .empty := by
    rw [recordFailure, Async.safe_bind]
    refine safe_updateInferenceJob ?_ (fun u hu => ?_) ht
    · exact fun _ _ _ => hq _ _
    · exact safe_record (.inr rfl) (insertAuditEvent_keeps fun _ _ => rfl) (fun _ _ _ => hq _ _) (fun _ _ => hq _ _) hu
  rw [executeInferenceJob, Async.safe_bind]
  refine safe_updateInferenceJob ?_ (fun t ht => ?_) hs
  · exact fun _ _ _ => hq _ _
  have ht' : Pending job t := ht.imp fun st h => ⟨h.1, h.2.elim id fun he => he ▸ rfl⟩
  rw [Async.nextSafe_ok, Async.safe_handle, generateAndRecord, Async.safe_bind]
  refine safe_generate _ _ (fun r u hu => ?_) ht'
  cases r with
  | error e => exact hfailure e u hu
  | ok result =>
    rw [Async.nextSafe_ok, Async.safe_bind]
    refine safe_updateInferenceJob hfailure (fun v hv => ?_) hu
    -- SUCCEEDED may be recorded from here on: an error that is caught says it was not
    have hcaught (e : ServiceError) (w : Db) (hw : InState job
        (fun st => (st.completed = false ∨ st = .SUCCEEDED) ∧ st ≠ .SUCCEEDED) w) :
        (recordFailure rt job e).safe (keepsSuccess job) (executorProtocol job) Q w .empty :=
      hfailure e w (hw.imp fun st h => ⟨h.1, h.2.1.resolve_right h.2.2⟩)
    rw [Async.nextSafe_ok, Async.safe_bind]
    refine safe_record (.inl rfl) (insertUsageRecord_keeps fun _ _ => rfl) hcaught (fun w hw => ?_) hv
    refine safe_record (.inr rfl) (insertAuditEvent_keeps fun _ _ => rfl) hcaught ?_ hw
    exact fun _ _ => hq _ _

end Executor

section Cancellation
variable {job}

/-- A cancellation that returned true left the job CANCELLED. -/
def Cancelled (job : Execution) : Post backend (Option Bool) := fun r s _ =>
  InState job (fun _ => True) s ∧ (r = .ok (some true) → statuses job.organizationId job.requestId s = [.CANCELLED])

theorem carried_exists : Carried (cancelProtocol job) fun s _ => InState job (fun _ => True) s where
  rely _ _ _ h hr := hr.2.1 h
  sessions _ _ _ h _ := h
  inv _ _ _ := trivial

/-- A cancellation changes the status of a pending job it has locked, or nothing. -/
theorem safe_cancelInferenceJob {policy : Policy backend} {s : Db} (hs : InState job (fun _ => True) s) :
    (do let done ← cancelInferenceJob rt job.organizationId job.requestId
        return some done : Async backend (Option Bool)).safe policy (cancelProtocol job) (Cancelled job) s .empty := by
  rw [Async.safe_bind]
  refine safe_withTenantTransaction carried_exists (fun _ _ => .inl rfl) (fun e t ht => ⟨ht, fun h => by cases h⟩)
    (fun t ht => ?_) hs
  rw [cancelFound, Async.safe_bind, Async.query, Async.safe_await]
  intro u hu
  have hu' := hu.2.1 ht
  refine ⟨trivial, fun a _ => ?_⟩
  cases a with
  | fault f => exact ⟨.inl rfl, hu', rfl, rfl, fun _ h => by cases h⟩
  | done reply =>
    simp only [Call.exec, Call.serve, Local.top_cons, Local.setTop_cons, Session.query, id]
    cases hrun : (cancelJob rt job.organizationId job.requestId).run (setOrganization job.organizationId {}) u with
    | error e => simp only [cancelJob] at hrun; split at hrun <;> cases hrun
    | ok o =>
      obtain ⟨n, w⟩ := o
      rw [Stmt.reply_ok hrun, Stmt.effect_ok hrun]
      obtain ⟨st, hst, -⟩ := hu'
      refine ⟨.inl rfl, ⟨st, hst, trivial⟩, rfl, rfl, fun done hdone v hv => ?_⟩
      rcases cancelJob_ok hst hrun with ⟨rfl, rfl⟩ | ⟨hlock, hpending, hnew⟩
      · refine ⟨.inl rfl, hv.2.1 ⟨st, hst, trivial⟩, fun h => ?_⟩
        cases hdone; cases h
      · have hheld : Lock.job job.requestId ∈ Local.locks (B := backend) ⟨.active (setOrganization job.organizationId {})
            ((cancelJob rt job.organizationId job.requestId).locks (setOrganization job.organizationId {}) u ++ []) id ::
              [], []⟩ := by simp [Local.locks, Session.locks, hlock]
        have hv' : statuses job.organizationId job.requestId v = [st] := (hv.1 hheld).trans hst
        exact ⟨.inr ⟨hheld, ⟨st, hv', hpending⟩, _, hnew v hv', trivial⟩, ⟨_, hnew v hv', trivial⟩, fun _ => hnew v hv'⟩

end Cancellation

/-! ### Runs -/

/-- The executor, and the cancellations. -/
def attempt (rt : Runtime) (job : Execution) : Option κ → Async backend (Option Bool)
  | none => do
    executeInferenceJob rt job
    return none
  | some _ => do
    let done ← cancelInferenceJob rt job.organizationId job.requestId
    return some done

/-- The executor and the cancellations of a job, before their first step. -/
def attempts (rt : Runtime) (job : Execution) (db : Db) : Config backend (Option κ) (Option Bool) :=
  ⟨db, fun i => Thread.start (attempt rt job i)⟩

/-- A cancellation whose UPDATE finds the job QUEUED or RUNNING, and so locks its row, runs
after the executor has ended. -/
def cancelsAfter (cfg : Config backend (Option κ) (Option Bool)) (i : Option κ) (a : Answer backend) : Prop :=
  i.isSome → ¬ a.Faulty → Lock.job job.requestId ∈ cfg.wants i → (cfg.thread none).prog.result.isSome

instance (cfg : Config backend (Option κ) (Option Bool)) (i : Option κ) (a : Answer backend) :
    Decidable (cancelsAfter job cfg i a) :=
  inferInstanceAs (Decidable (_ → _ → _ → _))

def attemptProtocol : Option κ → Protocol backend
  | none => executorProtocol job
  | some _ => cancelProtocol job

def attemptOutcome : Option κ → Post backend (Option Bool)
  | none => fun _ _ _ => True
  | some _ => Cancelled job

/-- Handlers keep their protocols, and while the executor runs no cancellation holds the row. -/
structure Orderly (cfg : Config backend (Option κ) (Option Bool)) : Prop where
  isProtected : cfg.Protected (keepsSuccess job) (attemptProtocol job) (attemptOutcome job)
  row : InState job (fun _ => True) cfg.store
  free : ∀ k, Lock.job job.requestId ∈ (cfg.thread (some k)).loc.locks → (cfg.thread none).prog.result.isSome

section Runs
variable {job} {cfg : Config backend (Option κ) (Option Bool)} {i : Option κ} {a : Answer backend}

theorem attemptProtocol_refl (i : Option κ) (l : Local backend) (s : Db) : (attemptProtocol job i).rely l s s := by
  cases i with
  | none => exact rfl
  | some k => exact ⟨fun _ => rfl, id, fun st ⟨st', h, he, _⟩ => ⟨st', h, he⟩⟩

theorem cancelProtocol_trans {l : Local backend} {s t u : Db} (h : (cancelProtocol job).rely l s t)
    (h' : (cancelProtocol job).rely l t u) : (cancelProtocol job).rely l s u := by
  refine ⟨fun hl => (h'.1 hl).trans (h.1 hl), fun hs => h'.2.1 (h.2.1 hs), fun st hs => h'.2.2 st ?_⟩
  obtain ⟨st', ht, he⟩ := h.2.2 st hs
  exact ⟨st', ht, he, hs.choose_spec.2.2⟩

/-- Whoever moves the job leaves those alone that do not hold its row. -/
theorem Moves.rely {l k : Local backend} {s t : Db} (h : Moves job l s t) (hd : l.locks.Disjoint k.locks) :
    (cancelProtocol job).rely k s t := by
  rcases h with hsame | ⟨hlock, ⟨st, hst, hpending⟩, ht⟩
  · exact ⟨fun _ => hsame, fun hs => hs.congr hsame, fun st ⟨st', h, he, _⟩ => ⟨st', hsame.trans h, he⟩⟩
  · refine ⟨fun hk => absurd hk (hd hlock), fun _ => ht, fun st' ⟨st'', hst'', he, hc⟩ => ?_⟩
    obtain rfl : st = st'' := (List.cons.inj (hst.symm.trans hst'')).1
    rw [← he, hpending] at hc
    cases hc

theorem attempts_orderly {db : Db} (hdb : statuses job.organizationId job.requestId db = [.QUEUED]) :
    Orderly job (attempts rt job db : Config backend (Option κ) (Option Bool)) := by
  have hpending : Pending job db := ⟨_, hdb, rfl⟩
  have hrow : InState job (fun _ => True) db := ⟨_, hdb, trivial⟩
  refine ⟨Config.Protected.start fun i => ?_, hrow, fun k hk => ?_⟩
  · cases i with
    | none =>
      refine (Async.safe_bind _ _ _ _ _).mpr (safe_executeInferenceJob (fun r s => ?_) hpending)
      cases r <;> trivial
    | some k => exact safe_cancelInferenceJob hrow
  · exact absurd (Async.mem_locks_settle hk) (by simp [Local.empty, Local.locks])

variable [DecidableEq κ]

/-- A step moves the job under its row's lock, from a pending state only. -/
theorem Orderly.moves (h : Orderly job cfg) (he : cfg.Enabled (keepsSuccess job) i a) :
    Moves job (cfg.thread i).loc cfg.store (cfg.fire i a).store := by
  have := h.isProtected.guar attemptProtocol_refl he
  cases i with
  | none => exact this
  | some k => exact this

theorem Orderly.fire (h : Orderly job cfg) (he : cfg.Enabled (keepsSuccess job) i a) (hg : cancelsAfter job cfg i a) :
    Orderly job (cfg.fire i a) := by
  have hmoves := h.moves he
  refine ⟨h.isProtected.fire_of attemptProtocol_refl he fun j hj => ?_, ?_, fun k hk => ?_⟩
  · cases j with
    | none =>
      cases hr : (cfg.thread none).prog.result with
      | some r => exact Config.safe_ended (by rw [hr]; simp) fun _ _ => trivial
      | none =>
        -- the executor still runs, so a cancellation that steps does not hold the row
        obtain ⟨k, rfl⟩ : ∃ k, i = some k := Option.ne_none_iff_exists'.mp (Ne.symm hj)
        have hsame := hmoves.resolve_right fun hm => by
          have := h.free k hm.1
          rw [hr] at this
          cases this
        exact Config.safe_stable (fun u hu => Eq.trans hu hsame) (fun _ _ _ => trivial) (h.isProtected.settled none)
          (h.isProtected.safe none)
    | some k =>
      have hrely := hmoves.rely (h.isProtected.apart i (some k) (Ne.symm hj))
      refine Config.safe_stable (fun u hu => cancelProtocol_trans hrely hu) (fun r _ hq => ?_)
        (h.isProtected.settled (some k)) (h.isProtected.safe (some k))
      refine ⟨hrely.2.1 hq.1, fun hdone => ?_⟩
      obtain ⟨st, hst, rfl⟩ := hrely.2.2 .CANCELLED ⟨_, hq.2 hdone, rfl, rfl⟩
      exact hst
  · exact hmoves.elim (fun hsame => h.row.congr hsame) fun hm => hm.2.2
  · by_cases hki : some k = i
    · subst hki
      rw [Config.fire_other a (by simp)]
      exact (Config.mem_locks_fire hk).elim (h.free k) fun hw => hg rfl hw.1 hw.2
    · rw [Config.fire_other a hki] at hk
      have hended := h.free k hk
      have hi : none ≠ i := fun hi => by
        rw [hi, he.running] at hended
        cases hended
      rwa [Config.fire_other a hi]

end Runs

/-- A job of the pilot organisation. -/
def pilotJob : Execution :=
  ⟨pilotOrg.id, none, none, units "r1", units "openai", units "gpt-4o-mini", units "aa"⟩

/-- The job, queued. -/
def queuedDb : Db :=
  { pilotDb with inference_requests := [⟨pilotOrg.id, none, none, units "r1", none, none, units "openai",
    units "gpt-4o-mini", .QUEUED, some 2, none, none, none, 0, 0, none⟩] }

end GalaxiaAin.Tenant
