import GalaxiaAin.Tenant.Metering
import Mathlib.Algebra.BigOperators.Group.Finset.Piecewise

/-! The balance of the meter: an accepted request is recorded once by its route, and once
more by an execution that succeeds. -/
namespace GalaxiaAin.Tenant
open GalaxiaAin.Library

variable {rt : Runtime} {ι : Type}

/-- The row the route records for a request. -/
def queuedRow (organizationId : Uuid) (requestId : Text) (row : UsageRecord) : Bool :=
  row.organization_id == organizationId && row.request_id == requestId && row.status == units "QUEUED"

/-- A row an execution records. -/
def succeededRow (organizationId : Uuid) (row : UsageRecord) : Bool :=
  row.organization_id == organizationId && row.status == units "SUCCEEDED"

/-- The usage rows a party may add. -/
def Party.records : Party → UsageRecord → Bool
  | .request req => queuedRow req.auth.organizationId req.requestId
  | .execution job => succeededRow job.organizationId
  | .clock _ => fun _ => false

/-- The day goes on, and usage rows of a kind are added; without the row-level policies,
since the pool's transactions carry no organisation. -/
def Adds (rt : Runtime) (p : UsageRecord → Prop) (s t : Db) : Prop :=
  t.now / msPerDay = s.now / msPerDay ∧ ∃ rows, t.usage_records = s.usage_records ++ rows ∧
    ∀ row ∈ rows, p row ∧ row.created_at / msPerDay = s.now / msPerDay ∧ rt.rowSecurity = false

namespace Adds
variable {p q : UsageRecord → Prop} {s t u : Db}

theorem of_eq (hnow : t.now = s.now) (hrows : t.usage_records = s.usage_records) : Adds rt p s t :=
  ⟨by rw [hnow], [], by rw [hrows, List.append_nil], fun _ h => by cases h⟩

theorem mono (h : Adds rt p s t) (hp : ∀ row, p row → q row) : Adds rt q s t := by
  obtain ⟨hday, rows, hrows, hadd⟩ := h
  exact ⟨hday, rows, hrows, fun row hr => ⟨hp row (hadd row hr).1, (hadd row hr).2⟩⟩

theorem trans (h : Adds rt p s t) (h' : Adds rt p t u) : Adds rt p s u := by
  obtain ⟨hday, rows, hrows, hadd⟩ := h
  obtain ⟨hday', rows', hrows', hadd'⟩ := h'
  refine ⟨hday'.trans hday, rows ++ rows', by rw [hrows', hrows, List.append_assoc], fun row hr => ?_⟩
  rcases List.mem_append.mp hr with hr | hr
  · exact hadd row hr
  · exact ⟨(hadd' row hr).1, (hadd' row hr).2.1.trans hday, (hadd' row hr).2.2⟩

/-- Rows of other kinds leave a count alone. -/
theorem countP (h : Adds rt p s t) {c : UsageRecord → Bool} (hc : ∀ row, p row → c row = false) :
    t.usage_records.countP c = s.usage_records.countP c := by
  obtain ⟨-, rows, hrows, hadd⟩ := h
  have hnone : rows.countP c = 0 := by
    rw [List.countP_eq_zero]
    intro row hr
    simp [hc row (hadd row hr).1]
  rw [hrows, List.countP_append, hnone, Nat.add_zero]

end Adds

/-- A usage record among other handlers. -/
theorem safe_appendUsageRecord {policy : Policy backend} {P : Protocol backend} {I : Db → Local backend → Prop}
    (hI : Carried P I) (hrefl : ∀ l s, P.guar l s s) {record : UsageInput} {Q : Post backend Unit} {l : Local backend}
    (herr : ∀ e t, I t l → Q (.error e) t l)
    (hok : ∀ t row, I t l → usageRow rt record t.now = .ok row → rt.rowSecurity = false →
      P.guar l t { t with usage_records := t.usage_records ++ [row] } ∧
        Q (.ok ()) { t with usage_records := t.usage_records ++ [row] } l)
    {s : Db} (hs : I s l) : (appendUsageRecord rt record).safe policy P Q s l := by
  rw [appendUsageRecord, Async.safe_await]
  intro t ht
  have hl := hI.rely s t l hs ht
  refine ⟨hI.inv t l hl, fun a _ => ?_⟩
  cases a with
  | fault f => exact ⟨hrefl l t, herr _ t hl⟩
  | done reply =>
    simp only [Call.exec, Call.serve]
    cases hw : (insertUsageRecord rt record).run backend.initial t with
    | error e =>
      rw [Stmt.reply_error hw, Stmt.effect_error hw]
      exact ⟨hrefl l t, herr e t hl⟩
    | ok o =>
      obtain ⟨⟨⟩, w⟩ := o
      rw [Stmt.reply_ok hw, Stmt.effect_ok hw]
      obtain ⟨row, hrow, hadmits, rfl⟩ := insertUsageRecord_ok hw
      refine hok t row hl hrow ?_
      simpa [Settings.admits, Settings.bootstrap, Settings.currentOrganizationId, units] using hadmits

/-! ### Handlers -/

section Handlers
variable {others : UsageRecord → Prop}

/-- A party adds rows of its own, others add others. -/
def meterProtocol (rt : Runtime) (mine : UsageRecord → Bool) (others : UsageRecord → Prop) (inv : Db → Prop) :
    Protocol backend where
  rely _ s t := Adds rt others s t
  guar _ s t := Adds rt (fun row => mine row = true) s t
  inv s _ := inv s

/-- The usage rows and the time, as a frame. -/
abbrev usageKept : Frame backend := .of fun db : Db => (db.now, db.usage_records)

theorem adds_of_kept {p : UsageRecord → Prop} {s t : Db} (h : usageKept.kept s t) : Adds rt p s t :=
  .of_eq (congrArg Prod.fst h) (congrArg Prod.snd h)

/-- So many rows of a kind, and so much emitted. -/
def Counts (c : UsageRecord → Bool) (n : Nat) (out : List Event) (s : Db) (l : Local backend) : Prop :=
  s.usage_records.countP c = n ∧ l.out = out

theorem carried_counts {mine c : UsageRecord → Bool} (hothers : ∀ row, others row → c row = false) (n : Nat)
    (out : List Event) :
    Carried (meterProtocol rt mine others fun s => s.usage_records.countP c = n) (Counts c n out) where
  rely _ _ _ h hr := ⟨(hr.countP hothers).trans h.1, h.2⟩
  sessions _ _ _ h ho := ⟨h.1, ho.trans h.2⟩
  inv _ _ h := h.1

/-- The row the route records for a request. -/
abbrev Request.row (req : Request) : UsageRecord → Bool := queuedRow req.auth.organizationId req.requestId

/-- Until it has ended, a request has no row more than it found. -/
abbrev requestProtocol (rt : Runtime) (others : UsageRecord → Prop) (req : Request) (n : Nat) : Protocol backend :=
  meterProtocol rt req.row others fun s => s.usage_records.countP req.row = n

theorem requestProtocol_refl {req : Request} {n : Nat} (l : Local backend) (s : Db) :
    (requestProtocol rt others req n).guar l s s := .of_eq rfl rfl

/-- How a request ends: with its row exactly when it has accepted its job and returned. -/
def Metered (req : Request) (n : Nat) : Post backend Unit := fun r s l =>
  s.usage_records.countP req.row = n + if Accepted l.out ∧ r.isOk = true then 1 else 0

theorem metered_refused {req : Request} {n : Nat} {r : Except ServiceError Unit} {s : Db} {l : Local backend}
    (hs : s.usage_records.countP req.row = n) (h : ¬ (Accepted l.out ∧ r.isOk = true)) : Metered req n r s l := by
  rw [Metered, if_neg h, hs, Nat.add_zero]

theorem metered_rejected {req : Request} {n : Nat} {r : Except ServiceError Unit} {s : Db} {out : List Event}
    (hs : s.usage_records.countP req.row = n) (hout : Rejected out) : Metered req n r s ⟨[], out⟩ :=
  metered_refused hs fun h => hout.not_accepted h.1

variable {policy : Policy backend} {req : Request} {n : Nat}

/-- The last thing the route does is to record the request. -/
theorem safe_recordRequest (a : Admission) (hothers : ∀ row, others row → req.row row = false) {s : Db} {out : List Event}
    (hout : Accepted out) (hs : Counts req.row n out s ⟨[], out⟩) :
    (appendUsageRecord rt {
      organizationId := req.auth.organizationId
      projectId := a.projectId
      userId := some req.auth.userId
      requestId := req.requestId
      providerId := some a.model.provider
      modelId := some a.model.id
      durationMs := some req.elapsed
      status := units "QUEUED" }).safe policy (requestProtocol rt others req n)
        (Async.caughtSafe policy (requestProtocol rt others req n) onError (Metered req n)) s ⟨[], out⟩ := by
  have hresponded : out.any Event.isResponse = true := by
    obtain ⟨e, he, hacc⟩ := List.any_eq_true.mp hout
    refine List.any_eq_true.mpr ⟨e, he, ?_⟩
    cases e with
    | respond status body => rfl
    | schedule job => cases hacc
  refine safe_appendUsageRecord (carried_counts hothers n out) requestProtocol_refl (fun e t ht => ?_)
    (fun t row ht hrow hrole => ?_) hs
  · exact safe_onError_answered e hresponded (metered_refused ht.1 fun h => by cases h.2)
  · obtain ⟨horg, hid, hstatus, hnow⟩ := usageRow_ok hrow
    have hmine : req.row row = true := by simp [queuedRow, horg, hid, hstatus]
    refine ⟨⟨rfl, [row], rfl, fun x hx => ?_⟩, ?_⟩
    · rw [List.mem_singleton.mp hx, hnow]
      exact ⟨hmine, rfl, hrole⟩
    · change Metered req n (.ok ()) _ _
      rw [Metered, if_pos ⟨hout, rfl⟩, List.countP_append, List.countP_singleton, hmine, ht.1]
      rfl

/-- The start of a job records it once, if at all. -/
theorem safe_startJob_metered (a : Admission) (hothers : ∀ row, others row → req.row row = false) {s : Db}
    (hs : Counts req.row n [] s .empty) :
    ((startJob rt req a ⟨req.requestId, .QUEUED, false⟩).handle onError).safe policy (requestProtocol rt others req n)
      (Metered req n) s .empty := by
  rw [Async.safe_handle, startJob, Async.safe_bind, appendAuditEvent, Async.safe_await]
  intro t ht
  obtain ⟨hcount, -⟩ := (carried_counts hothers n []).rely s t .empty hs ht
  refine ⟨hcount, fun answer _ => ?_⟩
  cases answer with
  | fault f => exact ⟨requestProtocol_refl _ _, safe_onError _ fun out hout => metered_rejected hcount hout⟩
  | done reply =>
    have hkept : usageKept.kept t ((insertAuditEvent rt (startedAudit req req.requestId)).effect backend.initial t t) :=
      insertAuditEvent_keeps (fun _ _ => rfl) backend.initial t t
    have hcount' := (congrArg (List.countP req.row) (congrArg Prod.snd hkept)).trans hcount
    refine ⟨adds_of_kept hkept, ?_⟩
    simp only [Call.exec, Call.serve]
    cases (insertAuditEvent rt (startedAudit req req.requestId)).reply backend.initial t with
    | error e => exact safe_onError _ fun out hout => metered_rejected hcount' hout
    | ok _ =>
      -- the 202 and the schedule are emitted before the next call
      change Async.safe policy _ (appendUsageRecord rt _) _ _ ⟨[], [.respond 202 (.accepted req.requestId),
        .schedule (execution req a req.requestId)]⟩
      exact safe_recordRequest a hothers rfl ⟨hcount', rfl⟩

/-- A request is recorded exactly when it has accepted its job and returned. -/
theorem safe_postInference_metered (hothers : ∀ row, others row → req.row row = false) {s : Db}
    (hs : s.usage_records.countP req.row = n) :
    (postInference rt req).safe policy (requestProtocol rt others req n) (Metered req n) s .empty := by
  have hI : Carried (requestProtocol rt others req n) (Counts req.row n []) := carried_counts hothers n []
  refine safe_checked (I := Counts req.row n []) (fun t out ht hout => metered_rejected ht.1 hout) (fun a t ha ht => ?_) ?_
  · refine safe_enqueue hI requestProtocol_refl (fun u out hu hout => metered_rejected hu.1 hout) ?_ ?_ ht
    · intro u reply key row rest job _ _ _ _ _ l' v hv _
      exact metered_refused hv.1 fun h => by simp [Accepted, Event.isAcceptance] at h
    · intro u w hu hrun l' v hv _ _
      obtain ⟨row, -, -, -, -, rfl⟩ := insertJob_ok hrun
      exact ⟨.of_eq rfl rfl, safe_startJob_metered a hothers hv⟩
  · have haudit (event : AuditInput) : (insertAuditEvent rt event).Keeps usageKept := insertAuditEvent_keeps fun _ _ => rfl
    have hchecks := admitRequest_confined (n := 0) (fun event _ => haudit event) req
    refine Async.safe_mono (hchecks.safe hI (fun l t u hk => adds_of_kept hk) (fun t u l l' ht hk hq => ?_)
      (Local.owns_zero.mpr rfl) fun l' hq => ⟨hs, hq⟩) ?_
    · exact ⟨(congrArg (List.countP req.row) (congrArg Prod.snd hk)).trans ht.1, hq⟩
    · rintro r t l ⟨ht, hl, hr⟩
      exact ⟨ht .empty rfl, Local.owns_zero.mp hl, hr⟩

/-- An execution adds rows of its success only. -/
theorem safe_execution_metered (job : Execution) (s : Db) :
    (executeInferenceJob rt job).safe policy (meterProtocol rt (succeededRow job.organizationId) others fun _ => True)
      (fun _ _ _ => True) s .empty := by
  have haudit (event : AuditInput) : (insertAuditEvent rt event).Keeps usageKept := insertAuditEvent_keeps fun _ _ => rfl
  have hupdate (organizationId : Uuid) (requestId : Text) (patch : JobPatch) :
      (updateJob rt organizationId requestId patch).Keeps usageKept := updateJob_keeps fun _ _ => rfl
  have hI : Carried (meterProtocol rt (succeededRow job.organizationId) others fun _ => True)
      fun _ (l : Local backend) => l.out = [] := ⟨fun _ _ _ h _ => h, fun _ _ _ h ho => ho.trans h, fun _ _ _ => trivial⟩
  have hconfined {α : Type} {p : Async backend α} (hp : p.Confined usageKept quiet (fun _ out => out = []) 0 0 [])
      (t : Db) : p.safe policy (meterProtocol rt (succeededRow job.organizationId) others fun _ => True)
        (fun _ _ l => l = .empty) t .empty := by
    refine Async.safe_mono (hp.safe hI (fun _ _ _ hk => adds_of_kept hk) (fun _ _ _ _ _ _ hq => hq)
      (Local.owns_zero.mpr rfl) fun _ hq => hq) fun r u l h => ?_
    obtain ⟨sessions, out⟩ := l
    obtain rfl : sessions = [] := Local.owns_zero.mp h.2.1
    obtain rfl : out = [] := h.2.2
    rfl
  have hfailed (e : ServiceError) (t : Db) : (recordFailure rt job e).safe policy
      (meterProtocol rt (succeededRow job.organizationId) others fun _ => True) (fun _ _ _ => True) t .empty :=
    Async.safe_mono (hconfined (recordFailure_confined haudit hupdate job e quiet_nil fun _ => rfl) t)
      fun _ _ _ _ => trivial
  rw [executeInferenceJob, Async.safe_bind]
  refine Async.safe_mono (hconfined (updateInferenceJob_confined quiet_nil (hupdate _ _ _) fun _ => rfl) s) ?_
  rintro r t l rfl
  cases r with
  | error e => trivial
  | ok _ =>
  rw [Async.nextSafe_ok, Async.safe_handle, generateAndRecord, Async.safe_bind]
  refine Async.safe_mono (hconfined (generate_confined quiet_nil fun _ => rfl) t) ?_
  rintro r u l rfl
  cases r with
  | error e => exact hfailed e u
  | ok result =>
  rw [Async.nextSafe_ok, Async.safe_bind]
  refine Async.safe_mono (hconfined (updateInferenceJob_confined quiet_nil (hupdate _ _ _) fun _ => rfl) u) ?_
  rintro r v l rfl
  cases r with
  | error e => exact hfailed e v
  | ok _ =>
  rw [Async.nextSafe_ok, Async.safe_bind]
  refine safe_appendUsageRecord hI (fun _ _ => .of_eq rfl rfl) (fun e w _ => hfailed e w) (fun w row _ hrow hrole => ?_) rfl
  obtain ⟨horg, -, hstatus, hnow⟩ := usageRow_ok hrow
  refine ⟨⟨rfl, [row], rfl, fun x hx => ?_⟩, ?_⟩
  · rw [List.mem_singleton.mp hx, hnow]
    exact ⟨by simp [succeededRow, horg, hstatus], rfl, hrole⟩
  · have hlast (event : AuditInput) :
        (appendAuditEvent rt event).Confined usageKept quiet (fun _ out => out = []) 0 0 [] :=
      Async.confined_pool (R := fun _ out => out = []) quiet_nil (haudit event) (fun _ => rfl) .audit
    refine Async.safe_mono (hconfined (hlast _) _) ?_
    rintro r x l rfl
    cases r with
    | error e => exact hfailed e x
    | ok _ => trivial

/-- The clock adds nothing and stays within the day. -/
theorem safe_tick_metered (elapsed : List Nat) (s : Db) :
    (tick elapsed).safe sameDay (meterProtocol rt (fun _ => false) others fun _ => True) (fun _ _ _ => True) s .empty := by
  induction elapsed generalizing s with
  | nil => trivial
  | cons d rest ih =>
    rw [tick, Async.safe_bind, Async.safe_await]
    intro t _
    refine ⟨trivial, fun a ha => ?_⟩
    cases a with
    | fault f => exact ⟨.of_eq rfl rfl, trivial⟩
    | done reply => exact ⟨⟨ha id, [], (List.append_nil _).symm, fun _ h => by cases h⟩, ih _⟩

end Handlers

/-! ### Runs -/

section Runs
variable {party : ι → Party} {db : Db}

/-- What holds of the store while a party waits. -/
def Party.waiting (p : Party) (db s : Db) : Prop :=
  match p with
  | .request req => s.usage_records.countP req.row = db.usage_records.countP req.row
  | _ => True

/-- What holds when a party has ended. -/
def Party.ended (p : Party) (db : Db) : Post backend Unit :=
  match p with
  | .request req => Metered req (db.usage_records.countP req.row)
  | _ => fun _ _ _ => True

/-- The rows of the other parties. -/
def otherRows (party : ι → Party) (i : ι) (row : UsageRecord) : Prop := ∃ j, j ≠ i ∧ (party j).records row = true

def partyProtocol (rt : Runtime) (party : ι → Party) (db : Db) (i : ι) : Protocol backend :=
  meterProtocol rt (party i).records (otherRows party i) fun s => (party i).waiting db s

theorem partyProtocol_compatible : Compatible (partyProtocol rt party db) where
  refl _ _ _ := .of_eq rfl rfl
  trans _ _ _ _ _ h h' := h.trans h'
  fits i _ _ _ _ _ hij _ h := h.mono fun _ hrow => ⟨i, hij, hrow⟩

/-- Request ids are distinct, so no other party adds a request's row. -/
theorem row_of_otherRows (hids : ∀ i j id, (party i).requestId = some id → (party j).requestId = some id → i = j) {i : ι}
    {req : Request} (hi : party i = .request req) {row : UsageRecord} (h : otherRows party i row) :
    req.row row = false := by
  obtain ⟨j, hji, hrow⟩ := h
  by_contra hown
  simp only [Bool.not_eq_false, queuedRow, Bool.and_eq_true, beq_iff_eq] at hown
  cases hj : party j with
  | request req' =>
    simp only [hj, Party.records, queuedRow, Bool.and_eq_true, beq_iff_eq] at hrow
    exact hji (hids j i req'.requestId (by rw [hj]; rfl) (by rw [hi, ← hrow.1.2, hown.1.2]; rfl))
  | execution job =>
    simp only [hj, Party.records, succeededRow, Bool.and_eq_true, beq_iff_eq] at hrow
    have : units "SUCCEEDED" = units "QUEUED" := hrow.2.symm.trans hown.2
    exact absurd this (by decide)
  | clock elapsed =>
    simp only [hj, Party.records] at hrow
    cases hrow

theorem ended_stable (hids : ∀ i j id, (party i).requestId = some id → (party j).requestId = some id → i = j) (i : ι) :
    Async.Stable (partyProtocol rt party db i) ((party i).ended db) := by
  intro r s t l hq hr
  cases hi : party i with
  | request req =>
    rw [hi] at hq
    exact (hr.countP fun row h => row_of_otherRows hids hi h).trans hq
  | execution job => trivial
  | clock elapsed => trivial

theorem party_safe (hids : ∀ i j id, (party i).requestId = some id → (party j).requestId = some id → i = j) (i : ι) :
    ((party i).program rt).safe sameDay (partyProtocol rt party db i) ((party i).ended db) db .empty := by
  unfold partyProtocol
  cases hi : party i with
  | request req => exact safe_postInference_metered (fun row h => row_of_otherRows hids hi h) rfl
  | execution job => exact safe_execution_metered job db
  | clock elapsed => exact safe_tick_metered elapsed db

/-- Every party keeps its protocol, and the store holds the rows the parties added. -/
structure Balanced (rt : Runtime) (party : ι → Party) (db : Db) (cfg : Config backend ι Unit) : Prop where
  safe : cfg.Protected sameDay (partyProtocol rt party db) fun i => (party i).ended db
  adds : Adds rt (fun row => ∃ j, (party j).records row = true) db cfg.store

/-- The handler has returned, without an error. -/
def HasReturned (cfg : Config backend ι Unit) (i : ι) : Prop := (cfg.thread i).prog.result.any Except.isOk = true

instance (cfg : Config backend ι Unit) (i : ι) : Decidable (HasReturned cfg i) := inferInstanceAs (Decidable (_ = true))

variable [DecidableEq ι]

theorem balanced_after (hids : ∀ i j id, (party i).requestId = some id → (party j).requestId = some id → i = j)
    (script : List (ι × Answer backend)) (hruns : (workload rt party db).Runs sameDay script) :
    Balanced rt party db ((workload rt party db).after script) := by
  have hstart : Balanced rt party db (workload rt party db) :=
    ⟨Config.Protected.start fun i => party_safe hids i, .of_eq rfl rfl⟩
  refine hruns.invariant (fun cfg i a h he => ⟨?_, ?_⟩) script hstart
  · exact h.safe.fire partyProtocol_compatible (fun i => ended_stable hids i) he
  · have hstep := h.safe.guar (fun i l s => partyProtocol_compatible.refl i l s) he
    exact h.adds.trans (hstep.mono fun row hrow => ⟨i, hrow⟩)

omit [DecidableEq ι] in
/-- In every state of a run, a request has its row exactly when it has accepted its job and
returned. -/
theorem Balanced.row {cfg : Config backend ι Unit} (h : Balanced rt party db cfg) {i : ι} {req : Request}
    (hi : party i = .request req) : cfg.store.usage_records.countP req.row =
      db.usage_records.countP req.row + if Accepted (cfg.thread i).loc.out ∧ HasReturned cfg i then 1 else 0 := by
  cases hr : (cfg.thread i).prog.result with
  | none =>
    have hwait := h.safe.inv partyProtocol_compatible i hr
    simp only [partyProtocol, meterProtocol, hi, Party.waiting] at hwait
    simp [HasReturned, hr, hwait]
  | some r =>
    have hend := h.safe.outcome i hr
    simp only [hi, Party.ended, Metered] at hend
    simpa [HasReturned, hr] using hend

end Runs

/-! ### Counting -/

/-- Where each item that counts has one owner, the owners' counts add up. -/
theorem sum_countP {κ α : Type} [Fintype κ] [DecidableEq κ] {p : κ → α → Bool} {q : α → Bool} (xs : List α)
    (h : ∀ x ∈ xs, if q x = true then ∃ k, ∀ j, p j x = true ↔ j = k else ∀ j, p j x = false) :
    ∑ k, xs.countP (p k) = xs.countP q := by
  induction xs with
  | nil => simp
  | cons x xs ih =>
    have hrest := ih fun y hy => h y (List.mem_cons_of_mem _ hy)
    have hx := h x List.mem_cons_self
    simp only [List.countP_cons, Finset.sum_add_distrib, hrest]
    congr 1
    split at hx
    · rename_i hq
      obtain ⟨k, hk⟩ := hx
      simp [hq, hk]
    · rename_i hq
      simp [hq, hx]

/-- Added rows of the organisation are rows of today. -/
theorem usedToday_adds (organizationId : Uuid) {s t : Db} {rows : List UsageRecord}
    (hday : t.now / msPerDay = s.now / msPerDay) (hrows : t.usage_records = s.usage_records ++ rows)
    (hadd : ∀ row ∈ rows, row.created_at / msPerDay = s.now / msPerDay ∧ rt.rowSecurity = false) :
    usedToday rt organizationId t =
      usedToday rt organizationId s + rows.countP fun row => row.organization_id == organizationId := by
  unfold usedToday todaysUsage
  rw [hrows, hday, List.filter_append, List.length_append, List.countP_eq_length_filter]
  congr 2
  apply List.filter_congr
  intro row hrow
  obtain ⟨hrow, hrole⟩ := hadd row hrow
  have hstart : s.now / msPerDay * msPerDay ≤ row.created_at := by
    rw [← hrow]
    exact Nat.div_mul_le_self _ _
  simp [Settings.admits, hrole, hstart]

section Balance
variable [Fintype ι]

/-- The accepted requests of an organisation that have not returned: their row is not recorded. -/
def unmetered (party : ι → Party) (organizationId : Uuid) (cfg : Config backend ι Unit) : Nat :=
  (Finset.univ.filter fun i => ((party i).requests organizationId = true ∧ Accepted (cfg.thread i).loc.out) ∧
    ¬ HasReturned cfg i).card

/-- The successes executions have recorded for an organisation. -/
def succeeded (organizationId : Uuid) (db : Db) : Nat := db.usage_records.countP (succeededRow organizationId)

/-- Who adds a row of the organisation: an execution, or a request of it. -/
def owner (party : ι → Party) (organizationId : Uuid) : Option ι → UsageRecord → Bool
  | none => succeededRow organizationId
  | some i => fun row => (party i).requests organizationId && (party i).records row

omit [Fintype ι] in
theorem owner_some {party : ι → Party} {organizationId : Uuid} {i : ι} {row : UsageRecord} :
    owner party organizationId (some i) row = true ↔ ∃ req, party i = .request req ∧
      req.auth.organizationId = organizationId ∧ row.organization_id = organizationId ∧
      row.request_id = req.requestId ∧ row.status = units "QUEUED" := by
  cases hi : party i with
  | request req =>
    simp only [owner, hi, Party.requests, Party.records, queuedRow, Bool.and_eq_true, beq_iff_eq, Party.request.injEq,
      exists_eq_left']
    constructor
    · rintro ⟨rfl, ⟨horg, hid⟩, hstatus⟩
      exact ⟨rfl, horg, hid, hstatus⟩
    · rintro ⟨rfl, horg, hid, hstatus⟩
      exact ⟨rfl, ⟨horg, hid⟩, hstatus⟩
  | execution job => simp [owner, hi, Party.requests]
  | clock elapsed => simp [owner, hi, Party.requests]

omit [Fintype ι] in
/-- Each added row of the organisation has one owner. -/
theorem owner_unique {party : ι → Party}
    (hids : ∀ i j id, (party i).requestId = some id → (party j).requestId = some id → i = j) (organizationId : Uuid)
    {row : UsageRecord} (hrow : ∃ j, (party j).records row = true) :
    if (row.organization_id == organizationId) = true then
      ∃ k, ∀ j, owner party organizationId j row = true ↔ j = k
    else ∀ j, owner party organizationId j row = false := by
  have hstatuses : units "QUEUED" ≠ units "SUCCEEDED" := by decide
  split
  · rename_i horg
    have horg := beq_iff_eq.mp horg
    obtain ⟨j, hrow⟩ := hrow
    cases hj : party j with
    | request req =>
      simp only [hj, Party.records, queuedRow, Bool.and_eq_true, beq_iff_eq] at hrow
      obtain ⟨⟨hreq, hid⟩, hstatus⟩ := hrow
      refine ⟨some j, fun k => ?_⟩
      cases k with
      | none => simp [owner, succeededRow, hstatus, hstatuses]
      | some i =>
        rw [owner_some, Option.some.injEq]
        constructor
        · rintro ⟨req', hi, -, -, hid', -⟩
          exact hids i j row.request_id (by rw [hi, hid']; rfl) (by rw [hj, hid]; rfl)
        · rintro rfl
          exact ⟨req, hj, hreq.symm.trans horg, horg, hid, hstatus⟩
    | execution job =>
      simp only [hj, Party.records, succeededRow, Bool.and_eq_true, beq_iff_eq] at hrow
      refine ⟨none, fun k => ?_⟩
      cases k with
      | none => simp [owner, succeededRow, horg, hrow.2]
      | some i =>
        refine iff_of_false (fun h => ?_) fun h => by cases h
        obtain ⟨req, -, -, -, -, hstatus⟩ := owner_some.mp h
        exact hstatuses (hstatus.symm.trans hrow.2)
    | clock elapsed =>
      simp only [hj, Party.records] at hrow
      cases hrow
  · rename_i horg
    have horg : row.organization_id ≠ organizationId := fun h => horg (beq_iff_eq.mpr h)
    intro k
    cases k with
    | none => simp [owner, succeededRow, horg]
    | some i =>
      rw [← Bool.not_eq_true, owner_some]
      rintro ⟨req, -, -, h, -⟩
      exact horg h

omit [Fintype ι] in
/-- The rows a request of the organisation has added: one if it has accepted its job and returned. -/
theorem countP_owner {party : ι → Party} {db : Db} {cfg : Config backend ι Unit} (h : Balanced rt party db cfg)
    {rows : List UsageRecord} (hrows : cfg.store.usage_records = db.usage_records ++ rows) (organizationId : Uuid) (i : ι) :
    rows.countP (owner party organizationId (some i)) =
      if ((party i).requests organizationId = true ∧ Accepted (cfg.thread i).loc.out) ∧ HasReturned cfg i then 1 else 0 := by
  cases hi : party i with
  | request req =>
    have hrow := h.row hi
    rw [hrows, List.countP_append] at hrow
    by_cases horg : (Party.request req).requests organizationId = true
    · have hown : owner party organizationId (some i) = req.row := by
        funext row
        simp [owner, hi, horg, Party.records]
      simp only [hown, horg, true_and]
      omega
    · simp [owner, hi, horg]
  | execution job => simp [owner, hi, Party.requests]
  | clock elapsed => simp [owner, hi, Party.requests]

variable [DecidableEq ι]

end Balance

/-! ### One job -/

/-- A request without an idempotency key, and the execution of its job. -/
def jobAndExecution (executed : Bool) : Party :=
  if executed then .execution ⟨pilotOrg.id, none, some (units "550e8400-e29b-41d4-a716-446655440000"), units "r1",
    units "openai", units "gpt-4o-mini", units "aa"⟩
  else .request { pilotRequest "r1" "aa" with
    body := .obj [(units "model", .str (units "gpt-4o-mini")), (units "input", .str (units "aa"))] }

end GalaxiaAin.Tenant
