import GalaxiaAin.Library.Invariant
import GalaxiaAin.Library.Transaction
import GalaxiaAin.Network.Handlers

/-! What the reports of the nodes run: a verification with its writes to one task and to
nodes, and the transaction that records a result. -/
namespace GalaxiaAin.Network
open GalaxiaAin.Library
open GalaxiaAin.Library.Async hiding bind

/-- The node of a device. -/
def nodeOfDevice (db : NetworkDb) (deviceId : Text) : Option Uuid :=
  (db.nodes.rows.find? fun r => r.2.device_id == deviceId).map Prod.fst

/-- The tables after `completeTask`. -/
def afterReport (db : NetworkDb) (nodeId : Uuid) (report : CompletionReport) : NetworkDb :=
  let inserted := (insertResult report.taskId nodeId report.output report.processing_time_ms).effect () db db
  (decrementLoad nodeId).effect () inserted inserted

/-- Every call may fail. -/
abbrev anywhere : Site → Prop := fun _ => True

/-! ### The writes of a verification -/

/-- The frame has every write that the verification of a task makes. -/
structure Verifying (F : Frame backend) (key : Uuid) : Prop where
  node : ∀ nodeId set, (updateNode nodeId set).Keeps F
  marks : ∀ agreeing scores, (markResults key agreeing scores).Keeps F
  consensus : ∀ result, result.task_id = key → (insertConsensus result).Keeps F
  status : ∀ status, (setStatus key status).Keeps F

section Verification
variable {F : Frame backend} {P : Effect → Prop} {n : Nat} {key : Uuid}

theorem updateNodeReputation_sends (h : ∀ nodeId set, (updateNode nodeId set).Keeps F) (nodeId : Uuid) :
    Sends F P n (updateNodeReputation nodeId) := by
  refine sends_withClient (sends_bind (sends_query (Nat.succ_pos n) (Stmt.keeps_selection _ _) _) fun row => ?_) _
  cases row with
  | none => exact sends_pure ()
  | some row => exact sends_query (Nat.succ_pos n) (h _ _) _

theorem rewardNodes_sends (h : ∀ nodeId set, (updateNode nodeId set).Keeps F) (hn : 1 ≤ n) (nodeIds : List Uuid) :
    Sends F P n (rewardNodes nodeIds) := by
  induction nodeIds with
  | nil => exact sends_pure ()
  | cons nodeId rest ih =>
    exact sends_bind (sends_query hn (h _ _) _) fun _ => sends_bind (updateNodeReputation_sends h nodeId) fun _ => ih

theorem penalizeNodes_sends (h : ∀ nodeId set, (updateNode nodeId set).Keeps F) (hn : 1 ≤ n) (penalty : Int)
    (nodeIds : List Uuid) : Sends F P n (penalizeNodes penalty nodeIds) := by
  induction nodeIds with
  | nil => exact sends_pure ()
  | cons nodeId rest ih => exact sends_bind (sends_query hn (h _ _) _) fun _ => ih

theorem reachConsensus_sends (h : Verifying F key) (hn : 1 ≤ n) (kind : VerificationKind) (results : List PendingResult)
    (majorityOutput : Text) (majorityNodes : List Uuid) :
    Sends F P n (reachConsensus kind key results majorityOutput majorityNodes) := by
  refine sends_bind (sends_query hn (h.marks _ _) _) fun _ => ?_
  refine sends_bind (rewardNodes_sends h.node hn _) fun _ => sends_bind (penalizeNodes_sends h.node hn _ _) fun _ => ?_
  refine sends_bind (sends_ofExcept _) fun _ => sends_bind (sends_query hn (h.consensus _ rfl) _) fun _ => ?_
  exact sends_bind (sends_query hn (h.status _) _) fun _ => sends_pure _

theorem runTiebreaker_sends (h : Verifying F key) (existingResults : List PendingResult) :
    Sends F P n (runTiebreaker key existingResults) := by
  refine sends_withClient (sends_bind (sends_query (Nat.succ_pos n) (Stmt.keeps_selection _ _) _) fun found => ?_) _
  cases found with
  | none => exact sends_pure _
  | some found =>
    refine sends_bind (sends_query (Nat.succ_pos n) (Stmt.keeps_select _ _) _) fun found => ?_
    split
    · exact sends_bind (sends_query (Nat.succ_pos n) (h.status _) _) fun _ => sends_pure _
    · refine sends_bind (sends_query (Nat.succ_pos n) (h.consensus _ rfl) _) fun _ => ?_
      exact sends_bind (sends_query (Nat.succ_pos n) (h.status _) _) fun _ => sends_pure _

theorem verifyDeterministicResults_sends (h : Verifying F key) (results : List PendingResult) :
    Sends F P n (verifyDeterministicResults key results) := by
  refine sends_withClient ?_ _
  dsimp only
  split
  · exact reachConsensus_sends h (Nat.succ_pos n) _ _ _ _
  · exact runTiebreaker_sends h _

theorem verifyNonDeterministicResults_sends (h : Verifying F key) (results : List PendingResult) :
    Sends F P n (verifyNonDeterministicResults key results) := by
  refine sends_withClient ?_ _
  split
  · exact runTiebreaker_sends h _
  split
  · exact reachConsensus_sends h (Nat.succ_pos n) _ _ _ _
  · exact runTiebreaker_sends h _

/-- A verification, whatever its selections return. -/
theorem verifyTaskResults_sends (h : ∀ key, Verifying F key) (taskId : UuidText) : Sends F P n (verifyTaskResults taskId) := by
  refine sends_withClient (sends_bind (sends_query (Nat.succ_pos n) (Stmt.keeps_selection _ _) _) fun results => ?_) _
  split
  · exact sends_pure _
  refine sends_bind (sends_query (Nat.succ_pos n) (Stmt.keeps_selection _ _) _) fun found => ?_
  cases found with
  | none => exact sends_pure _
  | some found =>
    dsimp only
    split
    · exact verifyDeterministicResults_sends (h _) _
    · exact verifyNonDeterministicResults_sends (h _) _

theorem distributePayments_sends (h : ∀ taskId nodeIds userId userWallet, P (.distributeNodePayments taskId nodeIds userId userWallet))
    (services : Services) (taskId : UuidText) (nodeIds : List Uuid) (userId : Option Uuid) (userWallet : Option Text) :
    Sends F P n (distributePayments services taskId nodeIds userId userWallet) :=
  sends_bind (sends_emit (h _ _ _ _)) fun _ => sends_ofExcept _

end Verification

/-! ### Invariants of a verification -/

/-- The invariant is kept by every write that the verification of a task makes. -/
structure Withstands (I : NetworkDb → Prop) (key : Uuid) : Prop where
  count : ∀ nodeId, (countCompleted nodeId).Maintains I
  reputation : ∀ nodeId reputation, (updateReputation nodeId reputation).Maintains I
  penalty : ∀ nodeId hundredths, (reduceReputation nodeId hundredths).Maintains I
  marks : ∀ agreeing scores, (markResults key agreeing scores).Maintains I
  consensus : ∀ result, result.task_id = key → (insertConsensus result).Maintains I
  status : ∀ status, status = .completed ∨ status = .failed → (setStatus key status).Maintains I

section Invariants
variable {I : NetworkDb → Prop} {key : Uuid}

theorem updateNodeReputation_preserves (h : ∀ nodeId reputation, (updateReputation nodeId reputation).Maintains I) (nodeId : Uuid) :
    Preserves I (updateNodeReputation nodeId) := by
  refine preserves_withClient (preserves_bind (preserves_query (Stmt.maintains_selection _) _) fun row => ?_) _
  cases row with
  | none => exact preserves_pure ()
  | some row => exact preserves_query (h _ _) _

theorem rewardNodes_preserves (h : Withstands I key) (nodeIds : List Uuid) : Preserves I (rewardNodes nodeIds) := by
  induction nodeIds with
  | nil => exact preserves_pure ()
  | cons nodeId rest ih =>
    refine preserves_bind (preserves_query (h.count _) _) fun _ => ?_
    exact preserves_bind (updateNodeReputation_preserves h.reputation nodeId) fun _ => ih

theorem penalizeNodes_preserves (h : Withstands I key) (penalty : Int) (nodeIds : List Uuid) :
    Preserves I (penalizeNodes penalty nodeIds) := by
  induction nodeIds with
  | nil => exact preserves_pure ()
  | cons nodeId rest ih => exact preserves_bind (preserves_query (h.penalty _ _) _) fun _ => ih

theorem reachConsensus_preserves (h : Withstands I key) (kind : VerificationKind) (results : List PendingResult)
    (majorityOutput : Text) (majorityNodes : List Uuid) :
    Preserves I (reachConsensus kind key results majorityOutput majorityNodes) := by
  refine preserves_bind (preserves_query (h.marks _ _) _) fun _ => ?_
  refine preserves_bind (rewardNodes_preserves h _) fun _ => preserves_bind (penalizeNodes_preserves h _ _) fun _ => ?_
  refine preserves_bind (preserves_ofExcept _) fun _ => ?_
  refine preserves_bind (preserves_query (h.consensus _ rfl) _) fun _ => ?_
  exact preserves_bind (preserves_query (h.status _ (.inl rfl)) _) fun _ => preserves_pure _

theorem runTiebreaker_preserves (h : Withstands I key) (existingResults : List PendingResult) :
    Preserves I (runTiebreaker key existingResults) := by
  refine preserves_withClient (preserves_bind (preserves_query (Stmt.maintains_selection _) _) fun found => ?_) _
  cases found with
  | none => exact preserves_pure _
  | some found =>
    refine preserves_bind (preserves_query (Stmt.maintains_select _) _) fun found => ?_
    split
    · exact preserves_bind (preserves_query (h.status _ (.inr rfl)) _) fun _ => preserves_pure _
    · refine preserves_bind (preserves_query (h.consensus _ rfl) _) fun _ => ?_
      exact preserves_bind (preserves_query (h.status _ (.inl rfl)) _) fun _ => preserves_pure _

theorem verifyDeterministicResults_preserves (h : Withstands I key) (results : List PendingResult) :
    Preserves I (verifyDeterministicResults key results) := by
  refine preserves_withClient ?_ _
  dsimp only
  split
  · exact reachConsensus_preserves h _ _ _ _
  · exact runTiebreaker_preserves h _

theorem verifyNonDeterministicResults_preserves (h : Withstands I key) (results : List PendingResult) :
    Preserves I (verifyNonDeterministicResults key results) := by
  refine preserves_withClient ?_ _
  split
  · exact runTiebreaker_preserves h _
  split
  · exact reachConsensus_preserves h _ _ _ _
  · exact runTiebreaker_preserves h _

end Invariants

/-! ### What a report runs -/

section Report
variable {may : Site → Prop} {F : Frame backend} {db : NetworkDb} {l : Local backend} {key : Uuid}

theorem sends_post {α : Type} {p : Async backend α} (h : Sends F (fun _ => True) 0 p) :
    p.post anywhere (fun _ u _ => F.kept db u) db l :=
  post_mono ((h l.out).post (Local.owns_zero.mpr rfl)) fun _ _ _ h => h.1

/-- A verification in tables without other work goes on only with a task and a result that is pending. -/
theorem verifyTaskResults_ends {Q : Post backend Verification} (hfail : ∀ e, Q (.error e) db l) (hnone : Q (.ok noConsensus) db l)
    (h : ∀ task, db.tasks.get? key = some task → pendingResults db key ≠ [] →
      (if isDeterministic task then verifyDeterministicResults key (pendingResults db key)
        else verifyNonDeterministicResults key (pendingResults db key)).post may
        (fun r u l' => Q r u ⟨l'.sessions.tail, l'.out⟩) db ⟨.idle :: l.sessions, l.out⟩) :
    (verifyTaskResults (.uuid key)).post may Q db l := by
  rw [verifyTaskResults, post_withClient, post_bind, post_query_idle]
  refine ⟨⟨?_, fun _ _ => hfail _⟩, fun _ _ => hfail _⟩
  have hpending : (selectPending (.uuid key)).reply () db = .ok (pendingResults db key) := rfl
  have hsame : (selectPending (.uuid key)).effect () db db = db := rfl
  rw [show backend.initial = () from rfl, hpending, hsame, next_ok]
  split
  case isTrue => exact hnone
  case isFalse hpresent =>
    rw [post_bind, post_query_idle]
    refine ⟨?_, fun _ _ => hfail _⟩
    have htask : (selectTask (.uuid key)).reply () db = .ok ((db.tasks.get? key).map fun task => (key, task)) := rfl
    have hsame : (selectTask (.uuid key)).effect () db db = db := rfl
    rw [show backend.initial = () from rfl, htask, hsame, next_ok]
    cases hget : db.tasks.get? key with
    | none => exact hnone
    | some task => exact h task hget fun he => hpresent (by rw [he]; rfl)

/-- It writes only where a result is pending. -/
theorem verifyTaskResults_post (h : ∀ task, db.tasks.get? key = some task → pendingResults db key ≠ [] →
      (if isDeterministic task then verifyDeterministicResults key (pendingResults db key)
        else verifyNonDeterministicResults key (pendingResults db key)).post anywhere (fun _ u _ => F.kept db u) db
        ⟨.idle :: l.sessions, l.out⟩) :
    (verifyTaskResults (.uuid key)).post anywhere (fun _ u _ => F.kept db u) db l :=
  verifyTaskResults_ends (fun _ => F.kept_refl db) (F.kept_refl db) h

/-- The same where the frame has the writes of the verification. -/
theorem Verifying.post (task : Task) (results : List PendingResult) (h : Verifying F key) :
    (if isDeterministic task then verifyDeterministicResults key results else verifyNonDeterministicResults key results).post
      anywhere (fun _ u _ => F.kept db u) db l := by
  split
  · exact sends_post (verifyDeterministicResults_sends h _)
  · exact sends_post (verifyNonDeterministicResults_sends h _)

/-- What follows a recorded report: a verification of its task, and payments after a consensus. -/
theorem checkConsensus_ends {Q : Post backend Unit} (services : Services) (hdone : ∀ r, Q r db l)
    (h : ∀ task, db.tasks.get? key = some task →
      (verifyTaskResults (.uuid key)).post may (next may (fun result => onlyIf (result.consensus = true)
        (distributePayments services (.uuid key) task.assigned_nodes none none)) Q) db l) :
    (checkConsensus services (.uuid key)).post may Q db l := by
  rw [checkConsensus, post_bind, getTask, post_withClient, post_query_idle]
  refine ⟨⟨?_, fun _ _ => hdone _⟩, fun _ _ => hdone _⟩
  have htask : (selectTask (.uuid key)).reply () db = .ok ((db.tasks.get? key).map fun task => (key, task)) := rfl
  have hsame : (selectTask (.uuid key)).effect () db db = db := rfl
  rw [show backend.initial = () from rfl, htask, hsame, next_ok]
  cases hget : db.tasks.get? key with
  | none => exact hdone _
  | some task =>
    change (verifyTaskResults (.uuid key) >>= fun result => onlyIf (result.consensus = true)
      (distributePayments services (.uuid key) task.assigned_nodes none none)).post may _ db _
    rw [post_bind]
    exact h task hget

/-- The payments leave the tables alone. -/
theorem checkConsensus_post (services : Services)
    (h : (verifyTaskResults (.uuid key)).post anywhere (fun _ u _ => F.kept db u) db l) :
    (checkConsensus services (.uuid key)).post anywhere (fun _ u _ => F.kept db u) db l := by
  refine checkConsensus_ends services (fun _ => F.kept_refl db) fun task _ => post_mono h fun r u l' hu => ?_
  cases r with
  | error e => exact hu
  | ok result =>
    have hpay : Sends F (fun _ => True) 0 (onlyIf (result.consensus = true)
        (distributePayments services (.uuid key) task.assigned_nodes none none)) :=
      sends_onlyIf (distributePayments_sends (fun _ _ _ _ => trivial) services _ _ _ _)
    exact post_mono (sends_post hpay) fun _ v _ hv => F.kept_trans _ _ _ hu hv

/-- A report that is recorded is recorded whole. -/
theorem completeTask_post {Q : Post backend Unit} {nodeId : Uuid} {report : CompletionReport}
    (herror : ∀ e, Q (.error e) db Local.empty)
    (hok : (insertResult report.taskId nodeId report.output report.processing_time_ms).reply () db = .ok () →
      Q (.ok ()) (afterReport db nodeId report) Local.empty) :
    (completeTask report.taskId nodeId report.output report.processing_time_ms).post may Q db Local.empty := by
  have hback (x : Session backend) (e : NetworkError) :
      caught may (fun e => do await Site.rollback .rollback; .raise e)
        (fun r s' l' => Q r s' ⟨l'.sessions.tail, l'.out⟩) (.error e) db ⟨[x], []⟩ :=
    caught_rollback (fun f => herror _) (herror e) x
  rw [completeTask, post_withClient]
  refine ⟨?_, fun _ _ => herror _⟩
  rw [post_orRollback, post_bind, post_begin]
  refine ⟨?_, fun _ _ => hback _ _⟩
  rw [next_ok, post_bind, post_query_active]
  refine ⟨?_, fun _ _ => hback _ _⟩
  simp only [id_eq]
  cases hinsert : (insertResult report.taskId nodeId report.output report.processing_time_ms).reply () db with
  | error e => exact hback _ _
  | ok u =>
    dsimp only
    rw [next_ok, post_bind, post_query_active]
    refine ⟨?_, fun _ _ => hback _ _⟩
    cases hload : (decrementLoad nodeId).reply ()
        ((insertResult report.taskId nodeId report.output report.processing_time_ms).effect () db db) with
    | error e =>
      dsimp only
      exact hback _ _
    | ok u' =>
      dsimp only
      rw [next_ok, post_commit]
      exact ⟨hok hinsert, fun _ _ => hback _ _⟩

/-- A result is recorded for a task that exists only. -/
theorem insertResult_ok {taskId : UuidText} {nodeId : Uuid} {output : Text} {ms : Int}
    (h : (insertResult taskId nodeId output ms).reply () db = .ok ()) :
    ∃ key task, taskId = .uuid key ∧ db.tasks.get? key = some task := by
  cases taskId with
  | malformed => cases h
  | uuid key =>
    cases htask : db.tasks.get? key with
    | some task => exact ⟨key, task, rfl, htask⟩
    | none =>
      rw [Stmt.reply] at h
      cases hms : integer ms <;>
        simp [insertResult, UuidText.read, bind, Except.bind, hms, htask] at h

/-- A report changes nothing, or records its result and goes on with the verification. -/
theorem complete_ends {P : NetworkDb → List Effect → Prop} (services : Services) (report : CompletionReport) (hdb : P db [])
    (h : report.device_id ≠ [] → report.output ≠ [] → ∀ key task nodeId, report.taskId = .uuid key →
      db.tasks.get? key = some task → nodeOfDevice db report.device_id = some nodeId →
      (insertResult report.taskId nodeId report.output report.processing_time_ms).reply () db = .ok () →
      (checkConsensus services (.uuid key)).post may (fun _ u l' => P u l'.out) (afterReport db nodeId report) Local.empty) :
    (complete services report).post may (fun _ u l' => P u l'.out) db Local.empty := by
  rw [complete]
  split
  case isTrue => exact hdb
  case isFalse hgiven =>
    obtain ⟨hdevice, houtput⟩ := not_or.mp hgiven
    rw [post_handle]
    rw [post_bind, getNodeByDeviceId, post_withClient, post_query_idle, Stmt.reply_select, Stmt.effect_select]
    refine ⟨⟨?_, fun _ _ => hdb⟩, fun _ _ => hdb⟩
    cases hnode : (db.nodes.rows.find? fun r => r.2.device_id == report.device_id).map Prod.fst with
    | none => exact hdb
    | some nodeId =>
      change (completeTask report.taskId nodeId report.output report.processing_time_ms >>= fun _ =>
        checkConsensus services report.taskId >>= fun _ => pure Response.success).post may _ db Local.empty
      rw [post_bind]
      refine completeTask_post (fun _ => hdb) fun hok => ?_
      obtain ⟨key, task, hkey, htask⟩ := insertResult_ok hok
      rw [next_ok, post_bind, hkey]
      refine post_mono (h hdevice houtput key task nodeId hkey htask hnode hok) fun r u l' hu => ?_
      cases r with
      | error e => exact hu
      | ok v => exact hu

/-- The same for what holds of the tables. -/
theorem complete_post {P : NetworkDb → Prop} (services : Services) (report : CompletionReport) (hdb : P db)
    (h : report.device_id ≠ [] → report.output ≠ [] → ∀ key task nodeId, report.taskId = .uuid key →
      db.tasks.get? key = some task → nodeOfDevice db report.device_id = some nodeId →
      (insertResult report.taskId nodeId report.output report.processing_time_ms).reply () db = .ok () →
      (checkConsensus services (.uuid key)).post anywhere (fun _ u _ => P u) (afterReport db nodeId report) Local.empty) :
    (complete services report).post anywhere (fun _ u _ => P u) db Local.empty :=
  complete_ends (P := fun u _ => P u) services report hdb h

end Report

/-! ### What a failure runs -/

/-- What `handleTaskFailure` asks of the nodes it assigns a task to. -/
def reassignment (task : Task) : TaskRequirements := ⟨task.model_id, none, false, some task.region, some task.priority⟩

/-- The nodes that `assignTask` chooses from. -/
def offeredNodes (db : NetworkDb) (now : Nat) (requirements : TaskRequirements) : List Node :=
  (activeRows ⟨requirements.region, some 30⟩ now db).map fun r => mapRowToNode r.1 r.2

/-- What the transaction of a failure has pending before the task is touched. -/
def penalized (nodeId : Uuid) (s : NetworkDb) : NetworkDb → NetworkDb := fun t =>
  (reduceReputation nodeId 200).effect () ((failNode nodeId).effect () s s) ((failNode nodeId).effect () s t)

/-- The tables after a failure that leaves the task other nodes. -/
def afterFailure (db : NetworkDb) (key nodeId : Uuid) (task : Task) : NetworkDb :=
  let failed := penalized nodeId db db
  { failed with tasks := failed.tasks.modify key fun task' => { task' with assigned_nodes := remainingNodes task nodeId } }

section Failure
variable {may : Site → Prop} {db : NetworkDb} {l : Local backend}

/-- A frame that has the writes of an assignment. -/
theorem assignTask_sends {F : Frame backend} {P : Effect → Prop} {n : Nat} {taskId : UuidText} (hload : ∀ nodeId, (incrementLoad nodeId).Keeps F)
    (hassign : ∀ nodeIds, (assignNodes taskId nodeIds).Keeps F) (now : Nat) (requirements : TaskRequirements) :
    Sends F P n (assignTask now taskId requirements) := by
  have hloads (nodeIds : List Uuid) : Sends F P (n + 1) (incrementLoads nodeIds) := by
    induction nodeIds with
    | nil => exact sends_pure ()
    | cons nodeId rest ih => exact sends_bind (sends_query (Nat.succ_pos n) (hload nodeId) _) fun _ => ih
  refine sends_withClient (sends_bind ?_ fun allNodes => ?_) _
  · exact sends_withClient (sends_query (by omega) (Stmt.keeps_select _ _) _) _
  refine sends_bind (sends_ofExcept _) fun nodeIds => ?_
  refine sends_bind (sends_query (Nat.succ_pos n) (hassign nodeIds) _) fun _ => ?_
  exact sends_bind (hloads _) fun _ => sends_pure _

/-- Without nodes to choose the call throws the error of the choice, or of a call that fails. -/
theorem assignTask_throws {now : Nat} {taskId : UuidText} {requirements : TaskRequirements} {e : NetworkError}
    (h : selectNodes requirements (offeredNodes db now requirements) = .error e) :
    (assignTask now taskId requirements).post may
      (fun r u l' => (r = .error e ∨ ((∃ σ, may σ) ∧ r = .error .unavailable)) ∧ u = db ∧ l' = l) db l := by
  rw [assignTask, post_withClient, post_bind, getActiveNodes, post_withClient, post_query_idle]
  refine ⟨⟨⟨?_, fun hσ _ => ⟨.inr ⟨⟨_, hσ⟩, rfl⟩, rfl, rfl⟩⟩, fun hσ _ => ⟨.inr ⟨⟨_, hσ⟩, rfl⟩, rfl, rfl⟩⟩,
    fun hσ _ => ⟨.inr ⟨⟨_, hσ⟩, rfl⟩, rfl, rfl⟩⟩
  rw [selectActiveNodes, Stmt.reply_select, Stmt.effect_select, next_ok, post_bind]
  change (Async.ofExcept (B := backend) (selectNodes requirements (offeredNodes db now requirements))).post may _ db _
  rw [h]
  exact ⟨.inl rfl, rfl, rfl⟩

/-- Nothing is assigned then. -/
theorem assignTask_refused {now : Nat} {taskId : UuidText} {requirements : TaskRequirements} {e : NetworkError}
    (h : selectNodes requirements (offeredNodes db now requirements) = .error e) :
    (assignTask now taskId requirements).post may (fun r u l' => (∃ e, r = .error e) ∧ u = db ∧ l' = l) db l := by
  refine post_mono (assignTask_throws h) fun r u l' hu => ⟨?_, hu.2⟩
  obtain ⟨rfl | ⟨-, rfl⟩, -⟩ := hu
  · exact ⟨_, rfl⟩
  · exact ⟨_, rfl⟩

theorem reduceReputation_ok (nodeId : Uuid) (hundredths : Int) (db : NetworkDb) : (reduceReputation nodeId hundredths).reply () db = .ok () := by
  cases hrow : db.nodes.get? nodeId <;> simp [reduceReputation, updateNode, Stmt.reply, hrow, Except.map]

/-- The failure is counted, where the load of the node can be lowered. -/
theorem penalized_ok {db : NetworkDb} {nodeId : Uuid} {rest : Async backend (List Uuid)} {Q : Post backend (List Uuid)}
    (hcall : (∃ σ, may σ) → ∀ x, Q (.error .unavailable) db ⟨[x], []⟩)
    (hload : ∀ e, (failNode nodeId).reply () db = .error e → ∀ x, Q (.error e) db ⟨[x], []⟩)
    (h : (failNode nodeId).reply () db = .ok () → ∀ held, rest.post may Q db ⟨[.active () held (penalized nodeId db)], []⟩)
    (held : List RowLock) :
    (do
      Async.query .failNode (failNode nodeId)
      Async.query .reduceReputation (reduceReputation nodeId 200)
      rest : Async backend (List Uuid)).post may Q db ⟨[.active () held id], []⟩ := by
  rw [post_bind, post_query_active]
  refine ⟨?_, fun hσ _ => hcall ⟨_, hσ⟩ _⟩
  rw [id_eq]
  cases hreply : (failNode nodeId).reply () db with
  | error e => exact hload e hreply _
  | ok _ =>
    dsimp only
    rw [next_ok, post_bind, post_query_active, reduceReputation_ok]
    exact ⟨h hreply _, fun hσ _ => hcall ⟨_, hσ⟩ _⟩

/-- A failure changes nothing, or goes on with what is left of the task. -/
theorem handleTaskFailure_ends {db : NetworkDb} {Q : Except NetworkError (List Uuid) → NetworkDb → Prop} {now : Nat}
    {taskId : UuidText} {nodeId : Uuid} (hcall : (∃ σ, may σ) → Q (.error .unavailable) db)
    (hread : taskId = .malformed → Q (.error .invalidUuid) db)
    (hmissing : ∀ key, taskId = .uuid key → db.tasks.get? key = none → Q (.error .taskNotFound) db)
    (hload : ∀ e, (failNode nodeId).reply () db = .error e → Q (.error e) db)
    (hkeep : ∀ key task, taskId = .uuid key → db.tasks.get? key = some task → remainingNodes task nodeId ≠ [] →
      Q (.ok (remainingNodes task nodeId)) (afterFailure db key nodeId task))
    (hassign : ∀ key task held, taskId = .uuid key → db.tasks.get? key = some task → remainingNodes task nodeId = [] →
      (failNode nodeId).reply () db = .ok () →
      (do
        let newNodes ← assignTask now (.uuid key) (reassignment task)
        Async.await .commit .commit
        pure newNodes : Async backend (List Uuid)).post may
        (caught may (fun e => do await Site.rollback .rollback; .raise e) fun r u _ => Q r u) db
        ⟨[.active () held (penalized nodeId db)], []⟩) :
    (handleTaskFailure now taskId nodeId).post may (fun r u _ => Q r u) db Local.empty := by
  have hback {e : NetworkError} (h : Q (.error e) db) (x : Session backend) :
      caught may (fun e => do await Site.rollback .rollback; .raise e)
        (fun r u (_ : Local backend) => Q r u) (.error e) db ⟨[x], []⟩ := by
    rw [caught_error, post_bind, post_rollback]
    exact ⟨h, fun hσ _ => hcall ⟨_, hσ⟩⟩
  rw [handleTaskFailure, post_withClient]
  refine ⟨?_, fun hσ _ => hcall ⟨_, hσ⟩⟩
  rw [post_orRollback, post_bind, post_begin]
  refine ⟨?_, fun hσ _ => hback (hcall ⟨_, hσ⟩) _⟩
  rw [next_ok, post_bind, post_query_active]
  refine ⟨?_, fun hσ _ => hback (hcall ⟨_, hσ⟩) _⟩
  cases taskId with
  | malformed => exact hback (hread rfl) _
  | uuid key =>
    have htask : (selectTask (.uuid key)).reply () db = .ok ((db.tasks.get? key).map fun task => (key, task)) := rfl
    simp only [id_eq, htask]
    rw [next_ok]
    cases hget : db.tasks.get? key with
    | none => exact hback (hmissing key rfl hget) _
    | some task =>
      refine penalized_ok (fun hσ => hback (hcall hσ)) (fun e he => hback (hload e he)) (fun hok held => ?_) _
      split
      case isTrue hlast => exact hassign key task held rfl hget hlast hok
      case isFalse hne =>
        rw [post_bind, post_query_active]
        refine ⟨?_, fun hσ _ => hback (hcall ⟨_, hσ⟩) _⟩
        change (await Site.commit .commit >>= fun _ => pure (remainingNodes task nodeId) : Async backend (List Uuid)).post may _ db _
        rw [post_bind, post_commit]
        exact ⟨hkeep key task rfl hget hne, fun hσ _ => hback (hcall ⟨_, hσ⟩) _⟩

/-- The same where the error does not matter. -/
theorem handleTaskFailure_post {db : NetworkDb} {Q : Except NetworkError (List Uuid) → NetworkDb → Prop} {now : Nat}
    {taskId : UuidText} {nodeId : Uuid} (herror : ∀ e, Q (.error e) db)
    (hkeep : ∀ key task, taskId = .uuid key → db.tasks.get? key = some task → remainingNodes task nodeId ≠ [] →
      Q (.ok (remainingNodes task nodeId)) (afterFailure db key nodeId task))
    (hassign : ∀ key task held, taskId = .uuid key → db.tasks.get? key = some task → remainingNodes task nodeId = [] →
      (do
        let newNodes ← assignTask now (.uuid key) (reassignment task)
        Async.await .commit .commit
        pure newNodes : Async backend (List Uuid)).post may
        (caught may (fun e => do await Site.rollback .rollback; .raise e) fun r u _ => Q r u) db
        ⟨[.active () held (penalized nodeId db)], []⟩) :
    (handleTaskFailure now taskId nodeId).post may (fun r u _ => Q r u) db Local.empty :=
  handleTaskFailure_ends (fun _ => herror _) (fun _ => herror _) (fun _ _ _ => herror _) (fun _ _ => herror _) hkeep
    fun key task held hkey htask hlast _ => hassign key task held hkey htask hlast

/-- A failure is refused, or handled for the node of its device. -/
theorem fail_post {Q : Except NetworkError Response → NetworkDb → Prop} {report : FailureReport} (hdone : ∀ r, r ≠ .ok .success → Q r db)
    (h : report.device_id ≠ [] → ∀ nodeId, nodeOfDevice db report.device_id = some nodeId →
      (handleTaskFailure report.now report.taskId nodeId).post may
        (fun r u _ => (∀ e, r = .error e → Q (.ok .serverError) u) ∧ ∀ ids, r = .ok ids → Q (.ok .success) u) db Local.empty) :
    (fail report).post may (fun r u _ => Q r u) db Local.empty := by
  rw [fail]
  split
  case isTrue => exact hdone _ nofun
  case isFalse hdevice =>
    rw [post_handle, post_bind, getNodeByDeviceId, post_withClient, post_query_idle, Stmt.reply_select, Stmt.effect_select]
    refine ⟨⟨?_, fun _ _ => hdone _ nofun⟩, fun _ _ => hdone _ nofun⟩
    cases hnode : (db.nodes.rows.find? fun r => r.2.device_id == report.device_id).map Prod.fst with
    | none => exact hdone _ nofun
    | some nodeId =>
      change (handleTaskFailure report.now report.taskId nodeId >>= fun _ => pure Response.success).post may _ db Local.empty
      rw [post_bind]
      refine post_mono (h hdevice nodeId hnode) fun r u l' hu => ?_
      cases r with
      | error e => exact hu.1 e rfl
      | ok ids => exact hu.2 ids rfl

end Failure

end GalaxiaAin.Network
