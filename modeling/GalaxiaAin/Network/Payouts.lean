import GalaxiaAin.Network.Earned

/-! Payouts. Every verification with a consensus pays all nodes of the task, whether or not it
has its consensus, and nothing pays where a call fails after it. -/
namespace GalaxiaAin.Network
open GalaxiaAin.Library
open GalaxiaAin.Library.Async hiding bind

/-! ### What a verification changes -/

/-- Assignments and costs stay. -/
def SameTerms (s t : NetworkDb) : Prop :=
  ∀ k, (t.tasks.get? k).map (fun task => (task.assigned_nodes, task.cost_tokens)) =
    (s.tasks.get? k).map fun task => (task.assigned_nodes, task.cost_tokens)

theorem SameTerms.refl (s : NetworkDb) : SameTerms s s := fun _ => rfl

theorem SameTerms.trans {s t u : NetworkDb} (h : SameTerms s t) (h' : SameTerms t u) : SameTerms s u :=
  fun k => (h' k).trans (h k)

theorem SameTerms.of_tasks {s t : NetworkDb} (h : t.tasks = s.tasks) : SameTerms s t := fun k => by rw [h]

theorem sameTerms_setStatus (db : NetworkDb) (key : Uuid) (status : TaskStatus) :
    SameTerms db ((setStatus key status).effect () db db) := by
  intro k
  change ((db.tasks.modify key fun task => { task with status := status }).get? k).map _ = _
  rw [Table.get?_modify]
  split
  · cases db.tasks.get? k <;> rfl
  · rfl

/-- A program on an idle client that writes to nodes and leaves the client idle. -/
def WritesNodes (p : Async backend Unit) : Prop :=
  ∀ (may : Site → Prop) (db : NetworkDb) (rest : List (Session backend)) (out : List Effect),
    p.post may (fun _ u l => (∃ nodes, u = { db with nodes := nodes }) ∧ l = ⟨.idle :: rest, out⟩) db ⟨.idle :: rest, out⟩

theorem writesNodes_bind {p q : Async backend Unit} (hp : WritesNodes p) (hq : WritesNodes q) :
    WritesNodes (p >>= fun _ => q) := by
  intro may db rest out
  rw [post_bind]
  refine post_mono (hp may db rest out) fun r u l h => ?_
  obtain ⟨⟨nodes, rfl⟩, rfl⟩ := h
  cases r with
  | error e => exact ⟨⟨nodes, rfl⟩, rfl⟩
  | ok a =>
    refine post_mono (hq may _ rest out) fun r u l h => ?_
    obtain ⟨⟨nodes', rfl⟩, rfl⟩ := h
    exact ⟨⟨nodes', rfl⟩, rfl⟩

theorem writesNodes_update (σ : Site) (nodeId : Uuid) (set : NodeRow → Except NetworkError NodeRow) :
    WritesNodes (Async.query σ (updateNode nodeId set)) := by
  intro may db rest out
  rw [post_query_idle]
  exact ⟨⟨updateNode_effect nodeId set db db, rfl⟩, fun _ _ => ⟨⟨db.nodes, rfl⟩, rfl⟩⟩

theorem writesNodes_reputation (nodeId : Uuid) : WritesNodes (updateNodeReputation nodeId) := by
  intro may db rest out
  have hdone : (∃ nodes, db = { db with nodes := nodes }) ∧ (⟨.idle :: rest, out⟩ : Local backend) = ⟨.idle :: rest, out⟩ :=
    ⟨⟨db.nodes, rfl⟩, rfl⟩
  rw [updateNodeReputation, post_withClient, post_bind, post_query_idle]
  refine ⟨⟨?_, fun _ _ => hdone⟩, fun _ _ => hdone⟩
  have hreply : (selectNodeRow nodeId).reply () db = .ok (db.nodes.get? nodeId) := rfl
  have hsame : (selectNodeRow nodeId).effect () db db = db := rfl
  rw [show backend.initial = () from rfl, hreply, hsame, next_ok]
  cases db.nodes.get? nodeId with
  | none => exact hdone
  | some row =>
    refine post_mono (writesNodes_update _ nodeId _ may db (.idle :: rest) out) fun r u l h => ?_
    obtain ⟨hnodes, rfl⟩ := h
    exact ⟨hnodes, rfl⟩

theorem writesNodes_reward (nodeIds : List Uuid) : WritesNodes (rewardNodes nodeIds) := by
  induction nodeIds with
  | nil => exact fun may db rest out => ⟨⟨db.nodes, rfl⟩, rfl⟩
  | cons nodeId rest ih =>
    exact writesNodes_bind (writesNodes_update _ _ _) (writesNodes_bind (writesNodes_reputation nodeId) ih)

theorem writesNodes_penalize (penalty : Int) (nodeIds : List Uuid) : WritesNodes (penalizeNodes penalty nodeIds) := by
  induction nodeIds with
  | nil => exact fun may db rest out => ⟨⟨db.nodes, rfl⟩, rfl⟩
  | cons nodeId rest ih => exact writesNodes_bind (writesNodes_update _ _ _) ih

/-- A verification concludes a task with one row and says so, unless a call fails after the row;
or there is no row, and it does not. -/
def Concluding (may : Site → Prop) (concludes : Prop) (key : Uuid) (a : NetworkDb) (out : List Effect) : Post backend Verification :=
  fun r u l' => l'.out = out ∧ SameTerms a u ∧
    ((u.consensus_results = a.consensus_results ∧ ∀ v, r = .ok v → v.consensus = false) ∨
      (concludes ∧ (∃ row, row.task_id = key ∧ u.consensus_results = a.consensus_results ++ [row]) ∧
        ((∀ σ, ¬ may σ) → ∃ v, r = .ok v ∧ v.consensus = true)))

section Verification
variable {may : Site → Prop} {concludes : Prop} {key : Uuid} {a db : NetworkDb} {l : Local backend} {out : List Effect}

theorem concluding_error {e : NetworkError} {k : Local backend} (hk : k.out = out) (hterms : SameTerms a db)
    (h : db.consensus_results = a.consensus_results) : Concluding may concludes key a out (.error e) db k :=
  ⟨hk, hterms, .inl ⟨h, fun v hv => by cases hv⟩⟩

theorem concluding_none {k : Local backend} (hk : k.out = out) (hterms : SameTerms a db)
    (h : db.consensus_results = a.consensus_results) : Concluding may concludes key a out (.ok noConsensus) db k :=
  ⟨hk, hterms, .inl ⟨h, fun v hv => by cases hv; rfl⟩⟩

/-- The row of a consensus and the status that follows it. -/
theorem finish_concluding (result : ConsensusResult) {v : Verification} (hkey : result.task_id = key) (hc : concludes)
    (hv : v.consensus = true) (hterms : SameTerms a db) (hrows : db.consensus_results = a.consensus_results) (hout : l.out = out) :
    (do
      Async.query (B := backend) Site.insertConsensus (insertConsensus result)
      Async.query (B := backend) Site.finishTask (setStatus key .completed)
      pure v : Async backend Verification).post may (Concluding may concludes key a out) db ⟨.idle :: l.sessions, l.out⟩ := by
  rw [post_bind, post_query_idle]
  refine ⟨?_, fun _ _ => concluding_error hout hterms hrows⟩
  rw [Stmt.reply, Stmt.effect]
  simp only [insertConsensus, Stmt.statement]
  by_cases hmissing : (db.tasks.get? result.task_id).isNone = true
  · rw [if_pos hmissing]
    exact concluding_error hout hterms hrows
  rw [if_neg hmissing]
  have hrow : ∃ row, row.task_id = key ∧ db.consensus_results ++ [result] = a.consensus_results ++ [row] :=
    ⟨result, hkey, by rw [hrows]⟩
  change (Async.query (B := backend) Site.finishTask (setStatus key .completed) >>= fun _ => pure v : Async backend Verification).post may _
    { db with consensus_results := db.consensus_results ++ [result] } _
  rw [post_bind, post_query_idle]
  refine ⟨?_, fun hσ _ => ⟨hout, hterms, .inr ⟨hc, hrow, fun hmay => absurd hσ (hmay _)⟩⟩⟩
  exact ⟨hout, hterms.trans (sameTerms_setStatus _ key .completed), .inr ⟨hc, hrow, fun _ => ⟨v, rfl, hv⟩⟩⟩

theorem reachConsensus_concluding (hc : concludes) (kind : VerificationKind) (results : List PendingResult) (majorityOutput : Text)
    (majorityNodes : List Uuid) :
    (reachConsensus kind key results majorityOutput majorityNodes).post may (Concluding may concludes key db l.out) db
      ⟨.idle :: l.sessions, l.out⟩ := by
  have hterms := SameTerms.refl db
  rw [reachConsensus, post_bind, post_query_idle]
  refine ⟨?_, fun _ _ => concluding_error rfl hterms rfl⟩
  have hreply : (markResults key majorityNodes kind.scores).reply () db = .ok () := rfl
  rw [show backend.initial = () from rfl, hreply, next_ok, post_bind]
  have hmarked : ((markResults key majorityNodes kind.scores).effect () db db).tasks = db.tasks := rfl
  refine post_mono (writesNodes_reward majorityNodes may _ l.sessions l.out) fun r u l' h => ?_
  obtain ⟨⟨nodes, rfl⟩, rfl⟩ := h
  cases r with
  | error e => exact concluding_error rfl (.of_tasks hmarked) rfl
  | ok _ =>
    rw [next_ok, post_bind]
    refine post_mono (writesNodes_penalize kind.penalty _ may _ l.sessions l.out) fun r u l' h => ?_
    obtain ⟨⟨nodes', rfl⟩, rfl⟩ := h
    cases r with
    | error e => exact concluding_error rfl (.of_tasks hmarked) rfl
    | ok _ =>
      rw [next_ok]
      dsimp only
      rw [post_bind, post_ofExcept]
      cases assignScore ((majorityNodes.length : ℚ) / results.length * 100) with
      | error e => exact concluding_error rfl (.of_tasks hmarked) rfl
      | ok confidence =>
        exact finish_concluding (l := l) (majorityResult key results majorityOutput majorityNodes confidence) rfl hc rfl
          (.of_tasks hmarked) rfl rfl

theorem runTiebreaker_concluding (results : List PendingResult)
    (hc : 2 ≤ (tiebreakers db (results.map (·.node_id))).length → concludes) :
    (runTiebreaker key results).post may (Concluding may concludes key db l.out) db l := by
  have hterms := SameTerms.refl db
  rw [runTiebreaker, post_withClient, post_bind, post_query_idle]
  refine ⟨⟨?_, fun _ _ => concluding_error rfl hterms rfl⟩, fun _ _ => concluding_error rfl hterms rfl⟩
  have htask : (selectTask (.uuid key)).reply () db = .ok ((db.tasks.get? key).map fun task => (key, task)) := rfl
  have hsame : (selectTask (.uuid key)).effect () db db = db := rfl
  rw [show backend.initial = () from rfl, htask, hsame, next_ok]
  cases db.tasks.get? key with
  | none => exact concluding_none rfl hterms rfl
  | some task =>
    change (query (B := backend) Site.selectTiebreakers (selectTiebreakers (results.map (·.node_id))) >>= _).post may _ db _
    rw [post_bind, post_query_idle]
    refine ⟨?_, fun _ _ => concluding_error rfl hterms rfl⟩
    rw [selectTiebreakers, Stmt.reply_select, Stmt.effect_select, next_ok]
    by_cases hfew : 2 ≤ (tiebreakers db (results.map (·.node_id))).length
    · rw [if_neg (by omega)]
      exact finish_concluding (l := l) (tiebreakerResult key results) rfl (hc hfew) rfl hterms rfl rfl
    · rw [if_pos (by omega), post_bind, post_query_idle]
      refine ⟨?_, fun _ _ => concluding_error rfl hterms rfl⟩
      exact concluding_none rfl (sameTerms_setStatus db key .failed) rfl

theorem verification_concluding (task : Task) (hne : pendingResults db key ≠ []) :
    (if isDeterministic task then verifyDeterministicResults key (pendingResults db key)
      else verifyNonDeterministicResults key (pendingResults db key)).post may
        (Concluding may (Concludes db key task) key db l.out) db l := by
  have hterms := SameTerms.refl db
  have htie (h : 2 ≤ (tiebreakers db ((pendingResults db key).map (·.node_id))).length) : Concludes db key task := ⟨hne, .inr h⟩
  split
  case isTrue hdet =>
    rw [verifyDeterministicResults, post_withClient]
    refine ⟨?_, fun _ _ => concluding_error rfl hterms rfl⟩
    dsimp only
    split
    case isTrue hmajority =>
      exact reachConsensus_concluding (l := l) ⟨hne, .inl (by rwa [majorityLength, if_pos hdet])⟩ _ _ _ _
    case isFalse => exact runTiebreaker_concluding (l := ⟨.idle :: l.sessions, l.out⟩) _ htie
  case isFalse hdet =>
    rw [verifyNonDeterministicResults, post_withClient]
    refine ⟨?_, fun _ _ => concluding_error rfl hterms rfl⟩
    cases hclusters : (findClusters [] [] (similarPairs (pendingResults db key))).mergeSort
        fun a b => decide (b.length ≤ a.length) with
    | nil => exact runTiebreaker_concluding (l := ⟨.idle :: l.sessions, l.out⟩) _ htie
    | cons majorityCluster rest =>
      change (if consensusThreshold (pendingResults db key).length ≤ majorityCluster.length then _ else _ :
        Async backend Verification).post may _ db _
      split
      case isTrue hmajority =>
        have hlargest : consensusThreshold (pendingResults db key).length ≤ majorityLength task (pendingResults db key) := by
          rw [majorityLength, if_neg hdet, hclusters]
          exact hmajority
        exact reachConsensus_concluding (l := l) ⟨hne, .inl hlargest⟩ _ _ _ _
      case isFalse => exact runTiebreaker_concluding (l := ⟨.idle :: l.sessions, l.out⟩) _ htie

/-- The verification of a task that exists. -/
theorem verifyTaskResults_concluding {task : Task} (htask : db.tasks.get? key = some task) :
    (verifyTaskResults (.uuid key)).post may (Concluding may (Concludes db key task) key db l.out) db l := by
  have hterms := SameTerms.refl db
  refine verifyTaskResults_ends (fun _ => concluding_error rfl hterms rfl) (concluding_none rfl hterms rfl) fun task' htask' hne => ?_
  obtain rfl := Option.some.inj (htask.symm.trans htask')
  exact verification_concluding (l := ⟨.idle :: l.sessions, l.out⟩) task hne

end Verification

/-! ### What a report pays -/

/-- Nothing is concluded and nothing paid. -/
def Rests (s t : NetworkDb) (paid : List Effect) : Prop :=
  SameTerms s t ∧ t.consensus_results = s.consensus_results ∧ paid = []

/-- The task is concluded, and unless a call fails its nodes are paid. -/
def Pays (may : Site → Prop) (key : Uuid) (nodeIds : List Uuid) (s t : NetworkDb) (paid : List Effect) : Prop :=
  SameTerms s t ∧ (∃ row, row.task_id = key ∧ t.consensus_results = s.consensus_results ++ [row]) ∧
    ((∀ σ, ¬ may σ) → ∃ userId userWallet, paid = [.distributeNodePayments (.uuid key) nodeIds userId userWallet])

/-- The report is recorded. -/
structure Reported (db : NetworkDb) (report : CompletionReport) (key nodeId : Uuid) (task : Task) : Prop where
  device : report.device_id ≠ []
  output : report.output ≠ []
  taskId : report.taskId = .uuid key
  node : nodeOfDevice db report.device_id = some nodeId
  task : db.tasks.get? key = some task
  recorded : (insertResult report.taskId nodeId report.output report.processing_time_ms).reply () db = .ok ()

section Steps
variable {may : Site → Prop} {db : NetworkDb}

theorem Rests.refl (db : NetworkDb) : Rests db db [] := ⟨.refl db, rfl, rfl⟩

theorem afterReport_tables (nodeId : Uuid) (report : CompletionReport) :
    SameTerms db (afterReport db nodeId report) ∧ (afterReport db nodeId report).consensus_results = db.consensus_results := by
  obtain ⟨results, hresults, -⟩ := insertResult_effect report.taskId nodeId report.output report.processing_time_ms db db
  obtain ⟨nodes, hnodes⟩ := updateNode_effect nodeId
    (fun row => do .ok { row with current_load := greatestInteger (← addInteger (-1) row.current_load) })
    { db with task_results := results } { db with task_results := results }
  rw [afterReport, hresults, decrementLoad, hnodes]
  exact ⟨.refl db, rfl⟩

/-- What follows a verification: payments after a consensus, and nothing without one. -/
theorem concluding_next {key : Uuid} {nodeIds : List Uuid} {concludes : Prop} {a u : NetworkDb} {before : List Effect}
    {r : Except NetworkError Verification} {l' : Local backend} {pay : Async backend Unit} (hterms : SameTerms db a)
    (hrows : a.consensus_results = db.consensus_results) (h : Concluding may concludes key a before r u l')
    (hpay : pay.post may (fun _ w k => w = u ∧ ∃ paid, k.out = before ++ paid ∧
      ((∀ σ, ¬ may σ) → ∃ userId userWallet, paid = [.distributeNodePayments (.uuid key) nodeIds userId userWallet])) u l') :
    next may (fun result => onlyIf (result.consensus = true) pay) (fun _ w k => ∃ paid, k.out = before ++ paid ∧
      (Rests db w paid ∨ concludes ∧ Pays may key nodeIds db w paid)) r u l' := by
  obtain ⟨hout, hsame, hcases⟩ := h
  have hout : l'.out = before := hout
  have hquiet (h : (∀ σ, ¬ may σ) → False) : ∃ paid, l'.out = before ++ paid ∧
      (Rests db u paid ∨ concludes ∧ Pays may key nodeIds db u paid) := by
    refine ⟨[], by rw [hout, List.append_nil], ?_⟩
    rcases hcases with ⟨hnone, -⟩ | ⟨hc, ⟨row, hkey, hrow⟩, -⟩
    · exact .inl ⟨hterms.trans hsame, hnone.trans hrows, rfl⟩
    · exact .inr ⟨hc, hterms.trans hsame, ⟨row, hkey, by rw [hrow, hrows]⟩, fun hmay => (h hmay).elim⟩
  have hrests (h : u.consensus_results = a.consensus_results) : ∃ paid, l'.out = before ++ paid ∧
      (Rests db u paid ∨ concludes ∧ Pays may key nodeIds db u paid) :=
    ⟨[], by rw [hout, List.append_nil], .inl ⟨hterms.trans hsame, h.trans hrows, rfl⟩⟩
  cases r with
  | error e =>
    rcases hcases with ⟨hnone, -⟩ | ⟨-, -, hserved⟩
    · exact hrests hnone
    · exact hquiet fun hmay => by obtain ⟨v, hv, -⟩ := hserved hmay; cases hv
  | ok v =>
    rw [next_ok]
    unfold onlyIf
    split
    case isFalse hno =>
      rcases hcases with ⟨hnone, -⟩ | ⟨-, -, hserved⟩
      · exact hrests hnone
      · refine hquiet fun hmay => ?_
        obtain ⟨v', hv, hyes⟩ := hserved hmay
        cases hv
        exact hno hyes
    case isTrue hyes =>
      refine post_mono hpay fun r' w k hk => ?_
      obtain ⟨rfl, paid, hpaid, hserved⟩ := hk
      refine ⟨paid, hpaid, .inr ?_⟩
      rcases hcases with ⟨-, hno⟩ | ⟨hc, ⟨row, hkey, hrow⟩, -⟩
      · rw [hno v rfl] at hyes
        cases hyes
      · exact ⟨hc, hterms.trans hsame, ⟨row, hkey, by rw [hrow, hrows]⟩, hserved⟩

/-- A completion report pays where its verification concludes. -/
theorem complete_pays (services : Services) (report : CompletionReport) :
    (complete services report).post may (fun _ u l' => Rests db u l'.out ∨ ∃ key task nodeId, Reported db report key nodeId task ∧
      Concludes (afterReport db nodeId report) key task ∧ Pays may key task.assigned_nodes db u l'.out) db Local.empty := by
  refine complete_ends (P := fun u out => Rests db u out ∨ ∃ key task nodeId, Reported db report key nodeId task ∧
    Concludes (afterReport db nodeId report) key task ∧ Pays may key task.assigned_nodes db u out) services report
    (.inl (.refl db)) fun hdevice houtput key task nodeId hkey htask hnode hok => ?_
  obtain ⟨hterms, hrows⟩ := @afterReport_tables db nodeId report
  refine checkConsensus_ends services (fun _ => .inl ⟨hterms, hrows, rfl⟩) fun task' htask' => ?_
  have hafter : (afterReport db nodeId report).tasks.get? key = some task := by rw [afterReport_tasks]; exact htask
  obtain rfl := Option.some.inj (hafter.symm.trans htask')
  refine post_mono (verifyTaskResults_concluding hafter) fun r u l' hu => ?_
  have hpay : (distributePayments services (.uuid key) task.assigned_nodes none none).post may (fun _ w k => w = u ∧ ∃ paid,
      k.out = [] ++ paid ∧ ((∀ σ, ¬ may σ) → ∃ userId userWallet,
        paid = [.distributeNodePayments (.uuid key) task.assigned_nodes userId userWallet])) u l' := by
    rw [distributePayments, post_bind, post_emit]
    change (Async.ofExcept (B := backend) _).post may _ u ⟨l'.sessions, l'.out ++ [_]⟩
    rw [post_ofExcept, hu.1]
    exact ⟨rfl, _, rfl, fun _ => ⟨none, none, rfl⟩⟩
  have hpaid (w : NetworkDb) (out : List Effect) (h : ∃ paid, out = [] ++ paid ∧ (Rests db w paid ∨
      Concludes (afterReport db nodeId report) key task ∧ Pays may key task.assigned_nodes db w paid)) :
      Rests db w out ∨ ∃ key task nodeId, Reported db report key nodeId task ∧
        Concludes (afterReport db nodeId report) key task ∧ Pays may key task.assigned_nodes db w out := by
    obtain ⟨paid, rfl, hcases⟩ := h
    exact hcases.imp_right fun hc => ⟨key, task, nodeId, ⟨hdevice, houtput, hkey, hnode, htask, hok⟩, hc⟩
  have hnext := concluding_next hterms hrows hu hpay
  cases r with
  | error e => exact hpaid u l'.out hnext
  | ok v => exact post_mono hnext fun _ w k hk => hpaid w k.out hk

/-! ### What an attempt of a queued task pays -/

/-- The tables with a result for each of the nodes; none where one is refused. -/
def recorded (db : NetworkDb) (key : Uuid) (result : InferenceResult) : List Uuid → Option NetworkDb
  | [] => some db
  | nodeId :: rest =>
    match (insertResult (.uuid key) nodeId result.output result.processing_time_ms).reply () db with
    | .ok _ => recorded ((insertResult (.uuid key) nodeId result.output result.processing_time_ms).effect () db db) key result rest
    | .error _ => none

theorem recordResults_recorded (key : Uuid) (result : InferenceResult) (nodeIds : List Uuid) (rest : List (Session backend))
    (out : List Effect) :
    (recordResults key result nodeIds).post may (fun r u l' => l' = ⟨.idle :: rest, out⟩ ∧ (∃ results, u = { db with task_results := results }) ∧
      (r = .ok () → recorded db key result nodeIds = some u)) db ⟨.idle :: rest, out⟩ := by
  induction nodeIds generalizing db with
  | nil => exact ⟨rfl, ⟨db.task_results, rfl⟩, fun _ => rfl⟩
  | cons nodeId nodeIds ih =>
    rw [recordResults, post_bind, post_query_idle]
    refine ⟨?_, fun _ _ => ⟨rfl, ⟨db.task_results, rfl⟩, nofun⟩⟩
    rw [show backend.initial = () from rfl, recorded]
    obtain ⟨results, heffect, -⟩ := insertResult_effect (.uuid key) nodeId result.output result.processing_time_ms db db
    rw [heffect]
    cases (insertResult (.uuid key) nodeId result.output result.processing_time_ms).reply () db with
    | error e => exact ⟨rfl, ⟨results, rfl⟩, nofun⟩
    | ok _ =>
      refine post_mono ih fun r u l' hu => ?_
      obtain ⟨hl, ⟨results', rfl⟩, hok⟩ := hu
      exact ⟨hl, ⟨results', rfl⟩, hok⟩

/-- The payment of the nodes of a queued task. -/
theorem payNodes_pays (services : Services) (task : QueuedTask) (l : Local backend) :
    (payNodes services task).post may (fun _ u k => u = db ∧ ∃ paid, k.out = l.out ++ paid ∧ ((∀ σ, ¬ may σ) →
      ∃ userId userWallet, paid = [.distributeNodePayments (.uuid task.taskId) task.nodeIds userId userWallet])) db l := by
  have hstop (σ : Site) (hσ : may σ) : db = db ∧ ∃ paid : List Effect, l.out = l.out ++ paid ∧ ((∀ σ, ¬ may σ) →
      ∃ userId userWallet, paid = [.distributeNodePayments (.uuid task.taskId) task.nodeIds userId userWallet]) :=
    ⟨rfl, [], (List.append_nil _).symm, fun hmay => absurd hσ (hmay σ)⟩
  have hpay (userId : Option Uuid) (userWallet : Option Text) : (distributePayments services (.uuid task.taskId) task.nodeIds userId userWallet).post may
      (fun _ u k => u = db ∧ ∃ paid, k.out = l.out ++ paid ∧ ((∀ σ, ¬ may σ) →
        ∃ userId userWallet, paid = [.distributeNodePayments (.uuid task.taskId) task.nodeIds userId userWallet])) db
      ⟨.idle :: l.sessions, l.out⟩ := by
    rw [distributePayments, post_bind, post_emit]
    change (Async.ofExcept (B := backend) _).post may _ db ⟨_, l.out ++ [_]⟩
    rw [post_ofExcept]
    exact ⟨rfl, _, rfl, fun _ => ⟨userId, userWallet, rfl⟩⟩
  rw [payNodes, post_withClient, post_bind, post_query_idle]
  refine ⟨⟨?_, fun hσ _ => hstop _ hσ⟩, fun hσ _ => hstop _ hσ⟩
  have hreply : (selectTask (.uuid task.taskId)).reply () db = .ok ((db.tasks.get? task.taskId).map fun row => (task.taskId, row)) := rfl
  have hsame : (selectTask (.uuid task.taskId)).effect () db db = db := rfl
  rw [show backend.initial = () from rfl, hreply, hsame, next_ok]
  split
  case h_1 => exact hpay none none
  case h_2 userId _ =>
    rw [post_bind, selectWallet, post_query_idle, Stmt.reply_select, Stmt.effect_select, next_ok]
    exact ⟨hpay (some userId) _, fun hσ _ => hstop _ hσ⟩

/-- What a work on a task finds when it is concluded. -/
def Worked (db : NetworkDb) (crypto : Cryptography) (calls : PrivacyCalls) (services : Services) (task : QueuedTask) (row : Task) : Prop :=
  ∃ result a, services.runInference task.model (processedInput crypto calls task.input task.privacyLevel) task.inputType = .ok result ∧
    recorded db task.taskId result task.nodeIds = some a ∧ db.tasks.get? task.taskId = some row ∧ Concludes a task.taskId row

/-- An attempt pays where its verification concludes. -/
theorem processTask_pays (crypto : Cryptography) (calls : PrivacyCalls) (services : Services) (task : QueuedTask) :
    (processTask crypto calls services task).post may (fun _ u l' => ∃ model input inputType paid,
      l'.out = .runInference model input inputType :: paid ∧ (Rests db u paid ∨
        ∃ row, Worked db crypto calls services task row ∧ Pays may task.taskId task.nodeIds db u paid)) db Local.empty := by
  rw [processTask]
  dsimp only
  rw [post_bind, post_emit]
  change (Async.ofExcept (B := backend) _ >>= _).post may _ _ ⟨[], [.runInference task.model
    (processedInput crypto calls task.input task.privacyLevel) task.inputType]⟩
  rw [post_bind, post_ofExcept]
  generalize hbefore : [Effect.runInference task.model (processedInput crypto calls task.input task.privacyLevel) task.inputType] = before
  have hquiet {u : NetworkDb} (hu : SameTerms db u) (hrows : u.consensus_results = db.consensus_results) : ∃ model input inputType paid,
      before = .runInference model input inputType :: paid ∧ (Rests db u paid ∨
        ∃ row, Worked db crypto calls services task row ∧ Pays may task.taskId task.nodeIds db u paid) :=
    ⟨_, _, _, [], hbefore.symm, .inl ⟨hu, hrows, rfl⟩⟩
  cases hresult : services.runInference task.model (processedInput crypto calls task.input task.privacyLevel) task.inputType with
  | error message => exact hquiet (.refl db) rfl
  | ok result =>
    change (Async.withClient Site.connect (recordResults task.taskId result task.nodeIds) >>= _).post may _ _ _
    rw [post_bind, post_withClient]
    refine ⟨?_, fun _ _ => hquiet (.refl db) rfl⟩
    refine post_mono (recordResults_recorded task.taskId result task.nodeIds [] before) fun r a l' ha => ?_
    obtain ⟨rfl, ⟨results, rfl⟩, hrecorded⟩ := ha
    cases r with
    | error e => exact hquiet (.refl db) rfl
    | ok _ =>
      rw [next_ok, post_bind]
      have hpaid (concludes : Prop) (w : NetworkDb) (out : List Effect) (hc : concludes → ∃ row, Worked db crypto calls services task row)
          (h : ∃ paid, out = before ++ paid ∧ (Rests db w paid ∨ concludes ∧ Pays may task.taskId task.nodeIds db w paid)) :
          ∃ model input inputType paid, out = .runInference model input inputType :: paid ∧ (Rests db w paid ∨
            ∃ row, Worked db crypto calls services task row ∧ Pays may task.taskId task.nodeIds db w paid) := by
        obtain ⟨paid, rfl, hcases⟩ := h
        rw [← hbefore]
        refine ⟨_, _, _, paid, rfl, hcases.imp_right fun hp => ?_⟩
        obtain ⟨row, hrow⟩ := hc hp.1
        exact ⟨row, hrow, hp.2⟩
      have hfinish (concludes : Prop) (hc : concludes → ∃ row, Worked db crypto calls services task row)
          (hverify : (verifyTaskResults (.uuid task.taskId)).post may (Concluding may concludes task.taskId
            { db with task_results := results } before) { db with task_results := results } ⟨[], before⟩) :
          (verifyTaskResults (.uuid task.taskId)).post may (next may (fun verification => onlyIf (verification.consensus = true)
            (payNodes services task)) fun _ u l' => ∃ model input inputType paid, l'.out = .runInference model input inputType :: paid ∧
              (Rests db u paid ∨ ∃ row, Worked db crypto calls services task row ∧ Pays may task.taskId task.nodeIds db u paid))
            { db with task_results := results } ⟨[], before⟩ := by
        refine post_mono hverify fun r u l' hu => ?_
        have hpay := @payNodes_pays may u services task l'
        rw [hu.1] at hpay
        have hterms : SameTerms db { db with task_results := results } := .refl db
        have hnext := concluding_next hterms rfl hu hpay
        cases r with
        | error e => exact hpaid concludes u l'.out hc hnext
        | ok v => exact post_mono hnext fun _ w k hk => hpaid concludes w k.out hc hk
      cases htask : db.tasks.get? task.taskId with
      | none =>
        refine hfinish False False.elim (verifyTaskResults_ends (fun _ => concluding_error rfl (.refl _) rfl)
          (concluding_none rfl (.refl _) rfl) fun task' htask' => ?_)
        rw [htask] at htask'
        cases htask'
      | some row =>
        exact hfinish (Concludes { db with task_results := results } task.taskId row)
          (fun hc => ⟨row, result, _, hresult, hrecorded rfl, htask, hc⟩) (verifyTaskResults_concluding htask)

end Steps

end GalaxiaAin.Network
