import GalaxiaAin.Network.Finality
import GalaxiaAin.Network.Majority

/-! Which nodes are paid for a task. The nodes that are verified are those of a majority of
the pending results; the nodes that are paid are those the task is assigned to. -/
namespace GalaxiaAin.Network
open GalaxiaAin.Library
open GalaxiaAin.Library.Async hiding bind

/-! ### What a report pays -/

/-- The result of a node for a task is verified. -/
def verifiedResult (db : NetworkDb) (key nodeId : Uuid) : Bool :=
  (db.task_results.get? (key, nodeId)).any fun r => r.verification_status == .verified

/-- The nodes of the majority, as either kind of verification computes it. -/
def majorityNodes (task : Task) (results : List PendingResult) : List Uuid :=
  if isDeterministic task then (((outputGroups results).largest List.length).getD ([], [])).2
  else ((findClusters [] [] (similarPairs results)).mergeSort fun a b => decide (b.length ≤ a.length)).headD []

/-- A verification has no consensus, or one in which every assigned node's result is verified:
as one of the majority, or, where a tiebreaker decides, from before. -/
def Agreed (db : NetworkDb) (key : Uuid) (task : Task) : Prop :=
  pendingResults db key ≠ [] →
    if consensusThreshold (pendingResults db key).length ≤ (majorityNodes task (pendingResults db key)).length then
      ∀ nodeId ∈ task.assigned_nodes,
        nodeId ∈ majorityNodes task (pendingResults db key) ∧ (db.task_results.get? (key, nodeId)).isSome
    else
      2 ≤ (tiebreakers db ((pendingResults db key).map (·.node_id))).length →
        ∀ nodeId ∈ task.assigned_nodes, verifiedResult db key nodeId = true

/-- With the reported result every assigned node agrees, or there is no consensus. -/
def Earned (db : NetworkDb) (report : CompletionReport) : Prop :=
  ∀ key task nodeId, report.device_id ≠ [] → report.output ≠ [] → report.taskId = .uuid key →
    db.tasks.get? key = some task → nodeOfDevice db report.device_id = some nodeId →
    (insertResult report.taskId nodeId report.output report.processing_time_ms).reply () db = .ok () →
      Agreed (afterReport db nodeId report) key task

/-! ### A verification -/

section Verification
variable {key : Uuid} {db : NetworkDb} {l : Local backend}

/-- The results of the tasks. -/
abbrev taskResults : Frame backend := .of fun db : NetworkDb => db.task_results

theorem updateNode_taskResults (nodeId : Uuid) (set : NodeRow → Except NetworkError NodeRow) :
    (updateNode nodeId set).Keeps taskResults := by
  refine Stmt.Keeps.of_run fun c s r w hrun t => ?_
  simp only [updateNode] at hrun
  split at hrun
  · cases hrun; rfl
  · rename_i node _
    cases hset : set node with
    | error e => rw [hset] at hrun; cases hrun
    | ok node' => rw [hset] at hrun; cases hrun; rfl

theorem setStatus_taskResults (status : TaskStatus) : (setStatus key status).Keeps taskResults :=
  Stmt.Keeps.of_run fun c s r w hrun t => by cases hrun; rfl

theorem insertConsensus_taskResults (result : ConsensusResult) : (insertConsensus result).Keeps taskResults := by
  refine Stmt.Keeps.of_run fun c s r w hrun t => ?_
  simp only [insertConsensus, Stmt.statement] at hrun
  split at hrun <;> cases hrun
  rfl

/-- A program on a client without a transaction that leaves the results alone and emits nothing. -/
theorem post_taskResults {α : Type} {p : Async backend α} (hp : Sends taskResults (fun _ => False) 1 p) :
    p.post anywhere (fun _ u l' => u.task_results = db.task_results ∧ l'.out = l.out) db ⟨.idle :: l.sessions, l.out⟩ := by
  have howns : Local.Owns taskResults 1 l.sessions ⟨.idle :: l.sessions, l.out⟩ :=
    ⟨[.idle], rfl, rfl, fun x hx => by rw [List.mem_singleton.mp hx]; trivial⟩
  refine post_mono (Confined.post (hp l.out) howns) fun _ u l' h => ?_
  obtain ⟨hkept, -, more, hout, hmore⟩ := h
  refine ⟨hkept, hout.trans ?_⟩
  rw [List.eq_nil_iff_forall_not_mem.mpr hmore, List.append_nil]

/-- The results after the UPDATE of a majority. -/
def marked (key : Uuid) (agreeing : List Uuid) (scores : Option (Int × Int)) (db : NetworkDb) : NetworkDb :=
  (markResults key agreeing scores).effect () db db

theorem verifiedResult_marked {agreeing : List Uuid} {scores : Option (Int × Int)} {nodeId : Uuid}
    (hmem : nodeId ∈ agreeing) (hrow : (db.task_results.get? (key, nodeId)).isSome) :
    verifiedResult (marked key agreeing scores db) key nodeId = true := by
  obtain ⟨row, hrow⟩ := Option.isSome_iff_exists.mp hrow
  have hagrees : agreeing.contains nodeId = true := List.contains_iff_mem.mpr hmem
  change ((db.task_results.mapRows _).get? (key, nodeId)).any _ = true
  rw [Table.get?_mapRows, hrow]
  simp [hmem]

theorem verifiedResult_congr {s t : NetworkDb} (h : t.task_results = s.task_results) (key nodeId : Uuid) :
    verifiedResult t key nodeId = verifiedResult s key nodeId := by
  unfold verifiedResult
  rw [h]

/-- What a consensus says of the nodes that are to be paid. -/
def Justified (key : Uuid) (nodeIds : List Uuid) (out : List Effect) : Post backend Verification := fun r u l' =>
  l'.out = out ∧ ∀ v, r = .ok v → v.consensus = true → ∀ nodeId ∈ nodeIds, verifiedResult u key nodeId = true

theorem justified_error {nodeIds : List Uuid} (e : NetworkError) {s : NetworkDb} {k : Local backend} {out : List Effect} (hk : k.out = out) :
    Justified key nodeIds out (.error e) s k := ⟨hk, fun _ h => by cases h⟩

theorem justified_none {nodeIds : List Uuid} {s : NetworkDb} {k : Local backend} {out : List Effect} (hk : k.out = out) :
    Justified key nodeIds out (.ok noConsensus) s k := by
  refine ⟨hk, fun v h hv => ?_⟩
  cases h
  cases hv

theorem reachConsensus_justified {nodeIds : List Uuid} (kind : VerificationKind) (results : List PendingResult)
    (majorityOutput : Text) {majority : List Uuid}
    (h : ∀ nodeId ∈ nodeIds, nodeId ∈ majority ∧ (db.task_results.get? (key, nodeId)).isSome) :
    (reachConsensus kind key results majorityOutput majority).post anywhere (Justified key nodeIds l.out) db
      ⟨.idle :: l.sessions, l.out⟩ := by
  rw [reachConsensus, post_bind, post_query_idle]
  refine ⟨?_, fun _ _ => justified_error _ rfl⟩
  have hreply : (markResults key majority kind.scores).reply () db = .ok () := rfl
  rw [show backend.initial = () from rfl, hreply, next_ok]
  refine post_mono (post_taskResults ?_) fun _ u l' hu => ⟨hu.2, fun _ _ _ nodeId hnode => ?_⟩
  · refine sends_bind (rewardNodes_sends updateNode_taskResults le_rfl _) fun _ => ?_
    refine sends_bind (penalizeNodes_sends updateNode_taskResults le_rfl _ _) fun _ => ?_
    refine sends_bind (sends_ofExcept _) fun _ => ?_
    refine sends_bind (sends_query le_rfl (insertConsensus_taskResults _) _) fun _ => ?_
    exact sends_bind (sends_query le_rfl (setStatus_taskResults _) _) fun _ => sends_pure _
  · rw [verifiedResult_congr hu.1]
    exact verifiedResult_marked (h nodeId hnode).1 (h nodeId hnode).2

theorem runTiebreaker_justified {nodeIds : List Uuid} {results : List PendingResult}
    (h : 2 ≤ (tiebreakers db (results.map (·.node_id))).length → ∀ nodeId ∈ nodeIds, verifiedResult db key nodeId = true) :
    (runTiebreaker key results).post anywhere (Justified key nodeIds l.out) db l := by
  rw [runTiebreaker, post_withClient, post_bind, post_query_idle]
  refine ⟨⟨?_, fun _ _ => justified_error _ rfl⟩, fun _ _ => justified_error _ rfl⟩
  have htask : (selectTask (.uuid key)).reply () db = .ok ((db.tasks.get? key).map fun task => (key, task)) := rfl
  have hsame : (selectTask (.uuid key)).effect () db db = db := rfl
  rw [show backend.initial = () from rfl, htask, hsame, next_ok]
  cases db.tasks.get? key with
  | none => exact justified_none rfl
  | some task =>
    change (query (B := backend) Site.selectTiebreakers (selectTiebreakers (results.map (·.node_id))) >>= _).post anywhere _ db _
    rw [post_bind, post_query_idle]
    refine ⟨?_, fun _ _ => justified_error _ rfl⟩
    rw [selectTiebreakers, Stmt.reply_select, Stmt.effect_select, next_ok]
    split
    case isTrue =>
      rw [post_bind, post_query_idle]
      refine ⟨?_, fun _ _ => justified_error _ rfl⟩
      exact justified_none rfl
    case isFalse hfound =>
      have hrest : Sends taskResults (fun _ => False) 1 (do
          Async.query (B := backend) Site.insertConsensus (insertConsensus (tiebreakerResult key results))
          Async.query (B := backend) Site.finishTask (setStatus key .completed)
          pure (⟨true, some (commonOutput results), some 60, some .tiebreaker⟩ : Verification)) := by
        refine sends_bind (sends_query le_rfl (insertConsensus_taskResults _) _) fun _ => ?_
        exact sends_bind (sends_query le_rfl (setStatus_taskResults _) _) fun _ => sends_pure _
      refine post_mono (post_taskResults hrest) fun _ u l' hu => ⟨hu.2, fun _ _ _ nodeId hnode => ?_⟩
      rw [verifiedResult_congr hu.1]
      exact h (by omega) nodeId hnode

/-- A verification in which the assigned nodes agree. -/
theorem verification_justified {task : Task} (h : Agreed db key task) (hne : pendingResults db key ≠ []) :
    (if isDeterministic task then verifyDeterministicResults key (pendingResults db key)
      else verifyNonDeterministicResults key (pendingResults db key)).post anywhere
      (Justified key task.assigned_nodes l.out) db l := by
  have hagreed := h hne
  split
  case isTrue hdet =>
    rw [majorityNodes, if_pos hdet] at hagreed
    rw [verifyDeterministicResults, post_withClient]
    refine ⟨?_, fun _ _ => justified_error _ rfl⟩
    dsimp only
    split at hagreed
    · rename_i hmajority
      rw [if_pos hmajority]
      exact reachConsensus_justified _ _ _ hagreed
    · rename_i hmajority
      rw [if_neg hmajority]
      exact runTiebreaker_justified hagreed
  case isFalse hdet =>
    rw [majorityNodes, if_neg hdet] at hagreed
    rw [verifyNonDeterministicResults, post_withClient]
    refine ⟨?_, fun _ _ => justified_error _ rfl⟩
    cases hclusters : (findClusters [] [] (similarPairs (pendingResults db key))).mergeSort
        fun a b => decide (b.length ≤ a.length) with
    | nil =>
      rw [hclusters, List.headD_nil, List.length_nil,
        if_neg (not_le.mpr (consensusThreshold_pos (List.length_pos_iff.mpr hne)))] at hagreed
      exact runTiebreaker_justified hagreed
    | cons majorityCluster rest =>
      rw [hclusters, List.headD_cons] at hagreed
      change (if consensusThreshold (pendingResults db key).length ≤ majorityCluster.length then _ else _ :
        Async backend Verification).post anywhere _ db _
      split at hagreed
      · rename_i hmajority
        rw [if_pos hmajority]
        exact reachConsensus_justified _ _ _ hagreed
      · rename_i hmajority
        rw [if_neg hmajority]
        exact runTiebreaker_justified hagreed

theorem verifyTaskResults_justified {task : Task} (htask : db.tasks.get? key = some task) (h : Agreed db key task) :
    (verifyTaskResults (.uuid key)).post anywhere (Justified key task.assigned_nodes l.out) db l := by
  refine verifyTaskResults_ends (fun _ => justified_error _ rfl) (justified_none rfl) fun task' htask' hpending => ?_
  obtain rfl := Option.some.inj (htask.symm.trans htask')
  exact verification_justified (l := ⟨.idle :: l.sessions, l.out⟩) h hpending

end Verification

/-! ### A report -/

/-- Every node that is left to be paid has a verified result. -/
def Justifies (db : NetworkDb) (out : List Effect) : Prop :=
  ∀ key nodeIds userId userWallet, Effect.distributeNodePayments (.uuid key) nodeIds userId userWallet ∈ out →
    ∀ nodeId ∈ nodeIds, verifiedResult db key nodeId = true

theorem justifies_nil (db : NetworkDb) : Justifies db [] := fun _ _ _ _ h => by cases h

section Report
variable {db : NetworkDb}

theorem checkConsensus_justifies (services : Services) {key : Uuid}
    (h : ∀ task, db.tasks.get? key = some task → Agreed db key task) :
    (checkConsensus services (.uuid key)).post anywhere (fun _ u l' => Justifies u l'.out) db Local.empty := by
  refine checkConsensus_ends services (fun _ => justifies_nil db) fun task htask =>
    post_mono (verifyTaskResults_justified htask (h task htask)) fun r u l' hu => ?_
  obtain ⟨hout, hverified⟩ := hu
  have hout : l'.out = [] := hout
  have hnone : Justifies u l'.out := hout ▸ justifies_nil u
  cases r with
  | error e => exact hnone
  | ok result =>
    rw [next_ok]
    unfold onlyIf
    split
    case isFalse => exact hnone
    case isTrue hconsensus =>
      rw [distributePayments, post_bind, post_emit]
      change (Async.ofExcept (B := backend) _).post anywhere _ u ⟨l'.sessions, l'.out ++ [_]⟩
      rw [post_ofExcept, hout]
      intro key' nodeIds userId userWallet hmem
      cases List.mem_singleton.mp hmem
      exact hverified result rfl hconsensus

/-- Where the reported result is earned, only nodes with a verified result are paid. -/
theorem complete_justifies (services : Services) (report : CompletionReport) (h : Earned db report) :
    (complete services report).post anywhere (fun _ u l' => Justifies u l'.out) db Local.empty := by
  refine complete_ends services report (justifies_nil db) fun hdevice houtput key task nodeId hkey htask hnode hok => ?_
  refine checkConsensus_justifies services fun task' htask' => ?_
  rw [afterReport_tasks] at htask'
  exact h key task' nodeId hdevice houtput hkey htask' hnode hok

end Report

/-! ### Credits -/

/-- A call of `processDirectPayment` or `processPayment`: whether it commits a credit for its
task and node, and whether it fails. -/
structure PaymentCall where
  credits : Bool
  fails : Bool

/-- What the payment of one node finds: a row with a wallet, and its calls. -/
structure NodePayment where
  wallet : Bool
  direct : PaymentCall
  payout : PaymentCall

/-- What a distribution finds: whether it comes to its loop, whether the user has a wallet,
and the payment of each turn of the loop. -/
structure Distribution where
  begun : Bool
  userWallet : Bool
  turns : Nat → NodePayment

def PaymentCall.credited (made : PaymentCall) (nodeId : Uuid) : List Uuid := if made.credits then [nodeId] else []

/-- The loop of direct payments, with `processPayment` as the fallback. -/
def payDirectly (turns : Nat → NodePayment) : List Uuid → List Uuid
  | [] => []
  | nodeId :: rest =>
    let others := payDirectly (fun i => turns (i + 1)) rest
    if !(turns 0).wallet then others
    else if !(turns 0).direct.fails then (turns 0).direct.credited nodeId ++ others
    else if !(turns 0).payout.fails then (turns 0).direct.credited nodeId ++ (turns 0).payout.credited nodeId ++ others
    else (turns 0).direct.credited nodeId ++ (turns 0).payout.credited nodeId

/-- The loop of `processPayment`. -/
def payTraditionally (turns : Nat → NodePayment) : List Uuid → List Uuid
  | [] => []
  | nodeId :: rest =>
    if !(turns 0).payout.fails then
      (turns 0).payout.credited nodeId ++ payTraditionally (fun i => turns (i + 1)) rest
    else (turns 0).payout.credited nodeId

/-- The nodes that `distributeNodePayments` credits. -/
def creditedNodes (distribution : Distribution) (nodeIds : List Uuid) : List Uuid :=
  if !distribution.begun then []
  else if distribution.userWallet then payDirectly distribution.turns nodeIds
  else payTraditionally distribution.turns nodeIds

theorem mem_credited {made : PaymentCall} {nodeId n : Uuid} {rest : List Uuid} (h : n ∈ made.credited nodeId) :
    n ∈ nodeId :: rest := by
  unfold PaymentCall.credited at h
  split at h
  · rw [List.mem_singleton.mp h]
    exact List.mem_cons_self
  · cases h

theorem mem_payDirectly {turns : Nat → NodePayment} {nodeIds : List Uuid} {n : Uuid} (h : n ∈ payDirectly turns nodeIds) :
    n ∈ nodeIds := by
  induction nodeIds generalizing turns with
  | nil => cases h
  | cons nodeId rest ih =>
    have hothers (h : n ∈ payDirectly (fun i => turns (i + 1)) rest) : n ∈ nodeId :: rest := List.mem_cons_of_mem _ (ih h)
    simp only [payDirectly] at h
    split at h
    · exact hothers h
    split at h
    · exact (List.mem_append.mp h).elim mem_credited hothers
    split at h
    · exact (List.mem_append.mp h).elim (fun h => (List.mem_append.mp h).elim mem_credited mem_credited) hothers
    · exact (List.mem_append.mp h).elim mem_credited mem_credited

theorem mem_payTraditionally {turns : Nat → NodePayment} {nodeIds : List Uuid} {n : Uuid}
    (h : n ∈ payTraditionally turns nodeIds) : n ∈ nodeIds := by
  induction nodeIds generalizing turns with
  | nil => cases h
  | cons nodeId rest ih =>
    rw [payTraditionally] at h
    split at h
    · exact (List.mem_append.mp h).elim mem_credited fun h => List.mem_cons_of_mem _ (ih h)
    · exact mem_credited h

/-- Only the given nodes are credited. -/
theorem mem_creditedNodes {distribution : Distribution} {nodeIds : List Uuid} {n : Uuid}
    (h : n ∈ creditedNodes distribution nodeIds) : n ∈ nodeIds := by
  unfold creditedNodes at h
  split at h
  · cases h
  split at h
  · exact mem_payDirectly h
  · exact mem_payTraditionally h

/-- A credit to a node for a task, and whether its result was verified when it was made. -/
structure Credit where
  task_id : Uuid
  node_id : Uuid
  verified : Bool

/-- The tables of the network, and the credits made. -/
structure Accounts where
  tables : NetworkDb
  credits : List Credit

/-- The credits of what a report left to be paid. -/
def paidFor (distribution : Distribution) (db : NetworkDb) : Effect → List Credit
  | .distributeNodePayments (.uuid key) nodeIds _ _ =>
    (creditedNodes distribution nodeIds).map fun nodeId => ⟨key, nodeId, verifiedResult db key nodeId⟩
  | _ => []

/-- A completion report, what the services answer it, and what its payments find. -/
structure PaidReport where
  report : CompletionReport
  services : Services
  distribution : Distribution

/-- Completion reports, one at a time, whatever fails in them, and the payments they make. -/
inductive Crediting : Machine Accounts PaidReport
  | complete {s : Accounts} {t : NetworkDb} {e : PaidReport} {r : Except NetworkError Response} {l : Local backend}
      (h : Exec anywhere (complete e.services e.report) s.tables Local.empty r t l) :
      Crediting s e ⟨t, s.credits ++ l.out.flatMap (paidFor e.distribution t)⟩

theorem Justifies.paidFor {db : NetworkDb} {out : List Effect} (h : Justifies db out) (distribution : Distribution) :
    ∀ c ∈ out.flatMap (paidFor distribution db), c.verified = true := by
  intro c hc
  obtain ⟨e, he, hce⟩ := List.mem_flatMap.mp hc
  unfold Network.paidFor at hce
  split at hce
  · rename_i key nodeIds userId userWallet
    obtain ⟨nodeId, hnode, rfl⟩ := List.mem_map.mp hce
    exact h key nodeIds userId userWallet he nodeId (mem_creditedNodes hnode)
  · cases hce

/-- Where every reported result is earned, in every state of the run each credit went to a
node whose result for the task was verified. -/
theorem earned_credits {start : NetworkDb} {history : List PaidReport} {s : Accounts}
    (hrun : Machine.Run Crediting ⟨start, []⟩ history s)
    (hearned : ∀ pre e post u, history = pre ++ e :: post → Machine.Run Crediting ⟨start, []⟩ pre u → Earned u.tables e.report) :
    ∀ c ∈ s.credits, c.verified = true := by
  have hstep (s : Accounts) (e : PaidReport) (t : Accounts) (hs : ∀ c ∈ s.credits, c.verified = true)
      (hg : Earned s.tables e.report) (he : Crediting s e t) : ∀ c ∈ t.credits, c.verified = true := by
    cases he with
    | complete hexec =>
      intro c hc
      rcases List.mem_append.mp hc with hc | hc
      · exact hs c hc
      · exact (hexec.sound (complete_justifies e.services e.report hg)).paidFor e.distribution c hc
  exact hrun.invariant_of hstep hearned fun _ h => by cases h

/-! ### One report of two -/

/-- Every direct payment is confirmed. -/
def payAll : Distribution := ⟨true, true, fun _ => ⟨true, ⟨true, false⟩, ⟨true, false⟩⟩⟩

/-- The report of the first node, with its payments. -/
def firstReport : PaidReport := ⟨audioReport, payingServices, payAll⟩

/-- The accounts after it. -/
def paidAfter (db : NetworkDb) : Accounts :=
  ⟨((complete payingServices audioReport).run [] db Local.empty).2.1,
    [] ++ ((complete payingServices audioReport).run [] db Local.empty).2.2.out.flatMap
      (paidFor payAll ((complete payingServices audioReport).run [] db Local.empty).2.1)⟩

theorem firstReport_step (db : NetworkDb) : Crediting ⟨db, []⟩ firstReport (paidAfter db) :=
  .complete (e := firstReport) (Async.exec_nil anywhere (complete payingServices audioReport) db Local.empty)

/-- The second node of the task is paid without a result. -/
theorem unearned_credit : ¬ ∀ (start : NetworkDb) (history : List PaidReport) (s : Accounts),
    Machine.Run Crediting ⟨start, []⟩ history s → ∀ c ∈ s.credits, c.verified = true := by
  intro hall
  have hverified := hall pairDb [firstReport] (paidAfter pairDb) (.cons (firstReport_step pairDb) (.nil _))
  have hcredits : (paidAfter pairDb).credits.map (·.verified) = [true, false] := by decide +kernel
  have hmem : false ∈ (paidAfter pairDb).credits.map (·.verified) := by
    rw [hcredits]
    exact List.mem_cons_of_mem _ (List.mem_singleton.mpr rfl)
  obtain ⟨c, hc, hfalse⟩ := List.mem_map.mp hmem
  exact absurd ((hverified c hc).symm.trans hfalse) (by decide)

/-- The only node of a task is paid for its result. -/
theorem earned_credits_single : (paidAfter (audioDb [units "n"])).credits ≠ [] ∧
    ∀ c ∈ (paidAfter (audioDb [units "n"])).credits, c.verified = true := by
  refine ⟨by decide +kernel, earned_credits (.cons (firstReport_step (audioDb [units "n"])) (.nil _)) fun pre e post u he hu => ?_⟩
  cases pre with
  | cons e' pre => exact absurd (List.cons.inj he).2 (by simp)
  | nil =>
    obtain ⟨rfl, -⟩ := List.cons.inj he
    cases hu
    intro key task nodeId _ _ hkey htask hnode _ hne
    obtain rfl : units "t" = key := UuidText.uuid.inj hkey
    have hid : nodeOfDevice (audioDb [units "n"]) (units "d") = some (units "n") := by decide +kernel
    obtain rfl := Option.some.inj (hid.symm.trans hnode)
    obtain rfl : task = audioTask [units "n"] := by
      have hget : (audioDb [units "n"]).tasks.get? (units "t") = some (audioTask [units "n"]) := rfl
      exact Option.some.inj (htask.symm.trans hget)
    have hmajority : consensusThreshold (pendingResults (afterReport (audioDb [units "n"]) (units "n") audioReport) (units "t")).length ≤
        (majorityNodes (audioTask [units "n"])
          (pendingResults (afterReport (audioDb [units "n"]) (units "n") audioReport) (units "t"))).length := by decide +kernel
    have hagrees : ∀ nodeId ∈ [units "n"], nodeId ∈ majorityNodes (audioTask [units "n"])
          (pendingResults (afterReport (audioDb [units "n"]) (units "n") audioReport) (units "t")) ∧
        ((afterReport (audioDb [units "n"]) (units "n") audioReport).task_results.get? (units "t", nodeId)).isSome := by
      decide +kernel
    exact (if_pos hmajority).mpr hagrees

end GalaxiaAin.Network
