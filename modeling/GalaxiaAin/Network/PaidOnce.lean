import GalaxiaAin.Network.Finality
import GalaxiaAin.Network.Payouts

/-! The payouts of a task over whole runs: against its cost, and for each of its nodes. They
are made whole once where a consensus comes once, its payment is complete, and the nodes of
the task stay. -/
namespace GalaxiaAin.Network
open GalaxiaAin.Library
open GalaxiaAin.Library.Async hiding bind

/-! ### Payouts -/

/-- A completed payout or a confirmed direct payment; an amount of none is NaN. -/
structure Payout where
  task_id : Uuid
  node_id : Uuid
  amount : Option ℚ

/-- The tables, and the payouts so far. -/
structure Books where
  tables : NetworkDb
  payouts : List Payout

/-- `parseFloat(cost_tokens)`. -/
def Task.cost (task : Task) : Option ℚ := task.cost_tokens.map costFormat.value

/-- `cost / nodeIds.length`. -/
def Task.share (task : Task) (nodeIds : List Uuid) : Option ℚ := task.cost.map (· / nodeIds.length)

/-- What a call of `distributeNodePayments` pays; other effects pay nothing. -/
def payoutsFor (distribution : Distribution) (db : NetworkDb) : Effect → List Payout
  | .distributeNodePayments (.uuid key) nodeIds _ _ =>
    match db.tasks.get? key with
    | none => []
    | some task => (creditedNodes distribution nodeIds).map fun nodeId => ⟨key, nodeId, task.share nodeIds⟩
  | _ => []

def Books.amounts (s : Books) (key : Uuid) : List (Option ℚ) := (s.payouts.filter fun p => p.task_id = key).map (·.amount)

def Books.shares (s : Books) (key nodeId : Uuid) : List (Option ℚ) :=
  (s.payouts.filter fun p => p.task_id = key ∧ p.node_id = nodeId).map (·.amount)

/-- A sum in which NaN is NaN. -/
def total (amounts : List (Option ℚ)) : Option ℚ := amounts.foldr (Option.map₂ (· + ·)) (some 0)

def HasConsensus (db : NetworkDb) (key : Uuid) : Prop := ∃ r ∈ db.consensus_results, r.task_id = key

/-- No task pays more than its cost, and a task with a consensus has paid each of its nodes its share once. -/
def PaidOnce (s : Books) : Prop :=
  ∀ key task, s.tables.tasks.get? key = some task →
    (∀ cost, task.cost = some cost → ∃ sum, total (s.amounts key) = some sum ∧ sum ≤ cost) ∧
      (HasConsensus s.tables key → ∀ n ∈ task.assigned_nodes, s.shares key n = [task.share task.assigned_nodes])

theorem total_replicate (n : Nat) (x : ℚ) : total (List.replicate n (some x)) = some (n * x) := by
  induction n with
  | zero => simp [total]
  | succ n ih =>
    rw [List.replicate_succ, total, List.foldr_cons]
    change Option.map₂ _ (some x) (total (List.replicate n (some x))) = _
    rw [ih, Option.map₂_some_some]
    congr 1
    push_cast
    ring

/-- Costs stay, no consensus comes, and the tasks of `fixed` keep their nodes. -/
def terms (fixed : Uuid → Prop) : Frame backend where
  kept s t := t.consensus_results = s.consensus_results ∧ ∀ k,
    (t.tasks.get? k).map (·.cost_tokens) = (s.tasks.get? k).map (·.cost_tokens) ∧
      (fixed k → (t.tasks.get? k).map (·.assigned_nodes) = (s.tasks.get? k).map (·.assigned_nodes))
  kept_refl _ := ⟨rfl, fun _ => ⟨rfl, fun _ => rfl⟩⟩
  kept_trans _ _ _ h h' := ⟨h'.1.trans h.1, fun k => ⟨(h'.2 k).1.trans (h.2 k).1, fun hk => ((h'.2 k).2 hk).trans ((h.2 k).2 hk)⟩⟩

theorem SameTerms.kept {fixed : Uuid → Prop} {a b : NetworkDb} (h : SameTerms a b) (hrows : b.consensus_results = a.consensus_results) :
    (terms fixed).kept a b := by
  refine ⟨hrows, fun k => ?_⟩
  have hcost := congrArg (Option.map Prod.snd) (h k)
  have hassigned := congrArg (Option.map Prod.fst) (h k)
  simp only [Option.map_map] at hcost hassigned
  exact ⟨hcost, fun _ => hassigned⟩

section Ledger
variable {s : Books} {u : NetworkDb} {key : Uuid}

theorem SameTerms.task {a b : NetworkDb} (h : SameTerms a b) {k : Uuid} {task : Task} (htask : b.tasks.get? k = some task) :
    ∃ task', a.tasks.get? k = some task' ∧ task'.assigned_nodes = task.assigned_nodes ∧ task'.cost_tokens = task.cost_tokens := by
  have hk := h k
  rw [htask] at hk
  obtain ⟨task', htask', hterms⟩ := Option.map_eq_some_iff.mp hk.symm
  exact ⟨task', htask', (Prod.mk.inj hterms).1, (Prod.mk.inj hterms).2⟩

/-- A step that pays nothing and concludes nothing, and reassigns no task with a consensus. -/
theorem PaidOnce.rests (hs : PaidOnce s) (h : (terms (HasConsensus s.tables)).kept s.tables u) : PaidOnce ⟨u, s.payouts⟩ := by
  obtain ⟨hrows, hterms⟩ := h
  intro k task htask
  obtain ⟨hcost, hassigned⟩ := hterms k
  rw [htask] at hcost hassigned
  obtain ⟨task', htask', hcost⟩ := Option.map_eq_some_iff.mp hcost.symm
  rw [htask'] at hassigned
  obtain ⟨hsum, honce⟩ := hs k task' htask'
  refine ⟨fun cost hc => hsum cost (by rw [Task.cost, hcost]; exact hc), fun hlater n hn => ?_⟩
  have hconsensus : HasConsensus s.tables k := by
    obtain ⟨r, hr, hid⟩ := hlater
    exact ⟨r, hrows ▸ hr, hid⟩
  have hassigned : task.assigned_nodes = task'.assigned_nodes := Option.some.inj (hassigned hconsensus)
  have hshare := honce hconsensus n (hassigned ▸ hn)
  rw [Task.share, Task.cost, hcost, ← hassigned] at hshare
  exact hshare

/-- A payment that makes a task whole: no call fails in the step, the task has no
consensus yet, and each of its nodes is credited once. -/
structure Payable (may : Site → Prop) (s : Books) (distribution : Distribution) (key : Uuid) (task : Task) (nodeIds : List Uuid) :
    Prop where
  served : ∀ σ, ¬ may σ
  assigned : nodeIds = task.assigned_nodes
  distinct : nodeIds.Nodup
  fresh : ¬ HasConsensus s.tables key
  credited : creditedNodes distribution nodeIds = nodeIds

theorem filter_paid {nodeIds : List Uuid} (hnodup : nodeIds.Nodup) {n : Uuid} (hn : n ∈ nodeIds) (k : Uuid) (amount : Option ℚ) :
    ((nodeIds.map fun nodeId => (⟨k, nodeId, amount⟩ : Payout)).filter fun p => p.task_id = k ∧ p.node_id = n) = [⟨k, n, amount⟩] := by
  rw [List.filter_map]
  have hsame : ((fun p : Payout => decide (p.task_id = k ∧ p.node_id = n)) ∘ fun nodeId => (⟨k, nodeId, amount⟩ : Payout)) =
      fun nodeId => decide (nodeId = n) := by
    funext nodeId
    simp
  rw [hsame, List.filter_eq, List.count_eq_one_of_mem hnodup hn]
  rfl

theorem Books.amounts_paid (hunpaid : s.amounts key = []) (nodeIds : List Uuid) (amount : Option ℚ) :
    Books.amounts ⟨u, s.payouts ++ nodeIds.map fun nodeId => ⟨key, nodeId, amount⟩⟩ key = List.replicate nodeIds.length amount := by
  rw [Books.amounts, List.filter_append, List.map_append]
  change s.amounts key ++ _ = _
  rw [hunpaid, List.nil_append, List.filter_map, List.map_map]
  simp [Function.comp_def, List.map_const']

theorem Books.shares_paid (hunpaid : s.amounts key = []) {nodeIds : List Uuid} (hnodup : nodeIds.Nodup) {n : Uuid} (hn : n ∈ nodeIds)
    (amount : Option ℚ) : Books.shares ⟨u, s.payouts ++ nodeIds.map fun nodeId => ⟨key, nodeId, amount⟩⟩ key n = [amount] := by
  have hold : (s.payouts.filter fun p => p.task_id = key ∧ p.node_id = n) = [] := by
    have hnil := List.map_eq_nil_iff.mp hunpaid
    refine List.filter_eq_nil_iff.mpr fun p hp hboth => ?_
    exact List.filter_eq_nil_iff.mp hnil p hp (by simpa using (of_decide_eq_true hboth).1)
  rw [Books.shares, List.filter_append, hold, List.nil_append, filter_paid hnodup hn]
  rfl

/-- The payouts of a task are none of another's. -/
theorem filter_other {q : Payout → Bool} {k : Uuid} (hk : k ≠ key) (hq : ∀ p, q p = true → p.task_id = k) (payouts : List Payout)
    (nodeIds : List Uuid) (amount : Option ℚ) :
    (payouts ++ nodeIds.map fun nodeId => (⟨key, nodeId, amount⟩ : Payout)).filter q = payouts.filter q := by
  have hnil : (nodeIds.map fun nodeId => (⟨key, nodeId, amount⟩ : Payout)).filter q = [] := by
    refine List.filter_eq_nil_iff.mpr fun p hp hqp => ?_
    obtain ⟨nodeId, -, rfl⟩ := List.mem_map.mp hp
    exact hk (hq _ hqp).symm
  rw [List.filter_append, hnil, List.append_nil]

/-- A payment of a whole task. -/
theorem PaidOnce.pays {may : Site → Prop} {distribution : Distribution} {task : Task} {nodeIds : List Uuid} {paid : List Effect}
    (hs : PaidOnce s) (hunpaid : s.amounts key = []) (htask : s.tables.tasks.get? key = some task) (hpayable : Payable may s distribution key task nodeIds)
    (hpays : Pays may key nodeIds s.tables u paid) : PaidOnce ⟨u, s.payouts ++ paid.flatMap (payoutsFor distribution u)⟩ := by
  obtain ⟨hterms, ⟨row, hrow, hrows⟩, hserved⟩ := hpays
  obtain ⟨userId, userWallet, rfl⟩ := hserved hpayable.served
  obtain rfl := hpayable.assigned
  have hnew (task' : Task) (htask' : u.tasks.get? key = some task') : [Effect.distributeNodePayments (.uuid key) task.assigned_nodes
      userId userWallet].flatMap (payoutsFor distribution u) =
        task.assigned_nodes.map fun nodeId => ⟨key, nodeId, task'.share task.assigned_nodes⟩ := by
    simp only [List.flatMap_singleton, payoutsFor, htask', hpayable.credited]
  obtain ⟨task₁, htask₁⟩ : ∃ task₁, u.tasks.get? key = some task₁ := by
    have hk := hterms key
    rw [htask] at hk
    obtain ⟨task₁, h, -⟩ := Option.map_eq_some_iff.mp hk
    exact ⟨task₁, h⟩
  rw [hnew task₁ htask₁]
  intro k task' htask'
  obtain ⟨before, hbefore, hassigned, hcost⟩ := hterms.task htask'
  obtain ⟨hsum, honce⟩ := hs k before hbefore
  by_cases hk : k = key
  · subst hk
    obtain rfl := Option.some.inj (htask₁.symm.trans htask')
    obtain rfl := Option.some.inj (htask.symm.trans hbefore)
    refine ⟨fun cost hc => ?_, fun _ n hn => ?_⟩
    · rw [Books.amounts_paid hunpaid, Task.share, hc, Option.map_some, total_replicate]
      refine ⟨_, rfl, ?_⟩
      by_cases hnone : task.assigned_nodes.length = 0
      · obtain ⟨sum, hzero, hle⟩ := hsum cost (by rw [Task.cost, hcost]; exact hc)
        rw [hunpaid] at hzero
        rw [hnone, Nat.cast_zero, zero_mul]
        rwa [← Option.some.inj hzero] at hle
      · exact (mul_div_cancel₀ cost (Nat.cast_ne_zero.mpr hnone)).le
    · rw [← hassigned] at hn ⊢
      exact Books.shares_paid hunpaid hpayable.distinct hn _
  · refine ⟨fun cost hc => ?_, fun hconsensus n hn => ?_⟩
    · rw [Books.amounts, filter_other hk fun p hp => of_decide_eq_true hp]
      exact hsum cost (by rw [Task.cost, hcost]; exact hc)
    · rw [Books.shares, filter_other hk fun p hp => (of_decide_eq_true (p := p.task_id = k ∧ p.node_id = n) hp).1]
      obtain ⟨r, hr, hid⟩ := hconsensus
      rw [hrows] at hr
      have hmem : r ∈ s.tables.consensus_results := by
        rcases List.mem_append.mp hr with hr | hr
        · exact hr
        · rw [List.mem_singleton.mp hr, hrow] at hid
          exact absurd hid.symm hk
      have hshare := honce ⟨r, hmem, hid⟩ n (hassigned ▸ hn)
      rw [Task.share, Task.cost, hcost, hassigned] at hshare
      exact hshare

end Ledger

/-! ### Failure reports -/

section Failures
variable {fixed : Uuid → Prop}

theorem updateNode_terms (nodeId : Uuid) (set : NodeRow → Except NetworkError NodeRow) : (updateNode nodeId set).Keeps (terms fixed) := by
  refine Stmt.Keeps.of_run fun c s r w hrun t => ?_
  have heffect : (updateNode nodeId set).effect c s = w := Stmt.effect_ok hrun
  obtain ⟨nodes, hnodes⟩ := updateNode_effect nodeId set s t
  rw [← heffect]
  refine (terms fixed).kept_trans _ { t with nodes := nodes } _ ⟨rfl, fun _ => ⟨rfl, fun _ => rfl⟩⟩ ?_
  exact hnodes ▸ (terms fixed).kept_refl _

/-- An update of a task's row that leaves its cost. -/
theorem updateTask_terms {key : Uuid} {set : Task → Task} (hkey : ¬ fixed key) (hcost : ∀ task, (set task).cost_tokens = task.cost_tokens) :
    (updateTask (.uuid key) set).Keeps (terms fixed) := by
  refine Stmt.Keeps.of_run fun c s r w hrun t => ?_
  obtain ⟨-, rfl⟩ := Prod.mk.inj (Except.ok.inj hrun)
  refine ⟨rfl, fun k => ?_⟩
  simp only [Table.get?_modify]
  split
  case isTrue hk =>
    refine ⟨?_, fun hfixed => absurd (hk ▸ hfixed) hkey⟩
    cases t.tasks.get? k with
    | none => rfl
    | some task => simp [hcost]
  case isFalse => exact ⟨rfl, fun _ => rfl⟩

/-- A failure report leaves the nodes of a task with a consensus: its node was none of them, or it was the last and
there are no others. -/
def LeavesNodes (db : NetworkDb) (report : FailureReport) : Prop :=
  ∀ key nodeId task, report.device_id ≠ [] → report.taskId = .uuid key → nodeOfDevice db report.device_id = some nodeId →
    db.tasks.get? key = some task → HasConsensus db key →
      (remainingNodes task nodeId ≠ [] ∧ remainingNodes task nodeId = task.assigned_nodes) ∨
        (remainingNodes task nodeId = [] ∧ ∃ e, selectNodes (reassignment task) (offeredNodes db report.now (reassignment task)) = .error e)

theorem fail_terms {db : NetworkDb} (report : FailureReport) (h : LeavesNodes db report) :
    (fail report).post anywhere (fun _ u _ => (terms (HasConsensus db)).kept db u) db Local.empty := by
  have hrefl := (terms (HasConsensus db)).kept_refl db
  refine fail_post (fun _ _ => hrefl) fun hdevice nodeId hnode => ?_
  have hpending (held : List RowLock) : Session.Keeps (terms (HasConsensus db)) (.active () held (penalized nodeId db)) :=
    fun t => (terms (HasConsensus db)).kept_trans _ _ _ (updateNode_terms _ _ _ _ _) (updateNode_terms _ _ _ _ _)
  have hends : (handleTaskFailure report.now report.taskId nodeId).post anywhere
      (fun _ u _ => (terms (HasConsensus db)).kept db u) db Local.empty := by
    refine handleTaskFailure_post (fun _ => hrefl) (fun key task hkey hget hne => ?_) fun key task held hkey hget hlast => ?_
    · by_cases hconsensus : HasConsensus db key
      · obtain ⟨-, hsame⟩ | ⟨hnone, -⟩ := h key nodeId task hdevice hkey hnode hget hconsensus
        · obtain ⟨nodes, hnodes⟩ := penalized_tables nodeId db db
          rw [afterFailure, hnodes]
          refine ⟨rfl, fun k => ?_⟩
          simp only [Table.get?_modify]
          split
          case isTrue hk => rw [hk, hget, hsame]; exact ⟨rfl, fun _ => rfl⟩
          case isFalse => exact ⟨rfl, fun _ => rfl⟩
        · exact absurd hnone hne
      · have hremaining : (updateTask (.uuid key) fun task' => { task' with assigned_nodes := remainingNodes task nodeId }).Keeps
            (terms (HasConsensus db)) := updateTask_terms hconsensus fun _ => rfl
        exact (terms (HasConsensus db)).kept_trans _ _ _ (hpending [] db) (hremaining () db _)
    · by_cases hconsensus : HasConsensus db key
      · obtain ⟨hne, -⟩ | ⟨-, e, he⟩ := h key nodeId task hdevice hkey hnode hget hconsensus
        · exact absurd hlast hne
        · rw [post_bind]
          refine post_mono (assignTask_refused he) fun r u l' hu => ?_
          obtain ⟨⟨e', rfl⟩, rfl, rfl⟩ := hu
          exact caught_outside hrefl
      · have hassign (nodeIds : List Uuid) : (assignNodes (.uuid key) nodeIds).Keeps (terms (HasConsensus db)) :=
          updateTask_terms hconsensus fun _ => rfl
        exact rest_post (sends_bind (assignTask_sends (fun _ => updateNode_terms _ _) hassign _ _) commit_sends) (hpending _)
  exact post_mono hends fun _ u _ hu => ⟨fun _ _ => hu, fun _ _ => hu⟩

end Failures

/-! ### Runs -/

/-- A step of the task subsystem: which of its calls may fail, and what its payments find. -/
inductive TaskStep where
  | completion (services : Services) (report : CompletionReport) (may : Site → Prop) (distribution : Distribution)
  | failure (report : FailureReport)
  | attempt (crypto : Cryptography) (calls : PrivacyCalls) (services : Services) (task : QueuedTask) (may : Site → Prop)
      (distribution : Distribution)

/-- The steps, one at a time, and the payouts they make. -/
inductive Paying : Machine Books TaskStep
  | completion {s : Books} {t : NetworkDb} {services : Services} {report : CompletionReport} {may : Site → Prop}
      {distribution : Distribution} {r : Except NetworkError Response} {l : Local backend}
      (h : Exec may (complete services report) s.tables Local.empty r t l) :
      Paying s (.completion services report may distribution) ⟨t, s.payouts ++ l.out.flatMap (payoutsFor distribution t)⟩
  | failure {s : Books} {t : NetworkDb} {report : FailureReport} {r : Except NetworkError Response} {l : Local backend}
      (h : Exec anywhere (fail report) s.tables Local.empty r t l) : Paying s (.failure report) ⟨t, s.payouts⟩
  | attempt {s : Books} {t : NetworkDb} {crypto : Cryptography} {calls : PrivacyCalls} {services : Services} {task : QueuedTask}
      {may : Site → Prop} {distribution : Distribution} {r : Except NetworkError Unit} {l : Local backend}
      (h : Exec may (processTask crypto calls services task) s.tables Local.empty r t l) :
      Paying s (.attempt crypto calls services task may distribution) ⟨t, s.payouts ++ l.out.flatMap (payoutsFor distribution t)⟩

/-- A consensus that the step brings is the first of its task and is paid in full; a task with one keeps its nodes. -/
def Settles (s : Books) : TaskStep → Prop
  | .completion _ report may distribution => ∀ key task nodeId, Reported s.tables report key nodeId task →
      Concludes (afterReport s.tables nodeId report) key task → Payable may s distribution key task task.assigned_nodes
  | .failure report => LeavesNodes s.tables report
  | .attempt crypto calls services task may distribution => ∀ row, Worked s.tables crypto calls services task row →
      Payable may s distribution task.taskId row task.nodeIds

/-- Only a consensus pays. -/
def Backed (s : Books) : Prop := ∀ key, ¬ HasConsensus s.tables key → s.amounts key = []

section Steps
variable {s : Books} {u : NetworkDb} {key : Uuid} {may : Site → Prop} {distribution : Distribution}

theorem Backed.rests (hs : Backed s) (hrows : u.consensus_results = s.tables.consensus_results) : Backed ⟨u, s.payouts⟩ :=
  fun key hnone => hs key fun ⟨r, hr, hid⟩ => hnone ⟨r, by rw [hrows]; exact hr, hid⟩

/-- The payouts of a call are for its task. -/
theorem payoutsFor_key {nodeIds : List Uuid} {userId : Option Uuid} {userWallet : Option Text} {p : Payout}
    (hp : p ∈ payoutsFor distribution u (.distributeNodePayments (.uuid key) nodeIds userId userWallet)) : p.task_id = key := by
  simp only [payoutsFor] at hp
  split at hp
  · cases hp
  · obtain ⟨nodeId, -, rfl⟩ := List.mem_map.mp hp
    rfl

theorem Backed.pays {nodeIds : List Uuid} {paid : List Effect} (hs : Backed s) (hserved : ∀ σ, ¬ may σ)
    (hpays : Pays may key nodeIds s.tables u paid) : Backed ⟨u, s.payouts ++ paid.flatMap (payoutsFor distribution u)⟩ := by
  obtain ⟨-, ⟨row, hrow, hrows⟩, hpaid⟩ := hpays
  obtain ⟨userId, userWallet, rfl⟩ := hpaid hserved
  intro k hnone
  have hk : k ≠ key := by
    rintro rfl
    exact hnone ⟨row, by rw [hrows]; exact List.mem_append_right _ List.mem_cons_self, hrow⟩
  have hold : s.amounts k = [] := hs k fun ⟨r, hr, hid⟩ => hnone ⟨r, by rw [hrows]; exact List.mem_append_left _ hr, hid⟩
  have hnew : (payoutsFor distribution u (.distributeNodePayments (.uuid key) nodeIds userId userWallet)).filter
      (fun p => p.task_id = k) = [] :=
    List.filter_eq_nil_iff.mpr fun p hp heq => hk ((of_decide_eq_true heq).symm.trans (payoutsFor_key hp))
  rw [Books.amounts, List.flatMap_singleton, List.filter_append, hnew, List.append_nil]
  exact hold

/-- A consensus that is settled keeps the books. -/
theorem books_pays {task : Task} {nodeIds : List Uuid} {paid : List Effect} (hs : PaidOnce s) (hb : Backed s)
    (htask : s.tables.tasks.get? key = some task) (hpayable : Payable may s distribution key task nodeIds)
    (hpays : Pays may key nodeIds s.tables u paid) :
    PaidOnce ⟨u, s.payouts ++ paid.flatMap (payoutsFor distribution u)⟩ ∧ Backed ⟨u, s.payouts ++ paid.flatMap (payoutsFor distribution u)⟩ :=
  ⟨hs.pays (hb key hpayable.fresh) htask hpayable hpays, hb.pays hpayable.served hpays⟩

/-- A step that rests keeps them. -/
theorem books_rests (hs : PaidOnce s) (hb : Backed s) (h : (terms (HasConsensus s.tables)).kept s.tables u) :
    PaidOnce ⟨u, s.payouts⟩ ∧ Backed ⟨u, s.payouts⟩ := ⟨hs.rests h, hb.rests h.1⟩

/-- A step that settles what it concludes keeps the books. -/
theorem Paying.keeps {t : Books} {e : TaskStep} (hs : PaidOnce s ∧ Backed s) (hg : Settles s e) (he : Paying s e t) :
    PaidOnce t ∧ Backed t := by
  obtain ⟨hs, hb⟩ := hs
  cases he with
  | completion hexec =>
    obtain ⟨hterms, hrows, hout⟩ | ⟨key, task, nodeId, hreported, hconcludes, hpays⟩ := hexec.sound (complete_pays _ _)
    · rw [hout, List.flatMap_nil, List.append_nil]
      exact books_rests hs hb (hterms.kept hrows)
    · exact books_pays hs hb hreported.task (hg key task nodeId hreported hconcludes) hpays
  | failure hexec => exact books_rests hs hb (hexec.sound (fail_terms _ hg))
  | @attempt _ t _ _ _ _ _ distribution _ _ hexec =>
    obtain ⟨model, input, inputType, paid, hout, ⟨hterms, hrows, hnone⟩ | ⟨row, hworked, hpays⟩⟩ := hexec.sound (processTask_pays _ _ _ _)
    · rw [hout, hnone]
      change PaidOnce ⟨t, s.payouts ++ []⟩ ∧ Backed ⟨t, s.payouts ++ []⟩
      rw [List.append_nil]
      exact books_rests hs hb (hterms.kept hrows)
    · rw [hout, List.flatMap_cons]
      obtain ⟨result, a, -, -, htask, -⟩ := id hworked
      exact books_pays hs hb htask (hg row hworked) hpays

end Steps

/-- In every run whose steps settle each consensus they bring, no task pays more than its cost, and a task with a
consensus has paid each of its nodes its share once. -/
theorem settled_runs_pay_once {start : NetworkDb} {history : List TaskStep} {s : Books} (hstart : PaidOnce ⟨start, []⟩)
    (hrun : Machine.Run Paying ⟨start, []⟩ history s)
    (hsettles : ∀ pre e post u, history = pre ++ e :: post → Machine.Run Paying ⟨start, []⟩ pre u → Settles u e) : PaidOnce s :=
  (hrun.invariant_of (P := fun s => PaidOnce s ∧ Backed s) (fun _ _ _ hs hg he => he.keeps hs hg) hsettles ⟨hstart, fun _ _ => rfl⟩).1

/-! ### One report and two -/

/-- The task of two nodes, at a cost of two tokens. -/
def costlyDb : NetworkDb :=
  { pairDb with tasks := Table.empty.insert (units "t") { audioTask [units "n", units "n2"] with cost_tokens := some 200000000 } }

/-- A report whose calls and payments are all served. -/
def servedReport (report : CompletionReport) : TaskStep := .completion payingServices report (fun _ => False) payAll

/-- The books after a report. -/
def booksAfter (report : CompletionReport) (s : Books) : Books :=
  ⟨((complete payingServices report).run [] s.tables Local.empty).2.1,
    s.payouts ++ ((complete payingServices report).run [] s.tables Local.empty).2.2.out.flatMap
      (payoutsFor payAll ((complete payingServices report).run [] s.tables Local.empty).2.1)⟩

theorem servedReport_step (report : CompletionReport) (s : Books) : Paying s (servedReport report) (booksAfter report s) :=
  .completion (Async.exec_nil (fun _ => False) (complete payingServices report) s.tables Local.empty)

theorem costly_task {key : Uuid} {task : Task} (h : costlyDb.tasks.get? key = some task) :
    key = units "t" ∧ task = { audioTask [units "n", units "n2"] with cost_tokens := some 200000000 } := by
  have hmem : (key, task) ∈ [(units "t", { audioTask [units "n", units "n2"] with cost_tokens := some 200000000 })] := Table.get?_eq_some.mp h
  exact Prod.mk.inj (List.mem_singleton.mp hmem)

theorem costly_paidOnce : PaidOnce ⟨costlyDb, []⟩ := by
  intro key task htask
  obtain ⟨rfl, rfl⟩ := costly_task htask
  refine ⟨fun cost hcost => ⟨0, rfl, ?_⟩, fun ⟨r, hr, _⟩ => by cases hr⟩
  rw [← Option.some.inj hcost]
  decide +kernel

/-- The report of the first node pays both nodes. -/
theorem one_report_pays_once : PaidOnce (booksAfter audioReport ⟨costlyDb, []⟩) := by
  refine settled_runs_pay_once costly_paidOnce (.cons (servedReport_step audioReport _) (.nil _)) fun pre e post u he hu => ?_
  cases pre with
  | cons e' pre => exact absurd (List.cons.inj he).2 (by simp)
  | nil =>
    obtain ⟨rfl, -⟩ := List.cons.inj he
    cases hu
    intro key task nodeId hreported _
    obtain ⟨rfl, rfl⟩ := costly_task hreported.task
    exact ⟨fun _ => id, rfl, by decide, fun ⟨r, hr, _⟩ => (by cases hr), by decide⟩

/-- The report of the second node pays both again. -/
theorem two_reports_pay_twice : ¬ ∀ (start : NetworkDb) (history : List TaskStep) (s : Books), PaidOnce ⟨start, []⟩ →
    Machine.Run Paying ⟨start, []⟩ history s → PaidOnce s := by
  intro hall
  have hpaid := hall costlyDb [servedReport audioReport, servedReport lateReport]
    (booksAfter lateReport (booksAfter audioReport ⟨costlyDb, []⟩)) costly_paidOnce
    (.cons (servedReport_step _ _) (.cons (servedReport_step _ _) (.nil _)))
  have htask : ((booksAfter lateReport (booksAfter audioReport ⟨costlyDb, []⟩)).tables.tasks.get? (units "t")).bind
      (fun task => task.cost) = some 2 := by decide +kernel
  obtain ⟨task, hget, hcost⟩ := Option.bind_eq_some_iff.mp htask
  obtain ⟨sum, hsum, hle⟩ := (hpaid (units "t") task hget).1 2 hcost
  have htotal : total ((booksAfter lateReport (booksAfter audioReport ⟨costlyDb, []⟩)).amounts (units "t")) = some 4 := by decide +kernel
  rw [htotal] at hsum
  rw [← Option.some.inj hsum] at hle
  exact absurd hle (by norm_num)

end GalaxiaAin.Network
