import GalaxiaAin.Library.Waiting
import GalaxiaAin.Network.Regions

/-! A task that loses its last node is assigned anew while the transaction that counts the
failure is open. The nested assignment reads the tables without the failure, and waits for the
row of the failed node where it chooses it again. -/
namespace GalaxiaAin.Network
open GalaxiaAin.Library
open GalaxiaAin.Library.Async hiding bind

/-! ### The nested assignment -/

section Assignment
variable {may : Site → Prop} {db : NetworkDb} {l : Local backend} {key : Uuid}

theorem locks_updateNode {nodeId : Uuid} {set : NodeRow → Except NetworkError NodeRow} {x : RowLock}
    (h : x ∈ (updateNode nodeId set).locks () db) : x = .node nodeId := by
  simp only [updateNode] at h
  split at h
  · exact List.mem_singleton.mp h
  · cases h

/-- The tasks are as an assignment leaves them. -/
def Stored (db : NetworkDb) (key : Uuid) (ids : List Uuid) (u : NetworkDb) : Prop :=
  u.tasks = db.tasks.modify key fun task => { task with assigned_nodes := ids, status := .assigned }

theorem incrementLoads_flows {ids : List Uuid} (h : ∀ n ∈ ids, RowLock.node n ∉ l.locks) :
    (incrementLoads ids).flows may (fun _ u l' => u.tasks = db.tasks ∧ l' = ⟨.idle :: l.sessions, l.out⟩) db ⟨.idle :: l.sessions, l.out⟩ := by
  induction ids generalizing db with
  | nil => exact ⟨rfl, rfl⟩
  | cons n ids ih =>
    rw [incrementLoads, flows_bind, Async.query, flows_await]
    constructor
    · rintro ⟨x, hx, hheld⟩
      obtain rfl := locks_updateNode hx
      exact h n List.mem_cons_self hheld
    · change (Async.query (Site.incrementLoad n) (incrementLoad n)).post may _ db _
      rw [post_query_idle]
      refine ⟨?_, fun _ _ => ⟨rfl, rfl⟩⟩
      obtain ⟨nodes, hnodes⟩ := updateNode_effect n (fun row => do .ok { row with current_load := ← addInteger 1 row.current_load }) db db
      rw [show backend.initial = () from rfl]
      cases (incrementLoad n).reply () db with
      | error e => exact ⟨by rw [incrementLoad, hnodes], rfl⟩
      | ok _ =>
        refine flows_mono (ih fun n hn => h n (List.mem_cons_of_mem _ hn)) fun r u l' hu => ⟨?_, hu.2⟩
        rw [hu.1, incrementLoad, hnodes]

/-- An assignment whose rows are free goes through, and returns the nodes it stores. -/
theorem assignTask_flows {now : Nat} {requirements : TaskRequirements} (hkey : RowLock.task key ∉ l.locks)
    (h : ∀ ids, selectNodes requirements (offeredNodes db now requirements) = .ok ids → ∀ n ∈ ids, RowLock.node n ∉ l.locks) :
    (assignTask now (.uuid key) requirements).flows may (fun r u l' => l' = l ∧ ∀ ids, r = .ok ids →
      selectNodes requirements (offeredNodes db now requirements) = .ok ids ∧ Stored db key ids u) db l := by
  rw [assignTask, flows_withClient]
  refine ⟨?_, fun _ _ => ⟨rfl, (by simp)⟩⟩
  rw [flows_bind, getActiveNodes, flows_withClient]
  refine ⟨?_, fun _ _ => ⟨rfl, (by simp)⟩⟩
  rw [Async.query, flows_call rfl]
  change (Async.query Site.selectNodes (selectActiveNodes ⟨requirements.region, some 30⟩ now)).post may _ db _
  rw [post_query_idle]
  refine ⟨?_, fun _ _ => ⟨rfl, (by simp)⟩⟩
  rw [selectActiveNodes, Stmt.reply_select, Stmt.effect_select]
  change (Async.ofExcept (B := backend) (selectNodes requirements (offeredNodes db now requirements)) >>= _).flows may _ db
    ⟨.idle :: l.sessions, l.out⟩
  rw [flows_bind, flows_ofExcept]
  cases hselect : selectNodes requirements (offeredNodes db now requirements) with
  | error e => exact ⟨rfl, (by simp)⟩
  | ok ids =>
    change (Async.query (B := backend) Site.assignNodes (assignNodes (.uuid key) ids) >>= _).flows may _ db ⟨.idle :: l.sessions, l.out⟩
    rw [flows_bind, Async.query, flows_await]
    constructor
    · rintro ⟨x, hx, hheld⟩
      obtain ⟨k, hk, rfl⟩ := List.mem_map.mp hx
      obtain ⟨hread, -⟩ := Option.filter_eq_some_iff.mp (Option.mem_toList.mp hk)
      obtain rfl := Option.some.inj hread
      exact hkey hheld
    · change (Async.query Site.assignNodes (assignNodes (.uuid key) ids)).post may _ db _
      rw [post_query_idle]
      refine ⟨?_, fun _ _ => ⟨rfl, (by simp)⟩⟩
      change (incrementLoads ids >>= fun _ => pure ids).flows may _ ((assignNodes (.uuid key) ids).effect () db db)
        ⟨.idle :: l.sessions, l.out⟩
      rw [flows_bind]
      refine flows_mono (incrementLoads_flows (h ids hselect)) fun r u l' hu => ?_
      obtain ⟨htasks, rfl⟩ := hu
      cases r with
      | error e => exact ⟨rfl, (by simp)⟩
      | ok _ =>
        refine ⟨rfl, fun ids' hids => ?_⟩
        obtain rfl := Except.ok.inj hids
        exact ⟨rfl, htasks⟩

/-- A load whose row another client of the handler has is never raised. -/
theorem incrementLoads_waits {Q : Post backend Unit} {ids : List Uuid} {nodeId : Uuid} (hids : ids.Nodup) (hmem : nodeId ∈ ids)
    (hheld : RowLock.node nodeId ∈ l.locks) (hthere : loadOf db nodeId ≠ none)
    (hroom : ∀ n ∈ ids, ∀ x, loadOf db n = some (some x) → x < 2147483647) :
    ¬ (incrementLoads ids).flows (fun _ => False) Q db ⟨.idle :: l.sessions, l.out⟩ := by
  induction ids generalizing db with
  | nil => cases hmem
  | cons n ids ih =>
    obtain ⟨hnot, hrest⟩ := List.nodup_cons.mp hids
    rw [incrementLoads, flows_bind, Async.query, flows_await]
    rintro ⟨hwaits, hpost⟩
    by_cases hn : n = nodeId
    · subst hn
      refine hwaits ⟨.node n, ?_, hheld⟩
      have hrow : (db.nodes.get? n).isSome = true := by
        rw [loadOf] at hthere
        exact Option.isSome_iff_ne_none.mpr fun he => hthere (by rw [he]; rfl)
      change RowLock.node n ∈ (incrementLoad n).locks () db
      simp only [incrementLoad, updateNode]
      rw [if_pos hrow]
      exact List.mem_cons_self
    · obtain ⟨hreply, heffect⟩ := raise_loadOf (hroom n List.mem_cons_self)
      change (Async.query (Site.incrementLoad n) (incrementLoad n)).post _ _ db _ at hpost
      rw [post_query_idle, show backend.initial = () from rfl, hreply] at hpost
      refine ih hrest ((List.mem_cons.mp hmem).resolve_left (Ne.symm hn)) ?_ (fun m hm x hx => ?_) hpost.1
      · rw [heffect, if_neg (Ne.symm hn)]
        exact hthere
      · rw [heffect, if_neg fun he : m = n => hnot (he ▸ hm)] at hx
        exact hroom m (List.mem_cons_of_mem _ hm) x hx

/-- An assignment to a node whose row another client of the handler has does not end. -/
theorem assignTask_waits {now : Nat} {requirements : TaskRequirements} {Q : Post backend (List Uuid)} {ids : List Uuid}
    {nodeId : Uuid} (h : selectNodes requirements (offeredNodes db now requirements) = .ok ids) (hmem : nodeId ∈ ids)
    (hheld : RowLock.node nodeId ∈ l.locks) :
    ¬ (assignTask now (.uuid key) requirements).flows (fun _ => False) Q db l := by
  rw [assignTask, flows_withClient, flows_bind, getActiveNodes, flows_withClient, Async.query, flows_call rfl]
  rintro ⟨⟨hflows, -⟩, -⟩
  change (Async.query Site.selectNodes (selectActiveNodes ⟨requirements.region, some 30⟩ now)).post (fun _ => False) _ db _ at hflows
  rw [post_query_idle, selectActiveNodes, Stmt.reply_select, Stmt.effect_select] at hflows
  have hnext := hflows.1
  change (Async.ofExcept (B := backend) (selectNodes requirements (offeredNodes db now requirements)) >>= _).flows (fun _ => False) _ db
    ⟨.idle :: l.sessions, l.out⟩ at hnext
  rw [flows_bind, flows_ofExcept, h] at hnext
  change (Async.query (B := backend) Site.assignNodes (assignNodes (.uuid key) ids) >>= _).flows (fun _ => False) _ db ⟨.idle :: l.sessions, l.out⟩ at hnext
  rw [flows_bind, Async.query, flows_await] at hnext
  have hstored := hnext.2
  change (Async.query Site.assignNodes (assignNodes (.uuid key) ids)).post (fun _ => False) _ db _ at hstored
  rw [post_query_idle] at hstored
  have hloads := hstored.1
  change (incrementLoads ids >>= fun _ => pure ids).flows (fun _ => False) _ ((assignNodes (.uuid key) ids).effect () db db)
    ⟨.idle :: l.sessions, l.out⟩ at hloads
  rw [flows_bind] at hloads
  have hroom : ∀ n ∈ ids, ∀ x, loadOf ((assignNodes (.uuid key) ids).effect () db db) n = some (some x) → x < 2147483647 :=
    selectNodes_raisable h
  refine incrementLoads_waits (selectNodes_nodup h) hmem hheld ?_ hroom hloads
  obtain ⟨node, hnode, rfl, hlt⟩ := selectNodes_room h nodeId hmem
  obtain ⟨row, hrow, -⟩ := offeredRoom_of_active hnode hlt
  change loadOf db node.id ≠ none
  rw [loadOf, hrow]
  simp

end Assignment

/-! ### The failure -/

section Failure
variable {may : Site → Prop} {db : NetworkDb} {key nodeId : Uuid} {task : Task}

/-- The locks that the open transaction has while the task is assigned anew. -/
def failureLocks (db : NetworkDb) (nodeId : Uuid) : List RowLock :=
  (reduceReputation nodeId 200).locks () ((failNode nodeId).effect () db db) ++ ((failNode nodeId).locks () db ++ [])

theorem failureLocks_subset {x : RowLock} (h : x ∈ failureLocks db nodeId) : x = .node nodeId := by
  rcases List.mem_append.mp h with h | h
  · exact locks_updateNode h
  · rw [List.append_nil] at h
    exact locks_updateNode h

theorem mem_failureLocks (h : db.nodes.get? nodeId ≠ none) : .node nodeId ∈ failureLocks db nodeId := by
  refine List.mem_append.mpr (.inr (List.mem_append.mpr (.inl ?_)))
  simp only [failNode, updateNode]
  rw [if_pos (Option.isSome_iff_ne_none.mpr h)]
  exact List.mem_cons_self

/-- What runs while the transaction of the failure is open. -/
def reassign (now : Nat) (key : Uuid) (task : Task) : Async backend (List Uuid) := do
  let newNodes ← assignTask now (.uuid key) (reassignment task)
  Async.await .commit .commit
  pure newNodes

/-- The failure of the last node ends well exactly when its load can be lowered only where the
nested assignment does. -/
theorem handleTaskFailure_flows {Q : Except NetworkError (List Uuid) → NetworkDb → Prop} {now : Nat}
    (hcall : (∃ σ, may σ) → Q (.error .unavailable) db) (htask : db.tasks.get? key = some task) (hlast : remainingNodes task nodeId = []) :
    (handleTaskFailure now (.uuid key) nodeId).flows may (fun r u _ => Q r u) db Local.empty ↔
      (∀ e, (failNode nodeId).reply () db = .error e → Q (.error e) db) ∧
      ((failNode nodeId).reply () db = .ok () → (reassign now key task).flows may
        (caughtFlows may (fun e => do await Site.rollback .rollback; .raise e) fun r u _ => Q r u) db
        ⟨[.active () (failureLocks db nodeId) (penalized nodeId db)], []⟩) := by
  have hback {e : NetworkError} {x : Session backend} : caughtFlows may (fun e => do await Site.rollback .rollback; .raise e)
      (fun r u (_ : Local backend) => Q r u) (.error e) db ⟨[x], []⟩ ↔ Q (.error e) db :=
    caughtFlows_rollback.trans (and_iff_left fun hσ _ => hcall ⟨_, hσ⟩)
  have hfault {σ : Site} {x : Session backend} (hσ : may σ) (f : Unit) :
      caughtFlows may (fun e => do await Site.rollback .rollback; .raise e)
        (fun r u (_ : Local backend) => Q r u) (.error (backend.raise f)) db ⟨[x], []⟩ := hback.mpr (hcall ⟨σ, hσ⟩)
  rw [handleTaskFailure, flows_withClient, and_iff_left (fun hσ _ => hcall ⟨_, hσ⟩), flows_orRollback, flows_bind,
    flows_call rfl, post_begin]
  refine Iff.trans (and_iff_left fun hσ f => hfault hσ f) ?_
  have hread : (selectTask (.uuid key)).reply () db = .ok (some (key, task)) := by
    change Except.ok ((db.tasks.get? key).map fun task => (key, task)) = _
    rw [htask]
    rfl
  change (Async.query Site.selectTask (selectTask (.uuid key)) >>= _).flows may _ db ⟨[.active () [] id], []⟩ ↔ _
  rw [flows_bind, flows_query_single, post_query_active, id_eq, hread]
  refine Iff.trans (and_iff_left fun hσ f => hfault hσ f) ?_
  change (Async.query Site.failNode (failNode nodeId) >>= _).flows may _ db ⟨[.active () [] id], []⟩ ↔ _
  rw [flows_bind, flows_query_single, post_query_active, id_eq]
  refine Iff.trans (and_iff_left fun hσ f => hfault hσ f) ?_
  cases hreply : (failNode nodeId).reply () db with
  | error e =>
    refine hback.trans ⟨fun h => ⟨fun e' he => Except.error.inj he ▸ h, (by simp)⟩, fun h => h.1 e rfl⟩
  | ok _ =>
    change (Async.query Site.reduceReputation (reduceReputation nodeId 200) >>= _).flows may _ db
      ⟨[.active () ((failNode nodeId).locks () db ++ []) fun t => (failNode nodeId).effect () db t], []⟩ ↔ _
    rw [flows_bind, flows_query_single, post_query_active, reduceReputation_ok]
    refine Iff.trans (and_iff_left fun hσ f => hfault hσ f) ?_
    change (ite _ _ _ : Async backend (List Uuid)).flows may _ db _ ↔ _
    rw [if_pos hlast]
    exact ⟨fun h => ⟨(by simp), fun _ => h⟩, fun h => h.2 rfl⟩

/-- What the failure of the last node of a task should do: no statement waits for a lock of the
handler itself, and the nodes that are returned and stored are without the one that failed. -/
def MovesOn (db : NetworkDb) (now : Nat) (key nodeId : Uuid) : Prop :=
  (handleTaskFailure now (.uuid key) nodeId).flows anywhere (fun r u _ => ∀ ids, r = .ok ids →
    nodeId ∉ ids ∧ ∀ task, u.tasks.get? key = some task → nodeId ∉ task.assigned_nodes) db Local.empty

/-- The failed node is not chosen again: an active node of the region lists no models, so that
the choice throws, or its load cannot be lowered, or three better nodes can have the task. -/
def LeftOut (db : NetworkDb) (now : Nat) (task : Task) (nodeId : Uuid) : Prop :=
  (∃ node ∈ offeredNodes db now (reassignment task), node.capabilities.models = none) ∨ LeastLoad db nodeId ∨
    ∀ row, (nodeId, row) ∈ candidates db now (reassignment task) → Outclassed db now (reassignment task) (nodeId, row)

/-- The choice needs the models of every node that is offered. -/
theorem selectNodes_listed {nodes : List Node} {ids : List Uuid} (h : selectNodes (reassignment task) nodes = .ok ids) :
    ∀ node ∈ nodes, node.capabilities.models ≠ none := by
  have hchosen : ∃ chosen, eligibleNodes (reassignment task) nodes = .ok chosen := by
    rw [selectNodes] at h
    cases heligible : eligibleNodes (reassignment task) nodes with
    | error e => rw [heligible] at h; cases h
    | ok chosen => exact ⟨chosen, rfl⟩
  clear h
  induction nodes with
  | nil => exact fun _ hmem => (List.not_mem_nil hmem).elim
  | cons node rest ih =>
    obtain ⟨chosen, h⟩ := hchosen
    rw [eligibleNodes] at h
    cases hkeep : eligible (reassignment task) node with
    | error e => rw [hkeep] at h; cases h
    | ok keep =>
      cases hothers : eligibleNodes (reassignment task) rest with
      | error e => rw [hkeep, hothers] at h; cases h
      | ok others =>
        refine List.forall_mem_cons.mpr ⟨fun hnone => ?_, ih ⟨others, hothers⟩⟩
        simp [eligible, reassignment, hnone] at hkeep

theorem selected_iff {now : Nat} : (∃ ids, selectNodes (reassignment task) (offeredNodes db now (reassignment task)) = .ok ids ∧
    nodeId ∈ ids) ↔ (∀ node ∈ offeredNodes db now (reassignment task), node.capabilities.models ≠ none) ∧
      ∃ row, (nodeId, row) ∈ candidates db now (reassignment task) ∧ ¬ Outclassed db now (reassignment task) (nodeId, row) := by
  constructor
  · rintro ⟨ids, hselect, hmem⟩
    have hlisted := selectNodes_listed hselect
    refine ⟨hlisted, ?_⟩
    rw [selectNodes_best fun node hnode => Option.ne_none_iff_exists'.mp (hlisted node hnode)] at hselect
    split at hselect
    · cases hselect
    · obtain rfl := Except.ok.inj hselect
      obtain ⟨⟨n, row⟩, hr, rfl⟩ := List.mem_map.mp hmem
      exact ⟨row, topRated_subset hr, fun h => (not_mem_topRated (topRated_subset hr)).mpr h hr⟩
  · rintro ⟨hlisted, row, hrow, hranked⟩
    rw [selectNodes_best fun node hnode => Option.ne_none_iff_exists'.mp (hlisted node hnode), if_neg (List.ne_nil_of_mem hrow)]
    refine ⟨_, rfl, List.mem_map.mpr ⟨(nodeId, row), ?_, rfl⟩⟩
    exact not_not.mp fun h => hranked ((not_mem_topRated hrow).mp h)

/-- A failed node that is chosen has its row locked by the transaction that waits for the choice. -/
theorem MovesOn.leftOut {now : Nat} (htask : db.tasks.get? key = some task) (hlast : remainingNodes task nodeId = [])
    (h : MovesOn db now key nodeId) : LeftOut db now task nodeId := by
  by_contra hchosen
  obtain ⟨hmodels, hrest⟩ := not_or.mp hchosen
  obtain ⟨hload, hranked⟩ := not_or.mp hrest
  obtain ⟨row, hcandidate⟩ := not_forall.mp hranked
  obtain ⟨hrow, hbest⟩ := Classical.not_imp.mp hcandidate
  obtain ⟨ids, hselect, hmem⟩ := selected_iff.mpr ⟨fun node hnode hnone => hmodels ⟨node, hnode, hnone⟩, row, hrow, hbest⟩
  have hserved : (handleTaskFailure now (.uuid key) nodeId).flows (fun _ => False) (fun r u _ => ∀ ids, r = .ok ids →
      nodeId ∉ ids ∧ ∀ task, u.tasks.get? key = some task → nodeId ∉ task.assigned_nodes) db Local.empty :=
    flows_weaken (fun _ _ => trivial) h
  rw [handleTaskFailure_flows (Q := fun r u => ∀ ids, r = .ok ids →
    nodeId ∉ ids ∧ ∀ task, u.tasks.get? key = some task → nodeId ∉ task.assigned_nodes) (fun ⟨_, hσ⟩ => hσ.elim) htask hlast] at hserved
  have hnested := hserved.2 (failNode_ok.mpr hload)
  rw [reassign, flows_bind] at hnested
  refine assignTask_waits hselect hmem ?_ hnested
  have hthere : db.nodes.get? nodeId ≠ none := by
    have hactive := (List.mem_filter.mp (List.mem_mergeSort.mp (List.mem_filter.mp hrow).1)).1
    rw [Table.get?_eq_some.mpr hactive]
    simp
  simpa [Local.locks, Session.locks] using mem_failureLocks hthere

/-- A choice without the failed node takes its rows and goes through. -/
theorem LeftOut.movesOn {now : Nat} (htask : db.tasks.get? key = some task) (hlast : remainingNodes task nodeId = [])
    (hleft : LeftOut db now task nodeId) : MovesOn db now key nodeId := by
  refine (handleTaskFailure_flows (Q := fun r u => ∀ ids, r = .ok ids →
    nodeId ∉ ids ∧ ∀ task, u.tasks.get? key = some task → nodeId ∉ task.assigned_nodes) (fun _ => (by simp)) htask hlast).mpr
      ⟨fun _ _ => by simp, fun hok => ?_⟩
  have hout (ids : List Uuid) (hselect : selectNodes (reassignment task) (offeredNodes db now (reassignment task)) = .ok ids) :
      nodeId ∉ ids := by
    intro hmem
    obtain ⟨hlisted, row, hrow, hbest⟩ := selected_iff.mp ⟨ids, hselect, hmem⟩
    rcases hleft with ⟨node, hnode, hnone⟩ | hload | hranked
    · exact hlisted node hnode hnone
    · exact failNode_ok.mp hok hload
    · exact hbest (hranked row hrow)
  have hlocks {x : RowLock} (hx : x ∈ (Local.mk [.active () (failureLocks db nodeId) (penalized nodeId db)] [] : Local backend).locks) :
      x = .node nodeId := failureLocks_subset (by simpa [Local.locks, Session.locks] using hx)
  rw [reassign, flows_bind]
  refine flows_mono (assignTask_flows (fun hx => by cases hlocks hx) fun ids hselect n hn hx => ?_) fun r u l' hu => ?_
  · obtain rfl := RowLock.node.inj (hlocks hx)
    exact hout ids hselect hn
  · obtain ⟨rfl, hstored⟩ := hu
    cases r with
    | error e => exact caughtFlows_rollback.mpr ⟨(by simp), fun _ _ => by simp⟩
    | ok ids =>
      obtain ⟨hselect, htasks⟩ := hstored ids rfl
      change (await Site.commit .commit >>= fun _ => pure ids : Async backend (List Uuid)).flows anywhere _ u _
      rw [flows_bind, flows_call rfl, post_commit]
      refine ⟨fun ids' hids => ?_, fun _ _ => caughtFlows_rollback.mpr ⟨(by simp), fun _ _ => by simp⟩⟩
      obtain rfl := Except.ok.inj hids
      refine ⟨hout ids hselect, fun task' htask' => ?_⟩
      obtain ⟨nodes, hnodes⟩ := penalized_tables nodeId db u
      rw [hnodes, htasks, Table.get?_modify, if_pos rfl, htask] at htask'
      obtain rfl := Option.some.inj htask'
      exact hout ids hselect

end Failure

/-! ### One node for its own task -/

/-- A task on its only node. -/
def onlyTask : Task := { placedTask with assigned_nodes := [units "n"] }

/-- A node of the region `auto` that works on one task of three. -/
def onlyDb : NetworkDb :=
  { smallDb with
    nodes := Table.empty.insert (units "n")
      { smallNode with region := some (units "auto"), current_load := some 1, max_concurrent_tasks := some 3 }
    tasks := Table.empty.insert (units "t") onlyTask }

end GalaxiaAin.Network
