import GalaxiaAin.Library.Invariant
import GalaxiaAin.Library.Machine
import GalaxiaAin.Network.Capacity
import GalaxiaAin.Network.Finality
import GalaxiaAin.Network.Registration
import GalaxiaAin.Network.Reports

/-! Blocked nodes. Of the requests of the nodes only a registration or a heartbeat under
the device of a blocked node sets its status, and each sets it to online. -/
namespace GalaxiaAin.Network
open GalaxiaAin.Library
open GalaxiaAin.Library.Async hiding bind

/-- The node runs on the device and is blocked. -/
def Blocked (nodeId : Uuid) (deviceId : Text) (db : NetworkDb) : Prop :=
  ∃ row, db.nodes.get? nodeId = some row ∧ row.device_id = deviceId ∧ row.status = .blocked

/-! ### Statements -/

section Statements
variable {k : Uuid} {d : Text}

theorem Blocked.of_nodes {s t : NetworkDb} (h : Blocked k d s) (ht : t.nodes = s.nodes) : Blocked k d t := by
  unfold Blocked
  rwa [ht]

/-- A statement that writes to other tables. -/
theorem maintains_of_nodes {ρ : Type} {q : Stmt backend ρ}
    (h : ∀ c s r w, q.run c s = .ok (r, w) → ∀ t, (w t).nodes = t.nodes) : q.Maintains (Blocked k d) :=
  .of_run fun c s r w _ hrun t ht => ht.of_nodes (h c s r w hrun t)

/-- An update of a node that leaves its device and its status. -/
theorem updateNode_maintains {nodeId : Uuid} {set : NodeRow → Except NetworkError NodeRow}
    (hset : ∀ row row', set row = .ok row' → row'.device_id = row.device_id ∧ row'.status = row.status) :
    (updateNode nodeId set).Maintains (Blocked k d) := by
  refine .of_run fun c s r w hs hrun t ht => ?_
  simp only [updateNode] at hrun
  split at hrun
  · cases hrun; exact ht
  · rename_i node hnode
    cases hrow : set node with
    | error e => rw [hrow] at hrun; cases hrun
    | ok node' =>
      rw [hrow] at hrun
      cases hrun
      obtain ⟨hdevice, hstatus⟩ := hset node node' hrow
      obtain ⟨row, hget, hd, hb⟩ := ht
      unfold Blocked
      simp only [Table.get?_modify]
      split
      case isFalse => exact ⟨row, hget, hd, hb⟩
      case isTrue hk =>
        obtain ⟨row', hget', hd', hb'⟩ := hs
        rw [hk, hnode] at hget'
        cases hget'
        exact ⟨node', by rw [hget]; rfl, hdevice.trans hd', hstatus.trans hb'⟩

theorem updateTask_maintains (taskId : UuidText) (set : Task → Task) : (updateTask taskId set).Maintains (Blocked k d) := by
  refine maintains_of_nodes fun c s r w hrun t => ?_
  simp only [updateTask] at hrun
  cases hkey : taskId.read with
  | error e => rw [hkey] at hrun; cases hrun
  | ok key => rw [hkey] at hrun; cases hrun; rfl

theorem insertConsensus_maintains (result : ConsensusResult) : (insertConsensus result).Maintains (Blocked k d) := by
  refine maintains_of_nodes fun c s r w hrun t => ?_
  simp only [insertConsensus, Stmt.statement] at hrun
  split at hrun <;> cases hrun
  rfl

theorem markResults_maintains (key : Uuid) (agreeing : List Uuid) (scores : Option (Int × Int)) :
    (markResults key agreeing scores).Maintains (Blocked k d) :=
  maintains_of_nodes fun c s r w hrun t => by cases hrun; rfl

theorem insertResult_maintains (taskId : UuidText) (nodeId : Uuid) (output : Text) (ms : Int) :
    (insertResult taskId nodeId output ms).Maintains (Blocked k d) := by
  refine maintains_of_nodes fun c s r w hrun t => ?_
  obtain ⟨key, ms', rfl | rfl⟩ := insertResult_written hrun
  · rfl
  · rfl

/-- An update of the row whose assignment may fail. -/
theorem kept_of_bind {β : Type} {x : Except NetworkError β} {row row' : NodeRow} {set : β → NodeRow}
    (h : (x >>= fun b => Except.ok (set b)) = Except.ok row')
    (hset : ∀ b, (set b).device_id = row.device_id ∧ (set b).status = row.status) : row'.device_id = row.device_id ∧ row'.status = row.status := by
  cases x with
  | error e => cases h
  | ok b => cases h; exact hset b

theorem incrementLoad_maintains (nodeId : Uuid) : (incrementLoad nodeId).Maintains (Blocked k d) :=
  updateNode_maintains fun _ _ h => kept_of_bind h fun _ => ⟨rfl, rfl⟩

theorem decrementLoad_maintains (nodeId : Uuid) : (decrementLoad nodeId).Maintains (Blocked k d) :=
  updateNode_maintains fun _ _ h => kept_of_bind h fun _ => ⟨rfl, rfl⟩

theorem failNode_maintains (nodeId : Uuid) : (failNode nodeId).Maintains (Blocked k d) :=
  updateNode_maintains fun _ _ h => kept_of_bind h fun _ => ⟨rfl, rfl⟩

theorem reduceReputation_maintains (nodeId : Uuid) (hundredths : Int) :
    (reduceReputation nodeId hundredths).Maintains (Blocked k d) :=
  updateNode_maintains fun row row' h => by cases h; exact ⟨rfl, rfl⟩

theorem countCompleted_maintains (nodeId : Uuid) : (countCompleted nodeId).Maintains (Blocked k d) :=
  updateNode_maintains fun row row' h => by cases h; exact ⟨rfl, rfl⟩

theorem updateReputation_maintains (nodeId : Uuid) (reputation : ℚ) :
    (updateReputation nodeId reputation).Maintains (Blocked k d) := by
  refine updateNode_maintains fun row row' h => ?_
  cases hscore : assignScore reputation with
  | error e => rw [hscore] at h; cases h
  | ok u => rw [hscore] at h; cases h; exact ⟨rfl, rfl⟩

theorem withstands_blocked (key : Uuid) : Withstands (Blocked k d) key where
  count := countCompleted_maintains
  reputation := updateReputation_maintains
  penalty := reduceReputation_maintains
  marks := markResults_maintains key
  consensus result _ := insertConsensus_maintains result
  status _ _ := updateTask_maintains _ _

/-- An update by the device of another node. -/
theorem updateDevice_maintains {deviceId : Text} (hne : deviceId ≠ d) (set : NodeRow → NodeRow) :
    (updateDevice deviceId set).Maintains (Blocked k d) := by
  refine .of_run fun c s r w _ hrun t ⟨row, hget, hd, hb⟩ => ?_
  cases hrun
  refine ⟨row, ?_, hd, hb⟩
  rw [Table.get?_mapRows, hget, Option.map_some, if_neg fun h => hne (h.symm.trans hd)]

theorem insertNode_maintains (data : Registration) (capabilities : NodeCapabilities) :
    (insertNode data capabilities).Maintains (Blocked k d) := by
  refine .of_run fun c s r w _ hrun t ⟨row, hget, hd, hb⟩ => ?_
  simp only [insertNode] at hrun
  cases hdevice : fits 255 data.device_id with
  | error e => rw [hdevice] at hrun; cases hrun
  | ok _ =>
    cases hwallet : fits 255 data.wallet_address with
    | error e => rw [hdevice, hwallet] at hrun; cases hrun
    | ok _ =>
      rw [hdevice, hwallet] at hrun
      simp only [bind, Except.bind] at hrun
      split at hrun <;> cases hrun
      refine ⟨row, ?_, hd, hb⟩
      cases hfree : t.nodes.get? data.id with
      | some other =>
        simp only [Table.insert, dif_neg (show ¬ t.nodes.get? data.id = none by rw [hfree]; exact Option.some_ne_none _)]
        exact hget
      | none =>
        simp only [Table.get?_insert _ hfree]
        split
        case isTrue he => rw [he, hfree] at hget; cases hget
        case isFalse => exact hget

end Statements

/-! ### Services -/

section Services
variable {k : Uuid} {d : Text}

theorem verifyTaskResults_preserves (taskId : UuidText) : Preserves (Blocked k d) (verifyTaskResults taskId) := by
  refine preserves_withClient (preserves_bind (preserves_query (Stmt.maintains_selection _) _) fun results => ?_) _
  split
  · exact preserves_pure _
  refine preserves_bind (preserves_query (Stmt.maintains_selection _) _) fun found => ?_
  cases found with
  | none => exact preserves_pure _
  | some found =>
    dsimp only
    split
    · exact verifyDeterministicResults_preserves (withstands_blocked _) _
    · exact verifyNonDeterministicResults_preserves (withstands_blocked _) _

theorem checkConsensus_preserves (services : Services) (taskId : UuidText) :
    Preserves (Blocked k d) (checkConsensus services taskId) := by
  refine preserves_bind (preserves_withClient (preserves_query (Stmt.maintains_selection _) _) _) fun found => ?_
  cases found with
  | none => exact preserves_pure ()
  | some found =>
    refine preserves_bind (verifyTaskResults_preserves taskId) fun _ => preserves_onlyIf ?_
    exact preserves_bind (preserves_emit _) fun _ => preserves_ofExcept _

theorem getNodeByDeviceId_preserves (deviceId : Text) : Preserves (Blocked k d) (getNodeByDeviceId deviceId) :=
  preserves_withClient (preserves_query (Stmt.maintains_select _) _) _

theorem await_preserves {c : Call backend Unit} (σ : Site) (hc : c.Maintains (Blocked k d)) :
    Preserves (Blocked k d) (await σ c) := preserves_await hc σ

theorem completeTask_preserves (taskId : UuidText) (nodeId : Uuid) (output : Text) (ms : Int) :
    Preserves (Blocked k d) (completeTask taskId nodeId output ms) := by
  refine preserves_withClient (preserves_orRollback ?_ _) _
  refine preserves_bind (await_preserves _ trivial) fun _ => ?_
  refine preserves_bind (preserves_query (insertResult_maintains _ _ _ _) _) fun _ => ?_
  exact preserves_bind (preserves_query (decrementLoad_maintains _) _) fun _ => await_preserves _ trivial

theorem complete_preserves (services : Services) (report : CompletionReport) :
    Preserves (Blocked k d) (complete services report) := by
  unfold complete
  split
  · exact preserves_pure _
  refine preserves_handle (preserves_bind (getNodeByDeviceId_preserves _) fun found => ?_) fun _ => preserves_pure _
  cases found with
  | none => exact preserves_pure _
  | some nodeId =>
    refine preserves_bind (completeTask_preserves _ _ _ _) fun _ => ?_
    exact preserves_bind (checkConsensus_preserves _ _) fun _ => preserves_pure _

theorem incrementLoads_preserves (nodeIds : List Uuid) : Preserves (Blocked k d) (incrementLoads nodeIds) := by
  induction nodeIds with
  | nil => exact preserves_pure ()
  | cons nodeId rest ih => exact preserves_bind (preserves_query (incrementLoad_maintains _) _) fun _ => ih

theorem assignTask_preserves (now : Nat) (taskId : UuidText) (requirements : TaskRequirements) :
    Preserves (Blocked k d) (assignTask now taskId requirements) := by
  refine preserves_withClient (preserves_bind ?_ fun allNodes => ?_) _
  · exact preserves_withClient (preserves_query (Stmt.maintains_select _) _) _
  refine preserves_bind (preserves_ofExcept _) fun nodeIds => ?_
  refine preserves_bind (preserves_query (updateTask_maintains _ _) _) fun _ => ?_
  exact preserves_bind (incrementLoads_preserves _) fun _ => preserves_pure _

theorem handleTaskFailure_preserves (now : Nat) (taskId : UuidText) (nodeId : Uuid) :
    Preserves (Blocked k d) (handleTaskFailure now taskId nodeId) := by
  refine preserves_withClient (preserves_orRollback ?_ _) _
  refine preserves_bind (await_preserves _ trivial) fun _ => ?_
  refine preserves_bind (preserves_query (Stmt.maintains_selection _) _) fun found => ?_
  cases found with
  | none => exact preserves_throw _
  | some found =>
    refine preserves_bind (preserves_query (failNode_maintains _) _) fun _ => ?_
    refine preserves_bind (preserves_query (reduceReputation_maintains _ _) _) fun _ => ?_
    split
    · refine preserves_bind (assignTask_preserves _ _ _) fun _ => ?_
      exact preserves_bind (await_preserves _ trivial) fun _ => preserves_pure _
    · refine preserves_bind (preserves_query (updateTask_maintains _ _) _) fun _ => ?_
      exact preserves_bind (await_preserves _ trivial) fun _ => preserves_pure _

theorem fail_preserves (report : FailureReport) : Preserves (Blocked k d) (fail report) := by
  unfold fail
  split
  · exact preserves_pure _
  refine preserves_handle (preserves_bind (getNodeByDeviceId_preserves _) fun found => ?_) fun _ => preserves_pure _
  cases found with
  | none => exact preserves_pure _
  | some nodeId => exact preserves_bind (handleTaskFailure_preserves _ _ _) fun _ => preserves_pure _

theorem firstNode_preserves (result : Option (Uuid × NodeRow)) : Preserves (Blocked k d) (firstNode result) := by
  cases result with
  | none => exact preserves_throw _
  | some row => exact preserves_pure _

theorem registerNode_preserves {data : Registration} (hne : data.device_id ≠ d) (capabilities : NodeCapabilities) :
    Preserves (Blocked k d) (registerNode data capabilities) := by
  refine preserves_withClient (preserves_orRollback ?_ _) _
  refine preserves_bind (await_preserves _ trivial) fun _ => ?_
  refine preserves_bind (preserves_query (Stmt.maintains_select _) _) fun found => ?_
  cases found with
  | some row =>
    refine preserves_bind (preserves_query (updateDevice_maintains hne _) _) fun result => ?_
    exact preserves_bind (await_preserves _ trivial) fun _ => firstNode_preserves result
  | none =>
    refine preserves_bind (preserves_query (insertNode_maintains _ _) _) fun result => ?_
    exact preserves_bind (await_preserves _ trivial) fun _ => firstNode_preserves result

theorem updateNodeHealth_preserves {data : Heartbeat} (hne : data.device_id ≠ d) :
    Preserves (Blocked k d) (updateNodeHealth data) := by
  refine preserves_withClient (preserves_bind (preserves_query (updateDevice_maintains hne _) _) fun _ => ?_) _
  refine preserves_bind (preserves_query (Stmt.maintains_select _) _) fun found => ?_
  cases found with
  | none => exact preserves_pure ()
  | some row =>
    refine preserves_query (maintains_of_nodes fun c s r w hrun t => ?_) _
    simp only [insertHealthLog, Stmt.statement] at hrun
    split at hrun <;> cases hrun
    rfl

end Services

/-! ### Assignments -/

section Assignments
variable {k : Uuid} {d : Text} {db : NetworkDb}

/-- The active nodes are online. -/
theorem Blocked.not_offered (h : Blocked k d db) (now : Nat) (requirements : TaskRequirements) :
    ∀ node ∈ offeredNodes db now requirements, node.id ≠ k := by
  rintro node hnode rfl
  obtain ⟨⟨id, row⟩, hrow, rfl⟩ := List.mem_map.mp hnode
  obtain ⟨hrow, hadmits⟩ := List.mem_filter.mp (List.mem_mergeSort.mp hrow)
  obtain ⟨row', hget, -, hblocked⟩ := h
  obtain rfl : row = row' := Option.some.inj ((Table.get?_eq_some.mpr hrow).symm.trans hget)
  simp [NodeFilters.admits, hblocked] at hadmits

/-- What follows a choice of nodes returns them. -/
theorem post_chosen {p : Async backend Unit} {ids : List Uuid} (h : k ∉ ids) (s : NetworkDb) (l : Local backend) :
    (do p; pure ids : Async backend (List Uuid)).post anywhere (fun r _ _ => ∀ chosen, r = .ok chosen → k ∉ chosen) s l := by
  rw [post_bind]
  refine post_of_forall fun r t l' => ?_
  cases r with
  | error e => exact fun chosen hchosen => by cases hchosen
  | ok _ => exact fun chosen hchosen => by cases hchosen; exact h

theorem Blocked.not_assigned (h : Blocked k d db) {now : Nat} {taskId : UuidText} {requirements : TaskRequirements}
    {ids : List Uuid} {t : NetworkDb} {l : Local backend}
    (he : (assignTask now taskId requirements).Exec anywhere db Local.empty (.ok ids) t l) : k ∉ ids := by
  refine he.sound (Q := fun r _ _ => ∀ chosen, r = .ok chosen → k ∉ chosen) ?_ ids rfl
  have herror (e : NetworkError) : ∀ chosen, (.error e : Except NetworkError (List Uuid)) = .ok chosen → k ∉ chosen :=
    fun _ hchosen => by cases hchosen
  rw [assignTask, post_withClient, post_bind, getActiveNodes, post_withClient, post_query_idle]
  refine ⟨⟨⟨?_, fun _ _ => herror _⟩, fun _ _ => herror _⟩, fun _ _ => herror _⟩
  rw [selectActiveNodes, Stmt.reply_select, Stmt.effect_select, next_ok, post_bind]
  change (Async.ofExcept (B := backend) (selectNodes requirements (offeredNodes db now requirements))).post anywhere _ db _
  rw [post_ofExcept]
  cases hselect : selectNodes requirements (offeredNodes db now requirements) with
  | error e => exact herror e
  | ok chosen =>
    have hk : k ∉ chosen := fun hmem => by
      obtain ⟨node, hnode, hid, -⟩ := selectNodes_room hselect k hmem
      exact h.not_offered now requirements node hnode hid
    rw [next_ok, post_bind]
    refine post_of_forall fun r u l' => ?_
    cases r with
    | error e => exact herror e
    | ok _ => exact post_chosen hk u l'

end Assignments

/-! ### Requests -/

/-- A request of a node. -/
inductive NodeRequest where
  | register (data : Registration)
  | heartbeat (data : Heartbeat)
  | complete (services : Services) (report : CompletionReport)
  | fail (report : FailureReport)

def NodeRequest.program : NodeRequest → Async backend Response
  | .register data => Network.register data
  | .heartbeat data => Network.heartbeat data
  | .complete services report => Network.complete services report
  | .fail report => Network.fail report

/-- The requests one after another, whatever fails in them. -/
def Serving : Machine NetworkDb NodeRequest := fun s e t => ∃ r l, e.program.Exec anywhere s Local.empty r t l

/-- A registration or a heartbeat under the device that is not refused as incomplete. -/
def Revives (d : Text) : NodeRequest → Prop
  | .register data => data.device_id = d ∧ data.device_id ≠ [] ∧ data.wallet_address ≠ [] ∧ data.capabilities.isSome = true
  | .heartbeat data => data.device_id = d ∧ data.device_id ≠ []
  | _ => False

section Requests
variable {k : Uuid} {d : Text}

theorem program_preserves {e : NodeRequest} (h : ¬ Revives d e) : Preserves (Blocked k d) e.program := by
  cases e with
  | complete services report => exact complete_preserves services report
  | fail report => exact fail_preserves report
  | heartbeat data =>
    change Preserves _ (heartbeat data)
    unfold heartbeat
    split
    · exact preserves_pure _
    · rename_i hdevice
      have hne : data.device_id ≠ d := fun hd => h ⟨hd, hdevice⟩
      exact preserves_handle (preserves_bind (updateNodeHealth_preserves hne) fun _ => preserves_pure _) fun _ => preserves_pure _
  | register data =>
    change Preserves _ (register data)
    unfold register
    split
    · exact preserves_pure _
    · rename_i capabilities hcapabilities
      split
      · exact preserves_pure _
      · rename_i hgiven
        obtain ⟨hdevice, hwallet⟩ := not_or.mp hgiven
        have hne : data.device_id ≠ d := fun hd => h ⟨hd, hdevice, hwallet, by rw [hcapabilities]; rfl⟩
        refine preserves_handle (preserves_bind (registerNode_preserves hne _) fun _ => preserves_pure _) fun _ => ?_
        exact preserves_pure _

/-- The node is online. -/
def Online (k : Uuid) (db : NetworkDb) : Prop := ∃ row, db.nodes.get? k = some row ∧ row.status = .online

theorem Online.not_blocked {db : NetworkDb} (h : Online k db) : ¬ Blocked k d db := by
  rintro ⟨row, hget, -, hblocked⟩
  obtain ⟨row', hget', honline⟩ := h
  obtain rfl : row = row' := Option.some.inj (hget.symm.trans hget')
  exact absurd (hblocked.symm.trans honline) (by decide)

theorem updateDevice_reply (deviceId : Text) (set : NodeRow → NodeRow) (s : NetworkDb) :
    (updateDevice deviceId set).reply () s =
      .ok ((s.nodes.rows.find? fun r => r.2.device_id == deviceId).map fun r => (r.1, set r.2)) := rfl

/-- An update by the device that sets the status to online. -/
theorem online_updateDevice (set : NodeRow → NodeRow) (hset : ∀ row, (set row).status = .online) (s : NetworkDb) {t : NetworkDb}
    (h : Blocked k d t) : Online k ((updateDevice d set).effect () s t) := by
  obtain ⟨row, hget, hd, -⟩ := h
  refine ⟨set row, ?_, hset row⟩
  change (t.nodes.mapRows _).get? k = _
  rw [Table.get?_mapRows, hget, Option.map_some, if_pos hd]

/-- A SELECT by the device of a node finds a row. -/
theorem Blocked.selected {s : NetworkDb} (h : Blocked k d s) :
    ∃ found, (selectDeviceRow d).reply () s = .ok (some found) := by
  obtain ⟨row, hget, hd, -⟩ := h
  have hsome : (s.nodes.rows.find? fun r => r.2.device_id == d).isSome = true :=
    List.find?_isSome.mpr ⟨(k, row), Table.get?_eq_some.mp hget, beq_iff_eq.mpr hd⟩
  obtain ⟨found, hfound⟩ := Option.isSome_iff_exists.mp hsome
  exact ⟨found, congrArg Except.ok hfound⟩

theorem insertHealthLog_effect (nodeId : Uuid) (s t : NetworkDb) : (insertHealthLog nodeId).effect () s t = t := by
  unfold Stmt.effect insertHealthLog Stmt.statement
  dsimp only
  split_ifs <;> rfl

theorem heartbeat_online {data : Heartbeat} (hdevice : data.device_id ≠ []) {s : NetworkDb}
    (hs : Blocked k data.device_id s) : (heartbeat data).post (fun _ => False) (fun _ t _ => Online k t) s Local.empty := by
  have honline := online_updateDevice (fun row => { row with last_seen := some data.now, status := .online })
    (fun _ => rfl) s hs
  rw [heartbeat, if_neg hdevice, post_handle, post_bind, updateNodeHealth, post_withClient, post_bind, post_query_idle]
  refine ⟨⟨?_, fun h => h.elim⟩, fun h => h.elim⟩
  rw [show backend.initial = () from rfl, updateDevice_reply, next_ok, post_bind, post_query_idle]
  refine ⟨?_, fun h => h.elim⟩
  rw [selectDeviceRow, Stmt.reply_select, Stmt.effect_select, next_ok]
  split
  · exact honline
  · rename_i nodeId row hfound
    rw [post_query_idle]
    refine ⟨?_, fun h => h.elim⟩
    rw [show backend.initial = () from rfl, insertHealthLog_effect]
    cases (insertHealthLog nodeId).reply () _ with
    | error e => exact honline
    | ok _ => exact honline

theorem register_online {data : Registration} {capabilities : NodeCapabilities} (hcapabilities : data.capabilities = some capabilities)
    (hdevice : data.device_id ≠ []) (hwallet : data.wallet_address ≠ []) {s : NetworkDb} (hs : Blocked k data.device_id s) :
    (register data).post (fun _ => False) (fun _ t _ => Online k t) s Local.empty := by
  have honline := online_updateDevice (NodeRow.revive data capabilities) (fun _ => rfl) s hs
  obtain ⟨found, hfound⟩ := hs.selected
  rw [register, hcapabilities]
  dsimp only
  rw [if_neg (not_or.mpr ⟨hdevice, hwallet⟩), post_handle, post_bind, registerNode, post_withClient, post_orRollback, post_bind,
    post_begin]
  refine ⟨⟨?_, fun h => h.elim⟩, fun h => h.elim⟩
  rw [next_ok, post_bind, post_query_active]
  refine ⟨?_, fun h => h.elim⟩
  simp only [id_eq, hfound]
  rw [next_ok]
  change (Async.query .touchNode (updateDevice data.device_id (NodeRow.revive data capabilities)) >>= _ :
    Async backend Node).post _ _ _ _
  rw [post_bind, post_query_active]
  refine ⟨?_, fun h => h.elim⟩
  simp only [updateDevice_reply]
  rw [next_ok, post_bind, post_commit]
  refine ⟨?_, fun h => h.elim⟩
  rw [next_ok]
  cases hnode : s.nodes.rows.find? fun r => r.2.device_id == data.device_id with
  | none => rw [selectDeviceRow, Stmt.reply_select, hnode] at hfound; cases hfound
  | some row =>
    have hsame : (selectDeviceRow data.device_id).effect () s s = s := rfl
    rw [hsame, hnode]
    exact honline

/-- Served without a failure, such a request makes the node online. -/
theorem program_revives {e : NodeRequest} (h : Revives d e) {s : NetworkDb} (hs : Blocked k d s) :
    ∃ t, Serving s e t ∧ ¬ Blocked k d t := by
  refine ⟨(e.program.run [] s Local.empty).2.1, ⟨_, _, Async.exec_nil anywhere e.program s Local.empty⟩, ?_⟩
  have hpost : e.program.post (fun _ => False) (fun _ t _ => Online k t) s Local.empty := by
    cases e with
    | complete services report => exact h.elim
    | fail report => exact h.elim
    | heartbeat data =>
      obtain ⟨rfl, hdevice⟩ := h
      exact heartbeat_online hdevice hs
    | register data =>
      obtain ⟨rfl, hdevice, hwallet, hgiven⟩ := h
      obtain ⟨capabilities, hcapabilities⟩ := Option.isSome_iff_exists.mp hgiven
      exact register_online hcapabilities hdevice hwallet hs
  exact (run_nil_post hpost).not_blocked

end Requests

/-! ### Runs -/

/-- The node is blocked, and no assignment takes it. -/
structure Kept (k : Uuid) (d : Text) (db : NetworkDb) : Prop where
  blocked : Blocked k d db
  unassigned : ∀ now taskId requirements ids t l,
    (assignTask now taskId requirements).Exec anywhere db Local.empty (.ok ids) t l → k ∉ ids

theorem Blocked.kept {k : Uuid} {d : Text} {db : NetworkDb} (h : Blocked k d db) : Kept k d db :=
  ⟨h, fun _ _ _ _ _ _ he => h.not_assigned he⟩

/-- `updateNodeStatus(device_id, 'blocked')` blocks the node of the device. -/
theorem updateNodeStatus_blocked {now : Nat} {db start : NetworkDb} {k : Uuid} {row : NodeRow} {l : Local backend}
    (hrow : db.nodes.get? k = some row)
    (hexec : (updateNodeStatus now row.device_id .blocked).Exec anywhere db Local.empty (.ok ()) start l) :
    Blocked k row.device_id start := by
  have hset : Blocked k row.device_id ((updateDevice row.device_id fun row =>
      { row with status := .blocked, last_seen := some now }).effect () db db) := by
    refine ⟨{ row with status := .blocked, last_seen := some now }, ?_, rfl, rfl⟩
    change (db.nodes.mapRows _).get? k = _
    rw [Table.get?_mapRows, hrow, Option.map_some, if_pos rfl]
  refine hexec.sound (Q := fun r t _ => r = .ok () → Blocked k row.device_id t) ?_ rfl
  have herror (e : NetworkError) (t : NetworkDb) : (.error e : Except NetworkError Unit) = .ok () → Blocked k row.device_id t :=
    fun h => by cases h
  rw [updateNodeStatus, post_withClient, post_bind, post_query_idle]
  refine ⟨⟨?_, fun _ _ => herror _ _⟩, fun _ _ => herror _ _⟩
  rw [show backend.initial = () from rfl, updateDevice_reply, next_ok]
  exact fun _ => hset

/-- Some run of requests with a reviving one among them leaves the node unblocked. -/
theorem exists_unblocked {k : Uuid} {d : Text} {requests : List NodeRequest} (h : ∃ e ∈ requests, Revives d e) {s : NetworkDb}
    (hs : Blocked k d s) :
    ∃ pre post t, requests = pre ++ post ∧ Machine.Run Serving s pre t ∧ ¬ Blocked k d t := by
  induction requests generalizing s with
  | nil => obtain ⟨e, he, -⟩ := h; cases he
  | cons e rest ih =>
    by_cases hrevives : Revives d e
    · obtain ⟨t, hstep, ht⟩ := program_revives hrevives hs
      exact ⟨[e], rest, t, rfl, .cons hstep (.nil t), ht⟩
    · have hlater : ∃ e ∈ rest, Revives d e := by
        obtain ⟨e', he', hr⟩ := h
        rcases List.mem_cons.mp he' with rfl | he'
        · exact absurd hr hrevives
        · exact ⟨e', he', hr⟩
      have hexec := Async.exec_nil anywhere e.program s Local.empty
      obtain ⟨pre, post, t, rfl, hrun, ht⟩ := ih hlater ((program_preserves hrevives).exec hexec hs)
      exact ⟨e :: pre, post, t, rfl, .cons ⟨_, _, hexec⟩ hrun, ht⟩

/-- A node that was blocked stays blocked, and unassigned, in every state of every run of
the requests, exactly when none of them registers its device or sends its heartbeat. -/
theorem blocked_stays_iff {now : Nat} {db start : NetworkDb} {k : Uuid} {row : NodeRow} {l : Local backend}
    (hrow : db.nodes.get? k = some row)
    (hexec : (updateNodeStatus now row.device_id .blocked).Exec anywhere db Local.empty (.ok ()) start l)
    (requests : List NodeRequest) :
    (∀ pre post t, requests = pre ++ post → Machine.Run Serving start pre t → Kept k row.device_id t) ↔
      ∀ e ∈ requests, ¬ Revives row.device_id e := by
  have hstart := updateNodeStatus_blocked hrow hexec
  constructor
  · intro h e he hrevives
    obtain ⟨pre, post, t, hsplit, hrun, ht⟩ := exists_unblocked ⟨e, he, hrevives⟩ hstart
    exact ht (h pre post t hsplit hrun).blocked
  · rintro h pre post t rfl hrun
    have hstep (s : NetworkDb) (e : NodeRequest) (t : NetworkDb) (hs : Blocked k row.device_id s)
        (hg : ¬ Revives row.device_id e) (he : Serving s e t) : Blocked k row.device_id t := by
      obtain ⟨r, l, hserved⟩ := he
      exact (program_preserves hg).exec hserved hs
    refine Blocked.kept (hrun.invariant_of hstep (fun init e rest u hsplit _ => h e ?_) hstart)
    rw [hsplit]
    simp

/-! ### A heartbeat -/

/-- The first node of `audioDb`, blocked. -/
def blockedDb : NetworkDb := ((updateNodeStatus 0 (units "d") .blocked).run [] (audioDb [units "n"]) Local.empty).2.1

theorem blockedDb_exec : ∃ l, (updateNodeStatus 0 (units "d") .blocked).Exec anywhere (audioDb [units "n"]) Local.empty (.ok ())
    blockedDb l :=
  ⟨_, Async.exec_nil anywhere (updateNodeStatus 0 (units "d") .blocked) (audioDb [units "n"]) Local.empty⟩

theorem audioDb_node : (audioDb [units "n"]).nodes.get? (units "n") = some reportingNode := rfl

/-- The heartbeat of the blocked node. -/
def revival : NodeRequest := .heartbeat ⟨units "d", 0⟩

/-- After it the node is online. -/
theorem blocked_revived : ¬ ∀ (now : Nat) (db start : NetworkDb) (k : Uuid) (row : NodeRow) (l : Local backend)
    (requests : List NodeRequest) (t : NetworkDb), db.nodes.get? k = some row →
      (updateNodeStatus now row.device_id .blocked).Exec anywhere db Local.empty (.ok ()) start l →
      Machine.Run Serving start requests t → Kept k row.device_id t := by
  intro hall
  obtain ⟨l, hexec⟩ := blockedDb_exec
  have hrevives : Revives (units "d") revival := ⟨rfl, by decide⟩
  obtain ⟨t, hstep, ht⟩ := program_revives hrevives (updateNodeStatus_blocked audioDb_node hexec)
  exact ht (hall 0 _ _ _ _ l [revival] t audioDb_node hexec (.cons hstep (.nil t))).blocked

/-- The heartbeat of another device. -/
def otherHeartbeat : NodeRequest := .heartbeat ⟨units "d2", 0⟩

/-- It leaves the node blocked. -/
theorem blocked_stays_other : Kept (units "n") (units "d") (otherHeartbeat.program.run [] blockedDb Local.empty).2.1 := by
  obtain ⟨l, hexec⟩ := blockedDb_exec
  have hstep : Serving blockedDb otherHeartbeat (otherHeartbeat.program.run [] blockedDb Local.empty).2.1 :=
    ⟨_, _, Async.exec_nil anywhere otherHeartbeat.program blockedDb Local.empty⟩
  refine (blocked_stays_iff audioDb_node hexec [otherHeartbeat]).mpr (fun e he hrevives => ?_) [otherHeartbeat] [] _ rfl
    (.cons hstep (.nil _))
  obtain rfl := List.mem_singleton.mp he
  exact absurd hrevives.1 (by decide)

end GalaxiaAin.Network
