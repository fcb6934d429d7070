import GalaxiaAin.Library.UniqueIndex
import GalaxiaAin.Network.Registration

/-! One node for each device. Whatever registrations, heartbeats and status changes run at
the same time, a device has at most one row, every registration that is answered names
that row, and no row is lost or passes to another device. -/
namespace GalaxiaAin.Network
open GalaxiaAin.Library

/-- Which node has which device. -/
def identities (db : NetworkDb) : List (Uuid × Text) := db.nodes.rows.map fun r => (r.1, r.2.device_id)

/-- The nodes of a device. -/
def devices (deviceId : Text) (db : NetworkDb) : List Uuid :=
  ((identities db).filter fun r => r.2 == deviceId).map Prod.fst

def nodeIds (db : NetworkDb) : List Uuid := (identities db).map Prod.fst

/-! ### The statements -/

section Statements
variable {deviceId : Text} {db : NetworkDb} {data : Registration} {capabilities : NodeCapabilities}

/-- An update by device leaves the devices alone. -/
theorem updateDevice_identities {set : NodeRow → NodeRow} (hset : ∀ row, (set row).device_id = row.device_id) (c : Unit)
    (s t : NetworkDb) : identities ((updateDevice deviceId set).effect c s t) = identities t := by
  change (t.nodes.rows.map fun r => (r.1, if r.2.device_id = deviceId then set r.2 else r.2)).map (fun r => (r.1, r.2.device_id)) = _
  rw [List.map_map]
  apply List.map_congr_left
  intro r _
  simp only [Function.comp_apply]
  split
  · rw [hset]
  · rfl

theorem devices_of_find {r : Uuid × NodeRow} (h : (db.nodes.rows.find? fun r => r.2.device_id == deviceId) = some r) :
    ∃ rest, devices deviceId db = r.1 :: rest := by
  unfold devices identities
  rw [List.filter_map, List.map_map]
  obtain ⟨-, before, after, hrows, hbefore⟩ := List.find?_eq_some_iff_append.mp h
  have hr : (r.2.device_id == deviceId) = true := (List.find?_eq_some_iff_append.mp h).1
  refine ⟨(after.filter ((fun r => r.2 == deviceId) ∘ fun r => (r.1, r.2.device_id))).map
    (Prod.fst ∘ fun r => (r.1, r.2.device_id)), ?_⟩
  have hnone : before.filter ((fun r => r.2 == deviceId) ∘ fun r : Uuid × NodeRow => (r.1, r.2.device_id)) = [] := by
    apply List.filter_eq_nil_iff.mpr
    intro x hx
    simpa using hbefore x hx
  rw [hrows, List.filter_append, hnone, List.nil_append, List.filter_cons]
  simp [hr]

theorem find_of_devices (h : devices deviceId db ≠ []) :
    ∃ r, (db.nodes.rows.find? fun r => r.2.device_id == deviceId) = some r := by
  apply Option.isSome_iff_exists.mp
  rw [List.find?_isSome]
  obtain ⟨id, hid⟩ := List.exists_mem_of_ne_nil _ h
  obtain ⟨⟨id', device⟩, hmem, -⟩ := List.mem_map.mp hid
  obtain ⟨hmem, hdevice⟩ := List.mem_filter.mp hmem
  obtain ⟨r, hr, hpair⟩ := List.mem_map.mp hmem
  cases hpair
  exact ⟨r, hr, hdevice⟩

theorem mem_nodeIds {k : Uuid} : k ∈ nodeIds db ↔ k ∈ db.nodes.rows.map Prod.fst := by
  rw [nodeIds, identities, List.map_map]
  rfl

/-- A row that may be inserted has a device without a row. -/
theorem insertNode_free {o : Option (Uuid × NodeRow)} {w : NetworkDb → NetworkDb} {c : Unit}
    (h : (insertNode data capabilities).run c db = .ok (o, w)) :
    devices data.device_id db = [] ∧ o = some (data.id, data.row capabilities) ∧
      w = fun db => { db with nodes := db.nodes.insert data.id (data.row capabilities) } := by
  simp only [insertNode] at h
  cases hd : fits 255 data.device_id with
  | error e => rw [hd] at h; cases h
  | ok _ =>
    cases hw : fits 255 data.wallet_address with
    | error e => rw [hd, hw] at h; cases h
    | ok _ =>
      rw [hd, hw] at h
      simp only [bind, Except.bind] at h
      split at h
      · cases h
      · rename_i hfree
        cases h
        refine ⟨?_, rfl, rfl⟩
        by_contra hne
        obtain ⟨r, hr⟩ := find_of_devices hne
        apply hfree
        rw [Bool.or_eq_true, List.any_eq_true]
        exact .inr ⟨r, List.mem_of_find?_eq_some hr,
          List.find?_some (p := fun r : Uuid × NodeRow => r.2.device_id == data.device_id) hr⟩

theorem identities_insert {k : Uuid} {row : NodeRow} (hk : k ∉ nodeIds db) :
    identities { db with nodes := db.nodes.insert k row } = identities db ++ [(k, row.device_id)] := by
  have hnone : db.nodes.get? k = none := Table.get?_eq_none.mpr fun h => hk (mem_nodeIds.mpr h)
  simp only [identities, Table.rows_insert row hnone, List.map_append, List.map_cons, List.map_nil]

theorem devices_insert {k : Uuid} {row : NodeRow} (hk : k ∉ nodeIds db) (deviceId : Text) :
    devices deviceId { db with nodes := db.nodes.insert k row } =
      devices deviceId db ++ if row.device_id = deviceId then [k] else [] := by
  rw [devices, identities_insert hk, List.filter_append, List.map_append]
  congr 1
  by_cases h : row.device_id = deviceId <;> simp [h]

end Statements

/-! ### The protocol -/

/-- A handler that has drawn an id inserts that row only, and under the lock of its device. -/
def nodeProtocol (own : Option Uuid) : Protocol backend where
  rely l s t := (indexProtocol (B := backend) devices RowLock.device).rely l s t ∧
    ∀ k, own = some k → k ∉ nodeIds s → k ∉ nodeIds t
  guar l s t := (indexProtocol (B := backend) devices RowLock.device).guar l s t ∧
    ∀ k, k ∉ nodeIds s → k ∈ nodeIds t → own = some k
  inv _ _ := True

theorem nodeProtocol_compatible {ι : Type} {own : ι → Option Uuid}
    (hown : ∀ i j k, i ≠ j → own i = some k → own j ≠ some k) : Compatible fun i => nodeProtocol (own i) where
  refl _ l s := ⟨(indexProtocol_compatible (ι := Unit)).refl () l s, fun _ _ h => h⟩
  trans _ l s t u h h' := ⟨(indexProtocol_compatible (ι := Unit)).trans () l s t u h.1 h'.1,
    fun k hk hs => h'.2 k hk (h.2 k hk hs)⟩
  fits i j l m s t hij hd hg := by
    refine ⟨(indexProtocol_compatible (ι := ι)).fits i j l m s t hij hd hg.1, fun k hk hs ht => ?_⟩
    exact hown i j k hij (hg.2 k hs ht) hk

/-- A change that leaves the identities alone is in any handler's guarantee. -/
theorem guar_of_identities {own : Option Uuid} {l : Local backend} {s t : NetworkDb} (h : identities t = identities s) :
    (nodeProtocol own).guar l s t := by
  refine ⟨fun key => .inl ?_, fun k hs ht => ?_⟩
  · rw [devices, h]
    rfl
  · rw [nodeIds, h] at ht
    exact absurd ht hs

/-- Every device has at most one row. -/
def OneNode (db : NetworkDb) : Prop := ∀ deviceId, (devices deviceId db).length ≤ 1

/-- What a registration finds: one row for each device, and its own id unused. -/
def Registers (data : Registration) (db : NetworkDb) : Prop := OneNode db ∧ data.id ∉ nodeIds db

/-- What it leaves: a node it is answered with is the one of its device. -/
def Registered (data : Registration) (r : Except NetworkError Node) (db : NetworkDb) : Prop :=
  OneNode db ∧ ∀ node, r = .ok node → devices data.device_id db = [node.id]

section Registering
variable {data : Registration} {policy : Policy backend}

theorem OneNode.rely {own : Option Uuid} {l : Local backend} {s t : NetworkDb} (h : OneNode s)
    (hr : (nodeProtocol own).rely l s t) : OneNode t := fun deviceId => ((hr.1 deviceId).1.length (h deviceId))

theorem Registers.rely {l : Local backend} {s t : NetworkDb} (h : Registers data s)
    (hr : (nodeProtocol (some data.id)).rely l s t) : Registers data t := ⟨h.1.rely hr, hr.2 _ rfl h.2⟩

/-- An error is rolled back and raised again. -/
theorem rollback_registered (e : NetworkError) {s : NetworkDb} (hs : Registers data s) (x : Session backend) :
    (do Async.await .rollback .rollback; .raise e : Async backend Node).safe policy (nodeProtocol (some data.id))
      (fun r t _ => Registered data r t) s ⟨[x], []⟩ := by
  rw [Async.safe_bind, Async.safe_await]
  intro t ht
  have hone : OneNode t := (hs.rely ht).1
  refine ⟨trivial, fun a _ => ⟨guar_of_identities ?_, ?_⟩⟩
  · cases a <;> rfl
  · cases a <;> exact ⟨hone, fun node h => by cases h⟩

/-- The branch of a device that has a row. -/
theorem revive_registered {capabilities : NodeCapabilities} {s : NetworkDb} (hs : Registers data s)
    (hlisted : devices data.device_id s ≠ []) (held : List RowLock) :
    (do
      let result ← Async.query .touchNode (updateDevice data.device_id (NodeRow.revive data capabilities))
      Async.await .commit .commit
      firstNode result : Async backend Node).safe policy (nodeProtocol (some data.id))
      (Async.caughtSafe policy (nodeProtocol (some data.id)) (fun e => do Async.await .rollback .rollback; .raise e)
        fun r t _ => Registered data r t) s ⟨[.active () held id], []⟩ := by
  rw [Async.safe_bind, Async.query, Async.safe_await]
  intro t ht
  have hregisters := hs.rely ht
  have hkept := (ht.1 data.device_id).1.kept hlisted
  refine ⟨trivial, fun a _ => ⟨guar_of_identities ?_, ?_⟩⟩
  · cases a <;> rfl
  · cases a with
    | fault f => exact rollback_registered _ hregisters _
    | done reply =>
      obtain ⟨r, hr⟩ := find_of_devices (hkept ▸ hlisted : devices data.device_id t ≠ [])
      obtain ⟨rest, hrest⟩ := devices_of_find hr
      have hrestNil : rest = [] := by
        have := hregisters.1 data.device_id
        rw [hrest] at this
        exact List.length_eq_zero_iff.mp (by simpa using this)
      subst hrestNil
      have hanswer : (updateDevice data.device_id (NodeRow.revive data capabilities)).reply () t =
          .ok (some (r.1, NodeRow.revive data capabilities r.2)) := by
        change Except.ok ((t.nodes.rows.find? fun r => r.2.device_id == data.device_id).map _) = _
        rw [hr]
        rfl
      simp only [Call.exec, Call.serve, Local.top_cons, Local.setTop_cons, Session.query, id, hanswer]
      rw [Async.nextSafe_ok, Async.safe_bind, Async.safe_await]
      intro u hu
      have hregistersU := hregisters.rely hu
      have hkeptU := (hu.1 data.device_id).1.kept (by rw [hrest]; exact List.cons_ne_nil _ _)
      refine ⟨trivial, fun a _ => ?_⟩
      cases a with
      | fault f => exact ⟨guar_of_identities rfl, rollback_registered _ hregistersU _⟩
      | done reply =>
        have hsame : identities ((updateDevice data.device_id (NodeRow.revive data capabilities)).effect () t u) =
            identities u := by
          apply updateDevice_identities
          intro row
          rfl
        have hdevices (deviceId : Text) : devices deviceId ((updateDevice data.device_id
            (NodeRow.revive data capabilities)).effect () t u) = devices deviceId u := by
          rw [devices, hsame]
          rfl
        refine ⟨guar_of_identities hsame, fun deviceId => ?_, fun node hnode => ?_⟩
        · exact (congrArg List.length (hdevices deviceId)).trans_le (hregistersU.1 deviceId)
        · cases hnode
          exact (hdevices data.device_id).trans (hkeptU.trans hrest)

/-- The branch of a device without a row: the insertion holds the lock of the device until
it is committed. -/
theorem insert_registered {capabilities : NodeCapabilities} {s : NetworkDb} (hs : Registers data s) (held : List RowLock) :
    (do
      let result ← Async.query .insertNode (insertNode data capabilities)
      Async.await .commit .commit
      firstNode result : Async backend Node).safe policy (nodeProtocol (some data.id))
      (Async.caughtSafe policy (nodeProtocol (some data.id)) (fun e => do Async.await .rollback .rollback; .raise e)
        fun r t _ => Registered data r t) s ⟨[.active () held id], []⟩ := by
  rw [Async.safe_bind, Async.query, Async.safe_await]
  intro t ht
  have hregisters := hs.rely ht
  refine ⟨trivial, fun a _ => ?_⟩
  cases a with
  | fault f => exact ⟨guar_of_identities rfl, rollback_registered _ hregisters _⟩
  | done reply =>
    simp only [Call.exec, Call.serve, Local.top_cons, Local.setTop_cons, Session.query, id]
    cases hrun : (insertNode data capabilities).run () t with
    | error e =>
      rw [Stmt.reply_error hrun]
      exact ⟨guar_of_identities rfl, rollback_registered _ hregisters _⟩
    | ok o =>
      obtain ⟨o, w⟩ := o
      obtain ⟨hfree, rfl, rfl⟩ := insertNode_free hrun
      rw [Stmt.reply_ok hrun, Stmt.effect_ok hrun]
      refine ⟨guar_of_identities rfl, ?_⟩
      rw [Async.nextSafe_ok, Async.safe_bind, Async.safe_await]
      intro u hu
      have hregistersU := hregisters.rely hu
      -- The lock keeps the device free for the row.
      have hlock : RowLock.device data.device_id ∈ Local.locks (B := backend)
          ⟨[.active () ([.device data.device_id] ++ held) fun t => { t with nodes := t.nodes.insert data.id (data.row capabilities) }], []⟩ := by
        simp [Local.locks, Session.locks]
      have hfreeU : devices data.device_id u = [] := ((hu.1 data.device_id).2 hlock).trans hfree
      have hdevices (deviceId : Text) : devices deviceId { u with nodes := u.nodes.insert data.id (data.row capabilities) } =
          devices deviceId u ++ if data.device_id = deviceId then [data.id] else [] :=
        devices_insert hregistersU.2 deviceId
      have hone : devices data.device_id { u with nodes := u.nodes.insert data.id (data.row capabilities) } = [data.id] := by
        rw [hdevices, hfreeU, if_pos rfl, List.nil_append]
      refine ⟨trivial, fun a _ => ?_⟩
      cases a with
      | fault f => exact ⟨guar_of_identities rfl, rollback_registered _ hregistersU _⟩
      | done reply =>
        refine ⟨⟨fun deviceId => ?_, fun k hk hk' => ?_⟩, fun deviceId => ?_, fun node hnode => ?_⟩
        · by_cases hd : data.device_id = deviceId
          · subst hd
            exact .inr ⟨hlock, hfreeU, congrArg List.length hone⟩
          · refine .inl ((hdevices deviceId).trans ?_)
            rw [if_neg hd, List.append_nil]
        · have hids : nodeIds { u with nodes := u.nodes.insert data.id (data.row capabilities) } = nodeIds u ++ [data.id] := by
            rw [nodeIds, identities_insert hregistersU.2, List.map_append]
            rfl
          have hk' : k ∈ nodeIds u ++ [data.id] := hids ▸ hk'
          rcases List.mem_append.mp hk' with hk' | hk'
          · exact absurd hk' hk
          · rw [List.mem_singleton.mp hk']
        · by_cases hd : data.device_id = deviceId
          · subst hd
            exact (congrArg List.length hone).le
          · refine (congrArg List.length (hdevices deviceId)).trans_le ?_
            rw [if_neg hd, List.append_nil]
            exact hregistersU.1 deviceId
        · cases hnode
          exact hone

/-- A registration keeps the protocol, whatever fails. -/
theorem registerNode_safe (capabilities : NodeCapabilities) {s : NetworkDb} (hs : Registers data s) :
    (registerNode data capabilities).safe policy (nodeProtocol (some data.id)) (fun r t _ => Registered data r t) s .empty := by
  unfold registerNode Async.withClient
  rw [Async.safe_bind, Async.safe_await]
  intro t ht
  have hregisters := hs.rely ht
  refine ⟨trivial, fun a _ => ?_⟩
  cases a with
  | fault f => exact ⟨guar_of_identities rfl, hregisters.1, fun node h => by cases h⟩
  | done reply =>
    refine ⟨guar_of_identities rfl, ?_⟩
    change (Async.releasing _).safe policy _ _ t _
    rw [Async.safe_releasing, Async.orRollback, Async.safe_handle, Async.safe_bind, Async.safe_await]
    intro u hu
    have hregisters := hregisters.rely hu
    refine ⟨trivial, fun a _ => ?_⟩
    cases a with
    | fault f => exact ⟨guar_of_identities rfl, rollback_registered _ hregisters _⟩
    | done reply =>
      refine ⟨guar_of_identities rfl, ?_⟩
      change (Async.query Site.selectDevice (selectDeviceRow data.device_id) >>= _).safe policy _ _ u _
      rw [Async.safe_bind, Async.query, Async.safe_await]
      intro v hv
      have hregisters := hregisters.rely hv
      refine ⟨trivial, fun a _ => ?_⟩
      cases a with
      | fault f => exact ⟨guar_of_identities rfl, rollback_registered _ hregisters _⟩
      | done reply =>
        refine ⟨guar_of_identities rfl, ?_⟩
        change Async.nextSafe policy _ _ _ (Except.ok (v.nodes.rows.find? fun r => r.2.device_id == data.device_id)) v _
        cases hfind : v.nodes.rows.find? fun r => r.2.device_id == data.device_id with
        | none => exact insert_registered hregisters _
        | some r =>
          obtain ⟨rest, hrest⟩ := devices_of_find hfind
          exact revive_registered hregisters (by rw [hrest]; exact List.cons_ne_nil _ _) _

end Registering

/-! ### The handlers -/

inductive DeviceCall where
  | register (data : Registration) (capabilities : NodeCapabilities)
  | heartbeat (data : Heartbeat)
  | setStatus (now : Nat) (deviceId : Text) (status : NodeStatus)

namespace DeviceCall

/-- The handler of a call; a registration returns its node. -/
def program : DeviceCall → Async backend (Option Node)
  | .register data capabilities => do
    let node ← registerNode data capabilities
    pure (some node)
  | .heartbeat data => do
    updateNodeHealth data
    pure none
  | .setStatus now deviceId status => do
    updateNodeStatus now deviceId status
    pure none

/-- The id a registration would insert its row under. -/
def drawn : DeviceCall → Option Uuid
  | .register data _ => some data.id
  | .heartbeat _ => none
  | .setStatus _ _ _ => none

/-- What a call leaves. -/
def Ends : DeviceCall → Post backend (Option Node)
  | .register data _ => fun r t _ => OneNode t ∧ ∀ node, r = .ok (some node) → devices data.device_id t = [node.id]
  | .heartbeat _ => fun _ t _ => OneNode t
  | .setStatus _ _ _ => fun _ t _ => OneNode t

/-- A call that leaves the devices of all rows alone keeps any handler's protocol. -/
theorem safe_of_keeps {policy : Policy backend} {p : Async backend (Option Node)} (h : p.Keeps (Frame.of identities) 0)
    {s : NetworkDb} (hs : OneNode s) :
    p.safe policy (nodeProtocol none) (fun _ t _ => OneNode t) s .empty := by
  have hI : Carried (nodeProtocol none) fun s _ => OneNode s :=
    ⟨fun _ _ _ hs hr => hs.rely hr, fun _ _ _ hs _ => hs, fun _ _ _ => trivial⟩
  have hkept (s t : NetworkDb) (hs : OneNode s) (h : identities t = identities s) : OneNode t := by
    intro deviceId
    rw [devices, h]
    exact hs deviceId
  exact Async.safe_mono ((h []).safe hI (fun _ _ _ => guar_of_identities) (fun s t _ _ hs hk _ => hkept s t hs hk)
    (Local.owns_zero.mpr rfl) fun _ _ => hs) fun _ t l h => h.1 l trivial

theorem program_safe {policy : Policy backend} (call : DeviceCall) {s : NetworkDb} (hs : OneNode s)
    (hfresh : ∀ k, call.drawn = some k → k ∉ nodeIds s) :
    call.program.safe policy (nodeProtocol call.drawn) call.Ends s .empty := by
  have hupdate {deviceId : Text} {set : NodeRow → NodeRow} (hset : ∀ row, (set row).device_id = row.device_id) :
      (updateDevice deviceId set).Keeps (Frame.of identities) := fun c s t => updateDevice_identities hset c s t
  cases call with
  | register data capabilities =>
    rw [program, Async.safe_bind]
    refine Async.safe_mono (registerNode_safe capabilities ⟨hs, hfresh _ rfl⟩) fun r t l h => ?_
    cases r with
    | error e => exact ⟨h.1, fun node hnode => by cases hnode⟩
    | ok node => exact ⟨h.1, fun node' hnode => by cases hnode; exact h.2 node rfl⟩
  | setStatus now deviceId status =>
    change ((do updateNodeStatus now deviceId status; pure none : Async backend (Option Node))).safe policy (nodeProtocol none)
      (fun _ t _ => OneNode t) s .empty
    refine safe_of_keeps (Async.keeps_bind (Async.keeps_withClient ?_ _) fun _ => Async.keeps_pure _) hs
    refine Async.keeps_bind (Async.keeps_query (Nat.le_refl 1) ?_ _) fun _ => Async.keeps_pure _
    exact hupdate fun _ => rfl
  | heartbeat data =>
    have hlog (nodeId : Uuid) : (insertHealthLog nodeId).Keeps (Frame.of identities) := by
      refine Stmt.Keeps.of_run fun c s r w h t => ?_
      simp only [insertHealthLog, Stmt.statement] at h
      split at h <;> cases h
      rfl
    change ((do updateNodeHealth data; pure none : Async backend (Option Node))).safe policy (nodeProtocol none)
      (fun _ t _ => OneNode t) s .empty
    refine safe_of_keeps (Async.keeps_bind (Async.keeps_withClient ?_ _) fun _ => Async.keeps_pure _) hs
    refine Async.keeps_bind (Async.keeps_query (Nat.le_refl 1) ?_ _) fun _ => ?_
    · exact hupdate fun _ => rfl
    · refine Async.keeps_bind (Async.keeps_query (Nat.le_refl 1) (Stmt.keeps_select _ _) _) fun found => ?_
      cases found with
      | none => exact Async.keeps_pure _
      | some r => exact Async.keeps_query (Nat.le_refl 1) (hlog _) _

theorem ends_stable (call : DeviceCall) : Async.Stable (nodeProtocol call.drawn) call.Ends := by
  intro r s t l h hr
  cases call with
  | register data capabilities =>
    refine ⟨h.1.rely hr, fun node hnode => ?_⟩
    have hd := h.2 node hnode
    rw [(hr.1 data.device_id).1.kept (by rw [hd]; exact List.cons_ne_nil _ _), hd]
  | heartbeat data => exact OneNode.rely h hr
  | setStatus now deviceId status => exact OneNode.rely h hr

end DeviceCall

/-- Registrations that draw different unused ids, heartbeats and status changes, interleaved
in any way with any of their calls failing, from tables with at most one row for a device:
every device still has at most one row, a device that had a row keeps it, and every
registration that is answered is answered with the one row of its device. -/
theorem one_node_per_device {ι : Type} [DecidableEq ι] {policy : Policy backend} (calls : ι → DeviceCall) {db : NetworkDb}
    (hone : OneNode db) (hfresh : ∀ i k, (calls i).drawn = some k → k ∉ nodeIds db)
    (hids : ∀ i j k, i ≠ j → (calls i).drawn = some k → (calls j).drawn ≠ some k) {script : List (ι × Answer backend)}
    (hruns : (Config.mk db fun i => Thread.start (calls i).program).Runs policy script) :
    let cfg := (Config.mk db fun i => Thread.start (calls i).program).after script
    OneNode cfg.store ∧ (∀ deviceId, devices deviceId db ≠ [] → devices deviceId cfg.store = devices deviceId db) ∧
      ∀ i data capabilities, calls i = .register data capabilities → ∀ node,
        (cfg.thread i).prog.result = some (.ok (some node)) → devices data.device_id cfg.store = [node.id] := by
  intro cfg
  have hstart : (Config.mk db fun i => Thread.start (calls i).program : Config backend ι (Option Node)).Protected policy
      (fun i => nodeProtocol (calls i).drawn) (fun i => (calls i).Ends) :=
    Config.Protected.start fun i => (calls i).program_safe hone (hfresh i)
  obtain ⟨hentered, hprot⟩ := indexed_after devices RowLock.device (nodeProtocol_compatible hids)
    (fun i => (calls i).ends_stable) (fun _ _ _ _ h => h.1) hstart hruns
  refine ⟨fun deviceId => (hentered deviceId).length (hone deviceId), fun deviceId h => (hentered deviceId).kept h, ?_⟩
  intro i data capabilities hcall node hresult
  have hend := hprot.outcome i hresult
  simp only [hcall, DeviceCall.Ends] at hend
  exact hend.2 node rfl

/-- Two registrations of one device, the second of which finds no row before the first commits. -/
theorem one_node_per_device_race :
    let db : NetworkDb := ⟨Table.empty, Table.empty, Table.empty, [], Table.empty, Table.empty, fun _ => none⟩
    let capabilities : NodeCapabilities := ⟨false, some 8, none⟩
    let data (b : Bool) : Registration :=
      ⟨units "d", units "w", some capabilities, none, none, if b then units "n1" else units "n2", 0⟩
    let calls (b : Bool) : DeviceCall := .register (data b) capabilities
    let answer : Answer backend := .done fun r => r.elim
    let script := [(true, answer), (false, answer), (true, answer), (false, answer), (true, answer), (false, answer),
      (true, answer), (true, answer), (false, answer), (false, answer)]
    let cfg := (Config.mk db fun i => Thread.start (calls i).program).after script
    OneNode cfg.store ∧ (∀ deviceId, devices deviceId db ≠ [] → devices deviceId cfg.store = devices deviceId db) ∧
      ∀ i data capabilities, calls i = .register data capabilities → ∀ node,
        (cfg.thread i).prog.result = some (.ok (some node)) → devices data.device_id cfg.store = [node.id] := by
  intro db capabilities data calls answer script
  have hruns : (Config.mk db fun i => Thread.start (calls i).program).Runs (fun _ _ _ _ => True) script := by decide
  apply one_node_per_device calls (fun _ => Nat.zero_le _) (fun _ _ _ h => by cases h) _ hruns
  intro i j k hij hi hj
  have hdrawn : ∀ b, (calls b).drawn = some (if b then units "n1" else units "n2") := fun _ => rfl
  rw [hdrawn] at hi hj
  cases i <;> cases j
  · exact hij rfl
  · exact absurd (hi.trans hj.symm) (by decide)
  · exact absurd (hi.trans hj.symm) (by decide)
  · exact hij rfl

end GalaxiaAin.Network
