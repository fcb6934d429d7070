import GalaxiaAin.Payments.Payment
import GalaxiaAin.Library.Alone

/-! Payments of different users to different nodes. However the steps of their calls
are ordered and whichever of their calls fail, each of them goes as it would alone. -/
namespace GalaxiaAin.Payments
open GalaxiaAin.Library

/-- What a daily total reads of a transaction. -/
structure Counted where
  amount : Int
  transaction_type : TransactionType
  status : TransactionStatus
  created_at : Nat
  deriving DecidableEq

def TokenTransaction.counted (t : TokenTransaction) : Counted := ⟨t.amount, t.transaction_type, t.status, t.created_at⟩

/-- The rows a payment may see or change. The tables it only reads are the same for all. -/
structure Part where
  user : Option User
  node : Option Node
  history : List Counted
  transactions : List TokenTransaction
  travel_rule_records : List TravelRuleRecord
  audit_logs : List AuditLog
  tasks : List Uuid
  kyc_profiles : List KycProfile
  user_jurisdictions : List UserJurisdiction
  compliance_config : List ComplianceConfig

/-- The row of `users` a request names. -/
def PaymentRequest.userKey (request : PaymentRequest) : Option Uuid := request.user_id.read.toOption

/-- The row of `nodes` a request names. -/
def PaymentRequest.nodeKey (request : PaymentRequest) : Option Uuid :=
  request.node_id.bind fun nodeId => nodeId.read.toOption

/-- The part of the tables that is a call's own. -/
def partOf (turn : Turn) (request : PaymentRequest) (db : PaymentDb) : Part where
  user := request.userKey.bind db.users
  node := request.nodeKey.bind db.nodes
  history := (db.token_transactions.filter fun t => t.user_id.isSome && t.user_id == request.userKey).map (·.counted)
  transactions := db.token_transactions.filter fun t => t.id == turn.transactionId
  travel_rule_records := db.travel_rule_records.filter fun r => r.transaction_id == turn.transactionId
  audit_logs := db.audit_logs.filter fun r => r.resource_id == turn.transactionId
  tasks := db.tasks
  kyc_profiles := db.kyc_profiles
  user_jurisdictions := db.user_jurisdictions
  compliance_config := db.compliance_config

/-- Two calls that share no user, no node and no transaction. -/
structure Apart (turn turn' : Turn) (request request' : PaymentRequest) : Prop where
  user : ∀ key, request.userKey = some key → request'.userKey ≠ some key
  node : ∀ key, request.nodeKey = some key → request'.nodeKey ≠ some key
  transaction : turn.transactionId ≠ turn'.transactionId

variable {ι : Type} {turn : ι → Turn} {request : ι → PaymentRequest}

abbrev parts (turn : ι → Turn) (request : ι → PaymentRequest) (i : ι) (db : PaymentDb) : Part :=
  partOf (turn i) (request i) db

abbrev ownView (turn : ι → Turn) (request : ι → PaymentRequest) (i : ι) : View backend :=
  View.own (B := backend) (parts turn request) i

section Reading
variable {t : Turn} {r : PaymentRequest} {db db' : PaymentDb}

theorem userKey_of_read {id : Uuid} (h : r.user_id.read = .ok id) : r.userKey = some id := by
  rw [PaymentRequest.userKey, h]
  rfl

theorem users_eq (h : partOf t r db = partOf t r db') {id : Uuid} (hid : r.user_id.read = .ok id) :
    db.users id = db'.users id := by
  have hu := congrArg Part.user h
  simpa [partOf, userKey_of_read hid] using hu

theorem nodeKey_of_read {id : Uuid} (h : readOptional r.node_id = .ok (some id)) : r.nodeKey = some id := by
  unfold PaymentRequest.nodeKey
  cases hn : r.node_id with
  | none => rw [hn] at h; cases h
  | some text =>
    cases text with
    | uuid key => rw [hn] at h; cases h; rfl
    | empty => rw [hn] at h; cases h
    | malformed text => rw [hn] at h; cases h

theorem nodes_eq (h : partOf t r db = partOf t r db') {id : Uuid} (hid : readOptional r.node_id = .ok (some id)) :
    db.nodes id = db'.nodes id := by
  have hn := congrArg Part.node h
  simpa [partOf, nodeKey_of_read hid] using hn

/-- Whether a call's transaction is already there. -/
theorem any_id_eq (h : partOf t r db = partOf t r db') :
    (db.token_transactions.any fun x => x.id == t.transactionId) =
      db'.token_transactions.any fun x => x.id == t.transactionId := by
  have hx : db.token_transactions.filter (fun x => x.id == t.transactionId) = db'.token_transactions.filter _ :=
    congrArg Part.transactions h
  have hany (rows : List TokenTransaction) : (rows.any fun x => x.id == t.transactionId) = true ↔
      rows.filter (fun x => x.id == t.transactionId) ≠ [] := by
    simp [List.filter_eq_nil_iff]
  rw [Bool.eq_iff_iff, hany, hany, hx]

theorem total_counted (id day : Uuid) (rows : List TokenTransaction) :
    total (paidOn id day) rows =
      ((((rows.filter fun x => x.user_id == some id).map (·.counted)).filter fun c =>
        c.transaction_type == .payment && date c.created_at == day && c.status == .completed).map (·.amount)).sum := by
  unfold total paidOn
  rw [List.filter_map, List.map_map, List.filter_filter]
  have hp : (fun x : TokenTransaction => x.user_id == some id && x.transaction_type == .payment && date x.created_at == day &&
      x.status == .completed) = fun x => ((fun c : Counted => c.transaction_type == .payment && date c.created_at == day &&
      c.status == .completed) ∘ (·.counted)) x && (x.user_id == some id) := by
    funext x
    simp [TokenTransaction.counted, Bool.and_comm, Bool.and_assoc, Bool.and_left_comm]
  rw [hp]
  rfl

theorem history_eq (h : partOf t r db = partOf t r db') {id : Uuid} (hid : r.user_id.read = .ok id) :
    (db.token_transactions.filter fun x => x.user_id == some id).map (·.counted) =
      (db'.token_transactions.filter fun x => x.user_id == some id).map (·.counted) := by
  have hh := congrArg Part.history h
  have hkey (x : TokenTransaction) : (x.user_id.isSome && x.user_id == some id) = (x.user_id == some id) := by
    cases x.user_id <;> simp
  simpa [partOf, userKey_of_read hid, hkey] using hh

end Reading

section Writing
variable (t : Turn) (r : PaymentRequest) (db : PaymentDb)

theorem partOf_users (key : Uuid) (row : Option User) :
    partOf t r { db with users := Function.update db.users key row } =
      { partOf t r db with user := if r.userKey = some key then row else (partOf t r db).user } := by
  simp only [partOf, Part.mk.injEq, and_true]
  cases hk : r.userKey with
  | none => simp
  | some k =>
    by_cases he : k = key
    · subst he; simp
    · simp [he]

theorem partOf_nodes (key : Uuid) (row : Option Node) :
    partOf t r { db with nodes := Function.update db.nodes key row } =
      { partOf t r db with node := if r.nodeKey = some key then row else (partOf t r db).node } := by
  simp only [partOf, Part.mk.injEq, and_true, true_and]
  cases hk : r.nodeKey with
  | none => simp
  | some k =>
    by_cases he : k = key
    · subst he; simp
    · simp [he]

theorem partOf_inserted (row : TokenTransaction) :
    partOf t r { db with token_transactions := db.token_transactions ++ [row] } =
      { partOf t r db with
        history := (partOf t r db).history ++
          ([row].filter fun x => x.user_id.isSome && x.user_id == r.userKey).map (·.counted)
        transactions := (partOf t r db).transactions ++ [row].filter fun x => x.id == t.transactionId } := by
  simp only [partOf, List.filter_append, List.map_append]

/-- A change of the row of one transaction that leaves what is counted of it alone. -/
theorem partOf_updated (id : Uuid) {set : TokenTransaction → TokenTransaction} (hid : ∀ x, (set x).id = x.id)
    (huser : ∀ x, (set x).user_id = x.user_id) (hcounted : ∀ x, (set x).counted = x.counted) :
    partOf t r { db with token_transactions := db.token_transactions.map fun x => if x.id = id then set x else x } =
      { partOf t r db with
        transactions := (partOf t r db).transactions.map fun x => if x.id = id then set x else x } := by
  have hx (x : TokenTransaction) : (if x.id = id then set x else x).id = x.id ∧
      (if x.id = id then set x else x).user_id = x.user_id ∧ (if x.id = id then set x else x).counted = x.counted := by
    split
    · exact ⟨hid x, huser x, hcounted x⟩
    · exact ⟨rfl, rfl, rfl⟩
  simp only [partOf, Part.mk.injEq, List.filter_map, List.map_map, and_true, true_and]
  refine ⟨?_, ?_⟩
  · have hf : ((fun x : TokenTransaction => x.user_id.isSome && x.user_id == r.userKey) ∘ fun x =>
        if x.id = id then set x else x) = fun x => x.user_id.isSome && x.user_id == r.userKey := by
      funext x
      simp only [Function.comp_apply, (hx x).2.1]
    have hm : (TokenTransaction.counted ∘ fun x => if x.id = id then set x else x) = TokenTransaction.counted := by
      funext x
      simp only [Function.comp_apply, (hx x).2.2]
    rw [hf, hm]
  · congr 1
    apply List.filter_congr
    intro x _
    simp only [Function.comp_apply, (hx x).1]

theorem partOf_reported (row : TravelRuleRecord) :
    partOf t r { db with travel_rule_records := db.travel_rule_records ++ [row] } =
      { partOf t r db with
        travel_rule_records := (partOf t r db).travel_rule_records ++
          [row].filter fun x => x.transaction_id == t.transactionId } := by
  simp only [partOf, List.filter_append]

theorem partOf_logged (row : AuditLog) :
    partOf t r { db with audit_logs := db.audit_logs ++ [row] } =
      { partOf t r db with
        audit_logs := (partOf t r db).audit_logs ++ [row].filter fun x => x.resource_id == t.transactionId } := by
  simp only [partOf, List.filter_append]

end Writing

/-! ### The statements -/

section Statements
variable {i : ι} (hapart : ∀ j k, j ≠ k → Apart (turn j) (turn k) (request j) (request k))

/-- A change that is decided by the call's own part, is made in it alike, and is not seen
in the parts of the others. -/
structure Owned (turn : ι → Turn) (request : ι → PaymentRequest) (i : ι) (w : PaymentDb → PaymentDb) : Prop where
  alike : ∀ db db', partOf (turn i) (request i) db = partOf (turn i) (request i) db' →
    partOf (turn i) (request i) (w db) = partOf (turn i) (request i) (w db')
  unseen : ∀ j, j ≠ i → ∀ db, partOf (turn j) (request j) (w db) = partOf (turn j) (request j) db

theorem Owned.id : Owned turn request i id := ⟨fun _ _ h => h, fun _ _ _ => rfl⟩

theorem respects_statement {ρ : Type} {f : PaymentDb → Except PaymentFailure (ρ × (PaymentDb → PaymentDb))}
    (hf : ∀ db db', partOf (turn i) (request i) db = partOf (turn i) (request i) db' → f db = f db')
    (hw : ∀ db r w, f db = .ok (r, w) → Owned turn request i w) (c : Unit) :
    (Stmt.statement (B := backend) f).Respects (ownView turn request i) c := by
  apply Stmt.Respects.of_run
  · exact fun db db' h => hf db db' h
  · exact fun db r w h db' db'' hsame => (hw db r w h).alike db' db'' hsame
  · exact fun db r w h db' j hj => (hw db r w h).unseen j hj db'

theorem respects_selection {ρ : Type} {f : PaymentDb → Except PaymentFailure ρ}
    (hf : ∀ db db', partOf (turn i) (request i) db = partOf (turn i) (request i) db' → f db = f db') (c : Unit) :
    (Stmt.selection (B := backend) f).Respects (ownView turn request i) c := by
  apply respects_statement
  · intro db db' h
    rw [hf db db' h]
  · intro db r w h
    cases hr : f db with
    | error e => rw [hr] at h; cases h
    | ok a => rw [hr] at h; cases h; exact .id

include hapart

theorem owned_users {key : Uuid} (hkey : (request i).userKey = some key) (row : Option User) :
    Owned turn request i fun db => { db with users := Function.update db.users key row } where
  alike db db' h := by rw [partOf_users, partOf_users, h]
  unseen j hj db := by
    rw [partOf_users, if_neg ((hapart i j hj.symm).user key hkey)]

theorem owned_nodes {key : Uuid} (hkey : (request i).nodeKey = some key) (row : Option Node) :
    Owned turn request i fun db => { db with nodes := Function.update db.nodes key row } where
  alike db db' h := by rw [partOf_nodes, partOf_nodes, h]
  unseen j hj db := by
    rw [partOf_nodes, if_neg ((hapart i j hj.symm).node key hkey)]

theorem owned_inserted {row : TokenTransaction} (hid : row.id = (turn i).transactionId)
    (huser : ∀ key, row.user_id = some key → (request i).userKey = some key) :
    Owned turn request i fun db => { db with token_transactions := db.token_transactions ++ [row] } where
  alike db db' h := by rw [partOf_inserted, partOf_inserted, h]
  unseen j hj db := by
    have hcount : (row.user_id.isSome && row.user_id == (request j).userKey) = false := by
      cases hu : row.user_id with
      | none => rfl
      | some key => simpa using fun he => (hapart i j hj.symm).user key (huser key hu) he.symm
    have hmine : (row.id == (turn j).transactionId) = false := by
      rw [hid]
      simpa using (hapart i j hj.symm).transaction
    rw [partOf_inserted]
    simp [hcount, hmine]

theorem owned_updated {set : TokenTransaction → TokenTransaction} (hid : ∀ x, (set x).id = x.id)
    (huser : ∀ x, (set x).user_id = x.user_id) (hcounted : ∀ x, (set x).counted = x.counted) :
    Owned turn request i fun db => { db with
      token_transactions := db.token_transactions.map fun x => if x.id = (turn i).transactionId then set x else x } where
  alike db db' h := by rw [partOf_updated _ _ _ _ hid huser hcounted, partOf_updated _ _ _ _ hid huser hcounted, h]
  unseen j hj db := by
    have hrows : (partOf (turn j) (request j) db).transactions.map
        (fun x => if x.id = (turn i).transactionId then set x else x) = (partOf (turn j) (request j) db).transactions := by
      conv_rhs => rw [← List.map_id (partOf (turn j) (request j) db).transactions]
      apply List.map_congr_left
      intro x hx
      have hxid : x.id = (turn j).transactionId := by simpa [partOf] using (List.mem_filter.mp hx).2
      rw [hxid, if_neg ((hapart i j hj.symm).transaction ·.symm)]
      rfl
    rw [partOf_updated _ _ _ _ hid huser hcounted, hrows]

theorem owned_reported {row : TravelRuleRecord} (hid : row.transaction_id = (turn i).transactionId) :
    Owned turn request i fun db => { db with travel_rule_records := db.travel_rule_records ++ [row] } where
  alike db db' h := by rw [partOf_reported, partOf_reported, h]
  unseen j hj db := by
    have hmine : (row.transaction_id == (turn j).transactionId) = false := by
      rw [hid]
      simpa using (hapart i j hj.symm).transaction
    rw [partOf_reported]
    simp [hmine]

theorem owned_logged {row : AuditLog} (hid : row.resource_id = (turn i).transactionId) :
    Owned turn request i fun db => { db with audit_logs := db.audit_logs ++ [row] } where
  alike db db' h := by rw [partOf_logged, partOf_logged, h]
  unseen j hj db := by
    have hmine : (row.resource_id == (turn j).transactionId) = false := by
      rw [hid]
      simpa using (hapart i j hj.symm).transaction
    rw [partOf_logged]
    simp [hmine]

omit hapart

/-- A query about the request's user is answered from the call's own part. -/
theorem respects_ofUser {ρ : Type} {f : PaymentDb → Uuid → ρ}
    (hf : ∀ db db' id, (request i).user_id.read = .ok id →
      partOf (turn i) (request i) db = partOf (turn i) (request i) db' → f db id = f db' id) (c : Unit) :
    (Stmt.selection (B := backend) fun db => (request i).user_id.read.map (f db)).Respects (ownView turn request i) c := by
  apply respects_selection
  intro db db' h
  cases hu : (request i).user_id.read with
  | error e => rfl
  | ok id => exact congrArg Except.ok (hf db db' id hu h)

theorem profileOf_eq {db db' : PaymentDb} (h : partOf (turn i) (request i) db = partOf (turn i) (request i) db')
    (id : Uuid) : profileOf db id = profileOf db' id := by
  have hk : db.kyc_profiles = db'.kyc_profiles := congrArg Part.kyc_profiles h
  unfold profileOf
  rw [hk]

theorem respects_geoBlocked (c : Unit) :
    (selectGeoBlocked (request i).user_id).Respects (ownView turn request i) c := by
  apply respects_ofUser
  intro db db' id _ h
  have hj : db.user_jurisdictions = db'.user_jurisdictions := congrArg Part.user_jurisdictions h
  rw [hj]

theorem respects_travelRule (userId : UuidText) (c : Unit) :
    (selectTravelRule userId).Respects (ownView turn request i) c := by
  apply respects_selection
  intro db db' h
  have hj : db.user_jurisdictions = db'.user_jurisdictions := congrArg Part.user_jurisdictions h
  have hc : db.compliance_config = db'.compliance_config := congrArg Part.compliance_config h
  rw [hj, hc]

theorem respects_profile (userId : Option UuidText) (c : Unit) :
    (selectProfile userId).Respects (ownView turn request i) c := by
  apply respects_selection
  intro db db' h
  have hp : profileOf db = profileOf db' := funext (profileOf_eq h)
  rw [hp]

theorem respects_dailyTotal (now : Nat) (c : Unit) :
    (selectDailyTotal (request i).user_id now).Respects (ownView turn request i) c := by
  apply respects_ofUser
  intro db db' id hid h
  rw [total_counted, total_counted, history_eq h hid]

theorem respects_user (c : Unit) : (selectUser (request i).user_id).Respects (ownView turn request i) c := by
  apply respects_ofUser (f := fun db id => db.users id)
  exact fun db db' id hid h => users_eq h hid

theorem respects_userInfo (c : Unit) : (selectUserInfo (request i).user_id).Respects (ownView turn request i) c := by
  apply respects_ofUser
  intro db db' id hid h
  rw [users_eq h hid, profileOf_eq h]

theorem respects_node {nodeId : Option UuidText} (hnode : nodeId = (request i).node_id) (c : Unit) :
    (selectNode nodeId).Respects (ownView turn request i) c := by
  subst hnode
  apply respects_selection
  intro db db' h
  cases hn : readOptional (request i).node_id with
  | error e => rfl
  | ok key =>
    cases key with
    | none => rfl
    | some id => exact congrArg Except.ok (nodes_eq h hn)

include hapart

theorem respects_updateUser (set : User → Except PaymentFailure User) (c : Unit) :
    (updateUser (request i).user_id set).Respects (ownView turn request i) c := by
  apply respects_statement
  · intro db db' h
    cases hu : (request i).user_id.read with
    | error e => rfl
    | ok key => simp only [users_eq h hu]
  · intro db r w h
    cases hu : (request i).user_id.read with
    | error e => rw [hu] at h; cases h
    | ok key =>
      simp only [hu] at h
      cases hrow : db.users key with
      | none => rw [hrow] at h; cases h; exact .id
      | some user =>
        simp only [hrow] at h
        cases hs : set user with
        | error e => rw [hs] at h; cases h
        | ok user' => rw [hs] at h; cases h; exact owned_users hapart (userKey_of_read hu) _

theorem respects_insertUser (tokenBalance : ℚ) (walletAddress : Option Text) (c : Unit) :
    (insertUser (request i).user_id tokenBalance walletAddress).Respects (ownView turn request i) c := by
  apply respects_statement
  · intro db db' h
    cases hu : (request i).user_id.read with
    | error e => rfl
    | ok key => simp only [bind, Except.bind, users_eq h hu]
  · intro db r w h
    cases hu : (request i).user_id.read with
    | error e => rw [hu] at h; cases h
    | ok key =>
      cases hb : assign tokenBalance with
      | error e => rw [hu, hb] at h; cases h
      | ok balance =>
        rw [hu, hb] at h
        simp only [bind, Except.bind] at h
        split at h
        · cases h
        · cases h
          exact owned_users hapart (userKey_of_read hu) _

theorem respects_updateNode (earnings : Node → Except PaymentFailure Int) (c : Unit) :
    (updateNode (request i).node_id earnings).Respects (ownView turn request i) c := by
  apply respects_statement
  · intro db db' h
    cases hn : readOptional (request i).node_id with
    | error e => rfl
    | ok key =>
      cases key with
      | none => rfl
      | some id => simp only [nodes_eq h hn]
  · intro db r w h
    cases hn : readOptional (request i).node_id with
    | error e => rw [hn] at h; cases h
    | ok key =>
      cases key with
      | none => rw [hn] at h; cases h; exact .id
      | some key =>
        simp only [hn] at h
        cases hrow : db.nodes key with
        | none => rw [hrow] at h; cases h; exact .id
        | some node =>
          simp only [hrow] at h
          cases hs : earnings node with
          | error e => rw [hs] at h; cases h
          | ok units => rw [hs] at h; cases h; exact owned_nodes hapart (nodeKey_of_read hn) _

theorem respects_insertTransaction (c : Unit) :
    (insertTransaction (turn i) (request i)).Respects (ownView turn request i) c := by
  have huser {key : Uuid} (h : readOptional (orNull (some (request i).user_id)) = .ok (some key)) :
      (request i).user_id.read = .ok key := by
    cases hu : (request i).user_id <;> rw [hu] at h <;> cases h
    rfl
  have hnode {key : Uuid} (h : readOptional (orNull (request i).node_id) = .ok (some key)) :
      readOptional (request i).node_id = .ok (some key) := by
    cases hn : (request i).node_id with
    | none => rw [hn] at h; cases h
    | some text => cases text <;> rw [hn] at h <;> cases h; rfl
  apply respects_statement
  · intro db db' h
    cases hu : readOptional (orNull (some (request i).user_id)) with
    | error e => rfl
    | ok userId =>
      cases hn : readOptional (orNull (request i).node_id) with
      | error e => rfl
      | ok nodeId =>
        have hrefUser : (refers userId fun key => (db.users key).isSome) = refers userId fun key => (db'.users key).isSome := by
          cases userId with
          | none => rfl
          | some key => simp only [refers, Option.elim_some, users_eq h (huser hu)]
        have hrefNode : (refers nodeId fun key => (db.nodes key).isSome) = refers nodeId fun key => (db'.nodes key).isSome := by
          cases nodeId with
          | none => rfl
          | some key => simp only [refers, Option.elim_some, nodes_eq h (hnode hn)]
        have htasks : db.tasks = db'.tasks := congrArg Part.tasks h
        simp only [bind, Except.bind, any_id_eq h, hrefUser, hrefNode, htasks]
  · intro db r w h
    cases hu : readOptional (orNull (some (request i).user_id)) with
    | error e => rw [hu] at h; cases h
    | ok userId =>
      cases hn : readOptional (orNull (request i).node_id) with
      | error e => rw [hu, hn] at h; cases h
      | ok nodeId =>
        cases ht : readOptional (orNull (request i).task_id) with
        | error e => rw [hu, hn, ht] at h; cases h
        | ok taskId =>
          cases ha : assign (request i).amount with
          | error e => rw [hu, hn, ht, ha] at h; cases h
          | ok amount =>
            rw [hu, hn, ht, ha] at h
            simp only [bind, Except.bind] at h
            split at h
            · cases h
            · split at h
              · cases h
                apply owned_inserted hapart rfl
                intro key hkey
                cases hkey
                exact userKey_of_read (huser hu)
              · cases h

theorem respects_insertTravelRuleRecord (data : TravelRuleData) (check : TravelRuleCheck) (c : Unit) :
    (insertTravelRuleRecord (turn i) data check).Respects (ownView turn request i) c := by
  apply respects_statement
  · intro db db' h
    simp only [any_id_eq h]
  · intro db r w h
    cases ha : assign data.transaction_amount with
    | error e => rw [ha] at h; cases h
    | ok amount =>
      cases ht : assign check.threshold with
      | error e => rw [ha, ht] at h; cases h
      | ok threshold =>
        rw [ha, ht] at h
        simp only [bind, Except.bind] at h
        split at h
        · cases h
          exact owned_reported hapart rfl
        · cases h

theorem respects_updateTransaction {set : TokenTransaction → TokenTransaction} (hid : ∀ x, (set x).id = x.id)
    (huser : ∀ x, (set x).user_id = x.user_id) (hcounted : ∀ x, (set x).counted = x.counted) (c : Unit) :
    (updateTransaction (turn i) set).Respects (ownView turn request i) c := by
  apply respects_statement
  · exact fun _ _ _ => rfl
  · intro db r w h
    cases h
    exact owned_updated hapart hid huser hcounted

theorem respects_insertAuditLog (c : Unit) :
    (insertAuditLog (turn i) (request i)).Respects (ownView turn request i) c := by
  apply respects_statement
  · intro db db' h
    cases hu : readOptional (orNull (some (request i).user_id)) with
    | error e => rfl
    | ok userId =>
      cases userId with
      | none => rfl
      | some key =>
        have hread : (request i).user_id.read = .ok key := by
          cases hr : (request i).user_id <;> rw [hr] at hu <;> cases hu
          rfl
        have href : refers (some key) (fun key => (db.users key).isSome) =
            refers (some key) fun key => (db'.users key).isSome := by
          simp only [refers, Option.elim_some, users_eq h hread]
        simp only [bind, Except.bind, href]
  · intro db r w h
    cases hu : readOptional (orNull (some (request i).user_id)) with
    | error e => rw [hu] at h; cases h
    | ok userId =>
      rw [hu] at h
      simp only [bind, Except.bind] at h
      split at h
      · cases h
        exact owned_logged hapart rfl
      · cases h

end Statements

/-! ### The programs -/

section Programs
variable {i : ι}

theorem minds_remote (site : Site) (x : Remote) : (remote site x).Minds (ownView turn request i) :=
  Async.minds_await (show (Call.remote (B := backend) x).Minds (ownView turn request i) from trivial) site

theorem minds_pool {ρ : Type} {q : Stmt backend ρ} (hq : ∀ c, q.Respects (ownView turn request i) c) (site : Site) :
    (Async.await site (.pool q)).Minds (ownView turn request i) :=
  Async.minds_await (show (Call.pool q).Minds (ownView turn request i) from hq) site

theorem minds_logged {p : Async backend Unit} (hp : p.Minds (ownView turn request i)) :
    (logged p).Minds (ownView turn request i) := Async.minds_handle hp fun _ => trivial

theorem minds_refused (condition : Prop) [Decidable condition] (failure : PaymentFailure) :
    (onlyIf condition (throw failure : Async backend Unit)).Minds (ownView turn request i) :=
  Async.minds_onlyIf (p := (throw failure : Async backend Unit)) trivial

theorem complianceChecks_minds : (complianceChecks (turn i) (request i)).Minds (ownView turn request i) := by
  have hprofile (site : Site) :
      (Async.await site (.pool (selectProfile (some (request i).user_id)))).Minds (ownView turn request i) :=
    minds_pool (respects_profile _) site
  apply Async.minds_bind
  · apply Async.minds_onlyIf
    apply Async.minds_bind
    · exact Async.minds_bind (minds_pool respects_geoBlocked _) fun _ => Async.minds_pure _
    · exact fun _ => minds_refused _ _
  · intro _
    apply Async.minds_onlyIf
    apply Async.minds_bind (Async.minds_bind (hprofile _) fun _ => Async.minds_pure _)
    intro kycRequired
    apply Async.minds_bind
    · apply Async.minds_onlyIf
      exact Async.minds_bind (hprofile _) fun _ => Async.minds_throw _
    · intro _
      apply Async.minds_bind (Async.minds_bind (hprofile _) fun _ => Async.minds_pure _)
      intro limits
      apply Async.minds_bind (minds_refused _ _)
      intro _
      apply Async.minds_bind (Async.minds_query (respects_dailyTotal _) _)
      exact fun _ => minds_refused _ _

theorem checkGXABalance_minds (amount : ℚ) (wallet : Option Text) :
    (checkGXABalance amount wallet).Minds (ownView turn request i) := by
  cases wallet with
  | none => trivial
  | some address =>
    apply Async.minds_handle
    · apply Async.minds_bind
      · exact Async.minds_handle (minds_remote _ _) fun _ => trivial
      · intro balance
        exact Async.minds_bind (Async.minds_ofExcept _) fun _ => minds_refused _ _
    · exact fun _ => trivial

theorem nodeInfo_minds (site : Site) : (nodeInfo site (request i)).Minds (ownView turn request i) := by
  unfold nodeInfo
  cases hn : (request i).node_id with
  | none => trivial
  | some text =>
    cases text with
    | empty => trivial
    | uuid id => exact Async.minds_query (respects_node hn.symm) site
    | malformed text => exact Async.minds_query (respects_node hn.symm) site

section Apart
variable (hapart : ∀ j k, j ≠ k → Apart (turn j) (turn k) (request j) (request k))
include hapart

theorem applyPayment_minds (row : Option User) : (applyPayment (request i) row).Minds (ownView turn request i) := by
  have hupdate (set : User → Except PaymentFailure User) :
      (Async.query Site.updateUser (updateUser (request i).user_id set)).Minds (ownView turn request i) :=
    Async.minds_query (respects_updateUser hapart set) _
  have hdeposit (row : Option User) : (deposit (request i) row).Minds (ownView turn request i) := by
    apply Async.minds_bind (checkGXABalance_minds _ _)
    intro _
    cases row with
    | none => exact Async.minds_query (respects_insertUser hapart _ _) _
    | some user => exact hupdate _
  cases row with
  | none =>
    simp only [applyPayment]
    split
    · exact hdeposit none
    · exact Async.minds_throw _
  | some user =>
    unfold applyPayment
    cases (request i).transaction_type with
    | deposit => exact hdeposit (some user)
    | refund => exact hupdate _
    | payment => exact Async.minds_bind (minds_refused _ _) fun _ => hupdate _
    | payout =>
      apply Async.minds_bind (Async.minds_query (respects_node rfl) _)
      intro node
      cases node with
      | none => trivial
      | some node => exact Async.minds_query (respects_updateNode hapart _) _

theorem travelRule_minds : (travelRule (turn i) (request i)).Minds (ownView turn request i) := by
  have hrequired (site : Site) (amount : ℚ) (userId : UuidText) :
      (isTravelRuleRequired site amount userId).Minds (ownView turn request i) :=
    Async.minds_bind (minds_pool (respects_travelRule userId) site) fun _ => trivial
  apply Async.minds_bind (hrequired _ _ _)
  intro check
  apply Async.minds_onlyIf
  apply Async.minds_bind (Async.minds_query respects_userInfo _)
  intro user
  apply Async.minds_bind (nodeInfo_minds _)
  intro node
  cases user with
  | none => trivial
  | some user =>
    cases node with
    | none => trivial
    | some node =>
      apply Async.minds_bind (hrequired _ _ _)
      exact fun check => minds_pool (respects_insertTravelRuleRecord hapart _ check) _

theorem settle_minds : (settle (turn i) (request i)).Minds (ownView turn request i) := by
  have hclearing : (submitToClearing (turn i) (request i)).Minds (ownView turn request i) := by
    apply Async.minds_bind (minds_remote _ _)
    intro _
    apply Async.minds_bind (Async.minds_query respects_userInfo _)
    intro user
    apply Async.minds_bind (nodeInfo_minds _)
    intro node
    apply Async.minds_bind (minds_remote _ _)
    intro result
    apply Async.minds_bind
    · apply Async.minds_query
      apply respects_updateTransaction hapart <;> exact fun _ => rfl
    · exact fun _ => Async.minds_onlyIf (Async.minds_emit _)
  have hblockchain : (writeToBlockchain (turn i) (request i)).Minds (ownView turn request i) := by
    apply Async.minds_bind (minds_remote _ _)
    intro _
    apply Async.minds_bind (Async.minds_query respects_user _)
    intro user
    cases truthy (user.bind (·.wallet_address)) with
    | none => trivial
    | some wallet =>
      apply Async.minds_bind (minds_remote _ _)
      intro hash
      apply Async.minds_query
      apply respects_updateTransaction hapart <;> exact fun _ => rfl
  apply Async.minds_bind (Async.minds_onlyIf (Async.minds_emit _))
  intro _
  apply Async.minds_bind (Async.minds_onlyIf (minds_logged (travelRule_minds hapart)))
  intro _
  apply Async.minds_bind (Async.minds_onlyIf (minds_logged hclearing))
  intro _
  apply Async.minds_bind (Async.minds_onlyIf (minds_logged hblockchain))
  intro _
  exact minds_logged (Async.minds_query (respects_insertAuditLog hapart) _)

theorem processPayment_minds : (processPayment (turn i) (request i)).Minds (ownView turn request i) := by
  have hbegin : (Call.begin (B := backend)).Minds (ownView turn request i) := trivial
  have hcommit : (Call.commit (B := backend)).Minds (ownView turn request i) := trivial
  apply Async.minds_withClient
  apply Async.minds_orRollback
  apply Async.minds_bind complianceChecks_minds
  intro _
  apply Async.minds_bind (Async.minds_await hbegin _)
  intro _
  apply Async.minds_bind (Async.minds_query respects_user _)
  intro row
  apply Async.minds_bind (applyPayment_minds hapart row)
  intro _
  apply Async.minds_bind (Async.minds_query (respects_insertTransaction hapart) _)
  intro _
  apply Async.minds_bind (Async.minds_await hcommit _)
  intro _
  exact Async.minds_bind (settle_minds hapart) fun _ => trivial

end Apart
end Programs

/-- Any number of payments of different users, to different nodes, with the ids drawn
different. Every order of the same steps, whatever fails in them, leaves each payment
with the same outcome, the same background work started and the same rows. -/
theorem disjoint_payments_commute [DecidableEq ι]
    (hapart : ∀ j k, j ≠ k → Apart (turn j) (turn k) (request j) (request k)) (db : PaymentDb)
    (script script' : List (ι × Answer backend)) (i : ι)
    (hsteps : (script.filter fun step => step.1 = i) = script'.filter fun step => step.1 = i) :
    let start : Config backend ι Uuid := ⟨db, fun j => Thread.start (processPayment (turn j) (request j))⟩
    ((start.after script).thread i).prog.result = ((start.after script').thread i).prog.result ∧
      ((start.after script).thread i).loc.out = ((start.after script').thread i).loc.out ∧
      partOf (turn i) (request i) (start.after script).store = partOf (turn i) (request i) (start.after script').store := by
  obtain ⟨hprog, hout, hpart⟩ := Config.after_eq_of_steps_eq (parts turn request)
    (fun j => processPayment (turn j) (request j)) (fun _ => processPayment_minds hapart) db hsteps
  exact ⟨congrArg Async.result hprog, hout, hpart⟩

/-- Two users who pay two nodes. -/
def twoRequests (b : Bool) : PaymentRequest :=
  ⟨.uuid (if b then 1 else 2), 5, none, some (.uuid (if b then 3 else 4)), .payment, none⟩

def twoTurns (b : Bool) : Turn := ⟨if b then 7 else 8, 0, 0, none⟩

def twoUsers : PaymentDb where
  users key := if key = 1 ∨ key = 2 then some ⟨none, 900000000, 0⟩ else none
  nodes key := if key = 3 ∨ key = 4 then some ⟨[], 0⟩ else none
  tasks := []
  token_transactions := []
  direct_payments := []
  kyc_profiles := []
  user_jurisdictions := []
  compliance_config := []
  travel_rule_records := []
  audit_logs := []

/-- Two payments turn by turn, and one after the other. -/
theorem disjoint_payments_commute_two :
    let start : Config backend Bool Uuid :=
      ⟨twoUsers, fun b => Thread.start (processPayment (twoTurns b) (twoRequests b))⟩
    let answer : Answer backend := .done Remote.usual
    let turns := [(true, answer), (false, answer), (true, answer), (false, answer)]
    let serial := [(true, answer), (true, answer), (false, answer), (false, answer)]
    ((start.after turns).thread true).prog.result = ((start.after serial).thread true).prog.result ∧
      ((start.after turns).thread true).loc.out = ((start.after serial).thread true).loc.out ∧
      partOf (twoTurns true) (twoRequests true) (start.after turns).store =
        partOf (twoTurns true) (twoRequests true) (start.after serial).store := by
  have hapart (j k : Bool) (hjk : j ≠ k) : Apart (twoTurns j) (twoTurns k) (twoRequests j) (twoRequests k) := by
    cases j <;> cases k <;> first
      | exact absurd rfl hjk
      | exact ⟨fun key h => by cases h; decide, fun key h => by cases h; decide, by decide⟩
  exact disjoint_payments_commute hapart twoUsers _ _ true rfl

end GalaxiaAin.Payments
