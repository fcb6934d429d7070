import GalaxiaAin.Payments.Ledger

/-! What a call books: a payment changes the ledger in one step of its type or not at all,
whichever of its calls fail, and a direct payment is recorded as confirmed, as failed or not
at all. -/
namespace GalaxiaAin.Payments
open GalaxiaAin.Library

/-- Any call may fail. -/
abbrev anySite : Site → Prop := fun _ => True

/-- The balance change of a payment of each type. -/
inductive BalanceChange (request : PaymentRequest) (key : Uuid) (s : Ledger) : Ledger → Prop
  | openAccount (wallet : Option Text) {b : Int} (htype : request.transaction_type = .deposit)
      (huser : s.users key = none) (hb : amountFormat.assign request.amount = some b) :
      BalanceChange request key s { s with users := Function.update s.users key (some ⟨wallet, b, 0⟩) }
  | deposit {u : User} {b : Int} (htype : request.transaction_type = .deposit) (huser : s.users key = some u)
      (hb : amountFormat.assign (parseFloat u.token_balance + request.amount) = some b) :
      BalanceChange request key s { s with users := Function.update s.users key (some { u with token_balance := b }) }
  | payment {u : User} {b c : Int} (htype : request.transaction_type = .payment) (huser : s.users key = some u)
      (hcovered : request.amount ≤ parseFloat u.token_balance)
      (hb : amountFormat.assign (parseFloat u.token_balance - request.amount) = some b)
      (hc : amountFormat.assign (parseFloat u.total_spent + request.amount) = some c) :
      BalanceChange request key s
        { s with users := Function.update s.users key (some { u with token_balance := b, total_spent := c }) }
  | payout {u : User} {node : Uuid} {n : Node} {e : Int} (htype : request.transaction_type = .payout)
      (huser : s.users key = some u) (hnode : request.node_id = some (.uuid node)) (hn : s.nodes node = some n)
      (he : amountFormat.assign (parseFloat n.total_earnings + request.amount) = some e) :
      BalanceChange request key s { s with nodes := Function.update s.nodes node (some { n with total_earnings := e }) }
  | refund {u : User} {b : Int} (htype : request.transaction_type = .refund) (huser : s.users key = some u)
      (hb : amountFormat.assign (parseFloat u.token_balance + request.amount) = some b) :
      BalanceChange request key s { s with users := Function.update s.users key (some { u with token_balance := b }) }

/-- A payment that is booked: its balance change, and its transaction under a new id. -/
inductive Books (turn : Turn) (request : PaymentRequest) (s : Ledger) : Ledger → Prop
  | mk (key : Uuid) (nodeId taskId : Option Uuid) (amount : Int) (t : Ledger) (huser : request.user_id = .uuid key)
      (hnode : orNull request.node_id = nodeId.map UuidText.uuid)
      (hamount : amountFormat.assign request.amount = some amount)
      (hfresh : ∀ row ∈ s.transactions, row.id ≠ turn.transactionId) (hchange : BalanceChange request key s t) :
      Books turn request s
        { t with transactions := t.transactions ++ [transactionRow turn request (some key) nodeId taskId amount] }

theorem BalanceChange.keeps {request : PaymentRequest} {key : Uuid} {s t : Ledger} (h : BalanceChange request key s t) :
    t.profiles = s.profiles ∧ t.transactions = s.transactions := by
  cases h <;> exact ⟨rfl, rfl⟩

/-- The same nodes are there. -/
theorem BalanceChange.nodes_isSome {request : PaymentRequest} {key : Uuid} {s t : Ledger} (h : BalanceChange request key s t)
    (k : Uuid) : (t.nodes k).isSome = (s.nodes k).isSome := by
  cases h with
  | @payout u node n e htype huser hnode hn he =>
    by_cases hk : k = node
    · subst hk
      change (Function.update s.nodes k _ k).isSome = _
      rw [Function.update_self, hn]
      rfl
    · exact congrArg Option.isSome (Function.update_of_ne hk _ s.nodes)
  | openAccount => rfl
  | deposit => rfl
  | payment => rfl
  | refund => rfl

/-- The transaction of a payment that is booked. -/
theorem Books.recorded {turn : Turn} {request : PaymentRequest} {s t : Ledger} (h : Books turn request s t) :
    t.profiles = s.profiles ∧ ∃ key nodeId taskId amount, request.user_id = .uuid key ∧
      amountFormat.assign request.amount = some amount ∧
      t.transactions = s.transactions ++ [transactionRow turn request (some key) nodeId taskId amount] := by
  obtain ⟨key, nodeId, taskId, amount, u, huser, -, hamount, -, hchange⟩ := h
  refine ⟨hchange.keeps.1, key, nodeId, taskId, amount, huser, hamount, ?_⟩
  simp only [hchange.keeps.2]

section Applying
variable {s t : PaymentDb} {request : PaymentRequest} {key : Uuid}

theorem raise_plain (f : backend.Fault) : Plain (backend.raise f) := by intro _ _ h; cases h

theorem meets_setBalance (u : User) (x : ℚ) :
    Meets (do .ok { u with token_balance := ← assign x } : Except PaymentFailure User)
      (fun v => ∃ b, amountFormat.assign x = some b ∧ v = { u with token_balance := b }) Plain :=
  (meets_assign x).bind fun b hb => meets_ok.mpr ⟨b, hb, rfl⟩

theorem meets_setSpent (u : User) (x y : ℚ) :
    Meets (do .ok { u with token_balance := ← assign x, total_spent := ← assign y } : Except PaymentFailure User)
      (fun v => ∃ b c, amountFormat.assign x = some b ∧ amountFormat.assign y = some c ∧
        v = { u with token_balance := b, total_spent := c }) Plain :=
  (meets_assign x).bind fun b hb => (meets_assign y).bind fun c hc => meets_ok.mpr ⟨b, c, hb, hc, rfl⟩

theorem getBalance_observes (address : Text) {l : Local backend} :
    (getBalance address).Observes anySite s l (fun _ => True) fun _ => True := by
  refine Async.observes_handle (D := fun _ => True) ?_ fun _ _ => Async.observes_pure trivial
  exact Async.observes_remote (fun _ => trivial) (fun _ => trivial) _

/-- The balance check of a deposit leaves everything as it is, and never fails it. -/
theorem checkGXABalance_transacts {E : PaymentFailure → Prop} (amount : ℚ) (wallet : Option Text) :
    (checkGXABalance amount wallet).Transacts anySite () s t (fun _ u => u = t) E := by
  refine Async.Observes.transacts fun l => ?_
  cases wallet with
  | none => exact Async.observes_pure rfl
  | some wallet =>
    refine Async.observes_handle (D := fun _ => True) (Async.observes_bind (getBalance_observes wallet) fun balance _ =>
      Async.observes_bind (Async.observes_ofExcept (R := fun _ => True) ⟨fun _ _ => trivial, fun _ _ => trivial⟩)
        fun insufficient _ => ?_) fun _ _ => Async.observes_pure rfl
    exact Async.observes_onlyIf (fun _ => Async.observes_throw trivial) fun _ => rfl

theorem addDeposit_transacts (huser : request.user_id = .uuid key) (htype : request.transaction_type = .deposit) :
    (addDeposit request (t.users key)).Transacts anySite () s t
      (fun _ u => BalanceChange request key t.ledger u.ledger ∧ u.token_transactions = t.token_transactions ∧ u.tasks = t.tasks) Plain := by
  cases hrow : t.users key with
  | none =>
    refine Async.transacts_query ((meets_insertUser _ _ _).mono fun o ho => ?_) raise_plain _
    obtain ⟨key', b, hkey, hb, hnone, ho⟩ := ho
    obtain rfl : key = key' := UuidText.uuid.inj (huser.symm.trans hkey)
    rw [ho]
    exact ⟨.openAccount _ htype hnone hb, rfl, rfl⟩
  | some u =>
    rw [addDeposit, huser]
    refine Async.transacts_query ((meets_updateUser hrow (meets_setBalance u _)).mono fun o ho => ?_) raise_plain _
    obtain ⟨v, ⟨b, hb, rfl⟩, ho⟩ := ho
    rw [ho]
    exact ⟨.deposit htype hrow hb, rfl, rfl⟩

theorem pay_transacts {u : User} (huser : request.user_id = .uuid key) (hrow : t.users key = some u)
    (htype : request.transaction_type = .payment) : (pay request u).Transacts anySite () s t
      (fun _ v => BalanceChange request key t.ledger v.ledger ∧ v.token_transactions = t.token_transactions ∧ v.tasks = t.tasks) Plain := by
  have hguard : (onlyIf (B := backend) (parseFloat u.token_balance < request.amount) (throw PaymentFailure.insufficientBalance)).Transacts
      anySite () s t (fun _ v => v = t ∧ request.amount ≤ parseFloat u.token_balance) Plain := by
    unfold onlyIf
    split
    · exact Async.transacts_throw (by intro _ _ h; cases h)
    · rename_i hcovered
      exact Async.transacts_pure ⟨rfl, not_lt.mp hcovered⟩
  refine Async.transacts_bind hguard fun _ v hv => ?_
  obtain ⟨rfl, hcovered⟩ := hv
  rw [huser]
  refine Async.transacts_query ((meets_updateUser hrow (meets_setSpent u _ _)).mono fun o ho => ?_) raise_plain _
  obtain ⟨w, ⟨b, c, hb, hc, rfl⟩, ho⟩ := ho
  rw [ho]
  exact ⟨.payment htype hrow hcovered hb hc, rfl, rfl⟩

theorem payout_transacts {u : User} (hrow : t.users key = some u) (htype : request.transaction_type = .payout) :
    (payout request).Transacts anySite () s t
      (fun _ v => BalanceChange request key t.ledger v.ledger ∧ v.token_transactions = t.token_transactions ∧ v.tasks = t.tasks) Plain := by
  refine Async.transacts_bind (Async.transacts_query (R := fun row v => (∀ node, row = some node →
    ∃ key, request.node_id = some (.uuid key) ∧ t.nodes key = some node) ∧ v = t) (meets_selectNode _) raise_plain _)
    fun row v hv => ?_
  obtain ⟨hnode, rfl⟩ := hv
  cases row with
  | none => exact Async.transacts_throw (by intro _ _ h; cases h)
  | some node =>
    obtain ⟨nodeKey, hid, hn⟩ := hnode node rfl
    rw [addPayout, hid]
    refine Async.transacts_query ((meets_updateNode hn (meets_assign _)).mono fun o ho => ?_) raise_plain _
    obtain ⟨e, he, ho⟩ := ho
    rw [ho]
    exact ⟨.payout htype hrow hid hn he, rfl, rfl⟩

theorem refund_transacts {u : User} (huser : request.user_id = .uuid key) (hrow : t.users key = some u)
    (htype : request.transaction_type = .refund) : (refund request u).Transacts anySite () s t
      (fun _ v => BalanceChange request key t.ledger v.ledger ∧ v.token_transactions = t.token_transactions ∧ v.tasks = t.tasks) Plain := by
  rw [refund, huser]
  refine Async.transacts_query ((meets_updateUser hrow (meets_setBalance u _)).mono fun o ho => ?_) raise_plain _
  obtain ⟨v, ⟨b, hb, rfl⟩, ho⟩ := ho
  rw [ho]
  exact ⟨.refund htype hrow hb, rfl, rfl⟩

/-- The branch of the request's type makes its balance change. -/
theorem applyPayment_transacts (huser : request.user_id = .uuid key) :
    (applyPayment request (t.users key)).Transacts anySite () s t
      (fun _ v => BalanceChange request key t.ledger v.ledger ∧ v.token_transactions = t.token_transactions ∧ v.tasks = t.tasks) Plain := by
  have hdeposit (htype : request.transaction_type = .deposit) : (deposit request (t.users key)).Transacts anySite () s t
      (fun _ v => BalanceChange request key t.ledger v.ledger ∧ v.token_transactions = t.token_transactions ∧ v.tasks = t.tasks) Plain :=
    Async.transacts_bind (checkGXABalance_transacts _ _) fun _ _ hu => hu ▸ addDeposit_transacts huser htype
  cases hrow : t.users key with
  | none =>
    rw [applyPayment]
    split
    · exact hrow ▸ hdeposit ‹_›
    · exact Async.transacts_throw (by intro _ _ h; cases h)
  | some u =>
    simp only [applyPayment]
    cases htype : request.transaction_type with
    | deposit => exact hrow ▸ hdeposit htype
    | payment => exact pay_transacts huser hrow htype
    | payout => exact payout_transacts hrow htype
    | refund => exact refund_transacts huser hrow htype

end Applying

/-! ### The compliance checks -/

/-- What the checks establish of a payment. -/
def Cleared (turn : Turn) (request : PaymentRequest) (s : Ledger) : Prop :=
  ∀ key, request.user_id = .uuid key → request.transaction_type = .payment → 0 < request.amount →
    ∃ p, s.profiles.find? (fun p => p.user_id == key) = some p ∧ p.kyc_status = .approved ∧
      request.amount ≤ parseFloat p.single_transaction_limit ∧
      (0 < parseFloat p.daily_limit →
        parseFloat (total (paidOn key (date turn.checked)) s.transactions) + request.amount ≤ parseFloat p.daily_limit)

section Checking
variable {s : PaymentDb} {turn : Turn} {request : PaymentRequest} {rest : List (Session backend)}
  {out : List Background}

/-- A read of the user's row in a table. -/
theorem meets_lookup {c : Unit} {ρ : Type} (userId : UuidText) (f : PaymentDb → Uuid → ρ) :
    Meets ((Stmt.selection (B := backend) fun db => userId.read.map (f db)).run c s)
      (fun o => o.2 s = s ∧ ∃ key, userId = .uuid key ∧ o.1 = f s key) Plain :=
  Stmt.meets_selection (B := backend) (R := fun r t => t = s ∧ ∃ key, userId = .uuid key ∧ r = f s key) <|
    (meets_read userId).map fun key h => ⟨rfl, key, h, rfl⟩

theorem meets_selectDailyTotal {c : Unit} (userId : UuidText) (now : Nat) : Meets ((selectDailyTotal userId now).run c s)
    (fun o => o.2 s = s ∧ ∃ key, userId = .uuid key ∧
      o.1 = parseFloat (total (paidOn key (date now)) s.token_transactions)) Plain :=
  meets_lookup userId fun db id => parseFloat (total (paidOn id (date now)) db.token_transactions)

theorem meets_selectGeoBlocked {c : Unit} (userId : UuidText) : Meets ((selectGeoBlocked userId).run c s)
    (fun o => o.2 s = s ∧ ∃ key, userId = .uuid key ∧
      o.1 = s.user_jurisdictions.find? fun j => j.user_id == key) Plain :=
  meets_lookup userId fun (db : PaymentDb) id => db.user_jurisdictions.find? fun (j : UserJurisdiction) => j.user_id == id

theorem meets_selectProfile {c : Unit} (userId : UuidText) : Meets ((selectProfile (some userId)).run c s)
    (fun o => o.2 s = s ∧ ∃ key, userId = .uuid key ∧ o.1 = profileOf s key) Plain :=
  Stmt.meets_selection (B := backend) (R := fun r t => t = s ∧ ∃ key, userId = .uuid key ∧ r = profileOf s key) <|
    ((meets_read userId).map fun key h => ⟨key, h, rfl⟩ : Meets (userId.read.map some)
      (fun k => ∃ key, userId = .uuid key ∧ k = some key) Plain).map fun _ h => by
        obtain ⟨key, h, rfl⟩ := h
        exact ⟨rfl, key, h, rfl⟩

theorem observes_profile (site : Site) (userId : UuidText) {l : Local backend} :
    (Async.await site (.pool (selectProfile (some userId)))).Observes anySite s l
      (fun row => ∃ key, userId = .uuid key ∧ row = profileOf s key) Plain :=
  Async.observes_pool (meets_selectProfile userId) raise_plain site

theorem requiresKyc_false {amount : ℚ} {row : Option KycProfile} (h : requiresKyc amount row = false) :
    ∃ p, row = some p ∧ p.kyc_status = .approved ∧ amount ≤ parseFloat p.single_transaction_limit := by
  cases row with
  | none => cases h
  | some p =>
    obtain ⟨hstatus, hamount⟩ := Bool.or_eq_false_iff.mp h
    exact ⟨p, rfl, by simpa using hstatus, by simpa using hamount⟩

/-- A payment passes the check with an approved profile, within its limits; the separate
check of a single payment never fails. -/
theorem kycCheck_observes : (kycCheck turn request).Observes anySite s ⟨.idle :: rest, out⟩
    (fun _ => Cleared turn request s.ledger) Plain := by
  refine Async.observes_bind (R := fun required => ∃ key, request.user_id = .uuid key ∧
    required = requiresKyc request.amount (profileOf s key)) (Async.observes_bind (observes_profile _ _) ?_) ?_
  · rintro row ⟨key, hkey, rfl⟩
    exact Async.observes_pure ⟨key, hkey, rfl⟩
  rintro required ⟨key, hkey, rfl⟩
  refine Async.observes_bind (R := fun _ => requiresKyc request.amount (profileOf s key) = false)
    (Async.observes_onlyIf (fun _ => ?_) fun h => by simpa using h) fun _ hrequired => ?_
  · exact Async.observes_bind (observes_profile _ _) fun _ _ => Async.observes_throw (by intro _ _ h; cases h)
  obtain ⟨p, hp, happroved, hsingle⟩ := requiresKyc_false hrequired
  refine Async.observes_bind (R := fun limits => limits = limitsOf (some p))
    (Async.observes_bind (observes_profile _ _) ?_) ?_
  · rintro row ⟨key', hkey', rfl⟩
    obtain rfl : key = key' := UuidText.uuid.inj (hkey.symm.trans hkey')
    exact Async.observes_pure (by rw [hp])
  rintro limits rfl
  refine Async.observes_bind (R := fun _ => True)
    (Async.observes_onlyIf (fun h => absurd h.2 (not_lt.mpr hsingle)) fun _ => trivial) fun _ _ => ?_
  refine Async.observes_bind (R := fun sum => ∃ key, request.user_id = .uuid key ∧
      sum = parseFloat (total (paidOn key (date turn.checked)) s.token_transactions))
    (Async.observes_query (meets_selectDailyTotal request.user_id turn.checked) raise_plain _) ?_
  rintro sum ⟨key', hkey', rfl⟩
  obtain rfl : key = key' := UuidText.uuid.inj (hkey.symm.trans hkey')
  refine Async.observes_onlyIf (fun _ => Async.observes_throw (by intro _ _ h; cases h)) fun hdaily => ?_
  intro key' hkey' _ _
  obtain rfl : key = key' := UuidText.uuid.inj (hkey.symm.trans hkey')
  refine ⟨p, hp, happroved, hsingle, fun hpos => ?_⟩
  have htotal : total (paidOn key (date turn.checked)) s.ledger.transactions =
      total (paidOn key (date turn.checked)) s.token_transactions := total_booked (fun _ => rfl) _
  rw [htotal]
  exact not_lt.mp fun hlt => hdaily ⟨hpos, hlt⟩

theorem complianceChecks_observes : (complianceChecks turn request).Observes anySite s ⟨.idle :: rest, out⟩
    (fun _ => Cleared turn request s.ledger) Plain := by
  refine Async.observes_bind (R := fun _ => True) (Async.observes_onlyIf (fun _ => ?_) fun _ => trivial) fun _ _ =>
    Async.observes_onlyIf (fun _ => kycCheck_observes) fun h key hkey htype hamount => ?_
  · refine Async.observes_bind (R := fun _ => True) (Async.observes_bind (R := fun _ => True) (Async.observes_pool
      ((meets_selectGeoBlocked request.user_id).mono fun _ h => ⟨h.1, trivial⟩) raise_plain _)
      fun _ _ => Async.observes_pure trivial) fun _ _ => ?_
    exact Async.observes_onlyIf (fun _ => Async.observes_throw (by intro _ _ h; cases h)) fun _ => trivial
  · exact absurd ⟨htype, by rw [hkey]; exact UuidText.noConfusion, hamount⟩ h

end Checking

/-! ### After the commit -/

/-- What follows a commit stays in the frame: references are added to the transaction, travel rule records and
audit logs are written. -/
structure SettlesIn (F : Frame backend) (turn : Turn) : Prop where
  transaction : ∀ set : TokenTransaction → TokenTransaction, (∀ t, (set t).booked = t.booked) →
    (updateTransaction turn set).Keeps F
  records : ∀ (db : PaymentDb) rows, F.kept db { db with travel_rule_records := rows }
  logs : ∀ (db : PaymentDb) rows, F.kept db { db with audit_logs := rows }

/-- The changes that leave the ledger alone. -/
def ledgerFrame : Frame backend := Frame.of PaymentDb.ledger

theorem ledger_settlesIn (turn : Turn) : SettlesIn ledgerFrame turn where
  transaction set h := by
    refine Stmt.Keeps.of_run fun _ s r w hw t => ?_
    cases hw
    refine congrArg (fun rows => (⟨t.users, t.nodes, rows, t.direct_payments, t.kyc_profiles⟩ : Ledger)) ?_
    rw [List.map_map]
    refine List.map_congr_left fun row _ => ?_
    simp only [Function.comp]
    split
    · exact h row
    · rfl
  records _ _ := rfl
  logs _ _ := rfl

section Frames
variable {F : Frame backend} {turn : Turn}

theorem insertAuditLog_keeps (hF : SettlesIn F turn) (request : PaymentRequest) : (insertAuditLog turn request).Keeps F := by
  refine Stmt.keeps_statement fun s => Meets.bind meets_any fun userId _ => ?_
  split
  · exact meets_ok.mpr fun t => hF.logs t _
  · exact meets_error.mpr trivial

theorem insertTravelRuleRecord_keeps (hF : SettlesIn F turn) (data : TravelRuleData) (check : TravelRuleCheck) :
    (insertTravelRuleRecord turn data check).Keeps F := by
  refine Stmt.keeps_statement fun s => Meets.bind meets_any fun _ _ =>
    Meets.bind meets_any fun _ _ => ?_
  split
  · exact meets_ok.mpr fun t => hF.records t _
  · exact meets_error.mpr trivial

end Frames

section Settling
variable {F : Frame backend} {n : Nat}

/-- An error that is logged is not one of the payment. -/
theorem settles_logged {p : Async backend Unit} (hp : p.Keeps F n) : (logged p).Settles F n :=
  Async.settles_handle hp fun _ => Async.settles_pure

theorem isTravelRuleRequired_keeps (site : Site) (amount : ℚ) (userId : UuidText) :
    (isTravelRuleRequired site amount userId).Keeps F n :=
  Async.keeps_bind (Async.keeps_pool (Stmt.keeps_selection F _) site) fun _ => Async.keeps_pure _

theorem nodeInfo_keeps (hn : 1 ≤ n) (site : Site) (request : PaymentRequest) : (nodeInfo site request).Keeps F n := by
  unfold nodeInfo
  split
  · exact Async.keeps_query hn (Stmt.keeps_selection F _) site
  · exact Async.keeps_pure _

variable {turn : Turn} (hF : SettlesIn F turn) (request : PaymentRequest)
include hF

theorem travelRule_keeps : (travelRule turn request).Keeps F 1 := by
  refine Async.keeps_bind (isTravelRuleRequired_keeps _ _ _) fun check => Async.keeps_onlyIf ?_
  refine Async.keeps_bind (Async.keeps_query (Nat.le_refl 1) (Stmt.keeps_selection _ _) _) fun user => ?_
  refine Async.keeps_bind (nodeInfo_keeps (Nat.le_refl 1) _ _) fun node => ?_
  unfold recordTravelRule
  split
  · exact Async.keeps_bind (isTravelRuleRequired_keeps _ _ _) fun _ =>
      Async.keeps_pool (insertTravelRuleRecord_keeps hF _ _) _
  · exact Async.keeps_pure _

theorem submitToClearing_keeps : (submitToClearing turn request).Keeps F 1 := by
  refine Async.keeps_bind (Async.keeps_remote _ _) fun _ => ?_
  refine Async.keeps_bind (Async.keeps_query (Nat.le_refl 1) (Stmt.keeps_selection _ _) _) fun user => ?_
  refine Async.keeps_bind (nodeInfo_keeps (Nat.le_refl 1) _ _) fun node => ?_
  refine Async.keeps_bind (Async.keeps_remote _ _) fun result => ?_
  refine Async.keeps_bind (Async.keeps_query (Nat.le_refl 1) ?_ _) fun _ => Async.keeps_onlyIf (Async.keeps_emit _)
  exact hF.transaction _ fun _ => rfl

theorem writeToBlockchain_keeps : (writeToBlockchain turn request).Keeps F 1 := by
  refine Async.keeps_bind (Async.keeps_remote _ _) fun _ => ?_
  refine Async.keeps_bind (Async.keeps_query (Nat.le_refl 1) (Stmt.keeps_selection _ _) _) fun user => ?_
  unfold sendToBlockchain
  split
  · exact Async.keeps_pure _
  · refine Async.keeps_bind (Async.keeps_remote _ _) fun hash => Async.keeps_query (Nat.le_refl 1) ?_ _
    exact hF.transaction _ fun _ => rfl

/-- Nothing that follows the commit fails the payment or leaves the frame. -/
theorem settle_settles : (settle turn request).Settles F 1 := by
  refine Async.settles_bind (Async.settles_onlyIf fun _ => (Async.confined_emit _ _).mpr rfl) ?_
  refine Async.settles_bind (Async.settles_onlyIf (settles_logged (travelRule_keeps hF request))) ?_
  refine Async.settles_bind (Async.settles_onlyIf (settles_logged (submitToClearing_keeps hF request))) ?_
  refine Async.settles_bind (Async.settles_onlyIf (settles_logged (writeToBlockchain_keeps hF request))) ?_
  exact settles_logged (Async.keeps_query (Nat.le_refl 1) (insertAuditLog_keeps hF request) _)

end Settling

/-! ### The calls -/

/-- What a payment does: an error leaves everything as it was; an id that is returned is
booked and was cleared. -/
def PaymentOutcome (turn : Turn) (request : PaymentRequest) (s : PaymentDb) (r : Except PaymentFailure Uuid)
    (t : PaymentDb) : Prop :=
  (∃ e, r = .error e ∧ Plain e ∧ t = s) ∨
    (r = .ok turn.transactionId ∧ Cleared turn request s.ledger ∧ Books turn request s.ledger t.ledger)

/-- The store that a payment commits: its balance change, and its transaction under a new id. -/
def Commits (turn : Turn) (request : PaymentRequest) (s u : PaymentDb) : Prop :=
  ∃ (key : Uuid) (nodeId taskId : Option Uuid) (amount : Int) (v : PaymentDb), request.user_id = .uuid key ∧
    orNull request.node_id = nodeId.map UuidText.uuid ∧ orNull request.task_id = taskId.map UuidText.uuid ∧
    amountFormat.assign request.amount = some amount ∧ Recordable turn request s ∧ BalanceChange request key s.ledger v.ledger ∧
    u = { v with token_transactions := s.token_transactions ++ [transactionRow turn request (some key) nodeId taskId amount] }

theorem Commits.books {turn : Turn} {request : PaymentRequest} {s u : PaymentDb} (h : Commits turn request s u) :
    Books turn request s.ledger u.ledger := by
  obtain ⟨key, nodeId, taskId, amount, v, huser, hnode, -, hamount, hrecord, hchange, rfl⟩ := h
  have hledger : PaymentDb.ledger { v with token_transactions :=
      s.token_transactions ++ [transactionRow turn request (some key) nodeId taskId amount] } =
      { v.ledger with transactions := v.ledger.transactions ++ [transactionRow turn request (some key) nodeId taskId amount] } := by
    rw [hchange.keeps.2]
    simp only [PaymentDb.ledger, List.map_append]
    rfl
  rw [hledger]
  refine .mk key nodeId taskId amount _ huser hnode hamount (fun row hrow => ?_) hchange
  obtain ⟨row, hmem, rfl⟩ := List.mem_map.mp hrow
  exact hrecord.fresh row hmem

/-- A payment that fails leaves everything as it was; one that returns an id has committed, and what follows stays in
the frame. -/
theorem processPayment_commits {F : Frame backend} {turn : Turn} (hF : SettlesIn F turn) (request : PaymentRequest)
    (s : PaymentDb) (l : Local backend) : (processPayment turn request).post anySite (fun r t l' =>
      ((∃ e, r = .error e ∧ Plain e ∧ t = s) ∨ (r = .ok turn.transactionId ∧ Cleared turn request s.ledger ∧
        ∃ u, Commits turn request s u ∧ F.kept u t)) ∧ l'.sessions = l.sessions) s l := by
  rw [processPayment, Async.post_withClient]
  have herror (e : PaymentFailure) (he : Plain e) (x : Session backend) (out : List Background) :
      Async.caught anySite (fun e => do Async.await Site.rollback .rollback; .raise e)
        (fun r t l' => ((∃ e, r = .error e ∧ Plain e ∧ t = s) ∨ (r = .ok turn.transactionId ∧ Cleared turn request s.ledger ∧
          ∃ u, Commits turn request s u ∧ F.kept u t)) ∧ l'.sessions.tail = l.sessions) (.error e) s ⟨x :: l.sessions, out⟩ :=
    Async.caught_rollback (fun f => ⟨.inl ⟨_, rfl, raise_plain f, rfl⟩, rfl⟩) ⟨.inl ⟨e, rfl, he, rfl⟩, rfl⟩ x
  refine ⟨?_, fun _ f => ⟨.inl ⟨_, rfl, raise_plain f, rfl⟩, rfl⟩⟩
  rw [Async.post_orRollback, Async.post_bind]
  refine Async.post_mono complianceChecks_observes fun r t k hr => ?_
  obtain ⟨rfl, rfl, hr⟩ := hr
  cases r with
  | error e => exact herror e (hr.2 e rfl) _ _
  | ok _ =>
    have hcleared := hr.1 () rfl
    rw [Async.next_ok, Async.post_bind, Async.post_begin]
    refine ⟨?_, fun _ f => herror _ (raise_plain f) _ _⟩
    rw [Async.next_ok, Async.post_bind]
    refine Async.Transacts.post (R := fun row u => ∃ key, request.user_id = .uuid key ∧ row = t.users key ∧ u = t)
      (Async.transacts_query (meets_selectUser _) raise_plain _) rfl (fun e x he => herror e he x _) ?_
    rintro row held pending ⟨key, hkey, rfl, hpending⟩
    rw [Async.next_ok, Async.post_bind]
    refine Async.Transacts.post (applyPayment_transacts hkey) hpending (fun e x he => herror e he x _) ?_
    rintro _ held' pending' ⟨hchange, hrows, htasks⟩
    rw [Async.next_ok, Async.post_bind]
    refine Async.Transacts.post (Async.transacts_query (R := fun _ (v : PaymentDb) => Commits turn request t v)
      ((meets_insertTransaction turn request).mono fun o ho => ?_) raise_plain _) rfl (fun e x he => herror e he x _) ?_
    · obtain ⟨userId, nodeId, taskId, amount, huser, hnode, htask, hamount, hrecord, ho⟩ := ho
      have hrecord := hrecord.change hrows.symm htasks.symm fun k => (hchange.nodes_isSome k).symm
      rw [hrows] at ho
      rw [hkey] at huser
      obtain rfl : userId = some key := by
        cases userId with
        | none => cases huser
        | some key' => exact congrArg some (UuidText.uuid.inj (Option.some.inj huser)).symm
      exact ⟨key, nodeId, taskId, amount, _, hkey, hnode, htask, hamount, hrecord, hchange, ho⟩
    · rintro _ held'' pending'' hcommits
      rw [Async.next_ok, Async.post_bind, Async.post_commit]
      refine ⟨?_, fun _ f => herror _ (raise_plain f) _ _⟩
      rw [Async.next_ok, Async.post_bind]
      have howns : Local.Owns F 1 l.sessions ⟨.idle :: l.sessions, l.out⟩ := ⟨[.idle], rfl, rfl, by simp [Session.Keeps]⟩
      refine Async.post_mono (Async.Confined.post (settle_settles hF request l.out) howns) fun r u k hr => ?_
      obtain ⟨hkept, ⟨own, hsessions, hlen, -⟩, rfl⟩ := hr
      refine ⟨.inr ⟨rfl, hcleared, _, hcommits, hkept⟩, ?_⟩
      obtain ⟨x, rfl⟩ := List.length_eq_one_iff.mp hlen
      rw [hsessions]
      rfl

theorem processPayment_post (turn : Turn) (request : PaymentRequest) (s : PaymentDb) :
    (processPayment turn request).post anySite
      (fun r t l => PaymentOutcome turn request s r t ∧ l.sessions = []) s Local.empty := by
  refine Async.post_mono (processPayment_commits (ledger_settlesIn turn) request s Local.empty) fun r t l h => ⟨?_, h.2⟩
  rcases h.1 with herror | ⟨hr, hcleared, u, hcommits, hkept⟩
  · exact .inl herror
  · exact .inr ⟨hr, hcleared, hkept.symm ▸ hcommits.books⟩

section Direct
variable {request : DirectPaymentRequest} {s : PaymentDb}

/-- Nothing, or the record of a payment that failed. -/
def NotPaid (request : DirectPaymentRequest) (s t : PaymentDb) : Prop :=
  t = s ∨ ∃ taskId userId nodeId amount, t = { s with
    direct_payments := s.direct_payments ++ [directPaymentRow request taskId userId nodeId amount none .failed] }

/-- The record of a payment that is confirmed, and the earnings of its node. -/
def Paid (request : DirectPaymentRequest) (s t : PaymentDb) : Prop :=
  ∃ taskId userId nodeId amount e txHash n, s.nodes nodeId = some n ∧ amountFormat.assign request.amount = some amount ∧
    amountFormat.assign (parseFloat n.total_earnings + request.amount) = some e ∧ t = { s with
      nodes := Function.update s.nodes nodeId (some { n with total_earnings := e })
      direct_payments := s.direct_payments ++ [directPaymentRow request taskId userId nodeId amount txHash .confirmed] }

/-- What a direct payment does. -/
def DirectOutcome (request : DirectPaymentRequest) (s : PaymentDb) (r : Except PaymentFailure DirectPayment) (t : PaymentDb) :
    Prop := ((∃ e, r = .error e) ∧ NotPaid request s t) ∨ ((∃ d, r = .ok d) ∧ Paid request s t)

/-- What a direct payment does: an error leaves everything as it was, or the record of a payment that failed; a
payment that is confirmed is recorded with the earnings of its node. -/
inductive DirectEnds (request : DirectPaymentRequest) (s : PaymentDb) : Except PaymentFailure DirectPayment → PaymentDb → Prop
  | nothing (e : PaymentFailure) : DirectEnds request s (.error e) s
  | failed (e : PaymentFailure) {taskId userId nodeId : Uuid} {amount : Int} (h : Insertable request s taskId userId nodeId amount) :
      DirectEnds request s (.error e) { s with
        direct_payments := s.direct_payments ++ [directPaymentRow request taskId userId nodeId amount none .failed] }
  | confirmed (d : DirectPayment) {taskId userId nodeId : Uuid} {amount e : Int} {n : Node} (txHash : Option Text)
      (h : Insertable request s taskId userId nodeId amount) (hn : s.nodes nodeId = some n)
      (he : amountFormat.assign (parseFloat n.total_earnings + request.amount) = some e) :
      DirectEnds request s (.ok d) { s with
        nodes := Function.update s.nodes nodeId (some { n with total_earnings := e })
        direct_payments := s.direct_payments ++ [directPaymentRow request taskId userId nodeId amount txHash .confirmed] }

theorem DirectEnds.outcome {r : Except PaymentFailure DirectPayment} {t : PaymentDb} (h : DirectEnds request s r t) :
    DirectOutcome request s r t := by
  cases h with
  | nothing e => exact .inl ⟨⟨e, rfl⟩, .inl rfl⟩
  | failed e h => exact .inl ⟨⟨e, rfl⟩, .inr ⟨_, _, _, _, rfl⟩⟩
  | confirmed d txHash h hn he => exact .inr ⟨⟨d, rfl⟩, _, _, _, _, _, txHash, _, hn, h.amount_eq, he, rfl⟩

section Ends
variable {rest : List (Session backend)} {out : List Background}

/-- How a transfer's failure is recorded, by the state the transaction is left in. -/
theorem markFailed_post (e : PaymentFailure) {x : Session backend} {taskId userId nodeId : Uuid} {amount : Int}
    (h : Insertable request s taskId userId nodeId amount)
    (hx : x = .idle ∨ (∃ held, x = .aborted held) ∨ ∃ held pending, x = .active () held pending ∧ pending s = { s with
      direct_payments := s.direct_payments ++ [directPaymentRow request taskId userId nodeId amount none .pending] }) :
    (markFailed request e).post anySite (fun r t l => (∃ e, r = .error e) ∧ DirectEnds request s r t ∧ ∃ y, l = ⟨y :: rest, out⟩)
      s ⟨x :: rest, out⟩ := by
  have hfresh := h.fresh
  have hnothing (y : Session backend) (e : PaymentFailure) :
      (∃ e', (Except.error e : Except PaymentFailure DirectPayment) = .error e') ∧ DirectEnds request s (.error e) s ∧
        ∃ z, (⟨y :: rest, out⟩ : Local backend) = ⟨z :: rest, out⟩ := ⟨⟨e, rfl⟩, .nothing e, y, rfl⟩
  have hreply (t : PaymentDb) : (updateDirectPayment request fun p => { p with status := .failed }).reply () t = .ok () := rfl
  rcases hx with rfl | ⟨held, rfl⟩ | ⟨held, pending, rfl, hpending⟩
  · -- COMMIT failed: the row is gone with its transaction
    have hsame : (updateDirectPayment request fun p => { p with status := .failed }).effect () s s = s := by
      change ({ s with direct_payments := _ } : PaymentDb) = s
      rw [map_id_fresh _ hfresh]
    rw [markFailed, Async.post_bind, Async.post_query_idle]
    refine ⟨?_, fun _ _ => hnothing _ _⟩
    rw [hreply, hsame, Async.next_ok, Async.post_bind, Async.post_commit_idle]
    exact ⟨hnothing _ _, fun _ _ => hnothing _ _⟩
  · rw [markFailed, Async.post_bind, Async.post_query_aborted]
    exact ⟨hnothing _ _, fun _ _ => hnothing _ _⟩
  · rw [markFailed, Async.post_bind, Async.post_query_active]
    refine ⟨?_, fun _ _ => hnothing _ _⟩
    rw [hreply]
    simp only
    rw [Async.next_ok, Async.post_bind, Async.post_commit]
    have hfailed : ({ pending s with direct_payments := (pending s).direct_payments.map fun p =>
        if p.id = request.paymentId then { p with status := .failed } else p } : PaymentDb) = { s with
          direct_payments := s.direct_payments ++ [directPaymentRow request taskId userId nodeId amount none .failed] } := by
      rw [hpending]
      simp only [List.map_append, map_id_fresh _ hfresh, List.map_cons, List.map_nil, directPaymentRow, if_true]
    refine ⟨⟨⟨e, rfl⟩, ?_, _, rfl⟩, fun _ _ => hnothing _ _⟩
    change DirectEnds request s (.error e) { pending s with direct_payments := _ }
    rw [hfailed]
    exact .failed e h

/-- From a pending record on, the payment is confirmed, or its failure is recorded. -/
theorem confirm_post {held : List Unit} {pending : PaymentDb → PaymentDb} {taskId userId nodeId : Uuid} {amount : Int}
    (h : Insertable request s taskId userId nodeId amount) (hpending : pending s = { s with direct_payments :=
      s.direct_payments ++ [directPaymentRow request taskId userId nodeId amount none .pending] }) :
    ((confirm request).handle (markFailed request)).post anySite
      (fun r t l => DirectEnds request s r t ∧ ∃ y, l = ⟨y :: rest, out⟩) s ⟨.active () held pending :: rest, out⟩ := by
  have hfresh := h.fresh
  obtain ⟨node, hn⟩ := Option.isSome_iff_exists.mp h.node_row
  have hfailed (e : PaymentFailure) (x : Session backend) (hx : x = .idle ∨ (∃ held, x = .aborted held) ∨
      ∃ held pending, x = .active () held pending ∧ pending s = { s with direct_payments :=
        s.direct_payments ++ [directPaymentRow request taskId userId nodeId amount none .pending] }) :
      Async.caught anySite (markFailed request) (fun r t l => DirectEnds request s r t ∧ ∃ y, l = ⟨y :: rest, out⟩)
        (.error e) s ⟨x :: rest, out⟩ := by
    rw [Async.caught_error]
    exact Async.post_mono (markFailed_post e h hx) fun r t l hr => hr.2
  have haborted (e : PaymentFailure) (held : List Unit) := hfailed e (.aborted held) (.inr (.inl ⟨held, rfl⟩))
  rw [Async.post_handle, confirm, Async.post_bind]
  have htransfer : (gxaTransfer request).Observes anySite s ⟨.active () held pending :: rest, out⟩ (fun _ => True) fun _ => True := by
    refine Async.observes_bind (R := fun _ => True) (Async.observes_handle (D := fun _ => True) ?_ fun _ _ =>
      Async.observes_throw trivial) fun data _ => Async.observes_ofExcept ⟨fun _ _ => trivial, fun _ _ => trivial⟩
    exact Async.observes_remote (fun _ => trivial) (fun _ => trivial) _
  refine Async.post_mono htransfer fun r t l hr => ?_
  obtain ⟨rfl, rfl, -⟩ := hr
  cases r with
  | error e => exact hfailed e _ (.inr (.inr ⟨held, pending, rfl, hpending⟩))
  | ok hash =>
    rw [Async.next_ok, Async.post_bind, Async.post_query_active]
    refine ⟨?_, fun _ _ => haborted _ _⟩
    have hreply : (updateDirectPayment request fun p => { p with tx_hash := hash, status := .confirmed }).reply ()
        (pending t) = .ok () := rfl
    have heffect : (updateDirectPayment request fun p => { p with tx_hash := hash, status := .confirmed }).effect ()
        (pending t) (pending t) = { t with direct_payments :=
          t.direct_payments ++ [directPaymentRow request taskId userId nodeId amount hash .confirmed] } := by
      change ({ pending t with direct_payments := _ } : PaymentDb) = _
      rw [hpending]
      simp only [List.map_append, map_id_fresh _ hfresh, List.map_cons, List.map_nil, directPaymentRow, if_true]
    rw [hreply]
    simp only
    rw [Async.next_ok, Async.post_bind, Async.post_query_active]
    refine ⟨?_, fun _ _ => haborted _ _⟩
    rw [heffect]
    have hearnings (u : PaymentDb) (hu : u.nodes nodeId = some node) := meets_addEarnings (c := ()) h.node hu
    cases hrun : (addEarnings request).run () { t with direct_payments := t.direct_payments ++
        [directPaymentRow request taskId userId nodeId amount hash .confirmed] } with
    | error e =>
      rw [Stmt.reply_error hrun]
      exact haborted _ _
    | ok o =>
      rw [Stmt.reply_ok hrun]
      simp only
      rw [Async.next_ok, Async.post_bind, Async.post_commit]
      refine ⟨⟨?_, _, rfl⟩, fun _ _ => hfailed _ _ (.inl rfl)⟩
      obtain ⟨e, he, ho⟩ := (hearnings { t with direct_payments := t.direct_payments ++
        [directPaymentRow request taskId userId nodeId amount hash .confirmed] } hn).1 o hrun
      rw [heffect, Stmt.effect_ok hrun, ho]
      exact .confirmed _ hash h hn he

/-- A direct payment is confirmed with the earnings of its node, or recorded as failed, or leaves nothing. -/
theorem processDirectPayment_ends (request : DirectPaymentRequest) (s : PaymentDb) (l : Local backend) :
    (processDirectPayment request).post anySite (fun r t l' => DirectEnds request s r t ∧ l'.sessions = l.sessions) s l := by
  rw [processDirectPayment, Async.post_withClient]
  have herror (e : PaymentFailure) (t : PaymentDb) (ht : ∀ e, DirectEnds request s (.error e) t) (x : Session backend) :
      Async.caught anySite (fun e => do Async.await Site.rollback .rollback; .raise e)
        (fun r t l' => DirectEnds request s r t ∧ l'.sessions.tail = l.sessions) (.error e) t ⟨x :: l.sessions, l.out⟩ :=
    Async.caught_rollback (fun _ => ⟨ht _, rfl⟩) ⟨ht _, rfl⟩ x
  refine ⟨?_, fun _ _ => ⟨.nothing _, rfl⟩⟩
  rw [Async.post_orRollback, Async.post_bind, Async.post_begin]
  refine ⟨?_, fun _ _ => herror _ s .nothing _⟩
  rw [Async.next_ok, Async.post_bind]
  refine Async.post_mono (getBalance_observes request.userWallet) fun r t k hr => ?_
  obtain ⟨rfl, rfl, -⟩ := hr
  cases r with
  | error e => exact herror e t .nothing _
  | ok balance =>
    rw [Async.next_ok, Async.post_bind, Async.post_ofExcept]
    cases lacks request.amount balance with
    | error e => exact herror e t .nothing _
    | ok insufficient =>
      rw [Async.next_ok, Async.post_bind]
      have hcheck : (onlyIf (B := backend) insufficient (throw PaymentFailure.insufficientGXABalance)).Observes anySite t
          ⟨.active () [] id :: l.sessions, l.out⟩ (fun _ => True) fun _ => True :=
        Async.observes_onlyIf (fun _ => Async.observes_throw trivial) fun _ => trivial
      refine Async.post_mono hcheck fun r t k hr => ?_
      obtain ⟨rfl, rfl, -⟩ := hr
      cases r with
      | error e => exact herror e t .nothing _
      | ok _ =>
        rw [Async.next_ok, Async.post_bind]
        have hinsert : Meets ((insertDirectPayment request).run () t) (fun o => ∃ taskId userId nodeId amount,
            Insertable request t taskId userId nodeId amount ∧ o.2 t = { t with direct_payments :=
              t.direct_payments ++ [directPaymentRow request taskId userId nodeId amount none .pending] }) fun _ => True :=
          ⟨(meets_insertDirectPayment request).1, fun _ _ => trivial⟩
        refine Async.Transacts.post (Async.transacts_query (R := fun _ (v : PaymentDb) => ∃ taskId userId nodeId amount,
          Insertable request t taskId userId nodeId amount ∧ v = { t with direct_payments :=
            t.direct_payments ++ [directPaymentRow request taskId userId nodeId amount none .pending] })
          hinsert (fun _ => trivial) _) rfl (fun e x _ => herror e t .nothing x) ?_
        rintro _ held pending ⟨taskId, userId, nodeId, amount, hrow, hpending⟩
        rw [Async.next_ok]
        refine Async.post_mono (confirm_post hrow hpending) fun r u k hr => ?_
        obtain ⟨hends, y, rfl⟩ := hr
        cases r with
        | ok d => exact ⟨hends, rfl⟩
        | error e =>
          refine herror e u (fun e' => ?_) y
          cases hends with
          | nothing => exact .nothing e'
          | failed _ hrow => exact .failed e' hrow

end Ends

theorem processDirectPayment_post (request : DirectPaymentRequest) (s : PaymentDb) :
    (processDirectPayment request).post anySite (fun r t l => DirectOutcome request s r t ∧ l.sessions = []) s
      Local.empty :=
  Async.post_mono (processDirectPayment_ends request s Local.empty) fun _ _ _ h => ⟨h.1.outcome, h.2⟩

end Direct
end GalaxiaAin.Payments
