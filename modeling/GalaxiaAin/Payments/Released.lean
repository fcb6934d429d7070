import GalaxiaAin.Library.Clients
import GalaxiaAin.Network.Registration
import GalaxiaAin.Payments.Distribution
import GalaxiaAin.Tenant.Context

/-! How the functions that open a transaction give their client back. Each ends it on every
path, but the early return of `distributeNodePayments`. -/
namespace GalaxiaAin.Payments
open GalaxiaAin.Library
open GalaxiaAin.Library.Async hiding bind

/-! ### Nodes and tasks -/

section Network

theorem registerNode_returnsClean (data : Network.Registration) (capabilities : Network.NodeCapabilities)
    (s : Network.NetworkDb) : (Network.registerNode data capabilities).ReturnsClean s := by
  have hfirst (result : Option (Network.Uuid × Network.NodeRow)) : StaysIdle (Network.firstNode result) := by
    cases result with
    | none => exact staysIdle_throw _
    | some row => exact staysIdle_pure _
  unfold Network.registerNode
  refine EndsIdle.returnsClean ?_ _ _ _
  refine endsIdle_bind fun _ => endsIdle_bind fun found => ?_
  cases found with
  | some row => exact endsIdle_bind fun result => endsIdle_then (endsIdle_commit _) fun _ => hfirst result
  | none => exact endsIdle_bind fun result => endsIdle_then (endsIdle_commit _) fun _ => hfirst result

theorem handleTaskFailure_returnsClean (now : Nat) (taskId : Network.UuidText) (nodeId : Network.Uuid)
    (s : Network.NetworkDb) : (Network.handleTaskFailure now taskId nodeId).ReturnsClean s := by
  unfold Network.handleTaskFailure
  refine EndsIdle.returnsClean ?_ _ _ _
  refine endsIdle_bind fun _ => endsIdle_bind fun found => ?_
  cases found with
  | none => exact endsIdle_throw _
  | some found =>
    refine endsIdle_bind fun _ => endsIdle_bind fun _ => ?_
    split
    · exact endsIdle_bind fun _ => endsIdle_then (endsIdle_commit _) fun _ => staysIdle_pure _
    · exact endsIdle_bind fun _ => endsIdle_then (endsIdle_commit _) fun _ => staysIdle_pure _

theorem completeTask_returnsClean (taskId : Network.UuidText) (nodeId : Network.Uuid) (output : Text) (ms : Int)
    (s : Network.NetworkDb) : (Network.completeTask taskId nodeId output ms).ReturnsClean s := by
  unfold Network.completeTask
  refine EndsIdle.returnsClean ?_ _ _ _
  exact endsIdle_bind fun _ => endsIdle_bind fun _ => endsIdle_bind fun _ => endsIdle_commit _

end Network

/-! ### Payments and profiles -/

section Payments

/-- What follows a committed payment runs statements of their own. -/
theorem settle_staysIdle (turn : Turn) (request : PaymentRequest) : StaysIdle (settle turn request) := by
  have hlogged {p : Async backend Unit} (h : StaysIdle p) : StaysIdle (logged p) :=
    staysIdle_handle h fun _ => staysIdle_pure ()
  have hnode (site : Site) : StaysIdle (nodeInfo site request) := by
    unfold nodeInfo
    split
    · exact staysIdle_query _ _
    · exact staysIdle_pure _
  have hrequired (site : Site) (amount : ℚ) (userId : UuidText) : StaysIdle (isTravelRuleRequired site amount userId) :=
    staysIdle_bind (staysIdle_pool _ _) fun _ => staysIdle_pure _
  have htravel : StaysIdle (travelRule turn request) := by
    refine staysIdle_bind (hrequired _ _ _) fun _ => staysIdle_onlyIf ?_
    refine staysIdle_bind (staysIdle_query _ _) fun user => staysIdle_bind (hnode _) fun node => ?_
    unfold recordTravelRule
    split
    · exact staysIdle_bind (hrequired _ _ _) fun _ => staysIdle_pool _ _
    · exact staysIdle_pure _
  have hclearing : StaysIdle (submitToClearing turn request) := by
    refine staysIdle_bind (staysIdle_remote _ _) fun _ => staysIdle_bind (staysIdle_query _ _) fun _ => ?_
    refine staysIdle_bind (hnode _) fun _ => staysIdle_bind (staysIdle_remote _ _) fun _ => ?_
    exact staysIdle_bind (staysIdle_query _ _) fun _ => staysIdle_onlyIf (staysIdle_emit _)
  have hchain : StaysIdle (writeToBlockchain turn request) := by
    refine staysIdle_bind (staysIdle_remote _ _) fun _ => staysIdle_bind (staysIdle_query _ _) fun user => ?_
    unfold sendToBlockchain
    split
    · exact staysIdle_pure _
    · exact staysIdle_bind (staysIdle_remote _ _) fun _ => staysIdle_query _ _
  refine staysIdle_bind (staysIdle_onlyIf (staysIdle_emit _)) fun _ => ?_
  refine staysIdle_bind (staysIdle_onlyIf (hlogged htravel)) fun _ => ?_
  refine staysIdle_bind (staysIdle_onlyIf (hlogged hclearing)) fun _ => ?_
  exact staysIdle_bind (staysIdle_onlyIf (hlogged hchain)) fun _ => hlogged (staysIdle_query _ _)

theorem processPayment_returnsClean (turn : Turn) (request : PaymentRequest) (s : PaymentDb) :
    (processPayment turn request).ReturnsClean s := by
  unfold processPayment
  refine EndsIdle.returnsClean ?_ _ _ _
  -- up to COMMIT
  refine endsIdle_bind fun _ => endsIdle_bind fun _ => endsIdle_bind fun _ => endsIdle_bind fun _ => endsIdle_bind fun _ => ?_
  refine endsIdle_then (endsIdle_commit _) fun _ => ?_
  exact staysIdle_bind (settle_staysIdle turn request) fun _ => staysIdle_pure _

theorem processDirectPayment_returnsClean (request : DirectPaymentRequest) (s : PaymentDb) :
    (processDirectPayment request).ReturnsClean s := by
  have hconfirm : EndsIdle (confirm request) := by
    refine endsIdle_bind fun _ => endsIdle_bind fun _ => endsIdle_bind fun _ => ?_
    exact endsIdle_then (endsIdle_commit _) fun _ => staysIdle_pure _
  -- a failed transfer is committed as well
  have hfailed (e : PaymentFailure) : EndsIdle (markFailed request e) := by
    unfold markFailed
    refine endsIdle_bind fun _ => endsIdle_then (endsIdle_commit _) fun _ => ?_
    exact staysIdle_throw e
  unfold processDirectPayment
  refine EndsIdle.returnsClean ?_ _ _ _
  refine endsIdle_bind fun _ => endsIdle_bind fun _ => endsIdle_bind fun _ => endsIdle_bind fun _ => endsIdle_bind fun _ => ?_
  exact endsIdle_handle hconfirm hfailed

theorem createOrUpdateKYCProfile_returnsClean (profileId : Uuid) (userId : Option UuidText) (profileData : ProfileData)
    (s : PaymentDb) : (createOrUpdateKYCProfile profileId userId profileData).ReturnsClean s := by
  unfold createOrUpdateKYCProfile
  refine EndsIdle.returnsClean ?_ _ _ _
  exact endsIdle_bind fun _ => endsIdle_bind fun _ => endsIdle_then (endsIdle_commit _) fun _ => staysIdle_pure _

theorem verifyKYCProfile_returnsClean (kycProfileId : UuidText) (tier : ℚ) (s : PaymentDb) :
    (verifyKYCProfile kycProfileId tier).ReturnsClean s := by
  unfold verifyKYCProfile
  refine EndsIdle.returnsClean ?_ _ _ _
  exact endsIdle_bind fun _ => endsIdle_bind fun _ => endsIdle_then (endsIdle_commit _) fun _ => staysIdle_pure _

end Payments

/-! ### Tenants -/

theorem transaction_returnsClean {α : Type} (set : Tenant.Settings → Tenant.Settings) (fn : Async Tenant.backend α)
    (s : Tenant.Db) : ((Tenant.transaction set fn).withClient Tenant.Site.transaction).ReturnsClean s := by
  unfold Tenant.transaction
  refine EndsIdle.returnsClean ?_ _ _ _
  refine endsIdle_bind fun _ => endsIdle_bind fun _ => endsIdle_bind fun _ => ?_
  exact endsIdle_then (endsIdle_commit _) fun _ => staysIdle_pure _

/-! ### The distribution of payments -/

/-- The task id is one the database can read, and no task has it. -/
def Missing (taskId : UuidText) (db : PaymentDb) : Prop := ∃ key, taskId = .uuid key ∧ db.tasks.contains key = false

theorem selectTask_reply (key : Uuid) (db : PaymentDb) : (selectTask (.uuid key)).reply () db =
    .ok (if db.tasks.contains key then some (db.task_columns key) else none) := rfl

theorem distributeNodePayments_returnsClean_iff (unpriced : Unpriced) (taskId : UuidText) (nodes : List PaidNode)
    (userId : Option UuidText) (userWallet : Option Text) (s : PaymentDb) :
    (distributeNodePayments unpriced taskId nodes userId userWallet).ReturnsClean s ↔ ¬ Missing taskId s := by
  rw [distributeNodePayments, returnsClean_withClient]
  constructor
  · rintro h ⟨key, rfl, hmissing⟩
    have hpost := h Local.empty
    rw [post_orRollback, post_bind, post_begin] at hpost
    have hselected := hpost.1
    rw [next_ok, post_bind, post_query_active] at hselected
    have hnone : (selectTask (.uuid key)).reply () s = .ok none := by
      rw [selectTask_reply, hmissing]
      rfl
    have hreturned := hselected.1
    simp only [id_eq, hnone] at hreturned
    cases hreturned
  · intro hfound l
    refine post_orRollback_idle _ ?_
    have herror (e : PaymentFailure) (k : Local backend) : ∀ a : Unit, (.error e : Except PaymentFailure Unit) = .ok a →
        k.top = .idle := fun _ h => by cases h
    rw [post_bind, post_begin]
    refine ⟨?_, fun _ _ => herror _ _⟩
    rw [next_ok, post_bind, post_query_active]
    refine ⟨?_, fun _ _ => herror _ _⟩
    cases hreply : (selectTask taskId).reply () (id s) with
    | error e => exact herror e _
    | ok row =>
      cases row with
      | some row =>
        have hpaid : EndsIdle (payTask unpriced taskId nodes userId userWallet row >>= fun _ =>
            Async.await (B := backend) Site.commit .commit) := endsIdle_bind fun _ => endsIdle_commit _
        exact hpaid s _
      | none =>
        refine absurd ?_ hfound
        cases taskId with
        | empty => cases hreply
        | malformed text => cases hreply
        | uuid key =>
          refine ⟨key, rfl, ?_⟩
          rw [id, selectTask_reply] at hreply
          split at hreply
          · cases hreply
          · rename_i hcontains
            exact eq_false_of_ne_true hcontains

/-! ### All of them -/

/-- A call of a function that takes a client and begins a transaction on it, in a store. -/
inductive Opening where
  | registerNode (data : Network.Registration) (capabilities : Network.NodeCapabilities) (s : Network.NetworkDb)
  | handleTaskFailure (now : Nat) (taskId : Network.UuidText) (nodeId : Network.Uuid) (s : Network.NetworkDb)
  | completeTask (taskId : Network.UuidText) (nodeId : Network.Uuid) (output : Text) (ms : Int) (s : Network.NetworkDb)
  | processPayment (turn : Turn) (request : PaymentRequest) (s : PaymentDb)
  | distributeNodePayments (unpriced : Unpriced) (taskId : UuidText) (nodes : List PaidNode) (userId : Option UuidText)
      (userWallet : Option Text) (s : PaymentDb)
  | processDirectPayment (request : DirectPaymentRequest) (s : PaymentDb)
  | createOrUpdateKYCProfile (profileId : Uuid) (userId : Option UuidText) (profileData : ProfileData) (s : PaymentDb)
  | verifyKYCProfile (kycProfileId : UuidText) (tier : ℚ) (s : PaymentDb)
  | withTenantTransaction {α : Type} (organizationId : Tenant.Uuid) (fn : Async Tenant.backend α) (s : Tenant.Db)
  | withBootstrapTransaction {α : Type} (fn : Async Tenant.backend α) (s : Tenant.Db)

/-- The call gives its client back with no transaction open, whatever fails. -/
def Opening.Returned : Opening → Prop
  | .registerNode data capabilities s => (Network.registerNode data capabilities).ReturnsClean s
  | .handleTaskFailure now taskId nodeId s => (Network.handleTaskFailure now taskId nodeId).ReturnsClean s
  | .completeTask taskId nodeId output ms s => (Network.completeTask taskId nodeId output ms).ReturnsClean s
  | .processPayment turn request s => (Payments.processPayment turn request).ReturnsClean s
  | .distributeNodePayments unpriced taskId nodes userId userWallet s =>
    (Payments.distributeNodePayments unpriced taskId nodes userId userWallet).ReturnsClean s
  | .processDirectPayment request s => (Payments.processDirectPayment request).ReturnsClean s
  | .createOrUpdateKYCProfile profileId userId profileData s =>
    (Payments.createOrUpdateKYCProfile profileId userId profileData).ReturnsClean s
  | .verifyKYCProfile kycProfileId tier s => (Payments.verifyKYCProfile kycProfileId tier).ReturnsClean s
  | .withTenantTransaction organizationId fn s => (Tenant.withTenantTransaction organizationId fn).ReturnsClean s
  | .withBootstrapTransaction fn s => (Tenant.withBootstrapTransaction fn).ReturnsClean s

/-- The calls that find no task to pay for. -/
def Opening.Unfounded : Opening → Prop
  | .distributeNodePayments _ taskId _ _ _ s => Missing taskId s
  | _ => False

/-- Every call returns its client clean, but a distribution that finds no task. -/
theorem connections_return_clean_iff (call : Opening) : call.Returned ↔ ¬ call.Unfounded := by
  have hclean {P : Prop} (h : P) : P ↔ ¬ False := iff_of_true h not_false
  cases call with
  | registerNode data capabilities s => exact hclean (registerNode_returnsClean data capabilities s)
  | handleTaskFailure now taskId nodeId s => exact hclean (handleTaskFailure_returnsClean now taskId nodeId s)
  | completeTask taskId nodeId output ms s => exact hclean (completeTask_returnsClean taskId nodeId output ms s)
  | processPayment turn request s => exact hclean (processPayment_returnsClean turn request s)
  | distributeNodePayments unpriced taskId nodes userId userWallet s =>
    exact distributeNodePayments_returnsClean_iff unpriced taskId nodes userId userWallet s
  | processDirectPayment request s => exact hclean (processDirectPayment_returnsClean request s)
  | createOrUpdateKYCProfile profileId userId profileData s =>
    exact hclean (createOrUpdateKYCProfile_returnsClean profileId userId profileData s)
  | verifyKYCProfile kycProfileId tier s => exact hclean (verifyKYCProfile_returnsClean kycProfileId tier s)
  | withTenantTransaction organizationId fn s => exact hclean (transaction_returnsClean _ fn s)
  | withBootstrapTransaction fn s => exact hclean (transaction_returnsClean _ fn s)

/-- No tables have rows. -/
def emptyDb : PaymentDb where
  users _ := none
  nodes _ := none
  tasks := []
  token_transactions := []
  direct_payments := []
  kyc_profiles := []
  user_jurisdictions := []
  compliance_config := []
  travel_rule_records := []
  audit_logs := []

/-- Payments for a task that does not exist leave the transaction open. -/
theorem distribution_leaks :
    ¬ (Opening.distributeNodePayments ⟨fun _ => pure (), fun _ => pure ()⟩ (.uuid 1) [] none none emptyDb).Returned := by
  intro h
  exact (distributeNodePayments_returnsClean_iff _ _ _ _ _ _).mp h ⟨1, rfl, rfl⟩

end GalaxiaAin.Payments
