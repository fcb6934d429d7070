import GalaxiaAin.Payments.Acceptance

/-! Deposits and the balance that the GXA service reports. The error of a balance that is too
small is raised inside the `try` whose `catch` is the fallback for a failed service, so no
report keeps a deposit back. -/
namespace GalaxiaAin.Payments
open GalaxiaAin.Library
open GalaxiaAin.Library.Async hiding bind

/-- The balance of a wallet that is available, as the service reports it; none where it reports no number. -/
def reported (wallet : Text) (reply : ∀ r : Remote, r.Reply) : Option ℚ :=
  (reply (.gxaBalance wallet) : Option GXABalance).bind (·.available)

/-- The call to the service failed, or it reported at least the amount. -/
def Covers (amount : ℚ) (wallet : Text) : Answer backend → Prop
  | .fault _ => True
  | .done reply => ∃ available, reported wallet reply = some available ∧ amount ≤ available

/-- The service reported less than the amount. -/
def FallsShort (amount : ℚ) (wallet : Text) : Answer backend → Prop
  | .fault _ => False
  | .done reply => ∃ available, reported wallet reply = some available ∧ available < amount

/-- The answers of an environment in which the balance service answers so; any other call may fail. -/
def balanceAnswer (a : Answer backend) (σ : Site) (b : Answer backend) : Prop := σ = .gxaBalance → b = a

/-- The deposit is committed only if it is covered, and one that is known to be short throws and changes no balance. -/
def CoveredDeposit (turn : Turn) (request : PaymentRequest) (wallet : Text) (a : Answer backend) (s : PaymentDb) : Prop :=
  (processPayment turn request).must (balanceAnswer a) (fun r t _ =>
    ((∃ id, r = .ok id) → Covers request.amount wallet a) ∧
      (FallsShort request.amount wallet a → (∃ e, r = .error e) ∧ t.users = s.users ∧ t.nodes = s.nodes)) s Local.empty

/-- The deposit would be booked if no call failed. -/
def Acceptable (turn : Turn) (request : PaymentRequest) (s : PaymentDb) (key : Uuid) : Prop :=
  Admitted s key ∧ Applicable request s key ∧ Recordable turn request s

/-- Where the deposit can be booked, it is kept to what the service says only if that covers it. -/
theorem CoveredDeposit.covers {turn : Turn} {request : PaymentRequest} {s : PaymentDb} {key : Uuid} {wallet : Text} {a : Answer backend}
    (hmust : CoveredDeposit turn request wallet a s) (hkey : request.user_id = .uuid key) (haccept : Acceptable turn request s key) :
    Covers request.amount wallet a := by
  by_contra hcovers
  obtain ⟨hadmitted, happly, hrecord⟩ := haccept
  have hserved (σ : Site) : ∃ reply, balanceAnswer a σ (.done reply) := by
    cases a with
    | fault f => exact absurd trivial hcovers
    | done reply => exact ⟨reply, fun _ => rfl⟩
  have hbooked := processPayment_can hserved hkey hadmitted happly hrecord Local.empty
  exact can_not_must (can_mono hbooked fun r t l hr hkept => hcovers (hkept.1 ⟨_, hr⟩)) hmust

/-- A deposit of a user with a wallet is kept to what the service says exactly when the service covers it, or the
deposit cannot be booked anyway. -/
theorem deposit_covered_iff {turn : Turn} {request : PaymentRequest} {s : PaymentDb} {key : Uuid} {wallet : Text}
    (htype : request.transaction_type = .deposit) (hkey : request.user_id = .uuid key)
    (_hwallet : truthy (walletOf request (s.users key)) = some wallet) (a : Answer backend) :
    CoveredDeposit turn request wallet a s ↔ Covers request.amount wallet a ∨ ¬ Acceptable turn request s key := by
  constructor
  · intro hmust
    exact or_iff_not_imp_right.mpr fun haccept => hmust.covers hkey (not_not.mp haccept)
  · rintro (hcovers | hrefused)
    · have hshort : ¬ FallsShort request.amount wallet a := by
        cases a with
        | fault f => exact id
        | done reply =>
          obtain ⟨available, hreported, hle⟩ := hcovers
          rintro ⟨available', hreported', hlt⟩
          obtain rfl := Option.some.inj (hreported.symm.trans hreported')
          exact not_lt.mpr hle hlt
      exact must_of_post (post_of_forall fun _ _ _ => ⟨fun _ => hcovers, fun h => absurd h hshort⟩)
    · refine must_of_post ((post_iff _ _ _ _ _).mpr fun r t l hexec => ?_)
      rcases (hexec.sound (processPayment_commits (ledger_settlesIn turn) request s Local.empty)).1 with ⟨e, rfl, -, rfl⟩ | ⟨rfl, -, u, hcommits, -⟩
      · exact ⟨fun ⟨_, h⟩ => (by cases h), fun _ => ⟨⟨e, rfl⟩, rfl, rfl⟩⟩
      · obtain ⟨key', hkey', happly, hrecord⟩ := hcommits.applicable (.inl htype)
        obtain rfl := UuidText.uuid.inj (hkey.symm.trans hkey')
        exact absurd ⟨hexec.sound (processPayment_admitted hkey Local.empty) _ rfl, happly, hrecord⟩ hrefused

/-- User 1 has no tokens, and a wallet. -/
def depositDb : PaymentDb where
  users := fun key => if key = 1 then some ⟨some (units "w"), 0, 0⟩ else none
  nodes := fun _ => none
  tasks := []
  token_transactions := []
  direct_payments := []
  kyc_profiles := []
  user_jurisdictions := []
  compliance_config := []
  travel_rule_records := []
  audit_logs := []

/-- A deposit of 5. -/
def depositRequest : PaymentRequest := ⟨.uuid 1, 5, none, none, .deposit, none⟩

/-- The service reports a balance. -/
def balanceReply (available : ℚ) : ∀ r : Remote, r.Reply
  | .gxaBalance _ => some ⟨some available⟩
  | .gxaTransfer sender recipient amount => Remote.usual (.gxaTransfer sender recipient amount)
  | .importGalaxia => ()
  | .submitTransaction transaction => Remote.usual (.submitTransaction transaction)
  | .sendTransaction transaction => Remote.usual (.sendTransaction transaction)

theorem deposit_acceptable (turn : Turn) : Acceptable turn depositRequest depositDb 1 := by
  have hchange : Applicable depositRequest depositDb 1 := .deposit rfl (u := ⟨some (units "w"), 0, 0⟩) rfl (b := 500000000) (by decide +kernel)
  have hrecord : Recordable turn depositRequest depositDb := {
    amount := ⟨500000000, by decide +kernel⟩
    fresh := fun t ht => by cases ht
    node := ⟨none, rfl, rfl⟩
    task := ⟨none, rfl, rfl⟩ }
  exact ⟨fun j hj => (by cases hj), hchange, hrecord⟩

theorem balance_short : ¬ Covers depositRequest.amount (units "w") (.done (balanceReply 3)) := by
  rintro ⟨available, hreported, hle⟩
  obtain rfl : 3 = available := Option.some.inj hreported
  exact absurd hle (by norm_num [depositRequest])

/-- The wallet has 3, and the deposit of 5 is committed. -/
theorem short_deposit_booked : ¬ CoveredDeposit ⟨1, 0, 0, none⟩ depositRequest (units "w") (.done (balanceReply 3)) depositDb :=
  fun hcovered => balance_short (hcovered.covers rfl (deposit_acceptable _))

/-- A wallet with 8 covers the deposit. -/
theorem rich_deposit_covered : CoveredDeposit ⟨1, 0, 0, none⟩ depositRequest (units "w") (.done (balanceReply 8)) depositDb :=
  (deposit_covered_iff rfl rfl (by decide) (.done (balanceReply 8))).mpr (.inl ⟨8, rfl, by norm_num [depositRequest]⟩)

end GalaxiaAin.Payments
