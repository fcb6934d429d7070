import GalaxiaAin.Issuance.Minting
import GalaxiaAin.Library.Answers

/-! `checkTransferRestrictions`: three checks of the offering, the sender and the recipient.
What it allows is sound where one holding stands for all of the sender's, an accreditation
has not expired, and the recipient is known. -/
namespace GalaxiaAin.Issuance
open GalaxiaAin.Library
open Async (Answers answers_read answers_read_map answers_pure)

/-- The clock of a check, and which of several rows LIMIT 1 gives: the query has no order. -/
structure TransferTurn where
  now : Nat
  picked : Nat

structure TransferCheck where
  allowed : Bool
  restrictions : List Text
  reason : Option Text

/-- The holdings of an investor in an offering. -/
def holdingsBy (offeringId investorId : Text) (db : IssuanceDb) : List HoldingRow :=
  db.token_holdings.filter fun h => h.offering_id == offeringId && h.investor_id == investorId

/-- `lockupEndDate && new Date(lockupEndDate) > new Date()`. -/
def HoldingRow.lockedAt (h : HoldingRow) (now : Nat) : Bool := h.lockup_end_date.any fun e => decide (now < e)

def lockupApplied (now : Nat) (holding : Option HoldingRow) : List Text :=
  if holding.any (·.lockedAt now) then [units "lockup-period-active"] else []

def accreditedApplied (restrictions : Json) (recipient : Option InvestorRow) : List Text :=
  if accreditedOnly restrictions && !accredited recipient then [units "recipient-must-be-accredited"] else []

/-- `jurisdictionRestrictions && jurisdictionRestrictions.length > 0`. -/
def jurisdictionRestricted (restrictions : Json) : Bool :=
  match restrictions.get (units "jurisdictionRestrictions") with
  | some (.arr items) => !items.isEmpty
  | some (.str t) => !t.isEmpty
  | _ => false

/-- `jurisdictionRestrictions.includes(jurisdiction)`; of a text, a part. -/
def listsJurisdiction (restrictions : Json) (jurisdiction : Text) : Bool :=
  match restrictions.get (units "jurisdictionRestrictions") with
  | some (.arr items) => items.any fun v => match v with
    | .str t => t == jurisdiction
    | _ => false
  | some (.str t) => t.tails.any fun rest => jurisdiction.isPrefixOf rest
  | _ => false

def jurisdictionApplied (restrictions : Json) (recipient : Option InvestorRow) : List Text :=
  if jurisdictionRestricted restrictions && recipient.any fun i => listsJurisdiction restrictions i.jurisdiction then
    [units "jurisdiction-restricted"]
  else []

/-- The recipient is looked up where the check is asked for. -/
def checkAccredited (restrictions : Json) (toInvestorId : Text) : Async backend (List Text) :=
  if accreditedOnly restrictions then do
    pure (accreditedApplied restrictions (← getAccreditationStatus toInvestorId))
  else pure []

def checkJurisdiction (restrictions : Json) (toInvestorId : Text) : Async backend (List Text) :=
  if jurisdictionRestricted restrictions then do
    pure (jurisdictionApplied restrictions (← getAccreditationStatus toInvestorId))
  else pure []

/-- The log refers to the offering and to both investors by their own ids. -/
def insertTransferLog (offeringId fromInvestorId toInvestorId : Text) (tokenAmount : ℚ) (applied : List Text) :
    Stmt backend Unit :=
  .statement fun db => do
    let amount ← assign tokenFormat tokenAmount
    if (db.offerings.any fun o => o.offering_id == offeringId) && (db.investors.any fun i => i.investor_id == fromInvestorId) &&
        (db.investors.any fun i => i.investor_id == toInvestorId) then
      .ok ((), fun db => { db with transfer_restrictions_log := db.transfer_restrictions_log ++
        [⟨offeringId, fromInvestorId, toInvestorId, amount, applied.isEmpty, applied⟩] })
    else .error .foreignKeyViolation

def verdict (applied : List Text) : TransferCheck where
  allowed := applied.isEmpty
  restrictions := applied
  reason := if applied.isEmpty then none else some ((units ", ").intercalate applied)

/-- The checks of an offering that is found. -/
def checkOffering (turn : TransferTurn) (offeringId fromInvestorId toInvestorId : Text) (tokenAmount : ℚ) (o : OfferingRow) :
    Async backend TransferCheck := do
  let restrictions := restrictionsOf (some o)
  let holding ← Async.await .transferHolding
    (.pool (.select fun _ db => limitOne turn.picked (holdingsBy offeringId fromInvestorId db)))
  let accreditation ← checkAccredited restrictions toInvestorId
  let jurisdiction ← checkJurisdiction restrictions toInvestorId
  let applied := lockupApplied turn.now holding ++ accreditation ++ jurisdiction
  Async.await .insertTransferLog (.pool (insertTransferLog offeringId fromInvestorId toInvestorId tokenAmount applied))
  pure (verdict applied)

def checkTransferRestrictions (turn : TransferTurn) (offeringId fromInvestorId toInvestorId : Text) (tokenAmount : ℚ) :
    Async backend TransferCheck := do
  let offering ← Async.await .transferOffering (.pool (.select fun _ db => offeringOf offeringId db))
  match offering with
  | none => pure ⟨false, [units "offering-not-found"], none⟩
  | some o => checkOffering turn offeringId fromInvestorId toInvestorId tokenAmount o

/-! ### What a check answers -/

/-- The check can be logged: both are investors, and the amount fits. -/
def Loggable (fromInvestorId toInvestorId : Text) (tokenAmount : ℚ) (s : IssuanceDb) : Prop :=
  (∃ amount, tokenFormat.assign tokenAmount = some amount) ∧ (∃ i ∈ s.investors, i.investor_id = fromInvestorId) ∧
    ∃ i ∈ s.investors, i.investor_id = toInvestorId

/-- What applies to a transfer. -/
def appliedTo (turn : TransferTurn) (offeringId fromInvestorId toInvestorId : Text) (o : OfferingRow) (s : IssuanceDb) : List Text :=
  lockupApplied turn.now (limitOne turn.picked (holdingsBy offeringId fromInvestorId s)) ++
    accreditedApplied (restrictionsOf (some o)) (investorOf toInvestorId s) ++
      jurisdictionApplied (restrictionsOf (some o)) (investorOf toInvestorId s)

section
variable {β : Type} {s : IssuanceDb} {P : β → Prop}

theorem answers_accredited {restrictions : Json} {toInvestorId : Text} {k : List Text → Async backend β} :
    Answers (checkAccredited restrictions toInvestorId >>= k) P s ↔
      Answers (k (accreditedApplied restrictions (investorOf toInvestorId s))) P s := by
  unfold checkAccredited
  split
  · exact answers_read_map
  · rename_i h
    rw [accreditedApplied, if_neg (by simp [h])]
    rfl

theorem answers_jurisdiction {restrictions : Json} {toInvestorId : Text} {k : List Text → Async backend β} :
    Answers (checkJurisdiction restrictions toInvestorId >>= k) P s ↔
      Answers (k (jurisdictionApplied restrictions (investorOf toInvestorId s))) P s := by
  unfold checkJurisdiction
  split
  · exact answers_read_map
  · rename_i h
    rw [jurisdictionApplied, if_neg (by simp [h])]
    rfl

theorem insertTransferLog_reply {offeringId fromInvestorId toInvestorId : Text} {tokenAmount : ℚ} {applied : List Text}
    {o : OfferingRow} (ho : offeringOf offeringId s = some o) :
    (insertTransferLog offeringId fromInvestorId toInvestorId tokenAmount applied).reply () s = .ok () ↔
      Loggable fromInvestorId toInvestorId tokenAmount s := by
  have hoffering : (s.offerings.any fun o => o.offering_id == offeringId) = true := by
    refine List.any_eq_true.mpr ⟨o, List.mem_of_find?_eq_some ho, ?_⟩
    simpa using List.find?_some ho
  have hknown (id : Text) : (s.investors.any fun i => i.investor_id == id) = true ↔ ∃ i ∈ s.investors, i.investor_id = id := by
    simp only [List.any_eq_true, beq_iff_eq]
  rw [Loggable, ← hknown, ← hknown]
  simp only [Stmt.reply, insertTransferLog, Stmt.statement, assign, hoffering, Bool.true_and]
  cases tokenFormat.assign tokenAmount with
  | none => simp [bind, Except.bind]
  | some amount =>
    simp only [bind, Except.bind, Option.some.injEq, exists_eq', true_and, ← Bool.and_eq_true]
    by_cases h : ((s.investors.any fun i => i.investor_id == fromInvestorId) &&
      (s.investors.any fun i => i.investor_id == toInvestorId)) = true
    · rw [if_pos h]
      exact ⟨fun _ => h, fun _ => rfl⟩
    · rw [if_neg h]
      exact ⟨fun hok => (by cases hok), fun h' => absurd h' h⟩

/-- A check of an offering that is found answers where it can be logged, with what applies. -/
theorem check_answers {turn : TransferTurn} {offeringId fromInvestorId toInvestorId : Text} {tokenAmount : ℚ}
    {o : OfferingRow} {P : TransferCheck → Prop} (ho : offeringOf offeringId s = some o) :
    Answers (checkTransferRestrictions turn offeringId fromInvestorId toInvestorId tokenAmount) P s ↔
      (Loggable fromInvestorId toInvestorId tokenAmount s →
        P (verdict (appliedTo turn offeringId fromInvestorId toInvestorId o s))) := by
  rw [checkTransferRestrictions, answers_read, ho]
  change Answers (checkOffering turn offeringId fromInvestorId toInvestorId tokenAmount o) P s ↔ _
  rw [checkOffering, answers_read, answers_accredited, answers_jurisdiction, Answers, Async.post_bind, Async.post_pool,
    ← insertTransferLog_reply ho]
  cases hreply : (insertTransferLog offeringId fromInvestorId toInvestorId tokenAmount
    (appliedTo turn offeringId fromInvestorId toInvestorId o s)).reply () s with
  | ok u =>
    rw [appliedTo] at hreply
    rw [hreply, Async.next_ok]
    refine ⟨fun h _ => h.1 _ rfl, fun h => ⟨fun a ha => ?_, fun _ _ _ h => by cases h⟩⟩
    exact Except.ok.inj ha ▸ h rfl
  | error e =>
    rw [appliedTo] at hreply
    rw [hreply]
    refine ⟨fun _ h => (by cases h), fun _ => ⟨?_, fun _ _ _ h => (by cases h)⟩⟩
    exact fun _ h => by cases h

end

/-! ### Soundness -/

/-- What an allowed transfer of the offering has to meet. -/
structure Permitted (now : Nat) (offeringId fromInvestorId toInvestorId : Text) (o : OfferingRow) (s : IssuanceDb) : Prop where
  unlocked : ∀ h ∈ holdingsBy offeringId fromInvestorId s, ∀ e, h.lockup_end_date = some e → e ≤ now
  accredited : accreditedOnly (restrictionsOf (some o)) = true → CurrentlyAccredited now (investorOf toInvestorId s)
  jurisdiction : jurisdictionRestricted (restrictionsOf (some o)) = true →
    ∃ i, investorOf toInvestorId s = some i ∧ listsJurisdiction (restrictionsOf (some o)) i.jurisdiction = false

/-- Whatever answers are given, a transfer that is allowed is permitted. -/
def Sound (turn : TransferTurn) (offeringId fromInvestorId toInvestorId : Text) (tokenAmount : ℚ) (s : IssuanceDb) : Prop :=
  Answers (checkTransferRestrictions turn offeringId fromInvestorId toInvestorId tokenAmount) (fun c => c.allowed = true →
    ∃ o, offeringOf offeringId s = some o ∧ Permitted turn.now offeringId fromInvestorId toInvestorId o s) s

/-- The check can be logged, and nothing it looks at is against the transfer. -/
structure Passes (turn : TransferTurn) (offeringId fromInvestorId toInvestorId : Text) (tokenAmount : ℚ) (o : OfferingRow)
    (s : IssuanceDb) : Prop where
  loggable : Loggable fromInvestorId toInvestorId tokenAmount s
  holding : ∀ h, limitOne turn.picked (holdingsBy offeringId fromInvestorId s) = some h → h.lockedAt turn.now = false
  accredited : accreditedOnly (restrictionsOf (some o)) = true → Issuance.accredited (investorOf toInvestorId s) = true
  unlisted : jurisdictionRestricted (restrictionsOf (some o)) = true → ∀ i, investorOf toInvestorId s = some i →
    listsJurisdiction (restrictionsOf (some o)) i.jurisdiction = false

/-- What the check leaves out makes no difference: the holding it looks at is locked when any
is, an accreditation it needs has not expired, and a recipient of a restricted offering is known. -/
structure LeavesOutNothing (turn : TransferTurn) (offeringId fromInvestorId toInvestorId : Text) (o : OfferingRow)
    (s : IssuanceDb) : Prop where
  holding : ∀ h ∈ holdingsBy offeringId fromInvestorId s, h.lockedAt turn.now = true →
    ∃ h', limitOne turn.picked (holdingsBy offeringId fromInvestorId s) = some h' ∧ h'.lockedAt turn.now = true
  expiry : accreditedOnly (restrictionsOf (some o)) = true → ∀ i e, investorOf toInvestorId s = some i →
    i.accreditation_expires_at = some e → turn.now ≤ e
  known : jurisdictionRestricted (restrictionsOf (some o)) = true → ∃ i, investorOf toInvestorId s = some i

section
variable {s : IssuanceDb} {turn : TransferTurn} {offeringId fromInvestorId toInvestorId : Text} {tokenAmount : ℚ} {o : OfferingRow}

theorem lockedAt_eq_false {h : HoldingRow} {now : Nat} : h.lockedAt now = false ↔ ∀ e, h.lockup_end_date = some e → e ≤ now := by
  rw [HoldingRow.lockedAt]
  cases h.lockup_end_date with
  | none => simp
  | some e => simp

theorem lockupApplied_eq_nil {now : Nat} {holding : Option HoldingRow} :
    lockupApplied now holding = [] ↔ ∀ h, holding = some h → h.lockedAt now = false := by
  cases holding with
  | none => simp [lockupApplied]
  | some h => cases hl : h.lockedAt now <;> simp [lockupApplied, hl]

theorem accreditedApplied_eq_nil {restrictions : Json} {recipient : Option InvestorRow} :
    accreditedApplied restrictions recipient = [] ↔ (accreditedOnly restrictions = true → accredited recipient = true) := by
  cases hr : accreditedOnly restrictions <;> cases ha : accredited recipient <;> simp [accreditedApplied, hr, ha]

theorem jurisdictionApplied_eq_nil {restrictions : Json} {recipient : Option InvestorRow} :
    jurisdictionApplied restrictions recipient = [] ↔ (jurisdictionRestricted restrictions = true →
      ∀ i, recipient = some i → listsJurisdiction restrictions i.jurisdiction = false) := by
  cases recipient with
  | none => simp [jurisdictionApplied]
  | some i =>
    cases hr : jurisdictionRestricted restrictions <;> cases hl : listsJurisdiction restrictions i.jurisdiction <;>
      simp [jurisdictionApplied, hr, hl]

/-- What is allowed is what the check finds nothing against. -/
theorem allowed_iff : (verdict (appliedTo turn offeringId fromInvestorId toInvestorId o s)).allowed = true ↔
    (∀ h, limitOne turn.picked (holdingsBy offeringId fromInvestorId s) = some h → h.lockedAt turn.now = false) ∧
    (accreditedOnly (restrictionsOf (some o)) = true → accredited (investorOf toInvestorId s) = true) ∧
    (jurisdictionRestricted (restrictionsOf (some o)) = true → ∀ i, investorOf toInvestorId s = some i →
      listsJurisdiction (restrictionsOf (some o)) i.jurisdiction = false) := by
  rw [verdict, List.isEmpty_iff, appliedTo, List.append_eq_nil_iff, List.append_eq_nil_iff, lockupApplied_eq_nil,
    accreditedApplied_eq_nil, jurisdictionApplied_eq_nil, and_assoc]

theorem passes_iff : Passes turn offeringId fromInvestorId toInvestorId tokenAmount o s ↔
    Loggable fromInvestorId toInvestorId tokenAmount s ∧
      (verdict (appliedTo turn offeringId fromInvestorId toInvestorId o s)).allowed = true := by
  rw [allowed_iff]
  exact ⟨fun h => ⟨h.loggable, h.holding, h.accredited, h.unlisted⟩, fun h => ⟨h.1, h.2.1, h.2.2.1, h.2.2.2⟩⟩

/-- A transfer that passes is permitted when nothing is left out. -/
theorem Passes.permitted_iff (hp : Passes turn offeringId fromInvestorId toInvestorId tokenAmount o s) :
    Permitted turn.now offeringId fromInvestorId toInvestorId o s ↔
      LeavesOutNothing turn offeringId fromInvestorId toInvestorId o s := by
  constructor
  · intro h
    refine ⟨fun holding hmem hlocked => ?_, fun honly i e hi he => (h.accredited honly).2 i e hi he, fun hr => ?_⟩
    · rw [lockedAt_eq_false.mpr (h.unlocked holding hmem)] at hlocked
      cases hlocked
    · obtain ⟨i, hi, _⟩ := h.jurisdiction hr
      exact ⟨i, hi⟩
  · intro h
    refine ⟨fun holding hmem => lockedAt_eq_false.mp ?_, fun honly => ⟨hp.accredited honly, h.expiry honly⟩, fun hr => ?_⟩
    · by_contra hlocked
      obtain ⟨h', hpicked, hlocked'⟩ := h.holding holding hmem (by simpa using hlocked)
      rw [hp.holding h' hpicked] at hlocked'
      cases hlocked'
    · obtain ⟨i, hi⟩ := h.known hr
      exact ⟨i, hi, hp.unlisted hr i hi⟩

/-- An offering that is not found is answered with a refusal. -/
theorem check_unknown {P : TransferCheck → Prop} (ho : offeringOf offeringId s = none) :
    Answers (checkTransferRestrictions turn offeringId fromInvestorId toInvestorId tokenAmount) P s ↔
      P ⟨false, [units "offering-not-found"], none⟩ := by
  rw [checkTransferRestrictions, answers_read, ho]
  exact answers_pure

/-- The check is sound for the transfers that do not pass, and for those where what it leaves
out makes no difference. -/
theorem transfer_check_sound_iff (turn : TransferTurn) (offeringId fromInvestorId toInvestorId : Text) (tokenAmount : ℚ)
    (s : IssuanceDb) : Sound turn offeringId fromInvestorId toInvestorId tokenAmount s ↔
      ∀ o, offeringOf offeringId s = some o → Passes turn offeringId fromInvestorId toInvestorId tokenAmount o s →
        LeavesOutNothing turn offeringId fromInvestorId toInvestorId o s := by
  cases ho : offeringOf offeringId s with
  | none =>
    rw [Sound, check_unknown ho]
    exact ⟨fun _ _ h => (by cases h), fun _ h => (by cases h)⟩
  | some o =>
    rw [Sound, check_answers ho]
    constructor
    · rintro h o' ho' hp
      obtain rfl := Option.some.inj ho'
      obtain ⟨hloggable, hallowed⟩ := passes_iff.mp hp
      obtain ⟨o', ho', hpermitted⟩ := h hloggable hallowed
      obtain rfl := Option.some.inj (ho.symm.trans ho')
      exact hp.permitted_iff.mp hpermitted
    · intro h hloggable hallowed
      have hp : Passes turn offeringId fromInvestorId toInvestorId tokenAmount o s := passes_iff.mpr ⟨hloggable, hallowed⟩
      exact ⟨o, ho, hp.permitted_iff.mpr (h o rfl hp)⟩

end

/-- An offering without restrictions. -/
def openOffering : OfferingRow := { activeOffering with transfer_restrictions := .obj [] }

/-- A holding of the investor. -/
def holdingUntil (holdingId : Text) (lockup : Option Nat) : HoldingRow where
  holding_id := holdingId
  offering_id := units "o1"
  investor_id := units "v1"
  token_amount := 100000000
  purchase_price := 100
  purchase_date := 0
  vesting_schedule := none
  lockup_end_date := lockup
  transfer_restrictions := .obj []
  wallet_address := units "0x1"

/-- The second of two holdings is locked until time 9. -/
def twiceHeldDb : IssuanceDb :=
  ⟨[], [], [], [openOffering], [accreditedInvestor], [holdingUntil (units "h1") none, holdingUntil (units "h2") (some 9)], []⟩

/-- The holding that is looked at is not the one that is locked. -/
theorem locked_sender_allowed : ¬ ∀ (turn : TransferTurn) (offeringId fromInvestorId toInvestorId : Text) (tokenAmount : ℚ)
    (s : IssuanceDb), Sound turn offeringId fromInvestorId toInvestorId tokenAmount s := by
  intro h
  have ho : offeringOf (units "o1") twiceHeldDb = some openOffering := rfl
  have hsound := (check_answers ho).mp (h ⟨5, 0⟩ (units "o1") (units "v1") (units "v1") 1 twiceHeldDb)
    ⟨⟨100000000, by decide +kernel⟩, ⟨_, .head _, rfl⟩, ⟨_, .head _, rfl⟩⟩
  obtain ⟨o, _, hpermitted⟩ := hsound rfl
  exact absurd (hpermitted.unlocked (holdingUntil (units "h2") (some 9)) (.tail _ (.head _)) 9 rfl) (by decide)

end GalaxiaAin.Issuance
