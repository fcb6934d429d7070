import GalaxiaAin.Library.Calendar
import GalaxiaAin.Payments.KycGate

/-! The limits of a tier. A payment is compared with the single and the daily limit only; what
is paid stays within the limits of months and years as long as every payment does. -/
namespace GalaxiaAin.Payments
open GalaxiaAin.Library

/-! ### What is paid in a period -/

/-- A completed payment of the user in a period of days. -/
def paidIn (period : Nat → Nat) (userId : Uuid) (n : Nat) (t : TokenTransaction) : Bool :=
  t.user_id == some userId && t.transaction_type == .payment && period (date t.created_at) == n && t.status == .completed

/-- The user's payments of every period are within a limit. -/
def Within (period : Nat → Nat) (key : Uuid) (limit : ℚ) (rows : List TokenTransaction) : Prop :=
  ∀ n, parseFloat (total (paidIn period key n) rows) ≤ limit

/-- A payment, with what the user has paid before in its period, is within a limit. -/
def FitsIn (period : Nat → Nat) (key : Uuid) (limit : ℚ) (turn : Turn) (request : PaymentRequest)
    (rows : List TokenTransaction) : Prop :=
  parseFloat (total (paidIn period key (period (date turn.begun))) rows) + request.amount ≤ limit

instance (period : Nat → Nat) (key : Uuid) (limit : ℚ) (turn : Turn) (request : PaymentRequest) (rows : List TokenTransaction) :
    Decidable (FitsIn period key limit turn request rows) := inferInstanceAs (Decidable (_ ≤ limit))

section Booking
variable {s t : Ledger} {turn : Turn} {request : PaymentRequest} {key payer : Uuid} {nodeId taskId : Option Uuid}
  {amount limit : Int} {period : Nat → Nat}

/-- The row of a payment is counted in its own period, for its own user. -/
theorem paidIn_row (htype : request.transaction_type = .payment) (n : Nat) :
    paidIn period key n (transactionRow turn request (some payer) nodeId taskId amount) = true ↔
      payer = key ∧ period (date turn.begun) = n := by
  simp [paidIn, transactionRow, htype]

theorem amount_nonpos (hassign : amountFormat.assign request.amount = some amount) (h : ¬ 0 < request.amount) : amount ≤ 0 :=
  amountFormat.assign_le hassign (by rw [amountFormat.value_zero]; exact not_lt.mp h)

/-- The rows stay within a limit when what is booked fits in. -/
theorem Within.booked (htype : request.transaction_type = .payment)
    (hassign : amountFormat.assign request.amount = some amount)
    (hrows : t.transactions = s.transactions ++ [transactionRow turn request (some payer) nodeId taskId amount])
    (h : Within period key (parseFloat limit) s.transactions)
    (hfits : payer = key → 0 < request.amount → total (paidIn period key (period (date turn.begun))) t.transactions ≤ limit) :
    Within period key (parseFloat limit) t.transactions := by
  intro n
  refine amountFormat.value_le.mpr ?_
  have hbefore : total (paidIn period key n) s.transactions ≤ limit := amountFormat.value_le.mp (h n)
  by_cases hcounted : payer = key ∧ period (date turn.begun) = n
  · obtain ⟨hpayer, rfl⟩ := hcounted
    by_cases hpos : 0 < request.amount
    · exact hfits hpayer hpos
    · have hamount := amount_nonpos hassign hpos
      rw [hrows, total_append, if_pos ((paidIn_row htype _).mpr ⟨hpayer, rfl⟩)]
      change total _ _ + amount ≤ limit
      omega
  · rw [hrows, total_append, if_neg fun hrow => hcounted ((paidIn_row htype n).mp hrow)]
    omega

/-- A payment that fits in a limit, once it is booked. -/
theorem total_fits (htype : request.transaction_type = .payment)
    (hassign : amountFormat.assign request.amount = some amount)
    (hrows : t.transactions = s.transactions ++ [transactionRow turn request (some key) nodeId taskId amount])
    (hfits : FitsIn period key (parseFloat limit) turn request s.transactions) :
    total (paidIn period key (period (date turn.begun))) t.transactions ≤ limit := by
  rw [hrows, total_append, if_pos ((paidIn_row htype _).mpr ⟨rfl, rfl⟩)]
  change total _ _ + amount ≤ limit
  have hrest : request.amount ≤
      amountFormat.value (limit - total (paidIn period key (period (date turn.begun))) s.transactions) := by
    rw [← amountFormat.value_sub]
    simp only [FitsIn, parseFloat] at hfits
    linarith
  have := amountFormat.assign_le hassign hrest
  omega

end Booking

/-! ### The limits of a tier -/

/-- The limits of a tier are amounts. -/
theorem getTierLimits_amounts (tier : ℚ) : ∃ daily monthly annual : Int, (getTierLimits tier).daily = parseFloat daily ∧
    (getTierLimits tier).monthly = parseFloat monthly ∧ (getTierLimits tier).annual = parseFloat annual := by
  have hnat (n : Nat) : ∃ u : Int, (n : ℚ) = parseFloat u :=
    ⟨n * 10 ^ 8, by rw [parseFloat, Fixed.value]; push_cast [amountFormat]; exact (mul_div_cancel_right₀ _ (by norm_num)).symm⟩
  have hlimits : ∃ d m a : Nat, (getTierLimits tier).daily = d ∧ (getTierLimits tier).monthly = m ∧
      (getTierLimits tier).annual = a := by
    unfold getTierLimits
    split
    · exact ⟨1000, 10000, 100000, by norm_num, by norm_num, by norm_num⟩
    split
    · exact ⟨10000, 100000, 1000000, by norm_num, by norm_num, by norm_num⟩
    split
    · exact ⟨100000, 1000000, 10000000, by norm_num, by norm_num, by norm_num⟩
    split
    · exact ⟨1000000, 10000000, 100000000, by norm_num, by norm_num, by norm_num⟩
    · exact ⟨0, 0, 0, by norm_num, by norm_num, by norm_num⟩
  obtain ⟨d, m, a, hd, hm, ha⟩ := hlimits
  obtain ⟨daily, hdaily⟩ := hnat d
  obtain ⟨monthly, hmonthly⟩ := hnat m
  obtain ⟨annual, hannual⟩ := hnat a
  exact ⟨daily, monthly, annual, hd.trans hdaily, hm.trans hmonthly, ha.trans hannual⟩

/-- The user is approved, with the limits of a tier that a payment is compared with. -/
def ApprovedAt (key : Uuid) (tier : ℚ) (profiles : List KycProfile) : Prop :=
  ∃ p, profiles.find? (fun p => p.user_id == key) = some p ∧ parseFloat p.daily_limit = (getTierLimits tier).daily ∧
    parseFloat p.single_transaction_limit = (getTierLimits tier).single

/-- A verification of the user's profile. -/
theorem Verified.approvedAt {s t : PaymentDb} {key : Uuid} {tier : ℚ} {p : KycProfile} (hp : profileOf s key = some p)
    (h : Verified p.id tier s t) : ApprovedAt key tier t.kyc_profiles := by
  obtain ⟨t', daily, monthly, annual, single, hdaily, hsingle, rfl⟩ := h
  obtain ⟨m, n, hm, hn⟩ := getTierLimits_natCast tier
  rw [hm] at hdaily
  rw [hn] at hsingle
  refine ⟨p.verified t' daily monthly annual single, ?_, ?_, ?_⟩
  · have hsame : (fun q : KycProfile => q.user_id == key) ∘ (fun q => if q.id = p.id then q.verified t' daily monthly annual single
        else q) = fun q => q.user_id == key := by
      funext q
      simp only [Function.comp_apply]
      split <;> rfl
    rw [List.find?_map, hsame, show s.kyc_profiles.find? (fun q => q.user_id == key) = some p from hp]
    simp
  · exact (amountFormat.value_assign_natCast hdaily).trans hm.symm
  · exact (amountFormat.value_assign_natCast hsingle).trans hn.symm

/-! ### Runs of payments -/

/-- Payments one at a time. -/
def Paying : Machine World Performed := fun s e t => World.Step s e t ∧
  ∃ turn request r, e = ⟨.process turn request, r⟩ ∧ request.transaction_type = .payment

/-- A payment of the user is within the limits of its month and of its year. -/
def Fits (key : Uuid) (tier : ℚ) (s : World) (e : Performed) : Prop :=
  ∀ turn request r, e = ⟨.process turn request, r⟩ → request.user_id = .uuid key → 0 < request.amount →
    FitsIn monthOf key (getTierLimits tier).monthly turn request s.db.token_transactions ∧
    FitsIn yearOf key (getTierLimits tier).annual turn request s.db.token_transactions

/-- What holds along a run of payments. -/
structure Limited (key : Uuid) (tier : ℚ) (s : World) : Prop where
  approved : ApprovedAt key tier s.db.ledger.profiles
  past : ∀ row ∈ s.db.ledger.transactions, row.created_at ≤ s.now
  day : Within (fun d => d) key (getTierLimits tier).daily s.db.ledger.transactions

/-- The limits of months and years, too. -/
structure Capped (key : Uuid) (tier : ℚ) (s : World) : Prop where
  month : Within monthOf key (getTierLimits tier).monthly s.db.ledger.transactions
  year : Within yearOf key (getTierLimits tier).annual s.db.ledger.transactions

/-- The ledger counts what the table does. -/
theorem within_ledger {period : Nat → Nat} {key : Uuid} {limit : ℚ} {s : PaymentDb} :
    Within period key limit s.ledger.transactions ↔ Within period key limit s.token_transactions := by
  refine forall_congr' fun n => ?_
  rw [PaymentDb.ledger, total_booked fun _ => rfl]

/-- What a step of payments does to the ledger. -/
theorem Paying.booked {s t : World} {e : Performed} (h : Paying s e t) :
    ∃ turn request r, e = ⟨.process turn request, r⟩ ∧ request.transaction_type = .payment ∧ s.now ≤ t.now ∧
      (t.db.ledger = s.db.ledger ∨ (s.now ≤ turn.checked ∧ turn.checked ≤ turn.begun ∧ turn.begun ≤ t.now ∧
        Cleared turn request s.db.ledger ∧ Books turn request s.db.ledger t.db.ledger)) := by
  obtain ⟨hstep, turn, request, r, rfl, htype⟩ := h
  cases hstep with
  | @process _ _ _ _ r l hchecked hbegun htime hexec =>
    refine ⟨turn, request, _, rfl, htype, hchecked.trans (hbegun.trans htime), ?_⟩
    rcases (hexec.sound (processPayment_post turn request s.db)).1 with ⟨e, -, -, hdb⟩ | ⟨-, hcleared, hbooks⟩
    · exact .inl (by rw [hdb])
    · exact .inr ⟨hchecked, hbegun, htime, hcleared, hbooks⟩

section Steps
variable {key : Uuid} {tier : ℚ} {s t : World} {e : Performed}

/-- Every payment keeps the daily limit. -/
theorem Limited.step (h : Limited key tier s) (hstep : Paying s e t) : Limited key tier t := by
  obtain ⟨turn, request, r, -, htype, htime, hledger | ⟨hchecked, hbegun, hend, hcleared, hbooks⟩⟩ := hstep.booked
  · refine ⟨?_, fun row hrow => ?_, ?_⟩
    · rw [hledger]
      exact h.approved
    · rw [hledger] at hrow
      exact (h.past row hrow).trans htime
    · rw [hledger]
      exact h.day
  · obtain ⟨hprofiles, payer, nodeId, taskId, amount, huser, hassign, hrows⟩ := hbooks.recorded
    obtain ⟨daily, -, -, hdaily, -, -⟩ := getTierLimits_amounts tier
    refine ⟨hprofiles ▸ h.approved, fun row hrow => ?_, ?_⟩
    · rw [hrows] at hrow
      rcases List.mem_append.mp hrow with hrow | hrow
      · exact (h.past row hrow).trans htime
      · obtain rfl := List.mem_singleton.mp hrow
        exact hend
    · rw [hdaily]
      refine Within.booked htype hassign hrows (hdaily ▸ h.day) ?_
      rintro rfl hpos
      obtain ⟨p, hp, -, hsingle, hday⟩ := hcleared payer huser htype hpos
      obtain ⟨q, hq, hqdaily, hqsingle⟩ := h.approved
      obtain rfl : p = q := Option.some.inj (hp.symm.trans hq)
      have hle : parseFloat p.single_transaction_limit ≤ parseFloat p.daily_limit := by
        rw [hqdaily, hqsingle]
        exact getTierLimits_single tier
      have hlimit : p.daily_limit = daily := le_antisymm (amountFormat.value_le.mp (hqdaily.trans hdaily).le)
        (amountFormat.value_le.mp (hqdaily.trans hdaily).ge)
      rw [← hlimit]
      exact paid_within htype hassign hrows (fun row hrow => (h.past row hrow).trans hchecked) hbegun hsingle
        (amountFormat.value_le.mp hle) (hday (hpos.trans_le (hsingle.trans hle)))

/-- A payment that fits keeps the limits of months and years. -/
theorem Capped.step (h : Capped key tier s) (hstep : Paying s e t) (hfits : Fits key tier s e) : Capped key tier t := by
  obtain ⟨turn, request, r, he, htype, -, hledger | ⟨-, -, -, -, hbooks⟩⟩ := hstep.booked
  · constructor
    · rw [hledger]
      exact h.month
    · rw [hledger]
      exact h.year
  · obtain ⟨-, payer, nodeId, taskId, amount, huser, hassign, hrows⟩ := hbooks.recorded
    obtain ⟨-, monthly, annual, -, hmonthly, hannual⟩ := getTierLimits_amounts tier
    have hledger {period : Nat → Nat} {limit : ℚ} (hrest : FitsIn period key limit turn request s.db.token_transactions) :
        FitsIn period key limit turn request s.db.ledger.transactions := by
      rw [FitsIn, PaymentDb.ledger, total_booked fun _ => rfl]
      exact hrest
    constructor
    · rw [hmonthly]
      refine Within.booked htype hassign hrows (hmonthly ▸ h.month) ?_
      rintro rfl hpos
      exact total_fits htype hassign hrows (hmonthly ▸ hledger (hfits turn request r he huser hpos).1)
    · rw [hannual]
      refine Within.booked htype hassign hrows (hannual ▸ h.year) ?_
      rintro rfl hpos
      exact total_fits htype hassign hrows (hannual ▸ hledger (hfits turn request r he huser hpos).2)

end Steps

/-- The user's payments are within every limit of a tier. -/
structure WithinLimits (key : Uuid) (tier : ℚ) (rows : List TokenTransaction) : Prop where
  day : Within (fun d => d) key (getTierLimits tier).daily rows
  month : Within monthOf key (getTierLimits tier).monthly rows
  year : Within yearOf key (getTierLimits tier).annual rows

/-- Payments of which each one of the user is within the limits of its month and of its year. -/
def PayingWithin (key : Uuid) (tier : ℚ) : Machine World Performed := fun s e t => Paying s e t ∧ Fits key tier s e

/-- From the approval of a user at a tier, every run of payments keeps the daily limit of the
tier; and every run whose payments are each within the limits of month and year keeps these too. -/
theorem tier_limits_kept {before start s : World} {history : List Performed} {key : Uuid} {p : KycProfile} {tier : ℚ}
    (hprofile : profileOf before.db key = some p)
    (hverify : World.Step before ⟨.verify (.uuid p.id) tier, .ok ()⟩ start)
    (hpast : ∀ row ∈ start.db.token_transactions, row.created_at ≤ start.now)
    (hstart : WithinLimits key tier start.db.token_transactions) :
    (Machine.Run Paying start history s → Within (fun d => d) key (getTierLimits tier).daily s.db.token_transactions) ∧
    (Machine.Run (PayingWithin key tier) start history s → WithinLimits key tier s.db.token_transactions) := by
  have happroved : ApprovedAt key tier start.db.ledger.profiles := by
    cases hverify with
    | @verify _ _ _ _ r l _ hexec =>
      rcases hexec.sound (verifyKYCProfile_post (.uuid p.id) tier before.db) with ⟨⟨e, he⟩, -⟩ | ⟨-, id, hid, hverified⟩
      · cases he
      · obtain rfl := UuidText.uuid.inj hid
        exact hverified.approvedAt hprofile
  have hlimited : Limited key tier start := by
    refine ⟨happroved, fun row hrow => ?_, within_ledger.mpr hstart.day⟩
    obtain ⟨row, hmem, rfl⟩ := List.mem_map.mp hrow
    exact hpast row hmem
  have hcapped : Capped key tier start := ⟨within_ledger.mpr hstart.month, within_ledger.mpr hstart.year⟩
  constructor
  · intro hrun
    exact within_ledger.mp (hrun.invariant (fun _ _ _ h hstep => h.step hstep) hlimited).day
  · intro hrun
    obtain ⟨hlimited, hcapped⟩ := hrun.invariant (P := fun s => Limited key tier s ∧ Capped key tier s)
      (fun _ _ _ h hstep => ⟨h.1.step hstep.1, h.2.step hstep.1 hstep.2⟩) ⟨hlimited, hcapped⟩
    exact ⟨within_ledger.mp hlimited.day, within_ledger.mp hcapped.month, within_ledger.mp hcapped.year⟩

/-- Without payments every limit is kept. -/
theorem withinLimits_nil (key : Uuid) (tier : ℚ) : WithinLimits key tier [] := by
  have hzero (period : Nat → Nat) {limit : ℚ} (h : 0 ≤ limit) : Within period key limit [] := fun _ =>
    amountFormat.value_zero.le.trans h
  have hlimits : 0 ≤ (getTierLimits tier).daily ∧ 0 ≤ (getTierLimits tier).monthly ∧ 0 ≤ (getTierLimits tier).annual := by
    unfold getTierLimits
    repeat' split
    all_goals norm_num
  exact ⟨hzero _ hlimits.1, hzero _ hlimits.2.1, hzero _ hlimits.2.2⟩

/-- A user with 20000 GXA and a profile. -/
def tierDb : PaymentDb := { submittedDb with users := fun key => if key = 3 then some ⟨none, 2000000000000, 0⟩ else none }

/-- The profile is verified at tier 1. -/
def tierVerifiedDb : PaymentDb := ((verifyKYCProfile (.uuid 11) 1).run [] tierDb Local.empty).2.1

/-- Two payments of 500 GXA a day. -/
def tierTurn (i : Nat) : Turn := ⟨i, i / 2 * 86400000000, i / 2 * 86400000000, none⟩

def tierPayment : PaymentRequest := ⟨.uuid 3, 500, none, none, .payment, none⟩

def tierPaidDb : Nat → PaymentDb
  | 0 => tierVerifiedDb
  | i + 1 => ((processPayment (tierTurn i) tierPayment).run [] (tierPaidDb i) Local.empty).2.1

/-- The database of each payment, at its time. -/
def tierWorld (i : Nat) : World := ⟨(tierTurn i).checked, tierPaidDb i⟩

theorem tier_verified : World.Step ⟨0, tierDb⟩ ⟨.verify (.uuid 11) 1, .ok ()⟩ (tierWorld 0) := by
  have hverified : ((verifyKYCProfile (.uuid 11) 1).run [] tierDb Local.empty).1 = .ok () := by decide +kernel
  exact hverified ▸ .verify (Nat.le_refl 0) (Async.exec_nil anySite (verifyKYCProfile (.uuid 11) 1) tierDb Local.empty)

/-- The payments up to 10500 GXA are all made. -/
theorem tier_paying {i : Nat} (h : i < 21) : Paying (tierWorld i) ⟨.process (tierTurn i) tierPayment, .ok ()⟩ (tierWorld (i + 1)) := by
  have hpaid : ∀ i < 21, ((processPayment (tierTurn i) tierPayment).run [] (tierPaidDb i) Local.empty).1.map (fun _ => ()) =
      .ok () := by decide +kernel
  have htime : (tierTurn i).begun ≤ (tierTurn (i + 1)).checked :=
    Nat.mul_le_mul_right _ (Nat.div_le_div_right (Nat.le_succ i))
  refine ⟨?_, tierTurn i, tierPayment, .ok (), rfl, rfl⟩
  rw [← hpaid i h]
  exact .process (Nat.le_refl _) (Nat.le_refl _) htime
    (Async.exec_nil anySite (processPayment (tierTurn i) tierPayment) (tierPaidDb i) Local.empty)

theorem tier_run {n : Nat} (h : n ≤ 21) : Machine.Run Paying (tierWorld 0)
    ((List.range n).map fun i => ⟨.process (tierTurn i) tierPayment, .ok ()⟩) (tierWorld n) := by
  induction n with
  | zero => exact .nil _
  | succ n ih =>
    rw [List.range_succ, List.map_append]
    exact (ih (Nat.le_of_succ_le h)).snoc (tier_paying h)

theorem tier_limits_kept_basic : WithinLimits 3 1 (tierWorld 1).db.token_transactions := by
  have hfits : Fits 3 1 (tierWorld 0) ⟨.process (tierTurn 0) tierPayment, .ok ()⟩ := by
    rintro turn request r he - -
    obtain ⟨rfl, rfl⟩ : tierTurn 0 = turn ∧ tierPayment = request := by simpa using (Performed.mk.inj he).1
    exact ⟨by decide +kernel, by decide +kernel⟩
  have hrun : Machine.Run (PayingWithin 3 1) (tierWorld 0) [⟨.process (tierTurn 0) tierPayment, .ok ()⟩] (tierWorld 1) :=
    .cons ⟨tier_paying (by decide), hfits⟩ (.nil _)
  have hprofile : ∃ p, profileOf tierDb 3 = some p ∧ p.id = 11 := ⟨gateBody.profileData.row 11 3, by decide +kernel, rfl⟩
  have hnone : (tierWorld 0).db.token_transactions = [] := by decide +kernel
  obtain ⟨p, hp, hid⟩ := hprofile
  exact (tier_limits_kept hp (hid ▸ tier_verified) (hnone ▸ fun _ h => (nomatch h)) (hnone ▸ withinLimits_nil 3 1)).2 hrun

/-- Approved at tier 1, a user pays 10500 GXA in eleven days of one month, 1000 at most on each. -/
theorem monthly_limit_exceeded : ∃ s history,
    World.Step ⟨0, tierDb⟩ ⟨.verify (.uuid 11) 1, .ok ()⟩ (tierWorld 0) ∧ (tierWorld 0).db.token_transactions = [] ∧
    Machine.Run Paying (tierWorld 0) history s ∧
    ¬ Within monthOf 3 (getTierLimits 1).monthly s.db.token_transactions := by
  refine ⟨tierWorld 21, _, tier_verified, by decide +kernel, tier_run (Nat.le_refl 21), fun h => ?_⟩
  have hmonth : ¬ parseFloat (total (paidIn monthOf 3 0) (tierWorld 21).db.token_transactions) ≤ (getTierLimits 1).monthly := by
    decide +kernel
  exact hmonth (h 0)

end GalaxiaAin.Payments
