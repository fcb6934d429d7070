import GalaxiaAin.Library.Machine
import GalaxiaAin.Payments.Bookkeeping

/-! Payments are KYC-gated: over every run of submissions, verifications and payments, what
is paid was paid by a user with an approval in force, within the limits of its tier. -/
namespace GalaxiaAin.Payments
open GalaxiaAin.Library

/-! ### Submissions and verifications -/

section Saving
variable {c : Unit} {db : PaymentDb} {profileId : Uuid} {userId : Option UuidText} {data : ProfileData}

/-- The profiles once a submission is saved: every profile of the user takes the data, and a
user without one gets one that is pending. -/
def Saved (data : ProfileData) (key : Uuid) (s t : PaymentDb) : Prop :=
  (t = { s with kyc_profiles := s.kyc_profiles.map fun p => if p.user_id = key then data.set p else p }) ∨
    ∃ profileId, profileOf s key = none ∧ t = { s with kyc_profiles := s.kyc_profiles ++ [data.row profileId key] }

theorem meets_updateProfile {key : Uuid} {p : KycProfile} (hp : profileOf db key = some p) :
    Meets ((updateProfile (some (.uuid key)) data).run c db)
      (fun o => ∃ p, o.1 = some p ∧ Saved data key db (o.2 db)) Plain := by
  refine meets_ok.mpr ⟨data.set p, ?_, .inl ?_⟩
  · simp only [Option.bind_some, hp, Option.map_some]
  · simp only [Option.some.injEq, eq_comm]

theorem meets_insertProfile {key : Option Uuid} (hnone : key.bind (profileOf db) = none) :
    Meets ((insertProfile profileId (key.map .uuid) data).run c db)
      (fun o => ∃ k p, key = some k ∧ o.1 = some p ∧ Saved data k db (o.2 db)) Plain := by
  cases key with
  | none => exact meets_error.mpr (by intro _ _ h; cases h)
  | some key =>
    simp only [insertProfile, Stmt.statement, readOptional, UuidText.read, Option.map_some, Except.map]
    split
    · exact meets_error.mpr (by intro _ _ h; cases h)
    · split
      · exact meets_error.mpr (by intro _ _ h; cases h)
      · exact meets_ok.mpr ⟨key, _, rfl, rfl, .inr ⟨profileId, hnone, rfl⟩⟩

theorem meets_selectExisting : Meets ((selectProfile userId).run c db)
    (fun o => o.2 db = db ∧ ∃ key : Option Uuid, userId = key.map .uuid ∧ o.1 = key.bind (profileOf db)) Plain :=
  Stmt.meets_selection (B := backend) (R := fun r t => t = db ∧ ∃ key : Option Uuid, userId = key.map .uuid ∧ r = key.bind (profileOf db)) <|
    (meets_readOptional userId).map fun key h => ⟨rfl, key, h, rfl⟩

theorem saveProfile_transacts {s : PaymentDb} : (saveProfile profileId userId data).Transacts anySite () s db
    (fun r t => ∃ key p, userId = some (.uuid key) ∧ r = some p ∧ Saved data key db t) Plain := by
  refine Async.transacts_bind (Async.transacts_query (R := fun r (t : PaymentDb) => t = db ∧ ∃ key : Option Uuid,
    userId = key.map .uuid ∧ r = key.bind (profileOf db)) meets_selectExisting raise_plain _) ?_
  rintro existing t ⟨rfl, key, rfl, rfl⟩
  split
  · rename_i hsome
    obtain ⟨p, hp⟩ := Option.isSome_iff_exists.mp hsome
    cases key with
    | none => cases hp
    | some key =>
      refine (Async.transacts_query (R := fun r (u : PaymentDb) => ∃ p, r = some p ∧ Saved data key t u)
        (meets_updateProfile hp) raise_plain _).mono fun r u hr => ?_
      obtain ⟨q, hq, hsaved⟩ := hr
      exact ⟨key, q, rfl, hq, hsaved⟩
  · rename_i hnone
    refine (Async.transacts_query (R := fun r (u : PaymentDb) => ∃ k p, key = some k ∧ r = some p ∧ Saved data k t u)
      (meets_insertProfile (by simpa using hnone)) raise_plain _).mono fun r u hr => ?_
    obtain ⟨k, p, rfl, hr, hsaved⟩ := hr
    exact ⟨k, p, rfl, hr, hsaved⟩

/-- A submission is saved when it is answered with the profile, and not at all otherwise. -/
theorem submitKyc_post (profileId : Uuid) (userId : Option UuidText) (body : KycSubmission) (s : PaymentDb) :
    (submitKyc profileId userId body).post anySite (fun r t _ => ((∃ e, r = .error e) ∧ t = s) ∨
      ((∃ p, r = .ok p) ∧ ∃ key, userId = some (.uuid key) ∧ Saved body.profileData key s t)) s Local.empty := by
  rw [submitKyc, Async.post_bind]
  refine Async.Transacts.committed saveProfile_transacts raise_plain (fun e _ => .inl ⟨⟨e, rfl⟩, rfl⟩) ?_ _ _ _ _
  rintro r t ⟨key, p, huser, rfl, hsaved⟩
  exact .inr ⟨⟨_, rfl⟩, key, huser, hsaved⟩

/-- The profiles once one of them is verified at a tier. -/
def Verified (id : Uuid) (tier : ℚ) (s t : PaymentDb) : Prop :=
  ∃ t' daily monthly annual single, amountFormat.assign (getTierLimits tier).daily = some daily ∧
    amountFormat.assign (getTierLimits tier).single = some single ∧ t = { s with
      kyc_profiles := s.kyc_profiles.map fun p => if p.id = id then p.verified t' daily monthly annual single else p }

theorem meets_readInteger (x : ℚ) : Meets (readInteger x) (fun _ => True) Plain := by
  unfold readInteger
  split
  · exact meets_ok.mpr trivial
  · exact meets_error.mpr (by intro _ _ h; cases h)

theorem meets_verifyProfile (kycProfileId : UuidText) (tier : ℚ) : Meets ((verifyProfile kycProfileId tier).run c db)
    (fun o => ∃ id, kycProfileId = .uuid id ∧ Verified id tier db (o.2 db)) Plain :=
  (meets_read _).bind fun id hid => (meets_readInteger _).bind fun t _ => (meets_assign _).bind fun daily hdaily =>
    (meets_assign _).bind fun monthly _ => (meets_assign _).bind fun annual _ => (meets_assign _).bind fun single hsingle =>
      meets_ok.mpr ⟨id, hid, t, daily, monthly, annual, single, hdaily, hsingle, rfl⟩

/-- A verification that succeeds is made, and one that fails is not. -/
theorem verifyKYCProfile_post (kycProfileId : UuidText) (tier : ℚ) (s : PaymentDb) :
    (verifyKYCProfile kycProfileId tier).post anySite (fun r t _ => ((∃ e, r = .error e) ∧ t = s) ∨
      (r = .ok () ∧ ∃ id, kycProfileId = .uuid id ∧ Verified id tier s t)) s Local.empty := by
  refine Async.Transacts.committed (Async.transacts_query (R := fun _ (t : PaymentDb) => ∃ id, kycProfileId = .uuid id ∧
    Verified id tier s t) (meets_verifyProfile _ _) raise_plain _) raise_plain (fun e _ => .inl ⟨⟨e, rfl⟩, rfl⟩) ?_ _ _ _ _
  exact fun _ t ht => .inr ⟨rfl, ht⟩

end Saving
/-! ### Runs -/

inductive ComplianceCall where
  | submit (profileId : Uuid) (userId : Option UuidText) (body : KycSubmission)
  | verify (kycProfileId : UuidText) (tier : ℚ)
  | process (turn : Turn) (request : PaymentRequest)

/-- A call and how it was answered. -/
structure Performed where
  call : ComplianceCall
  result : Except PaymentFailure Unit

structure World where
  now : Nat
  db : PaymentDb

/-- Calls one at a time, of whose database and remote calls any may fail; time passes, also
within a payment. -/
inductive World.Step : Machine World Performed
  | submit {s t : World} {profileId : Uuid} {userId : Option UuidText} {body : KycSubmission}
      {r : Except PaymentFailure SubmittedProfile} {l : Local backend} (htime : s.now ≤ t.now)
      (h : Async.Exec anySite (submitKyc profileId userId body) s.db Local.empty r t.db l) :
      World.Step s ⟨.submit profileId userId body, r.map fun _ => ()⟩ t
  | verify {s t : World} {kycProfileId : UuidText} {tier : ℚ} {r : Except PaymentFailure Unit} {l : Local backend}
      (htime : s.now ≤ t.now) (h : Async.Exec anySite (verifyKYCProfile kycProfileId tier) s.db Local.empty r t.db l) :
      World.Step s ⟨.verify kycProfileId tier, r⟩ t
  | process {s t : World} {turn : Turn} {request : PaymentRequest} {r : Except PaymentFailure Uuid} {l : Local backend}
      (hchecked : s.now ≤ turn.checked) (hbegun : turn.checked ≤ turn.begun) (htime : turn.begun ≤ t.now)
      (h : Async.Exec anySite (processPayment turn request) s.db Local.empty r t.db l) :
      World.Step s ⟨.process turn request, r.map fun _ => ()⟩ t

namespace Performed

/-- A submission of the user that was taken. -/
def Submits (key : Uuid) (e : Performed) : Prop :=
  ∃ profileId body, e = ⟨.submit profileId (some (.uuid key)) body, .ok ()⟩

/-- A verification of the profile that was made. -/
def Verifies (id : Uuid) (e : Performed) : Prop := ∃ tier, e = ⟨.verify (.uuid id) tier, .ok ()⟩

end Performed

/-- The profile was last verified at the tier, after the user's last submission. -/
def ApprovedSince (history : List Performed) (key id : Uuid) (tier : ℚ) : Prop :=
  ∃ before after, history = before ++ ⟨.verify (.uuid id) tier, .ok ()⟩ :: after ∧
    (∀ e ∈ after, ¬ e.Submits key) ∧ ∀ e ∈ after, ¬ e.Verifies id

theorem ApprovedSince.append {history : List Performed} {key id : Uuid} {tier : ℚ} (h : ApprovedSince history key id tier)
    {e : Performed} (hsubmit : ¬ e.Submits key) (hverify : ¬ e.Verifies id) : ApprovedSince (history ++ [e]) key id tier := by
  obtain ⟨before, after, rfl, hsubmits, hverifies⟩ := h
  refine ⟨before, after ++ [e], by simp only [List.append_assoc, List.cons_append], fun f hf => ?_, fun f hf => ?_⟩
  · rcases List.mem_append.mp hf with hf | hf
    · exact hsubmits f hf
    · exact List.mem_singleton.mp hf ▸ hsubmit
  · rcases List.mem_append.mp hf with hf | hf
    · exact hverifies f hf
    · exact List.mem_singleton.mp hf ▸ hverify

theorem approvedSince_verified (history : List Performed) (key id : Uuid) (tier : ℚ) :
    ApprovedSince (history ++ [⟨.verify (.uuid id) tier, .ok ()⟩]) key id tier :=
  ⟨history, [], rfl, fun _ h => (nomatch h), fun _ h => (nomatch h)⟩

/-- A profile that is approved has been since the user's last submission, and has the limits
of its tier. -/
def Backed (history : List Performed) (p : KycProfile) : Prop :=
  p.kyc_status = .approved → ∃ tier, ApprovedSince history p.user_id p.id tier ∧
    parseFloat p.daily_limit = (getTierLimits tier).daily ∧
    parseFloat p.single_transaction_limit = (getTierLimits tier).single

theorem Backed.append {history : List Performed} {p : KycProfile} (h : Backed history p) {e : Performed}
    (hsubmit : ¬ e.Submits p.user_id) (hverify : ¬ e.Verifies p.id) : Backed (history ++ [e]) p := by
  intro happroved
  obtain ⟨tier, hsince, hlimits⟩ := h happroved
  exact ⟨tier, hsince.append hsubmit hverify, hlimits⟩

/-- What holds along a run: approvals are backed, and nothing is booked in the future. -/
structure Gated (history : List Performed) (s : World) : Prop where
  backed : ∀ p ∈ s.db.kyc_profiles, Backed history p
  past : ∀ t ∈ s.db.ledger.transactions, t.created_at ≤ s.now

section Steps
variable {history : List Performed} {s t : World}

/-- Limits of a tier are stored as they are. -/
theorem getTierLimits_natCast (tier : ℚ) : ∃ daily single : Nat, (getTierLimits tier).daily = daily ∧
    (getTierLimits tier).single = single := by
  unfold getTierLimits
  split
  · exact ⟨1000, 500, by norm_num, by norm_num⟩
  split
  · exact ⟨10000, 5000, by norm_num, by norm_num⟩
  split
  · exact ⟨100000, 50000, by norm_num, by norm_num⟩
  split
  · exact ⟨1000000, 500000, by norm_num, by norm_num⟩
  · exact ⟨0, 0, by norm_num, by norm_num⟩

/-- The single limit of a tier is within its daily limit. -/
theorem getTierLimits_single (tier : ℚ) : (getTierLimits tier).single ≤ (getTierLimits tier).daily := by
  unfold getTierLimits
  repeat' split
  all_goals norm_num

theorem Gated.submit (h : Gated history s) {key : Uuid} {profileId : Uuid} {body : KycSubmission} (htime : s.now ≤ t.now)
    (hsaved : Saved body.profileData key s.db t.db) :
    Gated (history ++ [⟨.submit profileId (some (.uuid key)) body, .ok ()⟩]) t := by
  have hother (p : KycProfile) (hp : Backed history p) (hne : p.user_id ≠ key) :
      Backed (history ++ [⟨.submit profileId (some (.uuid key)) body, .ok ()⟩]) p := by
    refine hp.append ?_ ?_
    · rintro ⟨_, _, he⟩
      simp only [Performed.mk.injEq, ComplianceCall.submit.injEq, Option.some.injEq, UuidText.uuid.injEq] at he
      exact hne he.1.2.1.symm
    · rintro ⟨_, he⟩
      simp at he
  have hpending (p : KycProfile) (hp : p.kyc_status = .pending) {history : List Performed} : Backed history p := by
    intro happroved
    rw [hp] at happroved
    cases happroved
  have hpast (hrows : t.db.token_transactions = s.db.token_transactions) : ∀ row ∈ t.db.ledger.transactions,
      row.created_at ≤ t.now := by
    intro row hrow
    rw [PaymentDb.ledger, hrows] at hrow
    exact (h.past row hrow).trans htime
  rcases hsaved with hdb | ⟨profileId', hnone, hdb⟩
  · refine ⟨fun p hp => ?_, hpast (by rw [hdb])⟩
    rw [hdb] at hp
    obtain ⟨q, hq, rfl⟩ := List.mem_map.mp hp
    split
    · exact hpending _ rfl
    · exact hother q (h.backed q hq) ‹_›
  · refine ⟨fun p hp => ?_, hpast (by rw [hdb])⟩
    rw [hdb] at hp
    rcases List.mem_append.mp hp with hp | hp
    · refine hother p (h.backed p hp) fun heq => ?_
      exact absurd (beq_iff_eq.mpr heq) (by simpa using List.find?_eq_none.mp hnone p hp)
    · obtain rfl := List.mem_singleton.mp hp
      exact hpending _ rfl

theorem Gated.verify (h : Gated history s) {id : Uuid} {tier : ℚ} (htime : s.now ≤ t.now)
    (hverified : Verified id tier s.db t.db) : Gated (history ++ [⟨.verify (.uuid id) tier, .ok ()⟩]) t := by
  obtain ⟨t', daily, monthly, annual, single, hdaily, hsingle, hdb⟩ := hverified
  constructor
  · intro p hp
    rw [hdb] at hp
    obtain ⟨q, hq, rfl⟩ := List.mem_map.mp hp
    split
    · rename_i hid
      obtain ⟨m, n, hm, hn⟩ := getTierLimits_natCast tier
      rw [hm] at hdaily
      rw [hn] at hsingle
      refine fun _ => ⟨tier, ?_, ?_, ?_⟩
      · exact hid ▸ approvedSince_verified history q.user_id q.id tier
      · exact (amountFormat.value_assign_natCast hdaily).trans hm.symm
      · exact (amountFormat.value_assign_natCast hsingle).trans hn.symm
    · rename_i hid
      refine (h.backed q hq).append (by rintro ⟨_, _, he⟩; simp at he) ?_
      rintro ⟨_, he⟩
      simp only [Performed.mk.injEq, ComplianceCall.verify.injEq, UuidText.uuid.injEq] at he
      exact hid he.1.1.symm
  · intro row hrow
    rw [PaymentDb.ledger, hdb] at hrow
    exact (h.past row hrow).trans htime

/-- A call that leaves the ledger as it is, and neither submits nor verifies. -/
theorem Gated.idle (h : Gated history s) {e : Performed} (htime : s.now ≤ t.now) (hledger : t.db.ledger = s.db.ledger)
    (hsubmit : ∀ key, ¬ e.Submits key) (hverify : ∀ id, ¬ e.Verifies id) : Gated (history ++ [e]) t := by
  constructor
  · intro p hp
    have hp : p ∈ t.db.ledger.profiles := hp
    rw [hledger] at hp
    exact (h.backed p hp).append (hsubmit _) (hverify _)
  · intro row hrow
    rw [hledger] at hrow
    exact (h.past row hrow).trans htime

theorem Gated.process (h : Gated history s) {turn : Turn} {request : PaymentRequest} (htime : s.now ≤ t.now)
    (hbegun : turn.begun ≤ t.now) (hbooks : Books turn request s.db.ledger t.db.ledger) :
    Gated (history ++ [⟨.process turn request, .ok ()⟩]) t := by
  obtain ⟨hprofiles, key, nodeId, taskId, amount, -, -, hrows⟩ := hbooks.recorded
  constructor
  · intro p hp
    have hp : p ∈ t.db.ledger.profiles := hp
    rw [hprofiles] at hp
    exact (h.backed p hp).append (by rintro ⟨_, _, he⟩; simp at he) (by rintro ⟨_, he⟩; simp at he)
  · intro row hrow
    rw [hrows] at hrow
    rcases List.mem_append.mp hrow with hrow | hrow
    · exact (h.past row hrow).trans htime
    · obtain rfl := List.mem_singleton.mp hrow
      exact hbegun

/-- Every step keeps what holds along a run. -/
theorem Gated.step (h : Gated history s) {e : Performed} (hstep : World.Step s e t) : Gated (history ++ [e]) t := by
  cases hstep with
  | @submit _ _ profileId userId body r l htime hexec =>
    rcases hexec.sound (submitKyc_post profileId userId body s.db) with ⟨⟨e, rfl⟩, hdb⟩ | ⟨⟨p, rfl⟩, key, rfl, hsaved⟩
    · refine h.idle htime (by rw [hdb]) ?_ ?_
      · rintro _ ⟨_, _, he⟩
        simp [Except.map] at he
      · rintro _ ⟨_, he⟩
        simp at he
    · exact h.submit htime hsaved
  | @verify _ _ kycProfileId tier r l htime hexec =>
    rcases hexec.sound (verifyKYCProfile_post kycProfileId tier s.db) with ⟨⟨e, rfl⟩, hdb⟩ | ⟨rfl, id, rfl, hverified⟩
    · refine h.idle htime (by rw [hdb]) ?_ ?_
      · rintro _ ⟨_, _, he⟩
        simp at he
      · rintro _ ⟨_, he⟩
        simp at he
    · exact h.verify htime hverified
  | @process _ _ turn request r l hchecked hbegun htime hexec =>
    have hnow := hchecked.trans (hbegun.trans htime)
    rcases (hexec.sound (processPayment_post turn request s.db)).1 with ⟨e, rfl, -, hdb⟩ | ⟨rfl, -, hbooks⟩
    · refine h.idle hnow (by rw [hdb]) ?_ ?_
      · rintro _ ⟨_, _, he⟩
        simp at he
      · rintro _ ⟨_, he⟩
        simp at he
    · exact h.process hnow htime hbooks

end Steps
/-- The day's payments of a user once a cleared payment is booked; also when the day has
changed between the check and the transaction, as nothing of the new day was paid yet. -/
theorem paid_within {s t : Ledger} {turn : Turn} {key : Uuid} {nodeId taskId : Option Uuid} {amount single daily : Int}
    {request : PaymentRequest} (htype : request.transaction_type = .payment)
    (hamount : amountFormat.assign request.amount = some amount)
    (hrows : t.transactions = s.transactions ++ [transactionRow turn request (some key) nodeId taskId amount])
    (hpast : ∀ row ∈ s.transactions, row.created_at ≤ turn.checked) (hbegun : turn.checked ≤ turn.begun)
    (hsingle : request.amount ≤ parseFloat single) (hle : single ≤ daily)
    (hdaily : parseFloat (total (paidOn key (date turn.checked)) s.transactions) + request.amount ≤ parseFloat daily) :
    total (paidOn key (date turn.begun)) t.transactions ≤ daily := by
  have hcounted : paidOn key (date turn.begun) (transactionRow turn request (some key) nodeId taskId amount) = true := by
    simp [paidOn, transactionRow, htype]
  rw [hrows, total_append, if_pos hcounted]
  change total _ _ + amount ≤ daily
  by_cases hday : date turn.begun = date turn.checked
  · have hfits : request.amount ≤
        amountFormat.value (daily - total (paidOn key (date turn.checked)) s.transactions) := by
      rw [← amountFormat.value_sub]
      simp only [parseFloat] at hdaily
      linarith
    have := amountFormat.assign_le hamount hfits
    rw [hday]
    omega
  · have hnone : total (paidOn key (date turn.begun)) s.transactions = 0 := by
      have : s.transactions.filter (paidOn key (date turn.begun)) = [] := by
        refine List.filter_eq_nil_iff.mpr fun row hrow hcounted => hday ?_
        simp only [paidOn, Bool.and_eq_true, beq_iff_eq] at hcounted
        have hbefore : date row.created_at ≤ date turn.checked := Nat.div_le_div_right (hpast row hrow)
        have hafter : date turn.checked ≤ date turn.begun := Nat.div_le_div_right hbegun
        omega
      rw [total, this]
      rfl
    have := amountFormat.assign_le hamount hsingle
    omega

/-- In every run from a state without profiles: a payment that fails does not fail by the
separate check of its amount and changes nothing; and a payment of a positive amount that
succeeds is one of a user with a profile approved since the last submission, within the
single and the daily limit of the tier it was approved at. -/
theorem payments_kyc_gated {start s t : World} {history : List Performed} {turn : Turn} {request : PaymentRequest}
    {r : Except PaymentFailure Unit} (hprofiles : start.db.kyc_profiles = [])
    (hpast : ∀ row ∈ start.db.token_transactions, row.created_at ≤ start.now)
    (hrun : Machine.Run World.Step start history s) (hstep : World.Step s ⟨.process turn request, r⟩ t) :
    (∀ e, r = .error e → (∀ amount limit, e ≠ .singleTransactionLimit amount limit) ∧ t.db = s.db) ∧
    (r = .ok () → request.transaction_type = .payment → 0 < request.amount →
      ∃ key p tier, request.user_id = .uuid key ∧ profileOf s.db key = some p ∧ ApprovedSince history key p.id tier ∧
        request.amount ≤ (getTierLimits tier).single ∧
        parseFloat (total (paidOn key (date turn.begun)) t.db.token_transactions) ≤ (getTierLimits tier).daily) := by
  have hstart : Gated [] start := by
    refine ⟨fun p hp => ?_, fun row hrow => ?_⟩
    · rw [hprofiles] at hp
      cases hp
    · obtain ⟨row, hmem, rfl⟩ := List.mem_map.mp hrow
      exact hpast row hmem
  have hgated : Gated history s := hrun.history (fun _ _ _ _ h hstep => h.step hstep) hstart
  cases hstep with
  | @process _ _ _ _ r l hchecked hbegun htime hexec =>
  rcases (hexec.sound (processPayment_post turn request s.db)).1 with ⟨e, rfl, hplain, hdb⟩ | ⟨rfl, hcleared, hbooks⟩
  · refine ⟨fun e' he => ?_, fun he => (nomatch he)⟩
    obtain rfl : e = e' := Except.error.inj he
    exact ⟨hplain, hdb⟩
  · refine ⟨fun e he => (nomatch he), fun _ htype hamount => ?_⟩
    obtain ⟨-, key, nodeId, taskId, amount, huser, hassign, hrows⟩ := hbooks.recorded
    obtain ⟨p, hp, happroved, hsingle, hdaily⟩ := hcleared key huser htype hamount
    have hmem : p ∈ s.db.kyc_profiles := List.mem_of_find?_eq_some hp
    have hkey : p.user_id = key := by simpa using List.find?_some hp
    obtain ⟨tier, hsince, hdailyLimit, hsingleLimit⟩ := hgated.backed p hmem happroved
    have hle : parseFloat p.single_transaction_limit ≤ parseFloat p.daily_limit := by
      rw [hdailyLimit, hsingleLimit]
      exact getTierLimits_single tier
    refine ⟨key, p, tier, huser, hp, hkey ▸ hsince, hsingleLimit ▸ hsingle, ?_⟩
    have hwithin := paid_within htype hassign hrows (fun row hrow => (hgated.past row hrow).trans hchecked) hbegun hsingle
      (amountFormat.value_le.mp hle) (hdaily (hamount.trans_le (hsingle.trans hle)))
    rw [← hdailyLimit]
    refine amountFormat.value_le.mpr ?_
    rwa [PaymentDb.ledger, total_booked fun _ => rfl] at hwithin

/-- A user with 1000 GXA and no profile. -/
def gateDb : PaymentDb where
  users := fun key => if key = 3 then some ⟨none, 100000000000, 0⟩ else none
  nodes := fun _ => none
  tasks := []
  token_transactions := []
  direct_payments := []
  kyc_profiles := []
  user_jurisdictions := []
  compliance_config := []
  travel_rule_records := []
  audit_logs := []

def gateBody : KycSubmission := ⟨none, none, none, none, none, none, none⟩

def gatePayment : PaymentRequest := ⟨.uuid 3, 100, none, none, .payment, none⟩

/-- The user submits a profile, which is verified at tier 1. -/
def gateHistory : List Performed := [⟨.submit 11 (some (.uuid 3)) gateBody, .ok ()⟩, ⟨.verify (.uuid 11) 1, .ok ()⟩]

/-- The step of a payment whose calls are all served. -/
theorem World.step_served (db : PaymentDb) (turn : Turn) (request : PaymentRequest) (h : turn.checked ≤ turn.begun) :
    World.Step ⟨turn.checked, db⟩
      ⟨.process turn request, ((processPayment turn request).run [] db Local.empty).1.map fun _ => ()⟩
      ⟨turn.begun, ((processPayment turn request).run [] db Local.empty).2.1⟩ :=
  .process (Nat.le_refl _) h (Nat.le_refl _) (Async.exec_nil anySite (processPayment turn request) db Local.empty)

/-- The database once the profile is submitted, and once it is verified. -/
def submittedDb : PaymentDb := ((submitKyc 11 (some (.uuid 3)) gateBody).run [] gateDb Local.empty).2.1
def verifiedDb : PaymentDb := ((verifyKYCProfile (.uuid 11) 1).run [] submittedDb Local.empty).2.1

theorem payments_kyc_gated_basic : ∃ t : World, Machine.Run World.Step ⟨0, gateDb⟩ gateHistory ⟨0, verifiedDb⟩ ∧
    World.Step ⟨0, verifiedDb⟩ ⟨.process ⟨1, 0, 0, none⟩ gatePayment, .ok ()⟩ t ∧
    ∃ key p tier, gatePayment.user_id = .uuid key ∧ profileOf verifiedDb key = some p ∧
      ApprovedSince gateHistory key p.id tier ∧ gatePayment.amount ≤ (getTierLimits tier).single ∧
      parseFloat (total (paidOn key (date 0)) t.db.token_transactions) ≤ (getTierLimits tier).daily := by
  have hsubmitted : ((submitKyc 11 (some (.uuid 3)) gateBody).run [] gateDb Local.empty).1.map (fun _ => ()) = .ok () := by
    decide +kernel
  have hverified : ((verifyKYCProfile (.uuid 11) 1).run [] submittedDb Local.empty).1 = .ok () := by decide +kernel
  have hpaid : ((processPayment ⟨1, 0, 0, none⟩ gatePayment).run [] verifiedDb Local.empty).1.map (fun _ => ()) = .ok () := by
    decide +kernel
  have hsubmit : World.Step ⟨0, gateDb⟩ ⟨.submit 11 (some (.uuid 3)) gateBody, .ok ()⟩ ⟨0, submittedDb⟩ :=
    hsubmitted ▸ .submit (Nat.le_refl 0) (Async.exec_nil anySite (submitKyc 11 (some (.uuid 3)) gateBody) gateDb Local.empty)
  have hverify : World.Step ⟨0, submittedDb⟩ ⟨.verify (.uuid 11) 1, .ok ()⟩ ⟨0, verifiedDb⟩ :=
    hverified ▸ .verify (Nat.le_refl 0) (Async.exec_nil anySite (verifyKYCProfile (.uuid 11) 1) submittedDb Local.empty)
  have hprocess := World.step_served verifiedDb ⟨1, 0, 0, none⟩ gatePayment (Nat.le_refl 0)
  rw [hpaid] at hprocess
  have hrun : Machine.Run World.Step ⟨0, gateDb⟩ gateHistory ⟨0, verifiedDb⟩ := .cons hsubmit (.cons hverify (.nil _))
  have hprofiles : (⟨0, gateDb⟩ : World).db.kyc_profiles = [] := rfl
  have hgate := payments_kyc_gated hprofiles (fun _ h => (nomatch h)) hrun hprocess
  exact ⟨_, hrun, hprocess, hgate.2 rfl rfl (by decide +kernel)⟩

end GalaxiaAin.Payments
