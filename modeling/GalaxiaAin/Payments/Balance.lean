import GalaxiaAin.Library.Made
import GalaxiaAin.Payments.Reconciliation

/-! What a user can spend: `getUserBalance` reads the books and asks the GXA service. -/
namespace GalaxiaAin.Payments
open GalaxiaAin.Library

/-- The internal balance with what the service has for the wallet, or alone when the service
fails or its answer has no data; none is NaN. -/
def addGXABalance (internalBalance : ℚ) : Option Text → Async backend (Option ℚ)
  | none => pure (some internalBalance)
  | some wallet =>
    Async.handle (do
      match ← getBalance wallet with
      | none => throw PaymentFailure.typeError
      | some gxaBalance => pure (gxaBalance.available.map (internalBalance + ·))) fun _ => pure (some internalBalance)

/-- `walletAddress || row.wallet_address`. -/
def userWallet (walletAddress : Option Text) (row : Option User) : Option Text :=
  truthy (truthy walletAddress <|> row.bind (·.wallet_address))

/-- A user without a row has nothing of their own. -/
def balanceOf (walletAddress : Option Text) : Option User → Async backend (Option ℚ)
  | none => addGXABalance 0 (truthy walletAddress)
  | some user => addGXABalance (parseFloat user.token_balance) (userWallet walletAddress user)

def getUserBalance (userId : UuidText) (walletAddress : Option Text) : Async backend (Option ℚ) :=
  Async.withClient .connect do
    balanceOf walletAddress (← Async.query .selectUser (selectUser userId))

/-- The sums of the user's completed transactions. -/
def bookedFor (s : PaymentDb) (key : Uuid) : Int :=
  total (byUser .deposit key) s.token_transactions + total (byUser .refund key) s.token_transactions -
    total (byUser .payment key) s.token_transactions

/-- What the service adds for a wallet, as it answers; none where it reports no number. -/
def gxaAvailable (answer : Site → Answer backend) : Option Text → Option ℚ
  | none => some 0
  | some wallet =>
    match answer .gxaBalance with
    | .fault _ => some 0
    | .done reply => ((reply (.gxaBalance wallet) : Option GXABalance).map (·.available)).getD (some 0)

section
variable {answer : Site → Answer backend} {s : PaymentDb} {l : Local backend} {before : List Remote}

theorem tells_addGXABalance (internalBalance : ℚ) (wallet : Option Text) :
    (addGXABalance internalBalance wallet).Tells answer
      (fun r t l' _ => r = .ok ((gxaAvailable answer wallet).map (internalBalance + ·)) ∧ t = s ∧ l' = l) s l before := by
  cases wallet with
  | none => exact ⟨by simp [gxaAvailable], rfl, rfl⟩
  | some wallet =>
    rw [addGXABalance, Async.tells_handle, Async.tells_bind, getBalance, Async.tells_handle]
    refine Async.tells_call (fun reply hreply => ?_) fun f hfault => ?_
    · obtain ⟨data, hdata⟩ : ∃ data : Option GXABalance, reply (.gxaBalance wallet) = data := ⟨_, rfl⟩
      simp only [Call.serve]
      rw [hdata]
      cases data with
      | none => exact ⟨by simp [gxaAvailable, hreply, hdata], rfl, rfl⟩
      | some gxaBalance => exact ⟨by simp [gxaAvailable, hreply, hdata], rfl, rfl⟩
    · cases hanswer : answer .gxaBalance with
      | done reply => exact absurd hfault (by rw [hanswer]; exact id)
      | fault _ => exact ⟨by simp [gxaAvailable, hanswer], rfl, rfl⟩

theorem truthy_truthy (t : Option Text) : truthy (truthy t) = truthy t := by
  cases t with
  | none => rfl
  | some t => by_cases h : t = [] <;> simp [truthy, h]

/-- What a balance comes to, whichever calls fail. -/
theorem tells_getUserBalance (key : Uuid) (walletAddress : Option Text) :
    (getUserBalance (.uuid key) walletAddress).Tells answer (fun r t l' _ => t = s ∧ l' = l ∧
      ((∃ e, r = .error e) ↔ (answer .connect).Faulty ∨ (answer .selectUser).Faulty) ∧ ∀ balance, r = .ok balance →
        balance = (gxaAvailable answer (userWallet walletAddress (s.users key))).map
          ((((s.users key).map fun u => parseFloat u.token_balance).getD 0) + ·)) s l before := by
  rw [getUserBalance]
  refine Async.tells_withClient (fun hconnect => ?_) fun f hfault =>
    ⟨rfl, rfl, iff_of_true ⟨_, rfl⟩ (.inl hfault), fun _ h => by cases h⟩
  rw [Async.tells_bind, Async.query]
  refine Async.tells_call (fun reply hreply => ?_) fun f hfault =>
    ⟨rfl, rfl, iff_of_true ⟨_, rfl⟩ (.inr hfault), fun _ h => by cases h⟩
  have hselect : ¬ (answer .selectUser).Faulty := by
    rw [hreply]
    exact id
  have hserved : ¬ ((answer .connect).Faulty ∨ (answer .selectUser).Faulty) := not_or.mpr ⟨hconnect, hselect⟩
  have hok (b : Option ℚ) : ¬ ∃ e, (Except.ok b : Except PaymentFailure (Option ℚ)) = .error e := by
    rintro ⟨e, he⟩
    cases he
  change (balanceOf walletAddress (s.users key)).Tells answer _ s ⟨.idle :: l.sessions, l.out⟩ _
  cases huser : s.users key with
  | none =>
    refine Async.tells_mono (tells_addGXABalance 0 (truthy walletAddress)) fun r t l' m h => ?_
    obtain ⟨rfl, rfl, rfl⟩ := h
    refine ⟨rfl, rfl, iff_of_false (hok _) hserved, fun balance hb => ?_⟩
    rw [← Except.ok.inj hb]
    simp [userWallet, truthy_truthy]
  | some user =>
    refine Async.tells_mono (tells_addGXABalance _ _) fun r t l' m h => ?_
    obtain ⟨rfl, rfl, rfl⟩ := h
    refine ⟨rfl, rfl, iff_of_false (hok _) hserved, fun balance hb => ?_⟩
    rw [← Except.ok.inj hb]
    rfl

end

/-- The balance on a user's row is what is booked for the user, and nothing is for a user
without a row. -/
theorem Balanced.internal {s : PaymentDb} (h : Balanced s.ledger) (key : Uuid) :
    ((s.users key).map fun u => parseFloat u.token_balance).getD 0 = parseFloat (bookedFor s key) := by
  have hbooked (counted : TokenTransaction → Bool) (hc : ∀ t, counted t.booked = counted t) :
      total counted s.ledger.transactions = total counted s.token_transactions := total_booked hc _
  cases huser : s.users key with
  | none =>
    have hnone (type : TransactionType) : total (byUser type key) s.token_transactions = 0 := by
      rw [← hbooked _ fun _ => rfl]
      exact h.total_absent huser type
    rw [bookedFor, hnone, hnone, hnone]
    simp [parseFloat, amountFormat.value_zero]
  | some user =>
    have hbalance := h.balance key user huser
    rw [hbooked _ fun _ => rfl, hbooked _ fun _ => rfl, hbooked _ fun _ => rfl] at hbalance
    simp [bookedFor, hbalance]

end GalaxiaAin.Payments
