import GalaxiaAin.Issuance.Steps

/-! Mints of an active offering: how much of it is held, by how many, and by whom. Neither
the supply nor the number of holders nor the expiry of an accreditation is looked at. -/
namespace GalaxiaAin.Issuance
open GalaxiaAin.Library

def holdingsOf (offeringId : Text) (s : IssuanceDb) : List HoldingRow :=
  s.token_holdings.filter fun h => h.offering_id == offeringId

/-- The sum of token_amount over the holdings of the offering. -/
def held (offeringId : Text) (s : IssuanceDb) : Int := ((holdingsOf offeringId s).map (·.token_amount)).sum

/-- The distinct investors holding the offering. -/
def holders (offeringId : Text) (s : IssuanceDb) : List Text := ((holdingsOf offeringId s).map (·.investor_id)).dedup

/-- `maxHolders`, when it is set. -/
def MaxHolders (o : OfferingRow) (n : Nat) : Prop :=
  o.transfer_restrictions.get (units "maxHolders") = some (.num (.ofNat n))

/-- An accreditation that is present and not past its expiry. -/
def CurrentlyAccredited (now : Nat) (i : Option InvestorRow) : Prop :=
  accredited i = true ∧ ∀ row e, i = some row → row.accreditation_expires_at = some e → now ≤ e

/-- A mint as it was made: the holding, the time, and the investor's row then. -/
structure MintRecord where
  holding : HoldingRow
  now : Nat
  investor : Option InvestorRow

/-- The tables, and beside them what was minted so far. -/
structure MintWorld where
  db : IssuanceDb
  minted : List MintRecord

/-- Calls one at a time; a mint that leaves a holding is noted. -/
inductive MintWorld.Step : Machine MintWorld Performed
  | mint {w : MintWorld} {t : IssuanceDb} {turn : MintTurn} {request : TokenMintRequest} {r : Except IssuanceFailure Unit}
      (h : IssuanceDb.Step w.db ⟨.mintTokens turn request, r⟩ t) : MintWorld.Step w ⟨.mintTokens turn request, r⟩
        ⟨t, w.minted ++ (t.token_holdings.drop w.db.token_holdings.length).map fun holding =>
          ⟨holding, turn.now, investorOf request.investorId w.db⟩⟩
  | verify {w : MintWorld} {t : IssuanceDb} {turn : VerificationTurn} {request : AccreditationRequest}
      {r : Except IssuanceFailure Unit} (h : IssuanceDb.Step w.db ⟨.verifyAccreditation turn request, r⟩ t) :
      MintWorld.Step w ⟨.verifyAccreditation turn request, r⟩ ⟨t, w.minted⟩

/-- The offering is on record, and its mints respect it. -/
structure Respected (o : OfferingRow) (w : MintWorld) : Prop where
  recorded : offeringOf o.offering_id w.db = some o
  supply : held o.offering_id w.db ≤ o.total_supply
  limited : ∀ n, MaxHolders o n → (holders o.offering_id w.db).length ≤ n
  accredited : accreditedOnly (restrictionsOf (some o)) = true →
    ∀ m ∈ w.minted, m.holding.offering_id = o.offering_id → CurrentlyAccredited m.now m.investor

/-- A mint of the offering asks for what is left of the supply, is for an investor who holds
it already or leaves room below the limit, and comes before the accreditation expires. -/
def WithinOffering (o : OfferingRow) (w : MintWorld) : IssuanceCall → Prop
  | .mintTokens turn request => request.offeringId = o.offering_id →
    (∀ amount, tokenFormat.assign request.tokenAmount = some amount → held o.offering_id w.db + amount ≤ o.total_supply) ∧
    (∀ n, MaxHolders o n → (∃ i, investorOf request.investorId w.db = some i ∧ i.investor_id ∈ holders o.offering_id w.db) ∨
      (holders o.offering_id w.db).length < n) ∧
    (accreditedOnly (restrictionsOf (some o)) = true → ∀ i e, investorOf request.investorId w.db = some i →
      i.accreditation_expires_at = some e → turn.now ≤ e)
  | _ => True

/-- The row that is made, of values that the columns take. -/
theorem holdingRow_made {turn : MintTurn} {request : TokenMintRequest} {investorId : Text} {restrictions : Json}
    {row : HoldingRow} (h : holdingRow turn request investorId restrictions = .ok row) :
    ∃ amount price lockup, tokenFormat.assign request.tokenAmount = some amount ∧
      validDate (lockupEndDate turn.now request.lockupPeriod) = .ok lockup ∧
      row = ⟨turn.holdingId, request.offeringId, investorId, amount, price, request.purchaseDate.getD turn.now,
        vestingRow request, lockup, restrictions, request.walletAddress⟩ := by
  unfold holdingRow assign at h
  cases ha : tokenFormat.assign request.tokenAmount with
  | none => rw [ha] at h; cases h
  | some amount =>
    cases hp : priceFormat.assign request.purchasePrice with
    | none => rw [ha, hp] at h; cases h
    | some price =>
      rw [ha, hp] at h
      cases hd : validDate (lockupEndDate turn.now request.lockupPeriod) with
      | error e => rw [hd] at h; cases h
      | ok lockup =>
        rw [hd] at h
        cases h
        exact ⟨amount, price, lockup, rfl, rfl, rfl⟩

theorem holdingRow_ok {turn : MintTurn} {request : TokenMintRequest} {investorId : Text} {restrictions : Json}
    {row : HoldingRow} (h : holdingRow turn request investorId restrictions = .ok row) :
    row.offering_id = request.offeringId ∧ row.investor_id = investorId ∧
      tokenFormat.assign request.tokenAmount = some row.token_amount := by
  obtain ⟨amount, price, lockup, hamount, -, rfl⟩ := holdingRow_made h
  exact ⟨rfl, rfl, hamount⟩

section
variable {o : OfferingRow} {s t : IssuanceDb}

/-- A holding of another offering counts for nothing. -/
theorem holdingsOf_other {offeringId : Text} {row : HoldingRow} (h : row.offering_id ≠ offeringId)
    (ht : t.token_holdings = s.token_holdings ++ [row]) : holdingsOf offeringId t = holdingsOf offeringId s := by
  rw [holdingsOf, ht, List.filter_append, List.filter_cons_of_neg (by simpa using h), List.filter_nil, List.append_nil]
  rfl

theorem holdingsOf_minted {offeringId : Text} {row : HoldingRow} (h : row.offering_id = offeringId)
    (ht : t.token_holdings = s.token_holdings ++ [row]) : holdingsOf offeringId t = holdingsOf offeringId s ++ [row] := by
  rw [holdingsOf, ht, List.filter_append, List.filter_cons_of_pos (by simpa using h), List.filter_nil]
  rfl

/-- One more holding adds one holder at most, and none when the investor holds already. -/
theorem holders_minted {offeringId : Text} {row : HoldingRow} (h : row.offering_id = offeringId)
    (ht : t.token_holdings = s.token_holdings ++ [row]) :
    (holders offeringId t).length ≤ (holders offeringId s).length + 1 ∧
      (row.investor_id ∈ holders offeringId s → (holders offeringId t).length = (holders offeringId s).length) := by
  have hperm : (holders offeringId t).Perm ((row.investor_id :: (holdingsOf offeringId s).map (·.investor_id)).dedup) := by
    rw [holders, holdingsOf_minted h ht, List.map_append]
    exact List.Perm.dedup (List.perm_append_singleton _ _)
  rw [hperm.length_eq]
  by_cases hmem : row.investor_id ∈ (holdingsOf offeringId s).map (·.investor_id)
  · rw [List.dedup_cons_of_mem hmem]
    exact ⟨Nat.le_succ _, fun _ => rfl⟩
  · rw [List.dedup_cons_of_notMem hmem]
    refine ⟨Nat.le_refl _, fun hh => absurd (List.mem_dedup.mp hh) hmem⟩

theorem Respected.mint {w : MintWorld} (h : Respected o w) {turn : MintTurn} {request : TokenMintRequest}
    (hg : WithinOffering o w (.mintTokens turn request)) (hm : Minted turn request w.db t) :
    Respected o ⟨t, w.minted ++ (t.token_holdings.drop w.db.token_holdings.length).map fun holding =>
      ⟨holding, turn.now, investorOf request.investorId w.db⟩⟩ := by
  obtain ⟨o', row, investorId, investors, ho', hactive, hneeded, hholder, hrow, ht⟩ := hm
  obtain ⟨hoffering, hinvestor, hamount⟩ := holdingRow_ok hrow
  have hholdings : t.token_holdings = w.db.token_holdings ++ [row] := by rw [ht]
  have hnew : t.token_holdings.drop w.db.token_holdings.length = [row] := by
    rw [hholdings, List.drop_left]
  have hofferings : t.offerings = w.db.offerings := by rw [ht]
  have hrecorded : offeringOf o.offering_id t = some o := by
    rw [offeringOf, hofferings]
    exact h.recorded
  by_cases hid : request.offeringId = o.offering_id
  · obtain ⟨hsupply, hlimit, hexpiry⟩ := hg hid
    have hrowid : row.offering_id = o.offering_id := hoffering.trans hid
    have ho : o' = o := by
      rw [hid, h.recorded] at ho'
      exact (Option.some.inj ho').symm
    subst ho
    refine ⟨hrecorded, ?_, fun n hn => ?_, fun honly m hmem hmo => ?_⟩
    · have hsum : held o'.offering_id t = held o'.offering_id w.db + row.token_amount := by
        rw [held, holdingsOf_minted hrowid hholdings, List.map_append, List.sum_append]
        simp [held]
      rw [hsum]
      exact hsupply _ hamount
    · obtain ⟨hmore, hsame⟩ := holders_minted hrowid hholdings
      rcases hlimit n hn with ⟨i, hi, hmem⟩ | hroom
      · have hknown : row.investor_id = i.investor_id := by
          rw [hinvestor]
          cases hholder with
          | known hi' => rw [hi] at hi'; rw [Option.some.inj hi']
          | created hnone => rw [hi] at hnone; cases hnone
        rw [hsame (hknown ▸ hmem)]
        exact h.limited n hn
      · exact hmore.trans hroom
    · rw [hnew] at hmem
      rcases List.mem_append.mp hmem with hmem | hmem
      · exact h.accredited honly m hmem hmo
      · obtain rfl := List.mem_singleton.mp hmem
        exact ⟨hneeded honly, fun i e hi he => hexpiry honly i e hi he⟩
  · have hother : row.offering_id ≠ o.offering_id := fun he => hid (hoffering.symm.trans he)
    have hkeep := holdingsOf_other hother hholdings
    refine ⟨hrecorded, ?_, fun n hn => ?_, fun honly m hmem hmo => ?_⟩
    · rw [held, hkeep]
      exact h.supply
    · rw [holders, hkeep]
      exact h.limited n hn
    · rw [hnew] at hmem
      rcases List.mem_append.mp hmem with hmem | hmem
      · exact h.accredited honly m hmem hmo
      · obtain rfl := List.mem_singleton.mp hmem
        exact absurd hmo hother

theorem Respected.step {w w' : MintWorld} (h : Respected o w) {e : Performed} (hg : WithinOffering o w e.call)
    (hstep : MintWorld.Step w e w') : Respected o w' := by
  cases hstep with
  | mint hs =>
    rcases hs.effect with ⟨_, rfl⟩ | hm
    · rw [List.drop_length, List.map_nil, List.append_nil]
      exact h
    · exact h.mint hg hm
  | @verify _ t turn request r hs =>
    have ht : t = { w.db with investors := t.investors } := hs.effect
    rw [ht]
    exact ⟨h.recorded, h.supply, h.limited, h.accredited⟩

/-- An offering of which nothing is held yet. -/
theorem respected_unissued {w : MintWorld} (ho : offeringOf o.offering_id w.db = some o)
    (hnone : holdingsOf o.offering_id w.db = []) (hminted : w.minted = []) (hsupply : 0 ≤ o.total_supply) :
    Respected o w := by
  refine ⟨ho, ?_, fun n _ => ?_, fun _ m hm => ?_⟩
  · rw [held, hnone]
    exact hsupply
  · rw [holders, hnone]
    exact Nat.zero_le n
  · rw [hminted] at hm
    cases hm

/-- In every run from tables that respect an offering, all of whose mints stay within it, the
offering is respected in every state. -/
theorem mints_respect_offering {start w : MintWorld} {history : List Performed} (hstart : Respected o start)
    (hrun : Machine.Run MintWorld.Step start history w)
    (hguard : ∀ pre e post v, history = pre ++ e :: post → Machine.Run MintWorld.Step start pre v →
      WithinOffering o v e.call) : Respected o w :=
  hrun.invariant_of (fun _ _ _ h hg hs => h.step hg hs) hguard hstart

end

/-- Ten tokens, to be held by accredited investors. -/
def activeOffering : OfferingRow where
  offering_id := units "o1"
  offering_type := units "reg-d"
  security_type := units "equity"
  issuer_id := units "i1"
  issuer_details := .obj []
  audit_certification_id := units "c1"
  offering_amount := 100
  token_name := units "Test Token"
  token_symbol := units "TST"
  total_supply := 1000000000
  decimals := 18
  transfer_restrictions := .obj [(units "accreditedOnly", .bool true)]
  status := units "active"
  compliance_status := .obj []
  compliance_documents := .arr []
  metadata := .obj []

/-- An investor whose accreditation expires at time 9. -/
def accreditedInvestor : InvestorRow where
  investor_id := units "v1"
  galaxia_id_user_id := units "u1"
  accreditation_status := some (units "accredited")
  accreditation_type := some (units "income")
  accreditation_verified_at := some 1
  accreditation_expires_at := some 9
  verification_method := some (units "third-party")
  jurisdiction := units "US"

def activeWorld : MintWorld where
  db := ⟨[], [], [], [activeOffering], [accreditedInvestor], [], []⟩
  minted := []

/-- A mint for the investor at time 5. -/
def mintCall (tokenAmount : ℚ) : IssuanceCall :=
  .mintTokens ⟨units "v2", units "h1", 5⟩ ⟨units "o1", units "u1", tokenAmount, none, none, 100, none, units "0x1"⟩

/-- The tables after that mint, its calls all served. -/
def mintedDb (tokenAmount : ℚ) : IssuanceDb := ((mintCall tokenAmount).program.run [] activeWorld.db Local.empty).2.1

theorem activeWorld_respected : Respected activeOffering activeWorld :=
  respected_unissued rfl rfl rfl (by decide)

theorem minted_step (tokenAmount : ℚ) :
    ∃ r w, w.db = mintedDb tokenAmount ∧ MintWorld.Step activeWorld ⟨mintCall tokenAmount, r⟩ w := by
  have hexec := Async.exec_nil everySite (mintCall tokenAmount).program activeWorld.db Local.empty
  refine ⟨_, _, ?_, .mint (.call hexec)⟩
  rfl

theorem mints_respect_offering_five : held (units "o1") (mintedDb 5) ≤ 1000000000 := by
  obtain ⟨r, w, hw, hstep⟩ := minted_step 5
  have hrespected : Respected activeOffering w := by
    refine mints_respect_offering activeWorld_respected (.cons hstep (.nil _)) fun pre e post v he hv => ?_
    cases pre with
    | nil =>
      obtain ⟨rfl, _⟩ := List.cons.inj he
      cases hv
      refine fun _ => ⟨fun amount ha => ?_, fun n hn => ?_, fun _ i e hi he => ?_⟩
      · obtain rfl : 500000000 = amount := Option.some.inj ((by decide +kernel : tokenFormat.assign 5 = some 500000000).symm.trans ha)
        decide
      · cases hn
      · cases hi
        cases he
        decide
    | cons e₁ pre => exact absurd (List.cons.inj he).2 (by simp)
  rw [← hw]
  exact hrespected.supply

/-- A hundred of the ten tokens are minted. -/
theorem mint_beyond_supply : ¬ ∀ (o : OfferingRow) (start w : MintWorld) (history : List Performed),
    o.status = units "active" → Respected o start → Machine.Run MintWorld.Step start history w → Respected o w := by
  intro h
  obtain ⟨r, w, hw, hstep⟩ := minted_step 100
  have hsupply := (h activeOffering activeWorld w _ rfl activeWorld_respected (.cons hstep (.nil _))).supply
  rw [hw] at hsupply
  have hheld : held (units "o1") (mintedDb 100) = 10000000000 := by decide +kernel
  rw [show activeOffering.offering_id = units "o1" from rfl, hheld] at hsupply
  exact absurd hsupply (by decide)

end GalaxiaAin.Issuance
