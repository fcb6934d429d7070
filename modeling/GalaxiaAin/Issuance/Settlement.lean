import GalaxiaAin.Issuance.Minting
import GalaxiaAin.Library.Possible

/-! What a failed issuance leaves: the new row is read back once it is committed, in the try
block whose catch reports a failure. -/
namespace GalaxiaAin.Issuance
open GalaxiaAin.Library

/-- An issuance that fails changed nothing; one that returns left one new holding, the one it
returns. -/
def MintSettles (turn : MintTurn) (request : TokenMintRequest) (s : IssuanceDb) : Post backend HoldingRow
  | .error _, t, _ => t.token_holdings = s.token_holdings ∧ t.investors = s.investors
  | .ok row, t, _ => ∃ investors, MintOf turn request s investors row ∧
      t = { s with investors := investors, token_holdings := s.token_holdings ++ [row] }

def OfferSettles (now : Nat) (offeringId issuerId : Text) (request : OfferingRequest) (s : IssuanceDb) :
    Post backend (Option OfferingRow)
  | .error _, t, _ => t.offerings = s.offerings
  | .ok found, t, _ => ∃ row, found = some row ∧ OfferOf now offeringId issuerId request s row ∧
      t = { s with offerings := s.offerings ++ [row] }

section
variable {s : IssuanceDb} {may : Site → Prop} {turn : MintTurn} {request : TokenMintRequest} {investors : List InvestorRow}
  {row : HoldingRow} {now : Nat} {offeringId issuerId : Text} {offered : OfferingRequest} {allowed : Site → Answer backend → Prop}

/-! ### Issuances that settle -/

theorem find?_new {α : Type} {f : α → Text} {rows : List α} {a : α} (h : ∀ b ∈ rows, f b ≠ f a) :
    (rows ++ [a]).find? (fun b => f b == f a) = some a := by
  rw [List.find?_append, List.find?_eq_none.mpr fun b hb => by simpa using h b hb]
  simp

theorem holdingRow_id {investorId : Text} {restrictions : Json} (h : holdingRow turn request investorId restrictions = .ok row) :
    row.holding_id = turn.holdingId := by
  obtain ⟨amount, price, lockup, -, -, rfl⟩ := holdingRow_made h
  rfl

/-- The holding that is read back is the new one. -/
theorem MintOf.found (h : MintOf turn request s investors row) :
    (s.token_holdings ++ [row]).find? (fun h => h.holding_id == turn.holdingId) = some row := by
  obtain ⟨_, _, -, -, -, -, hrow, hfresh, -⟩ := h
  rw [← holdingRow_id hrow]
  exact find?_new hfresh

theorem OfferOf.found {row : OfferingRow} (h : OfferOf now offeringId issuerId offered s row) :
    offeringOf offeringId { s with offerings := s.offerings ++ [row] } = some row := by
  obtain ⟨_, -, -, -, -, hrow, hfresh⟩ := h
  obtain ⟨rfl, -⟩ := offeringRow_ok hrow
  exact find?_new hfresh

/-- A mint settles where the holding is read back, or there is none. -/
theorem mintTokens_settles (h : ¬ may .getTokenHolding ∨ ¬ ∃ investors row, MintOf turn request s investors row)
    (l : Local backend) : (mintTokens turn request).post may (MintSettles turn request s) s l := by
  refine Async.Transacts.committed_then ((mint_transacts turn request).fewer fun _ _ => trivial) (fun _ => trivial)
    (fun _ _ => ⟨rfl, rfl⟩) ?_
  rintro - _ ⟨investors, row, hmint, rfl⟩
  have hserved : ¬ may .getTokenHolding := h.resolve_right fun hno => hno ⟨investors, row, hmint⟩
  rw [Async.post_bind, Async.post_emit]
  change Async.post (B := backend) may _ _ _ _
  rw [Async.post_bind, getTokenHolding, Async.post_pool]
  refine ⟨?_, fun hmay => absurd hmay hserved⟩
  rw [Stmt.reply_select, Async.next_ok]
  simp only [Stmt.effect_select, id_eq, hmint.found]
  exact ⟨investors, hmint, rfl⟩

theorem createOffering_settles (h : ¬ may .getOffering ∨ ¬ ∃ row, OfferOf now offeringId issuerId offered s row)
    (l : Local backend) : (createOffering now offeringId issuerId offered).post may
      (OfferSettles now offeringId issuerId offered s) s l := by
  refine Async.Transacts.committed_then ((offer_transacts now offeringId issuerId offered).fewer fun _ _ => trivial)
    (fun _ => trivial) (fun _ _ => rfl) ?_
  rintro - _ ⟨row, hoffer, rfl⟩
  have hserved : ¬ may .getOffering := h.resolve_right fun hno => hno ⟨row, hoffer⟩
  rw [Async.post_bind, Async.post_emit]
  change Async.post (B := backend) may _ _ _ _
  rw [getOffering, Async.post_pool]
  refine ⟨?_, fun hmay => absurd hmay hserved⟩
  rw [Stmt.reply_select]
  exact ⟨row, hoffer.found, hoffer, rfl⟩

/-! ### Issuances that fail once they are committed -/

theorem insertInvestor_run {i : InvestorRow} (h : ∀ j ∈ s.investors, j.investor_id ≠ i.investor_id) :
    (insertInvestor i).run () s = .ok ((), fun db => { db with investors := db.investors ++ [i] }) := by
  simp only [insertInvestor, Stmt.statement]
  rw [if_neg fun hany => ?_]
  obtain ⟨j, hj, hid⟩ := List.any_eq_true.mp hany
  exact h j hj (beq_iff_eq.mp hid)

theorem insertHolding_run {investorId : Text} {restrictions : Json} (h : holdingRow turn request investorId restrictions = .ok row)
    (hfresh : ∀ j ∈ s.token_holdings, j.holding_id ≠ row.holding_id) :
    (insertHolding turn request investorId restrictions).run () s =
      .ok ((), fun db => { db with token_holdings := db.token_holdings ++ [row] }) := by
  simp only [insertHolding, Stmt.statement, h, bind, Except.bind]
  rw [if_neg fun hany => ?_]
  obtain ⟨j, hj, hid⟩ := List.any_eq_true.mp hany
  exact hfresh j hj (beq_iff_eq.mp hid)

theorem insertOffering_run {row : OfferingRow} (h : OfferOf now offeringId issuerId offered s row) :
    (insertOffering offeringId issuerId offered).run () s = .ok ((), fun db => { db with offerings := db.offerings ++ [row] }) := by
  obtain ⟨c, hc, -, -, -, hrow, hfresh⟩ := h
  simp only [insertOffering, Stmt.statement, hrow, bind, Except.bind]
  rw [if_neg fun hany => ?_, if_pos]
  · obtain ⟨hmem, hid⟩ := And.intro (List.mem_of_find?_eq_some hc) (List.find?_some hc)
    simp only [Bool.and_eq_true] at hid
    exact List.any_eq_true.mpr ⟨c, hmem, hid.1⟩
  · obtain ⟨o, ho, hid⟩ := List.any_eq_true.mp hany
    exact hfresh o ho (beq_iff_eq.mp hid)

variable (hserved : ∀ σ, ∃ reply, allowed σ (.done reply))
include hserved

theorem mint_reaches (h : MintOf turn request s investors row) : (mint turn request).Reaches allowed () s s
    (fun _ t => t = { s with investors := investors, token_holdings := s.token_holdings ++ [row] }) := by
  obtain ⟨o, investorId, ho, hactive, hneeded, hholder, hrow, hfresh, hnew⟩ := h
  refine Async.reaches_bind (Async.reaches_select (R := fun r t => r = some o ∧ s = t) (hserved _) ⟨ho, rfl⟩) ?_
  rintro _ _ ⟨rfl, rfl⟩
  refine Async.reaches_bind (Async.reaches_onlyIf (R := fun _ t => s = t) (by simp [hactive]) rfl) ?_
  rintro - _ rfl
  refine Async.reaches_bind (Async.reaches_select (R := fun r t => r = investorOf request.investorId s ∧ s = t) (hserved _)
    ⟨rfl, rfl⟩) ?_
  rintro _ _ ⟨rfl, rfl⟩
  refine Async.reaches_bind (Async.reaches_select (R := fun r t => r = restrictionsOf (some o) ∧ s = t) (hserved _)
    ⟨by rw [ho], rfl⟩) ?_
  rintro _ _ ⟨rfl, rfl⟩
  refine Async.reaches_bind (Async.reaches_onlyIf (R := fun _ t => s = t) ?_ rfl) ?_
  · rw [Bool.and_eq_true, not_and, Bool.not_eq_true', Bool.not_eq_false]
    exact hneeded
  rintro - _ rfl
  refine Async.reaches_bind (R := fun id t => id = investorId ∧ { s with investors := investors } = t) ?_ ?_
  · refine Async.reaches_bind (Async.reaches_select (R := fun r t => r = (investorOf request.investorId s).map (·.investor_id) ∧
      s = t) (hserved _) ⟨rfl, rfl⟩) ?_
    rintro _ _ ⟨rfl, rfl⟩
    cases hholder with
    | known hi =>
      rw [hi]
      exact Async.reaches_pure ⟨rfl, rfl⟩
    | created hnone =>
      rw [hnone]
      refine Async.reaches_bind (Async.reaches_query (R := fun _ t => _ = t) (hserved _) (insertInvestor_run (hnew hnone)) rfl) ?_
      rintro - _ rfl
      exact Async.reaches_pure ⟨rfl, rfl⟩
  · rintro _ _ ⟨rfl, rfl⟩
    exact Async.reaches_query (hserved _) (insertHolding_run hrow hfresh) rfl

theorem offer_reaches {row : OfferingRow} (h : OfferOf now offeringId issuerId offered s row) :
    (offer now offeringId issuerId offered).Reaches allowed () s s
      (fun _ t => t = { s with offerings := s.offerings ++ [row] }) := by
  have hrun := insertOffering_run h
  obtain ⟨c, hc, hcertified, hrevoked, hexpires, -, -⟩ := h
  refine Async.reaches_bind (Async.reaches_select (R := fun v t => v = Audit.verification now (some c.toAuditCertification) ∧ s = t)
    (hserved _) ⟨by rw [hc]; rfl, rfl⟩) ?_
  rintro _ _ ⟨rfl, rfl⟩
  refine Async.reaches_bind (Async.reaches_onlyIf (R := fun _ t => s = t) ?_ rfl) ?_
  · have hvalid : (Audit.verification now (some c.toAuditCertification)).valid = true := by
      simp only [Audit.verification, hrevoked, Bool.not_false, Bool.true_and]
      cases he : c.expires_at with
      | none => rfl
      | some e => exact decide_eq_true (hexpires e he)
    have hpasses : (Audit.verification now (some c.toAuditCertification)).certified = true := hcertified
    rw [hvalid, hpasses]
    decide
  · rintro - _ rfl
    exact Async.reaches_query (hserved _) hrun rfl

omit hserved

/-- The answers of an environment that fails calls of some kinds only. -/
abbrev mayFail (may : Site → Prop) : Site → Answer backend → Prop := fun σ a => a.Faulty → may σ

theorem mayFail_serves (may : Site → Prop) (σ : Site) : ∃ reply, mayFail may σ (.done reply) :=
  ⟨fun _ => (), fun h => absurd h (Answer.not_faulty_done _)⟩

/-- A mint that is committed can fail where its holding is read back. -/
theorem mintTokens_breaks (hmay : may .getTokenHolding) (h : MintOf turn request s investors row) :
    (mintTokens turn request).can (mayFail may) (fun r t l' => ¬ MintSettles turn request s r t l') s Local.empty := by
  refine (mint_reaches (mayFail_serves may) h).committed_then (mayFail_serves may _) (mayFail_serves may _) (mayFail_serves may _) ?_
  rintro - _ rfl
  change ((getTokenHolding turn.holdingId >>= fun _ => _).can (B := backend) _ _ _ _)
  rw [Async.can_bind, getTokenHolding]
  refine Async.can_fault (f := ()) (fun _ => hmay) ?_
  change ((Async.await (B := backend) .rollback .rollback >>= fun _ => Async.raise IssuanceFailure.unavailable).can _ _ _ _)
  rw [Async.can_bind]
  obtain ⟨reply, ha⟩ := mayFail_serves may .rollback
  refine Async.can_await ha ?_
  rintro ⟨hholdings, -⟩
  have hsame : s.token_holdings ++ [row] = s.token_holdings := hholdings
  simp at hsame

theorem createOffering_breaks {row : OfferingRow} (hmay : may .getOffering) (h : OfferOf now offeringId issuerId offered s row) :
    (createOffering now offeringId issuerId offered).can (mayFail may)
      (fun r t l' => ¬ OfferSettles now offeringId issuerId offered s r t l') s Local.empty := by
  refine (offer_reaches (mayFail_serves may) h).committed_then (mayFail_serves may _) (mayFail_serves may _) (mayFail_serves may _) ?_
  rintro - _ rfl
  change ((getOffering offeringId).can (B := backend) _ _ _ _)
  rw [getOffering]
  refine Async.can_fault (f := ()) (fun _ => hmay) ?_
  change ((Async.await (B := backend) .rollback .rollback >>= fun _ => Async.raise IssuanceFailure.unavailable).can _ _ _ _)
  rw [Async.can_bind]
  obtain ⟨reply, ha⟩ := mayFail_serves may .rollback
  refine Async.can_await ha ?_
  intro hofferings
  have hsame : s.offerings ++ [row] = s.offerings := hofferings
  simp at hsame

end

def firstTurn : MintTurn := ⟨units "v2", units "h1", 5⟩
def firstRequest : TokenMintRequest := ⟨units "o1", units "u1", 5, none, none, 100, none, units "0x1"⟩

theorem first_mint : ∃ row, MintOf firstTurn firstRequest activeWorld.db [accreditedInvestor] row := by
  have hok : (holdingRow firstTurn firstRequest (units "v1") (restrictionsOf (some activeOffering))).isOk = true := by
    decide +kernel
  cases hrow : holdingRow firstTurn firstRequest (units "v1") (restrictionsOf (some activeOffering)) with
  | error e => rw [hrow] at hok; cases hok
  | ok row =>
    have hholder : Holder firstTurn firstRequest activeWorld.db accreditedInvestor.investor_id activeWorld.db.investors := .known rfl
    exact ⟨row, activeOffering, _, rfl, rfl, fun _ => rfl, hholder, hrow, fun _ hm => (by cases hm), fun hnone => by cases hnone⟩

end GalaxiaAin.Issuance
