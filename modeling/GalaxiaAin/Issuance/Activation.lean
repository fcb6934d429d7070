import GalaxiaAin.Issuance.Certified

/-! The status of an offering: it is created ready for issuance and no call changes it, so
the minting of tokens, which asks for an active one, is refused in every run. -/
namespace GalaxiaAin.Issuance
open GalaxiaAin.Library

/-- Every offering is as it was created. -/
def AllReady (s : IssuanceDb) : Prop := ∀ o ∈ s.offerings, o.status = units "ready_for_issuance"

section
variable {s t : IssuanceDb}

/-- A mint finds no active offering. -/
theorem AllReady.not_minted (h : AllReady s) {turn : MintTurn} {request : TokenMintRequest} : ¬ Minted turn request s t := by
  rintro ⟨o, _, _, _, ho, hactive, _⟩
  rw [h o (List.mem_of_find?_eq_some ho)] at hactive
  exact absurd hactive (by decide)

theorem AllReady.found {auditId : Text} {findings : List AuditFinding} (h : AllReady s) (hf : Found auditId findings s t) :
    AllReady t := by
  obtain ⟨_, _, rfl⟩ := hf
  exact h

theorem AllReady.step (h : AllReady s) {e : Performed} (hstep : IssuanceDb.Step s e t) : AllReady t := by
  have he := hstep.effect
  obtain ⟨call, r⟩ := e
  cases call with
  | createAuditRequest auditId input =>
    have ht : t = { s with audit_requests := t.audit_requests } := he
    rw [ht]; exact h
  | addFindings auditId findings =>
    rcases he with rfl | hf
    · exact h
    · exact h.found hf
  | completeAudit certificationId auditId findings score =>
    rcases he with rfl | ⟨u, hf, rfl | ⟨_, _, ht⟩⟩
    · exact h
    · exact h.found hf
    · have hu : AllReady u := h.found hf
      rw [ht]; exact hu
  | createOffering now offeringId issuerId request =>
    rcases he with ⟨_, rfl⟩ | ⟨_, row, _, _, _, _, hrow, rfl⟩
    · exact h
    · intro o ho
      rcases List.mem_append.mp ho with ho | ho
      · exact h o ho
      · rw [List.mem_singleton.mp ho, hrow]
  | verifyAccreditation turn request =>
    have ht : t = { s with investors := t.investors } := he
    rw [ht]; exact h
  | mintTokens turn request =>
    rcases he with ⟨_, rfl⟩ | hm
    · exact h
    · exact absurd hm h.not_minted

/-- After a successful `createOffering`, no run of calls reaches tables in which a mint of
any amount for any investor succeeds. -/
theorem offerings_never_mintable {start s t : IssuanceDb} {history : List Performed} {now : Nat} {offeringId issuerId : Text}
    {request : OfferingRequest} (hstart : start.offerings = []) (hrun : Machine.Run IssuanceDb.Step start history s)
    (hcreate : IssuanceDb.Step s ⟨.createOffering now offeringId issuerId request, .ok ()⟩ t) :
    ¬ ∃ (later : List Performed) (u v : IssuanceDb) (turn : MintTurn) (mintRequest : TokenMintRequest),
      Machine.Run IssuanceDb.Step t later u ∧ IssuanceDb.Step u ⟨.mintTokens turn mintRequest, .ok ()⟩ v := by
  rintro ⟨later, u, v, turn, mintRequest, hlater, hmint⟩
  have hready : AllReady start := by rw [AllReady, hstart]; nofun
  have hu : AllReady u := (hrun.append (.cons hcreate hlater)).invariant (fun _ _ _ h hs => h.step hs) hready
  rcases hmint.effect with ⟨hr, _⟩ | hm
  · cases hr
  · exact hu.not_minted hm

end

theorem offerings_never_mintable_completed : ¬ ∃ (later : List Performed) (u v : IssuanceDb) (turn : MintTurn)
    (mintRequest : TokenMintRequest), Machine.Run IssuanceDb.Step (completedDb.after offeringCall) later u ∧
      IssuanceDb.Step u ⟨.mintTokens turn mintRequest, .ok ()⟩ v :=
  offerings_never_mintable rfl (.cons requested_step (.cons completed_step (.nil _))) offered_step

/-- The offering of an audit with a score of 90 cannot be issued to anyone. -/
theorem certified_offering_not_issued : ¬ ∀ (s t : IssuanceDb) (history : List Performed) (now : Nat)
    (offeringId issuerId : Text) (request : OfferingRequest), Machine.Run IssuanceDb.Step emptyDb history s →
    IssuanceDb.Step s ⟨.createOffering now offeringId issuerId request, .ok ()⟩ t →
    ∃ (later : List Performed) (u v : IssuanceDb) (turn : MintTurn) (mintRequest : TokenMintRequest),
      mintRequest.offeringId = offeringId ∧ 0 < mintRequest.tokenAmount ∧ Machine.Run IssuanceDb.Step t later u ∧
        IssuanceDb.Step u ⟨.mintTokens turn mintRequest, .ok ()⟩ v := by
  intro h
  obtain ⟨later, u, v, turn, mintRequest, _, _, hlater, hmint⟩ :=
    h completedDb _ _ _ _ _ _ (.cons requested_step (.cons completed_step (.nil _))) offered_step
  have hready : AllReady (completedDb.after offeringCall) := by
    have hstatuses : (completedDb.after offeringCall).offerings.map (·.status) = [units "ready_for_issuance"] := by
      decide +kernel
    intro o ho
    have hmap : o.status ∈ (completedDb.after offeringCall).offerings.map (·.status) := List.mem_map.mpr ⟨o, ho, rfl⟩
    rw [hstatuses] at hmap
    exact List.mem_singleton.mp hmap
  have hu : AllReady u := hlater.invariant (fun _ _ _ h hs => h.step hs) hready
  rcases hmint.effect with ⟨hr, _⟩ | hm
  · cases hr
  · exact hu.not_minted hm

end GalaxiaAin.Issuance
