import GalaxiaAin.Galaxia.Ecosystem
import GalaxiaAin.Library.Numbers
import GalaxiaAin.Library.Polling

/-! Waiting for a settlement and for confirmations. Both loops poll a remote status, which may
be anything, until it is final, failed or too late. -/
namespace GalaxiaAin.Galaxia.Polling
open Library

/-! ### A status -/

/-- What a call of the API gives: an error of the headers, of fetch or of the body, or a response. -/
inductive Fetched where
  | rejected (message : Text)
  | response (ok : Bool) (status : Nat) (data : Json)

/-- `getTransactionStatus`, which throws on every error. -/
def getTransactionStatus {ρ : Type} (api : String) (pick : Value → Except Text ρ) : Fetched → Except Text ρ
  | .rejected message => .error message
  | .response ok status data =>
    if ok then pick (some data) else .error (units (api ++ " error: ") ++ decimal status)

structure ClearingResult where
  id : Value
  status : Value
  netAmount : Value
  settlementDate : Value
  transactionHash : Value
  complianceStatus : Value
  error : Value

structure TransactionResult where
  hash : Value
  status : Value
  blockNumber : Value
  confirmations : Value
  gasUsed : Value

/-- The status of the clearing API; the constructor of dates may throw. -/
def clearingResult (newDate : Json → Except Text Json) (data : Value) : Except Text ClearingResult := do
  let id ← read data "id"
  let status ← read data "status"
  let netAmount ← read data "net_amount"
  let settlementDate ← match (← read data "settlement_date").filter Json.truthy with
    | some date => (newDate date).map some
    | none => pure none
  let transactionHash ← read data "transaction_hash"
  let complianceStatus ← read data "compliance_status"
  let error ← read data "error"
  return ⟨id, status, netAmount, settlementDate, transactionHash, complianceStatus, error⟩

/-- The status of the Constellation RPC; `data.confirmations || 0`. -/
def transactionResult (data : Value) : Except Text TransactionResult := do
  let hash ← read data "hash"
  let status ← read data "status"
  let blockNumber ← read data "block_number"
  let confirmations ← read data "confirmations"
  let gasUsed ← read data "gas_used"
  return ⟨hash, status, blockNumber, some ((confirmations.filter Json.truthy).getD (.num (.ofNat 0))), gasUsed⟩

/-! ### The loops -/

/-- `v === s`. -/
def isText (v : Value) (s : String) : Bool :=
  match v with
  | some (.str t) => t == units s
  | _ => false

/-- `v >= required`, when the conversion of `v` does not throw. -/
def atLeast (required : ℚ) (v : Json) : Option Bool := v.toNumber.map fun n => match n with
  | .finite x => decide (required ≤ x)
  | .infinity => true
  | _ => false

def conversionError : Text := units "Cannot convert object to primitive value"

/-- The message of a settlement that failed. -/
def clearingFailure (error : Value) : Text :=
  match error.filter Json.truthy with
  | some error =>
    match error.text with
    | some t => units "Clearing failed: " ++ t
    | none => conversionError
  | none => units "Clearing failed: Unknown error"

def judgeSettlement (status : ClearingResult) : Verdict Text :=
  if isText status.status "settled" then .accept
  else if isText status.status "failed" then .refuse (clearingFailure status.error)
  else .wait

def judgeConfirmation (requiredConfirmations : ℚ) (status : TransactionResult) : Verdict Text :=
  match if isText status.status "confirmed" then status.confirmations.elim (some false) (atLeast requiredConfirmations) else some false with
  | none => .refuse conversionError
  | some true => .accept
  | some false => if isText status.status "failed" then .refuse (units "Transaction failed") else .wait

section
variable (newDate : Json → Except Text Json) (answers : Nat → Fetched) (delays : Delays)

def clearingStatus (i : Nat) : Except Text ClearingResult :=
  getTransactionStatus "Clearing API" (clearingResult newDate) (answers i)

def transactionStatus (i : Nat) : Except Text TransactionResult :=
  getTransactionStatus "Constellation RPC" transactionResult (answers i)

/-- With the number of calls it makes; none when the fuel runs out. -/
def awaitSettlement (timeout pollInterval : ℚ) (fuel : Nat) : Option (Except Text ClearingResult × Nat) :=
  poll judgeSettlement (units "Settlement timeout") timeout (clearingStatus newDate answers) (delays.elapsed pollInterval) fuel 0

def awaitConfirmation (requiredConfirmations timeout pollInterval : ℚ) (fuel : Nat) : Option (Except Text TransactionResult × Nat) :=
  poll (judgeConfirmation requiredConfirmations) (units "Transaction confirmation timeout") timeout (transactionStatus answers)
    (delays.elapsed pollInterval) fuel 0

end

/-! ### What is returned -/

section
variable {ρ : Type}

/-- A reply is final, and those before it are neither final nor failed, nor errors. -/
def FirstFinal (final pending : ρ → Prop) (reply : Nat → Except Text ρ) (k : Nat) (status : ρ) : Prop :=
  reply k = .ok status ∧ final status ∧ ∀ j < k, ∃ earlier, reply j = .ok earlier ∧ pending earlier

/-- The loop ends after at most so many calls. It returns the first final reply only, and does
so where that comes in time; otherwise it throws. -/
def BoundedAndTruthful (final pending : ρ → Prop) (reply : Nat → Except Text ρ) (inTime : Nat → Prop) (most : Nat)
    (loop : Nat → Option (Except Text ρ × Nat)) : Prop :=
  ∃ result polls, (∃ enough, ∀ fuel, enough ≤ fuel → loop fuel = some (result, polls)) ∧ polls ≤ most ∧
    (∀ status, result = .ok status → ∃ k, polls = k + 1 ∧ inTime k ∧ FirstFinal final pending reply k status) ∧
    (∀ k status, inTime k → FirstFinal final pending reply k status → result = .ok status) ∧
    ((∀ status, result ≠ .ok status) → ∃ message, result = .error message)

theorem poll_truthful {judge : ρ → Verdict Text} {final pending : ρ → Prop} (hfinal : ∀ r, judge r = .accept ↔ final r)
    (hpending : ∀ r, judge r = .wait ↔ pending r) (timedOut : Text) (timeout : ℚ) {pollInterval : ℚ} (hinterval : 0 < pollInterval)
    (reply : Nat → Except Text ρ) (delays : Delays) :
    BoundedAndTruthful final pending reply (fun k => delays.elapsed pollInterval k < timeout) ⌈timeout / pollInterval⌉₊
      fun fuel => poll judge timedOut timeout reply (delays.elapsed pollInterval) fuel 0 := by
  obtain ⟨result, polls, hends, hbound, hpolled⟩ := @exists_polled ρ Text judge timedOut timeout pollInterval reply delays hinterval
  refine ⟨result, polls, hends, hbound, fun status hstatus => ?_, fun k status htime hfirst => ?_, fun hnone => ?_⟩
  · subst hstatus
    cases hpolled with
    | accepted k r before time answer verdict =>
      refine ⟨k, rfl, time, answer, (hfinal _).mp verdict, fun j hj => ?_⟩
      obtain ⟨-, r, hr, hwait⟩ := before j hj
      exact ⟨r, hr, (hpending r).mp hwait⟩
  · obtain ⟨answer, final, before⟩ := hfirst
    refine hpolled.eq_ok (fun j hj => ?_) htime answer ((hfinal status).mpr final)
    obtain ⟨earlier, hearlier, hpend⟩ := before j hj
    exact ⟨(delays.elapsed_mono hinterval hj.le).trans_lt htime, earlier, hearlier, (hpending earlier).mpr hpend⟩
  · cases result with
    | ok status => exact absurd rfl (hnone status)
    | error message => exact ⟨message, rfl⟩

end

def Settled (status : ClearingResult) : Prop := isText status.status "settled" = true

def SettlementPending (status : ClearingResult) : Prop :=
  isText status.status "settled" = false ∧ isText status.status "failed" = false

def Confirmed (requiredConfirmations : ℚ) (status : TransactionResult) : Prop :=
  isText status.status "confirmed" = true ∧ ∃ v, status.confirmations = some v ∧ atLeast requiredConfirmations v = some true

/-- The reply is not failed, and if confirmed then not often enough. -/
def ConfirmationPending (requiredConfirmations : ℚ) (status : TransactionResult) : Prop :=
  isText status.status "failed" = false ∧
    (isText status.status "confirmed" = true → ∀ v, status.confirmations = some v → atLeast requiredConfirmations v = some false)

theorem isText_ne {v : Value} {s t : String} (hne : units s ≠ units t) (h : isText v s = true) : isText v t = false := by
  match v, h with
  | some (.str u), h =>
    rw [isText, beq_iff_eq] at h
    rw [isText, h]
    exact beq_eq_false_iff_ne.mpr hne

theorem judgeSettlement_accept (status : ClearingResult) : judgeSettlement status = .accept ↔ Settled status := by
  rw [judgeSettlement, Settled]
  split
  case isTrue h => simp [h]
  case isFalse h =>
    split <;> simp [h]

theorem judgeSettlement_wait (status : ClearingResult) : judgeSettlement status = .wait ↔ SettlementPending status := by
  rw [judgeSettlement, SettlementPending]
  split
  case isTrue h => simp [h]
  case isFalse h =>
    split
    case isTrue hfailed => simp [hfailed]
    case isFalse hfailed => simp [h, hfailed]

theorem judgeConfirmation_accept (required : ℚ) (status : TransactionResult) :
    judgeConfirmation required status = .accept ↔ Confirmed required status := by
  rw [judgeConfirmation, Confirmed]
  cases hconfirmed : isText status.status "confirmed" with
  | false =>
    simp only [Bool.false_eq_true, if_false, false_and, iff_false]
    split <;> simp
  | true =>
    cases hv : status.confirmations with
    | none => simp only [if_true, Option.elim_none]; split <;> simp
    | some v =>
      simp only [if_true, Option.elim_some]
      cases hleast : atLeast required v with
      | none => simp [hleast]
      | some b =>
        cases b with
        | true => simp [hleast]
        | false => simp only []; split <;> simp [hleast]

theorem judgeConfirmation_wait (required : ℚ) (status : TransactionResult) :
    judgeConfirmation required status = .wait ↔ ConfirmationPending required status := by
  rw [judgeConfirmation, ConfirmationPending]
  cases hconfirmed : isText status.status "confirmed" with
  | false =>
    simp only [Bool.false_eq_true, if_false, false_implies, and_true]
    split
    case isTrue h => simp [h]
    case isFalse h => simp [h]
  | true =>
    have hfailed := isText_ne (t := "failed") (by decide) hconfirmed
    cases hv : status.confirmations with
    | none => simp [hfailed]
    | some v =>
      simp only [if_true, Option.elim_some]
      cases hleast : atLeast required v with
      | none => simp [hleast]
      | some b => cases b <;> simp [hleast, hfailed]

/-- Both loops make at most one call for each interval in the timeout, and return the first
final reply or throw, whatever is replied. -/
theorem polling_bounded (newDate : Json → Except Text Json) (answers : Nat → Fetched) (delays : Delays)
    (timeout pollInterval : ℚ) (hinterval : 0 < pollInterval) :
    BoundedAndTruthful Settled SettlementPending (clearingStatus newDate answers)
        (fun k => delays.elapsed pollInterval k < timeout) ⌈timeout / pollInterval⌉₊
        (awaitSettlement newDate answers delays timeout pollInterval) ∧
      ∀ requiredConfirmations, BoundedAndTruthful (Confirmed requiredConfirmations) (ConfirmationPending requiredConfirmations)
        (transactionStatus answers) (fun k => delays.elapsed pollInterval k < timeout) ⌈timeout / pollInterval⌉₊
        (awaitConfirmation answers delays requiredConfirmations timeout pollInterval) :=
  ⟨poll_truthful judgeSettlement_accept judgeSettlement_wait _ timeout hinterval _ delays,
    fun required => poll_truthful (judgeConfirmation_accept required) (judgeConfirmation_wait required) _ timeout hinterval _ delays⟩

/-- A network that answers `pending` twice and then `settled`, without delays. -/
def settling (i : Nat) : Fetched :=
  .response true 200 (.obj [(units "status", .str (if i < 2 then units "pending" else units "settled"))])

theorem polling_bounded_settling :
    BoundedAndTruthful Settled SettlementPending (clearingStatus .ok settling)
        (fun k => (Delays.mk 0 (fun _ => 0) (fun _ => 0)).elapsed 5000 k < 300000) ⌈(300000 : ℚ) / 5000⌉₊
        (awaitSettlement .ok settling ⟨0, fun _ => 0, fun _ => 0⟩ 300000 5000) ∧
      ∀ requiredConfirmations, BoundedAndTruthful (Confirmed requiredConfirmations) (ConfirmationPending requiredConfirmations)
        (transactionStatus settling) (fun k => (Delays.mk 0 (fun _ => 0) (fun _ => 0)).elapsed 5000 k < 300000) ⌈(300000 : ℚ) / 5000⌉₊
        (awaitConfirmation settling ⟨0, fun _ => 0, fun _ => 0⟩ requiredConfirmations 300000 5000) :=
  polling_bounded .ok settling ⟨0, fun _ => 0, fun _ => 0⟩ 300000 5000 (by decide)

end GalaxiaAin.Galaxia.Polling
