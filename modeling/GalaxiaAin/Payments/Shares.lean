import GalaxiaAin.Payments.Credits

/-! How the cost of a task is split. Every node that is paid is credited the cost divided by
the number of nodes, rounded for itself. -/
namespace GalaxiaAin.Payments
open GalaxiaAin.Library

/-- What a distribution has credited for the task, in units of the last place. -/
def credited (task : Uuid) (s t : PaymentDb) : Int :=
  ((t.ledger.credits task).map Prod.snd).sum - ((s.ledger.credits task).map Prod.snd).sum

theorem sum_sharesOf (x : ℚ) (keys : List Uuid) : ((sharesOf x keys).map Prod.snd).sum = keys.length * amountFormat.units x := by
  rw [sharesOf, Multiset.map_coe, Multiset.sum_coe, List.map_map]
  induction keys with
  | nil => simp
  | cons k rest ih =>
    rw [List.map_cons, List.sum_cons, ih, List.length_cons]
    push_cast
    rw [Function.comp_apply]
    ring

/-- Each node that is paid is credited the share. -/
theorem Distributes.credited {task : Uuid} {cost : Int} {n : Nat} {paid : List PaidNode} {s t : PaymentDb}
    (h : Distributes task (parseFloat cost / n) paid s t) : credited task s t = paid.length * roundHalfAway (cost / n) := by
  obtain ⟨keys, hkeys, hadds⟩ := h
  have hlength : paid.length = keys.length := by simpa using congrArg List.length hkeys
  rw [Payments.credited, hadds.credits, Multiset.map_add, Multiset.sum_add, sum_sharesOf, add_sub_cancel_left, hlength]
  rw [parseFloat, amountFormat.units_div]

/-- The cost is split: the nodes get no more than it, and miss less than a unit each. -/
def Splits (cost : Int) (n : Nat) (credited : Int) : Prop := credited ≤ cost ∧ cost < credited + n

/-- What is left of the cost, by division with remainder, when so many of the `n` shares are not paid: the remainder
and these shares, less a unit for each share that is rounded up. -/
def leftOver (cost : Int) (n unpaid : Nat) : Int :=
  if 2 * (cost % n) < n ∨ cost < 0 ∧ 2 * (cost % n) = n then unpaid * (cost / n) + cost % n
  else unpaid * (cost / n + 1) + cost % n - n

theorem cost_sub_shares {cost : Int} {n paid : Nat} (hn : 0 < n) (hpaid : paid ≤ n) :
    cost - paid * roundHalfAway ((cost : ℚ) / n) = leftOver cost n (n - paid) := by
  have hdiv := Int.mul_ediv_add_emod cost n
  rw [roundHalfAway_div hn, leftOver]
  push_cast [Nat.cast_sub hpaid]
  split <;> linarith

/-- Where every node is paid, nothing is missing but the remainder. -/
theorem leftOver_all {cost : Int} {n : Nat} (hn : 0 < n) :
    0 ≤ leftOver cost n 0 ∧ leftOver cost n 0 < n ↔ 2 * (cost % n) < n ∨ cost < 0 ∧ 2 * (cost % n) = n := by
  have hpos : (0 : Int) < n := by exact_mod_cast hn
  have hnonneg := Int.emod_nonneg cost hpos.ne'
  have hlt := Int.emod_lt_of_pos cost hpos
  rw [leftOver]
  split
  case isTrue h => exact iff_of_true ⟨by simpa using hnonneg, by simpa using hlt⟩ h
  case isFalse h => exact iff_of_false (fun hle => by simp at hle; omega) h

/-- A task of user 1, with nodes 2 and 3. -/
def splitDb (cost : Int) : PaymentDb where
  users := fun key => if key = 1 then some ⟨none, 0, 0⟩ else none
  nodes := fun key => if key = 2 ∨ key = 3 then some ⟨units "w", 0⟩ else none
  tasks := [9]
  token_transactions := []
  direct_payments := []
  kyc_profiles := []
  user_jurisdictions := []
  compliance_config := []
  travel_rule_records := []
  audit_logs := []
  task_columns := fun _ => ⟨some cost, some 1⟩

/-- The payments of its nodes. -/
def splitPayments : Async backend Unit :=
  distributeNodePayments ⟨fun _ => pure (), fun _ => pure ()⟩ (.uuid 9) [⟨.uuid 2, 20, ⟨21, 0, 0, none⟩⟩, ⟨.uuid 3, 30, ⟨31, 0, 0, none⟩⟩]
    none none

end GalaxiaAin.Payments
