import GalaxiaAin.Payments.Bookkeeping

/-! A payment is atomic: an error leaves the tables as they were, and an id stands for one
transaction with the balance change of its type. What follows the commit fails nothing. -/
namespace GalaxiaAin.Payments
open GalaxiaAin.Library

/-- The transaction of a turn without its references; the others as they are. -/
def Turn.unsettled (turn : Turn) (t : TokenTransaction) : TokenTransaction :=
  if t.id = turn.transactionId then t.booked else t

/-- The changes that leave users, nodes and transactions alone, but for the references of one transaction. -/
def turnFrame (turn : Turn) : Frame backend :=
  Frame.of fun db => (db.users, db.nodes, db.token_transactions.map turn.unsettled)

theorem Turn.unsettled_id (turn : Turn) (t : TokenTransaction) : (turn.unsettled t).id = t.id := by
  unfold Turn.unsettled
  split <;> rfl

theorem turn_settlesIn (turn : Turn) : SettlesIn (turnFrame turn) turn where
  transaction set h := by
    refine Stmt.Keeps.of_run fun _ s r w hw t => ?_
    cases hw
    refine congrArg (fun rows => (t.users, t.nodes, rows)) ?_
    rw [List.map_map]
    refine List.map_congr_left fun row _ => ?_
    have hid : (set row).id = row.id := show (set row).booked.id = row.booked.id by rw [h]
    simp only [Function.comp]
    split
    case isTrue hrow => rw [Turn.unsettled, Turn.unsettled, hid, if_pos hrow, if_pos hrow, h]
    case isFalse => rfl
  records _ _ := rfl
  logs _ _ := rfl

/-- A row that another settles to, unless it is the turn's own, is that row. -/
theorem Turn.unsettled_eq {turn : Turn} {t row : TokenTransaction} (h : turn.unsettled t = row) (hid : row.id ≠ turn.transactionId) :
    t = row := by
  rw [← h, turn.unsettled_id] at hid
  rwa [Turn.unsettled, if_neg hid] at h

/-- The rows after the commit of a turn: those of before, and its own. -/
theorem rows_of_unsettled {turn : Turn} {rows rows' : List TokenTransaction} {row : TokenTransaction}
    (hfresh : ∀ r ∈ rows, r.id ≠ turn.transactionId) (h : rows'.map turn.unsettled = (rows ++ [row]).map turn.unsettled) :
    ∃ row', rows' = rows ++ [row'] ∧ turn.unsettled row' = turn.unsettled row := by
  rw [List.map_append, List.map_eq_append_iff] at h
  obtain ⟨front, back, rfl, hfront, hback⟩ := h
  obtain ⟨row', rfl, hrow⟩ := List.map_eq_singleton_iff.mp hback
  refine ⟨row', congrArg (· ++ [row']) ?_, hrow⟩
  have hold : rows.map turn.unsettled = rows :=
    (List.map_congr_left fun r hr => if_neg (hfresh r hr)).trans (List.map_id' rows)
  rw [hold] at hfront
  rw [← hfront] at hfresh ⊢
  refine (List.map_id' front).symm.trans (List.map_congr_left fun r hr => ?_)
  have hid := hfresh (turn.unsettled r) (List.mem_map_of_mem hr)
  exact Turn.unsettled_eq rfl hid

/-- What a payment does to the tables it is about. -/
def Atomic (request : PaymentRequest) (s : PaymentDb) : Except PaymentFailure Uuid → PaymentDb → Prop
  | .error _, t => t.users = s.users ∧ t.nodes = s.nodes ∧ t.token_transactions = s.token_transactions
  | .ok id, t => ∃ (key : Uuid) (row : TokenTransaction) (changed : Ledger), request.user_id = .uuid key ∧
      t.token_transactions = s.token_transactions ++ [row] ∧ row.id = id ∧ (∀ old ∈ s.token_transactions, old.id ≠ id) ∧
      amountFormat.assign request.amount = some row.amount ∧ row.transaction_type = request.transaction_type ∧
      row.status = .completed ∧ BalanceChange request key s.ledger changed ∧ t.users = changed.users ∧ t.nodes = changed.nodes

end GalaxiaAin.Payments
