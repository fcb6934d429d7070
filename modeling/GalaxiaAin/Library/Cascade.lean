import GalaxiaAin.Library.Async

/-! Cascades: what a turn emits is handled in later turns, which emit in their turn.
Each turn has its own answers of the environment, one for every site. -/
namespace GalaxiaAin.Library

variable {B : Backend} {α β ρ : Type}

@[simp] theorem Answer.not_faulty_done (reply : ∀ r, B.Reply r) : ¬ (Answer.done reply).Faulty := id

theorem Answer.served {a : Answer B} (h : ¬ a.Faulty) : ∃ reply, a = .done reply := by
  cases a with
  | done reply => exact ⟨reply, rfl⟩
  | fault f => exact absurd trivial h

/-- Go on from a reply; an error ends it. -/
def onOk {ε σ τ : Type} (o : Except ε α × σ × τ) (f : α → σ → τ → Except ε β × σ × τ) : Except ε β × σ × τ :=
  match o with
  | (.ok a, s, l) => f a s l
  | (.error e, s, l) => (.error e, s, l)

/-- Go on from an error. -/
def onError {ε σ τ : Type} (o : Except ε α × σ × τ) (h : ε → σ → τ → Except ε α × σ × τ) : Except ε α × σ × τ :=
  match o with
  | (.ok a, s, l) => (.ok a, s, l)
  | (.error e, s, l) => h e s l

section
variable {ε σ τ : Type} (s : σ) (l : τ)

@[simp] theorem onOk_ok (a : α) (f : α → σ → τ → Except ε β × σ × τ) : onOk (.ok a, s, l) f = f a s l := rfl
@[simp] theorem onOk_error (e : ε) (f : α → σ → τ → Except ε β × σ × τ) :
    onOk (.error e, s, l) f = (.error e, s, l) := rfl
@[simp] theorem onError_ok (a : α) (h : ε → σ → τ → Except ε α × σ × τ) :
    onError (.ok a, s, l) h = (.ok a, s, l) := rfl
@[simp] theorem onError_error (e : ε) (h : ε → σ → τ → Except ε α × σ × τ) :
    onError (.error e, s, l) h = h e s l := rfl

end

namespace Async

/-- Run a program with one answer for every site. -/
def follow (answer : B.Site → Answer B) : Async B α → B.Store → Local B → Except B.Error α × B.Store × Local B
  | .ret a, s, l => (.ok a, s, l)
  | .raise e, s, l => (.error e, s, l)
  | .sync c k, s, l => (k (c.exec l).1).follow answer s (c.exec l).2
  | .call σ c k, s, l =>
    let o := c.exec (answer σ) s l
    (k o.1).follow answer o.2.1 o.2.2

section Rules
variable (answer : B.Site → Answer B)

@[simp] theorem follow_pure (a : α) (s : B.Store) (l : Local B) :
    (pure a : Async B α).follow answer s l = (.ok a, s, l) := rfl
@[simp] theorem follow_raise (e : B.Error) (s : B.Store) (l : Local B) :
    (Async.raise e : Async B α).follow answer s l = (.error e, s, l) := rfl
@[simp] theorem follow_throw (e : B.Error) (s : B.Store) (l : Local B) :
    (throw e : Async B α).follow answer s l = (.error e, s, l) := rfl
@[simp] theorem follow_ofExcept (r : Except B.Error α) (s : B.Store) (l : Local B) :
    (ofExcept r).follow answer s l = (r, s, l) := by cases r <;> rfl

@[simp] theorem follow_bind (p : Async B α) (f : α → Async B β) (s : B.Store) (l : Local B) :
    (p >>= f).follow answer s l = onOk (p.follow answer s l) fun a => (f a).follow answer := by
  change (p.bind f).follow answer s l = _
  induction p generalizing s l with
  | ret a => rfl
  | raise e => rfl
  | sync c k ih => exact ih _ _ _
  | call σ c k ih => exact ih _ _ _

@[simp] theorem follow_handle (p : Async B α) (h : B.Error → Async B α) (s : B.Store) (l : Local B) :
    (p.handle h).follow answer s l = onError (p.follow answer s l) fun e => (h e).follow answer := by
  induction p generalizing s l with
  | ret a => rfl
  | raise e => rfl
  | sync c k ih => exact ih _ _ _
  | call σ c k ih => exact ih _ _ _

@[simp] theorem follow_await (σ : B.Site) (c : Call B ρ) (s : B.Store) (l : Local B) :
    (await σ c).follow answer s l = c.exec (answer σ) s l := follow_ofExcept answer _ _ _

@[simp] theorem follow_emit (e : B.Event) (s : B.Store) (l : Local B) :
    (emit e).follow answer s l = (((Sync.emit e).exec l).1, s, ((Sync.emit e).exec l).2) :=
  follow_ofExcept answer _ _ _

@[simp] theorem follow_orRollback (σ : B.Site) (p : Async B α) (s : B.Store) (l : Local B) :
    (p.orRollback σ).follow answer s l =
      onError (p.follow answer s l) fun e => (do await σ .rollback; .raise e : Async B α).follow answer :=
  follow_handle answer p _ s l

@[simp] theorem follow_releasing (p : Async B α) (s : B.Store) (l : Local B) :
    p.releasing.follow answer s l =
      ((p.follow answer s l).1, (p.follow answer s l).2.1,
        { (p.follow answer s l).2.2 with sessions := (p.follow answer s l).2.2.sessions.tail }) := by
  rw [releasing, attempt, follow_bind, follow_handle, follow_bind]
  rcases p.follow answer s l with ⟨r | r, s', l'⟩ <;> rfl

@[simp] theorem follow_withClient (σ : B.Site) (p : Async B α) (s : B.Store) (l : Local B) :
    (p.withClient σ).follow answer s l =
      onOk ((Call.connect).exec (answer σ) s l) fun _ => p.releasing.follow answer := by
  rw [withClient, follow_bind, follow_await]

variable {answer} {σ σ' : B.Site} {p : Async B α} {s s' : B.Store}

/-- What a transaction on a client of its own leaves, the function leaves; an error stays
one, whether ROLLBACK is served or not. -/
theorem follow_transaction (hconnect : ¬ (answer σ).Faulty) {r : Except B.Error α} {x : Session B} {out : List B.Event}
    (hp : p.follow answer s ⟨[.idle], []⟩ = (r, s', ⟨[x], out⟩)) :
    ∃ r', ((p.orRollback σ').withClient σ).follow answer s Local.empty = (r', s', ⟨[], out⟩) ∧ r'.isOk = r.isOk := by
  obtain ⟨reply, hconnect⟩ := Answer.served hconnect
  have hbody : ∃ r' x', (p.orRollback σ').follow answer s ⟨[.idle], []⟩ = (r', s', ⟨[x'], out⟩) ∧ r'.isOk = r.isOk := by
    rw [follow_orRollback, hp]
    cases r with
    | ok a => exact ⟨_, _, rfl, rfl⟩
    | error e =>
      rw [onError_error, follow_bind, follow_await]
      cases answer σ' <;> exact ⟨_, _, rfl, rfl⟩
  obtain ⟨r', x', hbody, hok⟩ := hbody
  refine ⟨r', ?_, hok⟩
  simp only [follow_withClient, hconnect, Call.exec, Call.serve, onOk_ok, follow_releasing, Local.empty, hbody,
    List.tail_cons]

/-- Without a client nothing happens. -/
theorem follow_disconnected (hconnect : (answer σ).Faulty) :
    ∃ e, (p.withClient σ).follow answer s Local.empty = (.error e, s, Local.empty) := by
  rw [follow_withClient]
  cases h : answer σ with
  | done reply => rw [h] at hconnect; exact absurd hconnect id
  | fault f => exact ⟨B.raise f, rfl⟩

end Rules
end Async

/-- The store and the events whose handlers have not run, in order. -/
structure Cascade (B : Backend) where
  store : B.Store
  pending : List B.Event

namespace Cascade

/-- One turn: the handler of the first pending event. -/
def turn (handler : B.Event → Async B Unit) (answer : B.Site → Answer B) : Cascade B → Cascade B
  | ⟨s, []⟩ => ⟨s, []⟩
  | ⟨s, e :: rest⟩ =>
    let o := (handler e).follow answer s Local.empty
    ⟨o.2.1, rest ++ o.2.2.out⟩

/-- What a program starts. -/
def start (p : Async B α) (answer : B.Site → Answer B) (s : B.Store) : Cascade B :=
  let o := p.follow answer s Local.empty
  ⟨o.2.1, o.2.2.out⟩

/-- The cascade after a number of turns. -/
def after (handler : Nat → B.Event → Async B Unit) (answers : Nat → B.Site → Answer B) (c : Cascade B) :
    Nat → Cascade B
  | 0 => c
  | n + 1 => (after handler answers c n).turn (handler n) (answers n)

section
variable {handler : Nat → B.Event → Async B Unit} {answers : Nat → B.Site → Answer B} {c : Cascade B}

theorem turn_done {h : B.Event → Async B Unit} {answer : B.Site → Answer B} (hc : c.pending = []) :
    c.turn h answer = c := by
  rcases c with ⟨s, pending⟩
  cases hc
  rfl

/-- The first turn comes first. -/
theorem after_succ (n : Nat) :
    after handler answers c (n + 1) =
      after (fun k => handler (k + 1)) (fun k => answers (k + 1)) (c.turn (handler 0) (answers 0)) n := by
  induction n with
  | zero => rfl
  | succ n ih => rw [after, ih, after]

/-- A cascade with nothing pending is over. -/
theorem after_done (h : c.pending = []) (n : Nat) : after handler answers c n = c := by
  induction n with
  | zero => rfl
  | succ n ih => rw [after, ih, turn_done h]

end
end Cascade
end GalaxiaAin.Library
