import GalaxiaAin.Library.Cascade
import GalaxiaAin.Library.Execution

/-! The remote calls that a run has made: what a service was asked and served stays done,
whatever becomes of the rest of the run. -/
namespace GalaxiaAin.Library

variable {B : Backend} {α β ρ : Type}

/-- The remote calls after this one: a served call is added to those made. -/
def Call.made : Call B ρ → Answer B → List B.Remote → List B.Remote
  | .remote r, .done _, before => before ++ [r]
  | _, _, before => before

namespace Async

/-- The remote calls of the run with one answer for every site, after those before it. -/
def made (answer : B.Site → Answer B) : Async B α → B.Store → Local B → List B.Remote → List B.Remote
  | .ret _, _, _, before => before
  | .raise _, _, _, before => before
  | .sync c k, s, l, before => (k (c.exec l).1).made answer s (c.exec l).2 before
  | .call σ c k, s, l, before =>
    let o := c.exec (answer σ) s l
    (k o.1).made answer o.2.1 o.2.2 (c.made (answer σ) before)

/-- A statement about an outcome, what it leaves and the remote calls made. -/
abbrev Told (B : Backend) (α : Type) := Except B.Error α → B.Store → Local B → List B.Remote → Prop

/-- The run with these answers ends so. -/
def Tells (answer : B.Site → Answer B) : Async B α → Told B α → B.Store → Local B → List B.Remote → Prop
  | .ret a, Q, s, l, before => Q (.ok a) s l before
  | .raise e, Q, s, l, before => Q (.error e) s l before
  | .sync c k, Q, s, l, before => (k (c.exec l).1).Tells answer Q s (c.exec l).2 before
  | .call σ c k, Q, s, l, before =>
    (k (c.exec (answer σ) s l).1).Tells answer Q (c.exec (answer σ) s l).2.1 (c.exec (answer σ) s l).2.2 (c.made (answer σ) before)

section Rules
variable {answer : B.Site → Answer B} {s : B.Store} {l : Local B} {before : List B.Remote} {σ : B.Site}

theorem tells_iff (p : Async B α) (Q : Told B α) : p.Tells answer Q s l before ↔
    Q (p.follow answer s l).1 (p.follow answer s l).2.1 (p.follow answer s l).2.2 (p.made answer s l before) := by
  induction p generalizing s l before with
  | ret a => rfl
  | raise e => rfl
  | sync c k ih => exact ih _
  | call σ c k ih => exact ih _

theorem tells_mono {p : Async B α} {Q Q' : Told B α} (h : p.Tells answer Q s l before) (hq : ∀ r t l' m, Q r t l' m → Q' r t l' m) :
    p.Tells answer Q' s l before := (tells_iff p Q').mpr (hq _ _ _ _ ((tells_iff p Q).mp h))

/-- What the first of two programs in sequence has to end in. -/
def nextTells (answer : B.Site → Answer B) (f : α → Async B β) (Q : Told B β) : Told B α
  | .ok a, s, l, m => (f a).Tells answer Q s l m
  | .error e, s, l, m => Q (.error e) s l m

/-- What a program under a handler has to end in. -/
def caughtTells (answer : B.Site → Answer B) (h : B.Error → Async B α) (Q : Told B α) : Told B α
  | .ok a, s, l, m => Q (.ok a) s l m
  | .error e, s, l, m => (h e).Tells answer Q s l m

theorem tells_bind (p : Async B α) (f : α → Async B β) (Q : Told B β) :
    (p >>= f).Tells answer Q s l before ↔ p.Tells answer (nextTells answer f Q) s l before := by
  change (p.bind f).Tells answer Q s l before ↔ _
  induction p generalizing s l before with
  | ret a => rfl
  | raise e => rfl
  | sync c k ih => exact ih _
  | call σ c k ih => exact ih _

theorem tells_handle (p : Async B α) (h : B.Error → Async B α) (Q : Told B α) :
    (p.handle h).Tells answer Q s l before ↔ p.Tells answer (caughtTells answer h Q) s l before := by
  induction p generalizing s l before with
  | ret a => rfl
  | raise e => rfl
  | sync c k ih => exact ih _
  | call σ c k ih => exact ih _

theorem tells_ofExcept (r : Except B.Error α) (Q : Told B α) : (ofExcept r).Tells answer Q s l before ↔ Q r s l before := by
  cases r <;> rfl

theorem tells_await (c : Call B ρ) (Q : Told B ρ) : (await σ c).Tells answer Q s l before ↔
    Q (c.exec (answer σ) s l).1 (c.exec (answer σ) s l).2.1 (c.exec (answer σ) s l).2.2 (c.made (answer σ) before) :=
  tells_ofExcept _ _

/-- A call is served or fails. -/
theorem tells_call {c : Call B ρ} {Q : Told B ρ}
    (hdone : ∀ reply, answer σ = .done reply → Q (c.serve reply s l).1 (c.serve reply s l).2.1 (c.serve reply s l).2.2 (c.made (.done reply) before))
    (hfault : ∀ f, (answer σ).Faulty → Q (.error (B.raise f)) s (c.failed l) before) : (await σ c).Tells answer Q s l before := by
  rw [tells_await]
  cases h : answer σ with
  | done reply => exact hdone reply h
  | fault f =>
    have hsame : c.made (.fault f) before = before := by cases c <;> rfl
    rw [hsame]
    exact hfault f (by rw [h]; trivial)

/-- The client is released whatever the outcome. -/
theorem tells_withClient {p : Async B α} {Q : Told B α}
    (hdone : ¬ (answer σ).Faulty → p.Tells answer (fun r t l' m => Q r t ⟨l'.sessions.tail, l'.out⟩ m) s ⟨.idle :: l.sessions, l.out⟩ before)
    (hfault : ∀ f, (answer σ).Faulty → Q (.error (B.raise f)) s l before) : (p.withClient σ).Tells answer Q s l before := by
  rw [withClient, tells_bind]
  refine tells_call (fun reply h => ?_) hfault
  change (p.releasing).Tells answer Q s ⟨.idle :: l.sessions, l.out⟩ before
  rw [releasing, tells_bind, attempt, tells_handle, tells_bind]
  refine tells_mono (hdone (by rw [h]; exact id)) fun r t l' m hr => ?_
  cases r <;> exact hr

/-- A statement in an open transaction. -/
theorem tells_query_active {q : Stmt B ρ} {Q : Told B ρ} {c : B.Context} {held : List B.Lock} {pending : B.Store → B.Store}
    {rest : List (Session B)} {out : List B.Event}
    (hok : ¬ (answer σ).Faulty → ∀ r w, q.run c (pending s) = .ok (r, w) →
      Q (.ok r) s ⟨.active c (q.locks c (pending s) ++ held) (fun t => w (pending t)) :: rest, out⟩ before)
    (herror : ∀ e x, (answer σ).Faulty ∨ q.run c (pending s) = .error e → Q (.error e) s ⟨x :: rest, out⟩ before) :
    (query σ q).Tells answer Q s ⟨.active c held pending :: rest, out⟩ before := by
  refine tells_call (fun reply h => ?_) fun f h => herror _ _ (.inl h)
  cases hrun : q.run c (pending s) with
  | ok o =>
    obtain ⟨r, w⟩ := o
    simp only [Call.serve, Call.made, Local.top_cons, Local.setTop_cons, Session.query, Stmt.reply_ok hrun, Stmt.effect_ok hrun]
    exact hok (by rw [h]; exact id) r w hrun
  | error e =>
    simp only [Call.serve, Call.made, Local.top_cons, Local.setTop_cons, Session.query, Stmt.reply_error hrun]
    exact herror e _ (.inr hrun)

end Rules

/-! ### Programs without remote calls -/

/-- No remote call is made. -/
def Silent : Async B α → Prop
  | .ret _ => True
  | .raise _ => True
  | .sync _ k => ∀ r, (k r).Silent
  | .call _ c k => (∀ a before, c.made a before = before) ∧ ∀ r, (k r).Silent

theorem silent_bind {p : Async B α} {f : α → Async B β} (hp : p.Silent) (hf : ∀ a, (f a).Silent) : (p >>= f).Silent := by
  change (p.bind f).Silent
  induction p with
  | ret a => exact hf a
  | raise e => trivial
  | sync c k ih => exact fun r => ih r (hp r)
  | call σ c k ih => exact ⟨hp.1, fun r => ih r (hp.2 r)⟩

theorem silent_ofExcept (r : Except B.Error α) : (ofExcept r).Silent := by cases r <;> trivial

theorem silent_await {σ : B.Site} {c : Call B ρ} (h : ∀ a before, c.made a before = before) : (await σ c).Silent :=
  ⟨h, silent_ofExcept⟩

/-- What holds of every execution holds of this one. -/
theorem Silent.tells {p : Async B α} {Q : Post B α} {answer : B.Site → Answer B} {s : B.Store} {l : Local B} {before : List B.Remote}
    (hp : p.Silent) (h : p.post (fun _ => True) Q s l) : p.Tells answer (fun r t l' m => Q r t l' ∧ m = before) s l before := by
  induction p generalizing s l with
  | ret a => exact ⟨h, rfl⟩
  | raise e => exact ⟨h, rfl⟩
  | sync c k ih => exact ih _ (hp _) h
  | call σ c k ih =>
    have hk := ih (c.exec (answer σ) s l).1 (hp.2 _) (h (answer σ) fun _ => trivial)
    change (k (c.exec (answer σ) s l).1).Tells answer _ (c.exec (answer σ) s l).2.1 (c.exec (answer σ) s l).2.2 (c.made (answer σ) before)
    rw [hp.1]
    exact hk

end Async
end GalaxiaAin.Library
