import GalaxiaAin.Library.Frame

/-! Two runs of one program from two stores, under the same answers. A view says
which stores an observer cannot tell apart and which changes it may not see; a
program whose statements respect the view stays in lockstep. -/
namespace GalaxiaAin.Library

variable {B : Backend} {α β ρ : Type}

/-- Stores that look the same to the observer, and changes that keep the rest as it was. -/
structure View (B : Backend) extends Frame B where
  same : B.Store → B.Store → Prop

/-- A pair of final stores and handler states. -/
abbrev Post₂ (B : Backend) (α : Type) :=
  Except B.Error α → B.Store → Local B → B.Store → Local B → Prop

namespace Async

/-- Under the same answers both runs take the same turns and end in the postcondition. -/
def lockstep : Async B α → Post₂ B α → B.Store → Local B → B.Store → Local B → Prop
  | .ret a, Q, s, l, t, k => Q (.ok a) s l t k
  | .raise e, Q, s, l, t, k => Q (.error e) s l t k
  | .sync c p, Q, s, l, t, k =>
    (c.exec l).1 = (c.exec k).1 ∧ (p (c.exec l).1).lockstep Q s (c.exec l).2 t (c.exec k).2
  | .call _ c p, Q, s, l, t, k => ∀ a : Answer B, (c.exec a s l).1 = (c.exec a t k).1 ∧
    (p (c.exec a s l).1).lockstep Q (c.exec a s l).2.1 (c.exec a s l).2.2 (c.exec a t k).2.1 (c.exec a t k).2.2

/-- The postcondition of the first of two programs in sequence. -/
def nextLockstep (f : α → Async B β) (Q : Post₂ B β) : Post₂ B α
  | .ok a => (f a).lockstep Q
  | .error e => Q (.error e)

/-- The postcondition of a program under a handler. -/
def caughtLockstep (h : B.Error → Async B α) (Q : Post₂ B α) : Post₂ B α
  | .ok a => Q (.ok a)
  | .error e => (h e).lockstep Q

/-- Any script gives both runs the same outcome. -/
theorem lockstep_run {p : Async B α} {Q : Post₂ B α} {s t : B.Store} {l k : Local B}
    (h : p.lockstep Q s l t k) (script : List (Answer B)) :
    (p.run script s l).1 = (p.run script t k).1 ∧
      Q (p.run script s l).1 (p.run script s l).2.1 (p.run script s l).2.2
        (p.run script t k).2.1 (p.run script t k).2.2 := by
  induction p generalizing s l t k script with
  | ret a => exact ⟨rfl, h⟩
  | raise e => exact ⟨rfl, h⟩
  | sync c p ih =>
    simp only [run]
    rw [← h.1]
    exact ih _ h.2 script
  | call σ c p ih =>
    obtain ⟨he, hk⟩ := h (script.headD (.done B.usual))
    simp only [run]
    rw [← he]
    exact ih _ hk script.tail

@[simp] theorem lockstep_bind (p : Async B α) (f : α → Async B β) (Q : Post₂ B β) (s t : B.Store)
    (l k : Local B) : (p >>= f).lockstep Q s l t k ↔ p.lockstep (nextLockstep f Q) s l t k := by
  change (p.bind f).lockstep Q s l t k ↔ _
  induction p generalizing s l t k with
  | ret a => rfl
  | raise e => rfl
  | sync c p ih => exact and_congr_right fun _ => ih _ _ _ _ _
  | call σ c p ih => exact forall_congr' fun a => and_congr_right fun _ => ih _ _ _ _ _

@[simp] theorem lockstep_handle (p : Async B α) (h : B.Error → Async B α) (Q : Post₂ B α) (s t : B.Store)
    (l k : Local B) : (p.handle h).lockstep Q s l t k ↔ p.lockstep (caughtLockstep h Q) s l t k := by
  induction p generalizing s l t k with
  | ret a => rfl
  | raise e => rfl
  | sync c p ih => exact and_congr_right fun _ => ih _ _ _ _ _
  | call σ c p ih => exact forall_congr' fun a => and_congr_right fun _ => ih _ _ _ _ _

@[simp] theorem lockstep_pure (a : α) (Q : Post₂ B α) (s t : B.Store) (l k : Local B) :
    (pure a : Async B α).lockstep Q s l t k ↔ Q (.ok a) s l t k := Iff.rfl
@[simp] theorem lockstep_raise (e : B.Error) (Q : Post₂ B α) (s t : B.Store) (l k : Local B) :
    (Async.raise e : Async B α).lockstep Q s l t k ↔ Q (.error e) s l t k := Iff.rfl
@[simp] theorem lockstep_ofExcept (r : Except B.Error α) (Q : Post₂ B α) (s t : B.Store) (l k : Local B) :
    (ofExcept r).lockstep Q s l t k ↔ Q r s l t k := by cases r <;> rfl

theorem lockstep_await (σ : B.Site) (c : Call B ρ) (Q : Post₂ B ρ) (s t : B.Store) (l k : Local B) :
    (await σ c).lockstep Q s l t k ↔ ∀ a : Answer B, (c.exec a s l).1 = (c.exec a t k).1 ∧
      Q (c.exec a s l).1 (c.exec a s l).2.1 (c.exec a s l).2.2 (c.exec a t k).2.1 (c.exec a t k).2.2 :=
  forall_congr' fun _ => and_congr_right fun _ => lockstep_ofExcept _ _ _ _ _ _

/-- Only statements on the client, each of them `ok`. -/
def Within (ok : ∀ {ρ : Type}, Stmt B ρ → Prop) : Async B α → Prop
  | .ret _ => True
  | .raise _ => True
  | .sync _ _ => False
  | .call _ (.query q) p => ok q ∧ ∀ r, (p r).Within ok
  | .call _ _ _ => False

section Within
variable {ok : ∀ {ρ : Type}, Stmt B ρ → Prop}

theorem within_bind {p : Async B α} {f : α → Async B β} (hp : p.Within ok) (hf : ∀ a, (f a).Within ok) :
    (p >>= f).Within ok := by
  change (p.bind f).Within ok
  induction p with
  | ret a => exact hf a
  | raise e => trivial
  | sync c k ih => exact hp.elim
  | call σ c k ih =>
    cases c with
    | query q => exact ⟨hp.1, fun r => ih r (hp.2 r)⟩
    | _ => exact hp.elim

theorem within_ofExcept (r : Except B.Error α) : (ofExcept r).Within ok := by cases r <;> trivial

theorem within_query {q : Stmt B ρ} (hq : ok q) (σ : B.Site) : (query σ q).Within ok :=
  ⟨hq, fun r => within_ofExcept r⟩

end Within
end Async

/-- A statement the view cannot be told apart by: the same reply in stores that look
the same, a change that keeps them alike, and the rest untouched. -/
structure Stmt.Respects (V : View B) (c : B.Context) (q : Stmt B ρ) : Prop where
  reply : ∀ s t, V.same s t → q.reply c s = q.reply c t
  effect : ∀ s t s' t', V.same s t → V.same s' t' → V.same (q.effect c s s') (q.effect c t t')
  kept : ∀ s s', V.kept s' (q.effect c s s')

/-- A statement respects a view when stores that look the same decide the same change,
and the changes it decides respect the view. -/
theorem Stmt.Respects.of_run {V : View B} {c : B.Context} {q : Stmt B ρ}
    (hrun : ∀ s t, V.same s t → q.run c s = q.run c t)
    (hsame : ∀ s r w, q.run c s = .ok (r, w) → ∀ s' t', V.same s' t' → V.same (w s') (w t'))
    (hkept : ∀ s r w, q.run c s = .ok (r, w) → ∀ s', V.kept s' (w s')) : q.Respects V c where
  reply s t hst := by rw [Stmt.reply, Stmt.reply, hrun s t hst]
  effect s t s' t' hst h := by
    rw [Stmt.effect, Stmt.effect, ← hrun s t hst]
    cases hq : q.run c s with
    | ok o => exact hsame s o.1 o.2 hq s' t' h
    | error e => exact h
  kept s s' := by
    rw [Stmt.effect]
    cases hq : q.run c s with
    | ok o => exact hkept s o.1 o.2 hq s'
    | error e => exact V.kept_refl s'

/-- A statement that only reads respects a view when its answer does. -/
theorem Stmt.Respects.select {V : View B} {c : B.Context} {f : B.Context → B.Store → ρ}
    (h : ∀ s t, V.same s t → f c s = f c t) : (Stmt.select f).Respects V c where
  reply s t hst := congrArg Except.ok (h s t hst)
  effect _ _ _ _ _ h := h
  kept _ s' := V.kept_refl s'

/-- Two sessions in the same context whose pending writes keep the view. -/
inductive Session.Alike (V : View B) (c : B.Context) : Session B → Session B → Prop
  | active {held held' : List B.Lock} {p q : B.Store → B.Store} (hpq : ∀ s t, V.same s t → V.same (p s) (q t))
      (hp : ∀ s, V.kept s (p s)) (hq : ∀ s, V.kept s (q s)) : Alike V c (.active c held p) (.active c held' q)
  | aborted {held held' : List B.Lock} : Alike V c (.aborted held) (.aborted held')

variable {V : View B} {c : B.Context}

/-- A statement answers alike in alike sessions and keeps them alike. -/
theorem Session.Alike.query {q : Stmt B ρ} (hq : q.Respects V c) {x y : Session B} (h : Session.Alike V c x y)
    {s t : B.Store} (hst : V.same s t) : (x.query q s).1 = (y.query q t).1 ∧ (x.query q s).2.1 = s ∧
      (y.query q t).2.1 = t ∧ Session.Alike V c (x.query q s).2.2 (y.query q t).2.2 := by
  cases h with
  | aborted => exact ⟨rfl, rfl, rfl, .aborted⟩
  | @active held held' f g hpq hp hg =>
    have hr := hq.reply _ _ (hpq s t hst)
    simp only [Session.query]
    rw [← hr]
    cases q.reply c (f s) with
    | error e => exact ⟨rfl, rfl, rfl, .aborted⟩
    | ok r =>
      refine ⟨rfl, rfl, rfl, .active (fun u v huv => ?_) (fun u => ?_) (fun u => ?_)⟩
      · exact hq.effect _ _ _ _ (hpq s t hst) (hpq u v huv)
      · exact V.kept_trans _ _ _ (hp u) (hq.kept _ _)
      · exact V.kept_trans _ _ _ (hg u) (hq.kept _ _)

theorem Session.Alike.fail {x y : Session B} (h : Session.Alike V c x y) :
    Session.Alike V c x.fail y.fail := by
  cases h <;> exact .aborted

/-- COMMIT of alike sessions keeps the view and the rest. -/
theorem Session.Alike.commit {x y : Session B} (h : Session.Alike V c x y) {s t : B.Store} (hst : V.same s t) :
    V.same (x.commit s) (y.commit t) ∧ V.kept s (x.commit s) ∧ V.kept t (y.commit t) := by
  cases h with
  | active hpq hp hq => exact ⟨hpq s t hst, hp s, hq t⟩
  | aborted => exact ⟨hst, V.kept_refl s, V.kept_refl t⟩

/-- A body within the view, run in alike sessions, ends in alike sessions and
leaves the committed stores alone. -/
theorem Async.lockstep_within {p : Async B α} (hp : p.Within (fun q => q.Respects V c)) {x y : Session B}
    (hxy : Session.Alike V c x y) {s t : B.Store} (hst : V.same s t) (rest : List (Session B)) (out : List B.Event)
    {Q : Post₂ B α} (hQ : ∀ r x' y', Session.Alike V c x' y' → Q r s ⟨x' :: rest, out⟩ t ⟨y' :: rest, out⟩) :
    p.lockstep Q s ⟨x :: rest, out⟩ t ⟨y :: rest, out⟩ := by
  induction p generalizing x y with
  | ret a => exact hQ _ _ _ hxy
  | raise e => exact hQ _ _ _ hxy
  | sync c k ih => exact hp.elim
  | call σ c k ih =>
    cases c with
    | query q =>
      intro a
      cases a with
      | fault f => exact ⟨rfl, ih _ (hp.2 _) hxy.fail⟩
      | done reply =>
        obtain ⟨hr, hs, ht, hx⟩ := hxy.query hp.1 hst
        simp only [Call.exec, Call.serve, Local.top_cons, Local.setTop_cons]
        rw [hs, ht]
        exact ⟨hr, ih _ (hp.2 _) hx⟩
    | _ => exact hp.elim

/-- A transaction around such a body: both runs answer alike, their stores still look
the same, the rest is untouched, and the connection is idle again. -/
theorem Async.lockstep_transaction (σ : B.Site) (set : B.Context → B.Context) {fn : Async B α}
    (hfn : fn.Within (fun q => q.Respects V (set B.initial))) {s t : B.Store} (hst : V.same s t)
    (out : List B.Event) :
    (Async.orRollback σ do
      Async.await σ .begin
      Async.await σ (.configure set)
      let result ← fn
      Async.await σ .commit
      return result).lockstep
      (fun _ s' l t' k => V.same s' t' ∧ V.kept s s' ∧ V.kept t t' ∧ l = ⟨[.idle], out⟩ ∧ k = ⟨[.idle], out⟩)
      s ⟨[.idle], out⟩ t ⟨[.idle], out⟩ := by
  -- ROLLBACK ends the transaction whatever it is answered.
  have hback (e : B.Error) (x y : Session B) :
      (do Async.await σ .rollback; .raise e : Async B α).lockstep
        (fun _ s' l t' k => V.same s' t' ∧ V.kept s s' ∧ V.kept t t' ∧ l = ⟨[.idle], out⟩ ∧ k = ⟨[.idle], out⟩)
        s ⟨[x], out⟩ t ⟨[y], out⟩ := by
    rw [lockstep_bind, lockstep_await]
    intro a
    cases a <;> exact ⟨rfl, hst, V.kept_refl s, V.kept_refl t, rfl, rfl⟩
  rw [orRollback, lockstep_handle, lockstep_bind, lockstep_await]
  intro a
  cases a with
  | fault f => exact ⟨rfl, hback _ _ _⟩
  | done reply =>
    refine ⟨rfl, ?_⟩
    simp only [Call.exec, Call.serve, Local.top_cons, Local.setTop_cons, Session.begin, nextLockstep]
    rw [lockstep_bind, lockstep_await]
    intro a
    cases a with
    | fault f => exact ⟨rfl, hback _ _ _⟩
    | done reply =>
      refine ⟨rfl, ?_⟩
      simp only [Call.exec, Call.serve, Local.top_cons, Local.setTop_cons, Session.configure, nextLockstep]
      rw [lockstep_bind]
      refine lockstep_within hfn (.active (fun _ _ h => h) V.kept_refl V.kept_refl) hst [] out fun r x y hxy => ?_
      cases r with
      | error e => exact hback _ _ _
      | ok r =>
        simp only [nextLockstep]
        rw [lockstep_bind, lockstep_await]
        intro a
        cases a with
        | fault f => exact ⟨rfl, hback _ _ _⟩
        | done reply =>
          obtain ⟨h, hs, ht⟩ := hxy.commit hst
          exact ⟨rfl, h, hs, ht, rfl, rfl⟩

end GalaxiaAin.Library
