import GalaxiaAin.Library.Noted

/-! Programs in transactions with a note. What a transaction will write is not in the store
before its COMMIT, so a program is checked together with its clients, whatever the others do
in between. -/
namespace GalaxiaAin.Library

variable {B : Backend} {α β γ ρ : Type}

namespace Async
variable (N : Noting B γ)

/-- Every served call does what it may under the note it has, and the outcome fits the last
note and the clients. -/
def Follows : Async B α → (Except B.Error α → γ → Local B → Prop) → γ → Local B → Prop
  | .ret a, R, g, l => R (.ok a) g l
  | .raise e, R, g, l => R (.error e) g l
  | .sync c k, R, g, l => (k (c.exec l).1).Follows R g (c.exec l).2
  | .call σ c k, R, g, l => ∀ (s : B.Store) (a : Answer B), (¬ a.Faulty → N.may g σ s (c.exec a s l).2.1) ∧
      (k (c.exec a s l).1).Follows R (N.note g σ s) (c.exec a s l).2.2

/-- The outcome of the first of two programs in sequence. -/
def nextFollows (f : α → Async B β) (R : Except B.Error β → γ → Local B → Prop) :
    Except B.Error α → γ → Local B → Prop
  | .ok a, g, l => (f a).Follows N R g l
  | .error e, g, l => R (.error e) g l

/-- The outcome of a program under a handler. -/
def caughtFollows (h : B.Error → Async B α) (R : Except B.Error α → γ → Local B → Prop) :
    Except B.Error α → γ → Local B → Prop
  | .ok a, g, l => R (.ok a) g l
  | .error e, g, l => (h e).Follows N R g l

variable {N} {R : Except B.Error α → γ → Local B → Prop} {g : γ} {l : Local B}

theorem follows_mono {p : Async B α} {R' : Except B.Error α → γ → Local B → Prop} (h : p.Follows N R g l)
    (hR : ∀ r g l, R r g l → R' r g l) : p.Follows N R' g l := by
  induction p generalizing g l with
  | ret a => exact hR _ _ _ h
  | raise e => exact hR _ _ _ h
  | sync c k ih => exact ih _ h
  | call σ c k ih => exact fun s a => ⟨(h s a).1, ih _ (h s a).2⟩

theorem follows_bind {p : Async B β} {f : β → Async B α} (h : p.Follows N (nextFollows N f R) g l) :
    (p >>= f).Follows N R g l := by
  change (p.bind f).Follows N R g l
  induction p generalizing g l with
  | ret a => exact h
  | raise e => exact h
  | sync c k ih => exact ih _ h
  | call σ c k ih => exact fun s a => ⟨(h s a).1, ih _ (h s a).2⟩

theorem follows_handle {p : Async B α} {f : B.Error → Async B α} (h : p.Follows N (caughtFollows N f R) g l) :
    (p.handle f).Follows N R g l := by
  induction p generalizing g l with
  | ret a => exact h
  | raise e => exact h
  | sync c k ih => exact ih _ h
  | call σ c k ih => exact fun s a => ⟨(h s a).1, ih _ (h s a).2⟩

theorem follows_ofExcept {r : Except B.Error α} (h : R r g l) : (ofExcept r).Follows N R g l := by
  cases r <;> exact h

theorem follows_await {σ : B.Site} {c : Call B α} (h : ∀ (s : B.Store) (a : Answer B),
    (¬ a.Faulty → N.may g σ s (c.exec a s l).2.1) ∧ R (c.exec a s l).1 (N.note g σ s) (c.exec a s l).2.2) :
    (await σ c).Follows N R g l :=
  fun s a => ⟨(h s a).1, follows_ofExcept (h s a).2⟩

/-- A statement of the pool that only reads leaves the clients alone. -/
theorem follows_select {σ : B.Site} {f : B.Context → B.Store → α} (hmay : ∀ s, N.may g σ s s)
    (hR : ∀ s r, R r (N.note g σ s) l) : (await σ (.pool (.select f))).Follows N R g l := by
  refine follows_await fun s a => ?_
  cases a with
  | fault e => exact ⟨fun h => absurd trivial h, hR s _⟩
  | done reply => exact ⟨fun _ => hmay s, hR s _⟩

theorem follows_begin {σ : B.Site} {R : Except B.Error Unit → γ → Local B → Prop} (hidle : l.top = .idle)
    (hmay : ∀ s, N.may g σ s s) (hok : ∀ s, R (.ok ()) (N.note g σ s) (l.setTop (.active B.initial [] id)))
    (herror : ∀ s e l', R (.error e) (N.note g σ s) l') : (await σ .begin).Follows N R g l := by
  refine follows_await fun s a => ?_
  cases a with
  | fault e => exact ⟨fun h => absurd trivial h, herror s _ _⟩
  | done reply =>
    simp only [Call.exec, Call.serve, hidle, Session.begin]
    exact ⟨fun _ => hmay s, hok s⟩

/-- A statement in an open transaction: what it changes is added to what is pending. -/
theorem follows_query {σ : B.Site} {q : Stmt B α} {c : B.Context} {held : List B.Lock} {w : B.Store → B.Store}
    (hopen : l.top = .active c held w) (hmay : ∀ s, N.may g σ s s)
    (hok : ∀ s r u k, q.run c (w s) = .ok (r, u) → R (.ok r) (N.note g σ s) (l.setTop (.active c k fun t => u (w t))))
    (herror : ∀ s e l', R (.error e) (N.note g σ s) l') : (query σ q).Follows N R g l := by
  refine follows_await fun s a => ?_
  cases a with
  | fault e => exact ⟨fun h => absurd trivial h, herror s _ _⟩
  | done reply =>
    simp only [Call.exec, Call.serve, hopen, Session.query]
    cases hrun : q.run c (w s) with
    | error e =>
      rw [Stmt.reply_error hrun]
      exact ⟨fun _ => hmay s, herror s _ _⟩
    | ok out =>
      obtain ⟨r, u⟩ := out
      rw [Stmt.reply_ok hrun, Stmt.effect_ok hrun]
      exact ⟨fun _ => hmay s, hok s r u _ hrun⟩

/-- COMMIT writes what is pending. -/
theorem follows_commit {σ : B.Site} {R : Except B.Error Unit → γ → Local B → Prop} {c : B.Context}
    {held : List B.Lock} {w : B.Store → B.Store} (hopen : l.top = .active c held w) (hmay : ∀ s, N.may g σ s (w s))
    (hR : ∀ s r l', R r (N.note g σ s) l') : (await σ .commit).Follows N R g l := by
  refine follows_await fun s a => ?_
  cases a with
  | fault e => exact ⟨fun h => absurd trivial h, hR s _ _⟩
  | done reply =>
    simp only [Call.exec, Call.serve, hopen, Session.commit]
    exact ⟨fun _ => hmay s, hR s _ _⟩

theorem follows_orRollback {σ : B.Site} {p : Async B α} (hmay : ∀ g s, N.may g σ s s)
    (hfault : ∀ e g l, R (.error e) g l)
    (h : p.Follows N (fun r g l => ∀ a, r = .ok a → R (.ok a) g l) g l) : (p.orRollback σ).Follows N R g l := by
  refine follows_handle (follows_mono h fun r g l hr => ?_)
  cases r with
  | ok a => exact hr a rfl
  | error e =>
    refine follows_bind (follows_await fun s a => ?_)
    cases a with
    | fault f => exact ⟨fun h => absurd trivial h, hfault _ _ _⟩
    | done reply => exact ⟨fun _ => hmay g s, hfault _ _ _⟩

/-- A program with a client of its own; nothing is asked of what it leaves. -/
theorem follows_withClient {σ : B.Site} {p : Async B α} (hmay : ∀ s, N.may g σ s s) (hnote : ∀ s, N.note g σ s = g)
    (h : p.Follows N (fun _ _ _ => True) g ⟨.idle :: l.sessions, l.out⟩) :
    (p.withClient σ).Follows N (fun _ _ _ => True) g l := by
  have hrelease (r : Except B.Error α) (g : γ) (l : Local B) :
      (do Async.sync .release ofExcept; ofExcept r : Async B α).Follows N (fun _ _ _ => True) g l :=
    follows_bind (follows_ofExcept (follows_ofExcept (R := fun _ _ _ => True) trivial))
  have hconnected : p.releasing.Follows N (fun _ _ _ => True) g ⟨.idle :: l.sessions, l.out⟩ := by
    refine follows_bind (follows_handle (follows_bind (follows_mono h fun r g l _ => ?_)))
    cases r with
    | ok a => exact hrelease (.ok a) g l
    | error e => exact hrelease (.error e) g l
  refine follows_bind (follows_await fun s a => ?_)
  rw [hnote]
  cases a with
  | fault f => exact ⟨fun h => absurd trivial h, trivial⟩
  | done reply => exact ⟨fun _ => hmay s, hconnected⟩

theorem follows_settle {p : Async B α} (h : p.Follows N R g l) : (p.settle l).1.Follows N R g (p.settle l).2 := by
  induction p generalizing l with
  | ret a => exact h
  | raise e => exact h
  | call σ c k ih => exact h
  | sync c k ih => exact ih _ h

end Async

/-! ### Runs -/

section Runs
variable {ι : Type} [DecidableEq ι] {N : ι → Noting B γ} {R : ι → Except B.Error α → γ → Local B → Prop}

/-- Every handler follows its note with the clients it holds. -/
def Config.Follows (N : ι → Noting B γ) (R : ι → Except B.Error α → γ → Local B → Prop) (notes : ι → γ)
    (cfg : Config B ι α) : Prop :=
  ∀ i, (cfg.thread i).prog.Follows (N i) (R i) (notes i) (cfg.thread i).loc

omit [DecidableEq ι] in
theorem Config.follows_start {p : ι → Async B α} {g : γ} (h : ∀ i, (p i).Follows (N i) (R i) g .empty) (s : B.Store) :
    (Config.mk s fun i => Thread.start (p i)).Follows N R fun _ => g :=
  fun i => Async.follows_settle (h i)

/-- A served step does what its call may under the note of its handler, a failed one nothing,
and the handlers go on following their notes. -/
theorem Config.Follows.fire {policy : Policy B} {notes : ι → γ} {cfg : Config B ι α} (h : cfg.Follows N R notes) {i : ι}
    {a : Answer B} (he : cfg.Enabled policy i a) :
    (∃ σ, cfg.site i = some σ ∧ (a.Faulty → (cfg.fire i a).store = cfg.store) ∧
      (¬ a.Faulty → (N i).may (notes i) σ cfg.store (cfg.fire i a).store)) ∧
      (cfg.fire i a).Follows N R ((N i).update notes cfg i a) := by
  obtain ⟨ρ, σ, c, k, l, hi, -, -⟩ := he.cases
  have hthread := h i
  rw [hi] at hthread
  obtain ⟨hmay, hk⟩ := hthread cfg.store a
  have hsite := Config.site_call hi
  rw [Config.fire_call hi a]
  refine ⟨⟨σ, hsite, fun hf => ?_, hmay⟩, fun j => ?_⟩
  · cases a with
    | fault f => rfl
    | done reply => exact hf.elim
  · by_cases hj : j = i
    · subst hj
      rw [Noting.update, hsite]
      simp only [Function.update_self]
      exact Async.follows_settle hk
    · rw [Noting.update]
      simp only [Function.update_of_ne hj]
      exact h j

end Runs
end GalaxiaAin.Library
