import GalaxiaAin.Library.History

/-! Programs outside transactions with a note of what they have read. A note is brought up
to date at every call from the store the call finds; a program is checked against what each
of its calls may do under the note it has then, whatever the others do in between. -/
namespace GalaxiaAin.Library

variable {B : Backend} {α β γ ρ : Type}

/-- How a note changes at a call, and what a call may do to the store under a note. -/
structure Noting (B : Backend) (γ : Type) where
  note : γ → B.Site → B.Store → γ
  may : γ → B.Site → B.Store → B.Store → Prop

/-- An answer to a statement that runs by itself: its reply, or a fault. -/
def Stmt.Answers (q : Stmt B ρ) (s : B.Store) (r : Except B.Error ρ) : Prop :=
  r = q.reply B.initial s ∨ ∃ f, r = .error (B.raise f)

/-- All its clients are outside transactions. -/
def Local.Idle (l : Local B) : Prop := ∀ x ∈ l.sessions, x = .idle

namespace Async
variable (N : Noting B γ)

/-- Every call does what it may under the note it has, and the outcome fits the last note. -/
def Noted : Async B α → (Except B.Error α → γ → Prop) → γ → Prop
  | .ret a, R, g => R (.ok a) g
  | .raise e, R, g => R (.error e) g
  | .sync c p, R, g => ∀ r, (c = .release → r = .ok ()) → (p r).Noted R g
  | .call σ .connect p, R, g => ∀ s r, (p r).Noted R (N.note g σ s)
  | .call σ (.query q) p, R, g =>
    ∀ s, N.may g σ s (q.effect B.initial s s) ∧ ∀ r, q.Answers s r → (p r).Noted R (N.note g σ s)
  | .call _ _ _, _, _ => False

variable {N}

theorem noted_mono {p : Async B α} {R R' : Except B.Error α → γ → Prop} {g : γ} (h : p.Noted N R g)
    (hR : ∀ r g, R r g → R' r g) : p.Noted N R' g := by
  induction p generalizing g with
  | ret a => exact hR _ _ h
  | raise e => exact hR _ _ h
  | sync c p ih => exact fun r hr => ih r (h r hr)
  | call σ c p ih =>
    cases c with
    | connect => exact fun s r => ih r (h s r)
    | query q => exact fun s => ⟨(h s).1, fun r hr => ih r ((h s).2 r hr)⟩
    | _ => exact h

/-- The outcome of the first of two programs in sequence. -/
def nextNoted (N : Noting B γ) (f : α → Async B β) (R : Except B.Error β → γ → Prop) : Except B.Error α → γ → Prop
  | .ok a, g => (f a).Noted N R g
  | .error e, g => R (.error e) g

/-- The outcome of a program under a handler. -/
def caughtNoted (N : Noting B γ) (h : B.Error → Async B α) (R : Except B.Error α → γ → Prop) : Except B.Error α → γ → Prop
  | .ok a, g => R (.ok a) g
  | .error e, g => (h e).Noted N R g

theorem noted_bind {p : Async B α} {f : α → Async B β} {R : Except B.Error β → γ → Prop} {g : γ}
    (h : p.Noted N (nextNoted N f R) g) : (p >>= f).Noted N R g := by
  change (p.bind f).Noted N R g
  induction p generalizing g with
  | ret a => exact h
  | raise e => exact h
  | sync c p ih => exact fun r hr => ih r (h r hr)
  | call σ c p ih =>
    cases c with
    | connect => exact fun s r => ih r (h s r)
    | query q => exact fun s => ⟨(h s).1, fun r hr => ih r ((h s).2 r hr)⟩
    | _ => exact h

theorem noted_handle {p : Async B α} {f : B.Error → Async B α} {R : Except B.Error α → γ → Prop} {g : γ}
    (h : p.Noted N (caughtNoted N f R) g) : (p.handle f).Noted N R g := by
  induction p generalizing g with
  | ret a => exact h
  | raise e => exact h
  | sync c p ih => exact fun r hr => ih r (h r hr)
  | call σ c p ih =>
    cases c with
    | connect => exact fun s r => ih r (h s r)
    | query q => exact fun s => ⟨(h s).1, fun r hr => ih r ((h s).2 r hr)⟩
    | _ => exact h

theorem noted_ofExcept {r : Except B.Error α} {R : Except B.Error α → γ → Prop} {g : γ} (h : R r g) :
    (ofExcept r).Noted N R g := by cases r <;> exact h

theorem noted_query {σ : B.Site} {q : Stmt B ρ} {R : Except B.Error ρ → γ → Prop} {g : γ}
    (hmay : ∀ s, N.may g σ s (q.effect B.initial s s)) (hR : ∀ s r, q.Answers s r → R r (N.note g σ s)) :
    (query σ q).Noted N R g := fun s => ⟨hmay s, fun r hr => noted_ofExcept (hR s r hr)⟩

theorem noted_withClient {σ : B.Site} {p : Async B α} {R : Except B.Error α → γ → Prop} {g : γ}
    (hconnect : ∀ s, N.note g σ s = g) (hfault : ∀ e, R (.error e) g) (h : p.Noted N R g) : (p.withClient σ).Noted N R g := by
  refine noted_bind fun s r => noted_ofExcept ?_
  rw [hconnect]
  cases r with
  | error e => exact hfault e
  | ok u =>
    have hrelease {r : Except B.Error α} {g : γ} (hr : R r g) :
        (do Async.sync .release ofExcept; ofExcept r : Async B α).Noted N R g := by
      refine noted_bind fun u hu => ?_
      rw [hu rfl]
      exact noted_ofExcept (show (ofExcept r).Noted N R g from noted_ofExcept hr)
    refine noted_bind (noted_handle (noted_bind (noted_mono h fun r g hr => ?_)))
    cases r with
    | ok a => exact hrelease hr
    | error e => exact hrelease hr

/-- The synchronous actions of a turn read nothing. -/
theorem noted_settle {p : Async B α} {R : Except B.Error α → γ → Prop} {g : γ} {l : Local B} (h : p.Noted N R g)
    (hl : l.Idle) : (p.settle l).1.Noted N R g ∧ (p.settle l).2.Idle := by
  induction p generalizing l with
  | ret a => exact ⟨h, hl⟩
  | raise e => exact ⟨h, hl⟩
  | call σ c p ih => exact ⟨h, hl⟩
  | sync c p ih =>
    cases c with
    | release => exact ih _ (h _ fun _ => rfl) fun x hx => hl x (List.mem_of_mem_tail hx)
    | emit e =>
      refine ih _ (h _ fun he => (nomatch he)) ?_
      rw [Sync.exec]
      cases B.refuse l.out e <;> exact hl

end Async

theorem Local.Idle.setTop {l : Local B} (h : l.Idle) : (l.setTop .idle).Idle := by
  intro x hx
  rcases List.mem_cons.mp hx with rfl | hx
  · rfl
  · exact h x (List.mem_of_mem_tail hx)

theorem Local.Idle.top {l : Local B} (h : l.Idle) : l.top = .idle := by
  obtain ⟨sessions, out⟩ := l
  cases sessions with
  | nil => rfl
  | cons x rest => exact h x List.mem_cons_self

/-- A call made outside transactions does at most what it may, and the rest of the program
fits the note after it. -/
theorem Async.Noted.exec {N : Noting B γ} {σ : B.Site} {c : Call B ρ} {k : Except B.Error ρ → Async B α}
    {R : Except B.Error α → γ → Prop} {g : γ} {l : Local B} (h : (Async.call σ c k).Noted N R g) (hl : l.Idle)
    (a : Answer B) (s : B.Store) :
    ((c.exec a s l).2.1 = s ∨ ¬ a.Faulty ∧ N.may g σ s (c.exec a s l).2.1) ∧
      (k (c.exec a s l).1).Noted N R (N.note g σ s) ∧ (c.exec a s l).2.2.Idle := by
  cases c with
  | connect =>
    cases a with
    | fault f => exact ⟨.inl rfl, h s _, hl⟩
    | done reply =>
      refine ⟨.inl rfl, h s _, fun x hx => ?_⟩
      rcases List.mem_cons.mp hx with rfl | hx
      · rfl
      · exact hl x hx
  | query q =>
    obtain ⟨hmay, hk⟩ := h s
    cases a with
    | fault f =>
      refine ⟨.inl rfl, hk _ (.inr ⟨f, rfl⟩), ?_⟩
      rw [Call.exec, Call.failed, hl.top]
      exact hl.setTop
    | done reply =>
      simp only [Call.exec, Call.serve, hl.top, Session.query]
      exact ⟨.inr ⟨id, hmay⟩, hk _ (.inl rfl), hl.setTop⟩
  | _ => exact h.elim

/-! ### Runs -/

section Runs
variable {ι : Type} [DecidableEq ι] {N : Noting B γ} {R : ι → Except B.Error α → γ → Prop}

/-- Each handler keeps its own note. -/
def Noting.update (N : Noting B γ) (notes : ι → γ) (cfg : Config B ι α) (i : ι) (_ : Answer B) : ι → γ :=
  Function.update notes i (match cfg.site i with | some σ => N.note (notes i) σ cfg.store | none => notes i)

/-- Every handler fits its note and is outside transactions. -/
def Config.Noted (N : Noting B γ) (R : ι → Except B.Error α → γ → Prop) (notes : ι → γ) (cfg : Config B ι α) : Prop :=
  ∀ i, (cfg.thread i).prog.Noted N (R i) (notes i) ∧ (cfg.thread i).loc.Idle

omit [DecidableEq ι] in
theorem Config.noted_start {p : ι → Async B α} {g : γ} (h : ∀ i, (p i).Noted N (R i) g) (s : B.Store) :
    (Config.mk s fun i => Thread.start (p i)).Noted N R fun _ => g :=
  fun i => Async.noted_settle (h i) fun _ hx => (nomatch hx)

/-- A step does at most what its call may under the note of its handler, and the handlers go
on fitting their notes. -/
theorem Config.Noted.fire {policy : Policy B} {notes : ι → γ} {cfg : Config B ι α} (h : cfg.Noted N R notes) {i : ι}
    {a : Answer B} (he : cfg.Enabled policy i a) :
    (∃ σ, cfg.site i = some σ ∧
      ((cfg.fire i a).store = cfg.store ∨ ¬ a.Faulty ∧ N.may (notes i) σ cfg.store (cfg.fire i a).store)) ∧
      (cfg.fire i a).Noted N R (N.update notes cfg i a) := by
  obtain ⟨ρ, σ, c, k, l, hi, -, -⟩ := he.cases
  have hthread := h i
  rw [hi] at hthread
  obtain ⟨hstore, hk, hidle⟩ := hthread.1.exec hthread.2 a cfg.store
  have hsite := Config.site_call hi
  rw [Config.fire_call hi a]
  refine ⟨⟨σ, hsite, hstore⟩, fun j => ?_⟩
  by_cases hj : j = i
  · subst hj
    rw [Noting.update, hsite]
    simp only [Function.update_self]
    exact Async.noted_settle hk hidle
  · rw [Noting.update]
    simp only [Function.update_of_ne hj]
    exact h j

end Runs
end GalaxiaAin.Library
