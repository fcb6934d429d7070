import GalaxiaAin.Library.Interleaving

/-! Frames: what the statements of a program leave alone. A confined program makes
changes of the frame only and gives back the clients it took; what it returns and
emits is followed whatever the store answers. -/
namespace GalaxiaAin.Library

variable {B : Backend} {α β ρ : Type}

/-- The changes of a kind; several in a row are one. -/
structure Frame (B : Backend) where
  kept : B.Store → B.Store → Prop
  kept_refl : ∀ s, kept s s
  kept_trans : ∀ s t u, kept s t → kept t u → kept s u

/-- The changes that leave a part of the store alone. -/
def Frame.of {β : Type} (f : B.Store → β) : Frame B where
  kept s t := f t = f s
  kept_refl _ := rfl
  kept_trans _ _ _ h h' := h'.trans h

/-- A statement that only makes changes of the frame. -/
def Stmt.Keeps (F : Frame B) (q : Stmt B ρ) : Prop := ∀ c s t, F.kept t (q.effect c s t)

@[simp] theorem Stmt.keeps_select (F : Frame B) (f : B.Context → B.Store → ρ) : (Stmt.select f).Keeps F :=
  fun _ _ t => F.kept_refl t

/-- A statement keeps a frame when every change it decides does. -/
theorem Stmt.Keeps.of_run {F : Frame B} {q : Stmt B ρ}
    (h : ∀ c s r w, q.run c s = .ok (r, w) → ∀ t, F.kept t (w t)) : q.Keeps F := by
  intro c s t
  unfold Stmt.effect
  cases hq : q.run c s with
  | ok o => exact h c s o.1 o.2 hq t
  | error e => exact F.kept_refl t

theorem Stmt.keeps_selection (F : Frame B) (f : B.Store → Except B.Error ρ) : (Stmt.selection f).Keeps F := by
  refine Stmt.Keeps.of_run fun _ s r w h t => ?_
  have hf : (f s).map (fun r => (r, id)) = .ok (r, w) := h
  cases hs : f s with
  | ok a => rw [hs] at hf; cases hf; exact F.kept_refl t
  | error e => rw [hs] at hf; cases hf

/-- A session whose pending writes are of the frame. -/
def Session.Keeps (F : Frame B) : Session B → Prop
  | .active _ _ p => ∀ s, F.kept s (p s)
  | _ => True

theorem Session.Keeps.fail {F : Frame B} (x : Session B) : x.fail.Keeps F := by cases x <;> trivial

theorem Session.Keeps.begin {F : Frame B} {x : Session B} (h : x.Keeps F) : x.begin.Keeps F := by
  cases x with
  | idle => exact F.kept_refl
  | _ => exact h

theorem Session.Keeps.configure {F : Frame B} {x : Session B} (h : x.Keeps F) (f : B.Context → B.Context) :
    (x.configure f).Keeps F := by
  cases x <;> exact h

theorem Session.Keeps.commit {F : Frame B} {x : Session B} (h : x.Keeps F) (s : B.Store) :
    F.kept s (x.commit s) := by
  cases x with
  | active c held p => exact h s
  | _ => exact F.kept_refl s

theorem Session.Keeps.query {F : Frame B} {x : Session B} (h : x.Keeps F) {q : Stmt B ρ} (hq : q.Keeps F)
    (s : B.Store) : (x.query q s).2.2.Keeps F ∧ F.kept s (x.query q s).2.1 := by
  cases x with
  | idle => exact ⟨trivial, hq _ _ _⟩
  | aborted held => exact ⟨trivial, F.kept_refl s⟩
  | active c held p =>
    simp only [Session.query]
    cases q.reply c (p s) with
    | error e => exact ⟨trivial, F.kept_refl s⟩
    | ok r => exact ⟨fun t => F.kept_trans _ _ _ (h t) (hq _ _ _), F.kept_refl s⟩

/-- The `n` innermost clients are the program's own, with pending writes of the frame. -/
def Local.Owns (F : Frame B) (n : Nat) (rest : List (Session B)) (l : Local B) : Prop :=
  ∃ own, l.sessions = own ++ rest ∧ own.length = n ∧ ∀ x ∈ own, x.Keeps F

theorem Local.owns_zero {F : Frame B} {rest : List (Session B)} {l : Local B} :
    l.Owns F 0 rest ↔ l.sessions = rest := by
  constructor
  · rintro ⟨own, h, hlen, -⟩
    rw [List.length_eq_zero_iff.mp hlen] at h
    exact h
  · exact fun h => ⟨[], h, rfl, by simp⟩

/-- The innermost own client, and what holds once it is replaced. -/
theorem Local.Owns.top {F : Frame B} {n : Nat} {rest : List (Session B)} {l : Local B} (h : l.Owns F n rest)
    (hn : 1 ≤ n) : l.top.Keeps F ∧ (∀ x : Session B, x.Keeps F → (l.setTop x).Owns F n rest) ∧
      Local.Owns F (n - 1) rest ⟨l.sessions.tail, l.out⟩ := by
  obtain ⟨own, hs, hlen, hk⟩ := h
  obtain ⟨sessions, out⟩ := l
  cases own with
  | nil => subst hlen; exact absurd hn (by simp)
  | cons y ys =>
    subst hs
    refine ⟨hk y List.mem_cons_self, fun x hx => ⟨x :: ys, rfl, hlen, fun z hz => ?_⟩,
      ⟨ys, rfl, by simp only [List.length_cons] at hlen; omega, fun z hz => hk z (List.mem_cons_of_mem _ hz)⟩⟩
    rcases List.mem_cons.mp hz with rfl | hz
    · exact hx
    · exact hk z (List.mem_cons_of_mem _ hz)

namespace Async

/-- What the program returns and emits. -/
abbrev Outcome (B : Backend) (α : Type) := Except B.Error α → List B.Event → Prop

/-- With `d` clients of its own and the events `out` emitted, whatever its calls answer,
the program makes changes of the frame only, waits with events `W`, and ends in `R`
with `n` clients. -/
def Confined (F : Frame B) (W : List B.Event → Prop) (R : Outcome B α) (n : Nat) :
    Nat → List B.Event → Async B α → Prop
  | d, out, .ret a => d = n ∧ R (.ok a) out
  | d, out, .raise e => d = n ∧ R (.error e) out
  | d, out, .sync .release k => 1 ≤ d ∧ (k (.ok ())).Confined F W R n (d - 1) out
  | d, out, .sync (.emit e) k =>
    match B.refuse out e with
    | none => (k (.ok ())).Confined F W R n d (out ++ [e])
    | some err => (k (.error err)).Confined F W R n d out
  | d, out, .call _ .connect k => W out ∧ (k (.ok ())).Confined F W R n (d + 1) out ∧
      ∀ e, (k (.error e)).Confined F W R n d out
  | d, out, .call _ (.query q) k => W out ∧ 1 ≤ d ∧ q.Keeps F ∧ ∀ r, (k r).Confined F W R n d out
  | d, out, .call _ (.pool q) k => W out ∧ q.Keeps F ∧ ∀ r, (k r).Confined F W R n d out
  | d, out, .call _ (.remote _) k => W out ∧ ∀ r, (k r).Confined F W R n d out
  | d, out, .call _ .begin k => W out ∧ 1 ≤ d ∧ ∀ r, (k r).Confined F W R n d out
  | d, out, .call _ .commit k => W out ∧ 1 ≤ d ∧ ∀ r, (k r).Confined F W R n d out
  | d, out, .call _ .rollback k => W out ∧ 1 ≤ d ∧ ∀ r, (k r).Confined F W R n d out
  | d, out, .call _ (.configure _) k => W out ∧ 1 ≤ d ∧ ∀ r, (k r).Confined F W R n d out

section Rules
variable {F : Frame B} {W : List B.Event → Prop} {n d : Nat} {out : List B.Event}

/-- The outcome of the first of two programs in sequence. -/
def nextConfined (F : Frame B) (W : List B.Event → Prop) (n : Nat) (f : α → Async B β) (R : Outcome B β) :
    Outcome B α
  | .ok a, out => (f a).Confined F W R n n out
  | .error e, out => R (.error e) out

/-- The outcome of a program under a handler. -/
def caughtConfined (F : Frame B) (W : List B.Event → Prop) (n : Nat) (h : B.Error → Async B α) (R : Outcome B α) :
    Outcome B α
  | .ok a, out => R (.ok a) out
  | .error e, out => (h e).Confined F W R n n out

theorem confined_mono {p : Async B α} {R R' : Outcome B α} (hp : p.Confined F W R n d out)
    (h : ∀ r out, R r out → R' r out) : p.Confined F W R' n d out := by
  induction p generalizing d out with
  | ret a => exact ⟨hp.1, h _ _ hp.2⟩
  | raise e => exact ⟨hp.1, h _ _ hp.2⟩
  | sync c k ih =>
    cases c with
    | release => exact ⟨hp.1, ih _ hp.2⟩
    | emit e =>
      unfold Confined at hp ⊢
      cases hr : B.refuse out e <;> rw [hr] at hp <;> exact ih _ hp
  | call σ c k ih =>
    cases c with
    | connect => exact ⟨hp.1, ih _ hp.2.1, fun e => ih _ (hp.2.2 e)⟩
    | query q => exact ⟨hp.1, hp.2.1, hp.2.2.1, fun r => ih _ (hp.2.2.2 r)⟩
    | remote r => exact ⟨hp.1, fun x => ih _ (hp.2 x)⟩
    | _ => exact ⟨hp.1, hp.2.1, fun r => ih _ (hp.2.2 r)⟩

theorem confined_weaken {p : Async B α} {W' : List B.Event → Prop} {R : Outcome B α} (h : ∀ out, W out → W' out)
    (hp : p.Confined F W R n d out) : p.Confined F W' R n d out := by
  induction p generalizing d out with
  | ret a => exact hp
  | raise e => exact hp
  | sync c k ih =>
    cases c with
    | release => exact ⟨hp.1, ih _ hp.2⟩
    | emit e =>
      unfold Confined at hp ⊢
      cases hr : B.refuse out e <;> rw [hr] at hp <;> exact ih _ hp
  | call σ c k ih =>
    cases c with
    | connect => exact ⟨h _ hp.1, ih _ hp.2.1, fun e => ih _ (hp.2.2 e)⟩
    | query q => exact ⟨h _ hp.1, hp.2.1, hp.2.2.1, fun r => ih _ (hp.2.2.2 r)⟩
    | remote r => exact ⟨h _ hp.1, fun x => ih _ (hp.2 x)⟩
    | _ => exact ⟨h _ hp.1, hp.2.1, fun r => ih _ (hp.2.2 r)⟩

theorem confined_bind {p : Async B α} {f : α → Async B β} {R : Outcome B β}
    (hp : p.Confined F W (nextConfined F W n f R) n d out) : (p >>= f).Confined F W R n d out := by
  change (p.bind f).Confined F W R n d out
  induction p generalizing d out with
  | ret a => obtain ⟨rfl, ha⟩ := hp; exact ha
  | raise e => exact hp
  | sync c k ih =>
    cases c with
    | release => exact ⟨hp.1, ih _ hp.2⟩
    | emit e =>
      simp only [bind, Confined] at hp ⊢
      cases hr : B.refuse out e <;> rw [hr] at hp <;> exact ih _ hp
  | call σ c k ih =>
    cases c with
    | connect => exact ⟨hp.1, ih _ hp.2.1, fun e => ih _ (hp.2.2 e)⟩
    | query q => exact ⟨hp.1, hp.2.1, hp.2.2.1, fun r => ih _ (hp.2.2.2 r)⟩
    | remote r => exact ⟨hp.1, fun x => ih _ (hp.2 x)⟩
    | _ => exact ⟨hp.1, hp.2.1, fun r => ih _ (hp.2.2 r)⟩

theorem confined_handle {p : Async B α} {h : B.Error → Async B α} {R : Outcome B α}
    (hp : p.Confined F W (caughtConfined F W n h R) n d out) : (p.handle h).Confined F W R n d out := by
  induction p generalizing d out with
  | ret a => exact hp
  | raise e => obtain ⟨rfl, he⟩ := hp; exact he
  | sync c k ih =>
    cases c with
    | release => exact ⟨hp.1, ih _ hp.2⟩
    | emit e =>
      simp only [handle, Confined] at hp ⊢
      cases hr : B.refuse out e <;> rw [hr] at hp <;> exact ih _ hp
  | call σ c k ih =>
    cases c with
    | connect => exact ⟨hp.1, ih _ hp.2.1, fun e => ih _ (hp.2.2 e)⟩
    | query q => exact ⟨hp.1, hp.2.1, hp.2.2.1, fun r => ih _ (hp.2.2.2 r)⟩
    | remote r => exact ⟨hp.1, fun x => ih _ (hp.2 x)⟩
    | _ => exact ⟨hp.1, hp.2.1, fun r => ih _ (hp.2.2 r)⟩

@[simp] theorem confined_pure (a : α) (R : Outcome B α) :
    (pure a : Async B α).Confined F W R n n out ↔ R (.ok a) out := and_iff_right rfl

@[simp] theorem confined_raise (e : B.Error) (R : Outcome B α) :
    (Async.raise e : Async B α).Confined F W R n n out ↔ R (.error e) out := and_iff_right rfl

@[simp] theorem confined_throw (e : B.Error) (R : Outcome B α) :
    (throw e : Async B α).Confined F W R n n out ↔ R (.error e) out := and_iff_right rfl

@[simp] theorem confined_ofExcept (r : Except B.Error α) (R : Outcome B α) :
    (ofExcept r).Confined F W R n n out ↔ R r out := by cases r <;> exact and_iff_right rfl

theorem confined_emit (e : B.Event) (R : Outcome B Unit) :
    (emit e).Confined F W R n n out ↔
      match B.refuse out e with
      | none => R (.ok ()) (out ++ [e])
      | some err => R (.error err) out := by
  simp only [emit, Confined]
  cases B.refuse out e <;> exact confined_ofExcept _ _

theorem confined_query {q : Stmt B ρ} {R : Outcome B ρ} (hw : W out) (hn : 1 ≤ n) (hq : q.Keeps F)
    (hr : ∀ r, R r out) (σ : B.Site) : (query σ q).Confined F W R n n out :=
  ⟨hw, hn, hq, fun r => (confined_ofExcept _ _).mpr (hr r)⟩

theorem confined_pool {q : Stmt B ρ} {R : Outcome B ρ} (hw : W out) (hq : q.Keeps F) (hr : ∀ r, R r out)
    (σ : B.Site) : (await σ (.pool q)).Confined F W R n n out :=
  ⟨hw, hq, fun r => (confined_ofExcept _ _).mpr (hr r)⟩

theorem confined_begin {R : Outcome B Unit} (hw : W out) (hn : 1 ≤ n) (hr : ∀ r, R r out) (σ : B.Site) :
    (await σ .begin).Confined F W R n n out := ⟨hw, hn, fun r => (confined_ofExcept _ _).mpr (hr r)⟩

theorem confined_commit {R : Outcome B Unit} (hw : W out) (hn : 1 ≤ n) (hr : ∀ r, R r out) (σ : B.Site) :
    (await σ .commit).Confined F W R n n out := ⟨hw, hn, fun r => (confined_ofExcept _ _).mpr (hr r)⟩

theorem confined_rollback {R : Outcome B Unit} (hw : W out) (hn : 1 ≤ n) (hr : ∀ r, R r out) (σ : B.Site) :
    (await σ .rollback).Confined F W R n n out := ⟨hw, hn, fun r => (confined_ofExcept _ _).mpr (hr r)⟩

theorem confined_configure {R : Outcome B Unit} (hw : W out) (hn : 1 ≤ n) (hr : ∀ r, R r out) (σ : B.Site)
    (f : B.Context → B.Context) : (await σ (.configure f)).Confined F W R n n out :=
  ⟨hw, hn, fun r => (confined_ofExcept _ _).mpr (hr r)⟩

/-- An error ends the transaction; ROLLBACK may fail with another. -/
theorem confined_orRollback {p : Async B α} {R : Outcome B α} (hn : 1 ≤ n)
    (hp : p.Confined F W (fun r out => match r with
      | .ok a => R (.ok a) out
      | .error _ => W out ∧ ∀ e, R (.error e) out) n n out) (σ : B.Site) :
    (p.orRollback σ).Confined F W R n n out := by
  refine confined_handle (confined_mono hp fun r out hr => ?_)
  cases r with
  | ok a => exact hr
  | error e =>
    refine confined_bind (confined_rollback hr.1 hn (fun r => ?_) σ)
    cases r with
    | ok u => exact ⟨rfl, hr.2 e⟩
    | error e' => exact hr.2 e'

/-- What follows a settled program may give back a client it still held. -/
theorem confined_attempt_bind {p : Async B α} {f : Except B.Error α → Async B β} {R : Outcome B β} {m : Nat}
    (hp : p.Confined F W (fun r out => (f r).Confined F W R n m out) m d out) :
    (p.attempt >>= f).Confined F W R n d out := by
  induction p generalizing d out with
  | ret a => obtain ⟨rfl, ha⟩ := hp; exact ha
  | raise e => obtain ⟨rfl, he⟩ := hp; exact he
  | sync c k ih =>
    cases c with
    | release => exact ⟨hp.1, ih _ hp.2⟩
    | emit e =>
      change Confined F W R n d out (.sync (.emit e) fun r => (k r).attempt >>= f)
      simp only [Confined] at hp ⊢
      cases hr : B.refuse out e <;> rw [hr] at hp <;> exact ih _ hp
  | call σ c k ih =>
    cases c with
    | connect => exact ⟨hp.1, ih _ hp.2.1, fun e => ih _ (hp.2.2 e)⟩
    | query q => exact ⟨hp.1, hp.2.1, hp.2.2.1, fun r => ih _ (hp.2.2.2 r)⟩
    | remote r => exact ⟨hp.1, fun x => ih _ (hp.2 x)⟩
    | _ => exact ⟨hp.1, hp.2.1, fun r => ih _ (hp.2.2 r)⟩

theorem confined_withClient {p : Async B α} {R : Outcome B α} (hw : W out) (he : ∀ e, R (.error e) out)
    (hp : p.Confined F W R (n + 1) (n + 1) out) (σ : B.Site) : (p.withClient σ).Confined F W R n n out := by
  refine ⟨hw, confined_attempt_bind (confined_mono hp fun r out hr => ?_), fun e => (confined_raise e R).mpr (he e)⟩
  exact ⟨Nat.succ_pos n, (confined_ofExcept r R).mpr hr⟩

end Rules

section Sound
variable {F : Frame B} {W : List B.Event → Prop} {R : Outcome B α} {n d : Nat} {rest : List (Session B)}

/-- A call of a confined program makes a change of the frame; what is left of the
program is confined with the clients it then has. -/
theorem Confined.step {σ : B.Site} {c : Call B ρ} {k : Except B.Error ρ → Async B α} {l : Local B}
    (h : (Async.call σ c k).Confined F W R n d l.out) (hl : l.Owns F d rest) (a : Answer B) (s : B.Store) :
    ∃ d', (k (c.exec a s l).1).Confined F W R n d' (c.exec a s l).2.2.out ∧ (c.exec a s l).2.2.Owns F d' rest ∧
      F.kept s (c.exec a s l).2.1 := by
  cases a with
  | fault f =>
    cases c with
    | connect => exact ⟨d, h.2.2 _, hl, F.kept_refl s⟩
    | pool q => exact ⟨d, h.2.2 _, hl, F.kept_refl s⟩
    | remote r => exact ⟨d, h.2 _, hl, F.kept_refl s⟩
    | query q => exact ⟨d, h.2.2.2 _, (hl.top h.2.1).2.1 _ (.fail _), F.kept_refl s⟩
    | begin => exact ⟨d, h.2.2 _, (hl.top h.2.1).2.1 _ (.fail _), F.kept_refl s⟩
    | configure f => exact ⟨d, h.2.2 _, (hl.top h.2.1).2.1 _ (.fail _), F.kept_refl s⟩
    | commit => exact ⟨d, h.2.2 _, (hl.top h.2.1).2.1 _ trivial, F.kept_refl s⟩
    | rollback => exact ⟨d, h.2.2 _, (hl.top h.2.1).2.1 _ trivial, F.kept_refl s⟩
  | done reply =>
    cases c with
    | connect =>
      obtain ⟨own, hs, hlen, hk⟩ := hl
      refine ⟨d + 1, h.2.1, ⟨.idle :: own, by simp [Call.exec, Call.serve, hs], by simp [hlen], ?_⟩, F.kept_refl s⟩
      exact fun x hx => (List.mem_cons.mp hx).elim (fun hx => hx ▸ trivial) (hk x)
    | pool q => exact ⟨d, h.2.2 _, hl, h.2.1 _ _ _⟩
    | remote r => exact ⟨d, h.2 _, hl, F.kept_refl s⟩
    | query q =>
      obtain ⟨htop, hset, -⟩ := hl.top h.2.1
      obtain ⟨hk, hs⟩ := htop.query h.2.2.1 s
      exact ⟨d, h.2.2.2 _, hset _ hk, hs⟩
    | commit =>
      obtain ⟨htop, hset, -⟩ := hl.top h.2.1
      exact ⟨d, h.2.2 _, hset _ trivial, htop.commit s⟩
    | rollback => exact ⟨d, h.2.2 _, (hl.top h.2.1).2.1 _ trivial, F.kept_refl s⟩
    | begin =>
      obtain ⟨htop, hset, -⟩ := hl.top h.2.1
      simp only [Call.exec, Call.serve]
      split
      · exact ⟨d, h.2.2 _, hl, F.kept_refl s⟩
      · exact ⟨d, h.2.2 _, hset _ htop.begin, F.kept_refl s⟩
    | configure f =>
      obtain ⟨htop, hset, -⟩ := hl.top h.2.1
      simp only [Call.exec, Call.serve]
      split
      · exact ⟨d, h.2.2 _, hl, F.kept_refl s⟩
      · exact ⟨d, h.2.2 _, hset _ (htop.configure f), F.kept_refl s⟩

theorem Confined.waits {σ : B.Site} {c : Call B ρ} {k : Except B.Error ρ → Async B α} {out : List B.Event}
    (h : (Async.call σ c k).Confined F W R n d out) : W out := by
  cases c <;> exact h.1

/-- The same of a synchronous action. -/
theorem Confined.turn {c : Sync B} {k : Except B.Error Unit → Async B α} {l : Local B}
    (h : (Async.sync c k).Confined F W R n d l.out) (hl : l.Owns F d rest) :
    ∃ d', (k (c.exec l).1).Confined F W R n d' (c.exec l).2.out ∧ (c.exec l).2.Owns F d' rest := by
  cases c with
  | release => exact ⟨d - 1, h.2, (hl.top h.1).2.2⟩
  | emit e =>
    have hexec : (Sync.emit e).exec l = match B.refuse l.out e with
      | none => (.ok (), { l with out := l.out ++ [e] })
      | some err => (.error err, l) := rfl
    simp only [Confined] at h
    rw [hexec]
    cases hr : B.refuse l.out e <;> rw [hr] at h <;> exact ⟨d, h, hl⟩

/-- Executions of a confined program change the frame only, and end as it says with
the clients they found. -/
theorem Confined.post {may : B.Site → Prop} {p : Async B α} {s : B.Store} {l : Local B}
    (h : p.Confined F W R n d l.out) (hl : l.Owns F d rest) :
    p.post may (fun r s' l' => F.kept s s' ∧ l'.Owns F n rest ∧ R r l'.out) s l := by
  induction p generalizing d s l with
  | ret a => obtain ⟨rfl, ha⟩ := h; exact ⟨F.kept_refl s, hl, ha⟩
  | raise e => obtain ⟨rfl, he⟩ := h; exact ⟨F.kept_refl s, hl, he⟩
  | sync c k ih =>
    obtain ⟨d', hk, hl'⟩ := h.turn hl
    exact ih _ hk hl'
  | call σ c k ih =>
    intro a _
    obtain ⟨d', hk, hl', hs⟩ := h.step hl a s
    exact post_mono (ih _ hk hl') fun r s' l' hr => ⟨F.kept_trans _ _ _ hs hr.1, hr.2⟩

end Sound
/-! ### Whatever the outcome -/

/-- A program confined to a frame, with any outcome. -/
abbrev Keeps (F : Frame B) (n : Nat) (p : Async B α) : Prop :=
  ∀ out, p.Confined F (fun _ => True) (fun _ _ => True) n n out

/-- The same of a program that never fails. -/
abbrev Settles (F : Frame B) (n : Nat) (p : Async B Unit) : Prop :=
  ∀ out, p.Confined F (fun _ => True) (fun r _ => r = .ok ()) n n out

section Keeping
variable {F : Frame B} {n : Nat}

theorem keeps_pure (a : α) : Keeps F n (pure a) := fun _ => (confined_pure _ _).mpr trivial

theorem keeps_bind {p : Async B α} {f : α → Async B β} (hp : Keeps F n p) (hf : ∀ a, Keeps F n (f a)) :
    Keeps F n (p >>= f) := by
  refine fun out => confined_bind (confined_mono (hp out) fun r out _ => ?_)
  cases r with
  | ok a => exact hf a out
  | error e => trivial

theorem keeps_query {q : Stmt B ρ} (hn : 1 ≤ n) (hq : q.Keeps F) (σ : B.Site) : Keeps F n (query σ q) :=
  fun _ => confined_query trivial hn hq (fun _ => trivial) σ

theorem keeps_pool {q : Stmt B ρ} (hq : q.Keeps F) (σ : B.Site) : Keeps F n (await σ (.pool q)) :=
  fun _ => confined_pool trivial hq (fun _ => trivial) σ

theorem keeps_remote (σ : B.Site) (r : B.Remote) : Keeps F n (await σ (.remote r)) :=
  fun _ => ⟨trivial, fun _ => (confined_ofExcept _ _).mpr trivial⟩

theorem keeps_emit (e : B.Event) : Keeps F n (emit e) := by
  refine fun out => (confined_emit _ _).mpr ?_
  cases B.refuse out e <;> trivial

theorem keeps_throw (e : B.Error) : Keeps F n (throw e : Async B α) := fun _ => (confined_throw _ _).mpr trivial

theorem keeps_ofExcept (r : Except B.Error α) : Keeps F n (ofExcept r) := fun _ => (confined_ofExcept _ _).mpr trivial

theorem keeps_handle {p : Async B α} {h : B.Error → Async B α} (hp : Keeps F n p) (hh : ∀ e, Keeps F n (h e)) :
    Keeps F n (p.handle h) := by
  refine fun out => confined_handle (confined_mono (hp out) fun r out _ => ?_)
  cases r with
  | ok a => trivial
  | error e => exact hh e out

theorem keeps_begin (hn : 1 ≤ n) (σ : B.Site) : Keeps F n (await σ .begin) :=
  fun _ => confined_begin trivial hn (fun _ => trivial) σ

theorem keeps_commit (hn : 1 ≤ n) (σ : B.Site) : Keeps F n (await σ .commit) :=
  fun _ => confined_commit trivial hn (fun _ => trivial) σ

theorem keeps_orRollback (hn : 1 ≤ n) {p : Async B α} (hp : Keeps F n p) (σ : B.Site) : Keeps F n (p.orRollback σ) := by
  refine fun out => confined_orRollback hn (confined_mono (hp out) fun r out _ => ?_) σ
  cases r with
  | ok a => trivial
  | error e => exact ⟨trivial, fun _ => trivial⟩

theorem keeps_withClient {p : Async B α} (hp : Keeps F (n + 1) p) (σ : B.Site) : Keeps F n (p.withClient σ) :=
  fun out => confined_withClient trivial (fun _ => trivial) (hp out) σ

theorem settles_pure : Settles F n (pure ()) := fun _ => ⟨rfl, rfl⟩

theorem settles_bind {p : Async B Unit} {f : Unit → Async B Unit} (hp : Settles F n p) (hf : Settles F n (f ())) :
    Settles F n (p >>= f) := by
  refine fun out => confined_bind (confined_mono (hp out) fun r out hr => ?_)
  subst hr
  exact hf out

theorem keeps_onlyIf {condition : Prop} [Decidable condition] {p : Async B Unit} (hp : Keeps F n p) :
    Keeps F n (onlyIf condition p) := by
  unfold onlyIf
  split
  · exact hp
  · exact keeps_pure ()

theorem settles_onlyIf {condition : Prop} [Decidable condition] {p : Async B Unit} (hp : Settles F n p) :
    Settles F n (onlyIf condition p) := by
  unfold onlyIf
  split
  · exact hp
  · exact settles_pure

/-- A program whose errors are handled. -/
theorem settles_handle {p : Async B Unit} {h : B.Error → Async B Unit} (hp : Keeps F n p)
    (hh : ∀ e, Settles F n (h e)) : Settles F n (p.handle h) := by
  refine fun out => confined_handle (confined_mono (hp out) fun r out _ => ?_)
  cases r with
  | ok a => rfl
  | error e => exact hh e out

end Keeping

/-! ### What a program emits -/

/-- A program confined to a frame that emits events of a kind only. -/
abbrev Sends (F : Frame B) (P : B.Event → Prop) (n : Nat) (p : Async B α) : Prop :=
  ∀ out, p.Confined F (fun _ => True) (fun _ out' => ∃ more, out' = out ++ more ∧ ∀ e ∈ more, P e) n n out

section Sending
variable {F : Frame B} {P : B.Event → Prop} {n : Nat}

private theorem sends_nothing (out : List B.Event) : ∃ more, out = out ++ more ∧ ∀ e ∈ more, P e :=
  ⟨[], (List.append_nil out).symm, by simp⟩

theorem sends_pure (a : α) : Sends F P n (pure a) := fun out => (confined_pure _ _).mpr (sends_nothing out)

theorem sends_throw (e : B.Error) : Sends F P n (throw e : Async B α) :=
  fun out => (confined_throw _ _).mpr (sends_nothing out)

theorem sends_ofExcept (r : Except B.Error α) : Sends F P n (ofExcept r) :=
  fun out => (confined_ofExcept _ _).mpr (sends_nothing out)

theorem sends_then {p : Async B α} {out out' : List B.Event} (h : ∃ more, out' = out ++ more ∧ ∀ e ∈ more, P e)
    (hp : Sends F P n p) : p.Confined F (fun _ => True) (fun _ out'' => ∃ more, out'' = out ++ more ∧ ∀ e ∈ more, P e) n n
      out' := by
  obtain ⟨more, rfl, hmore⟩ := h
  refine confined_mono (hp _) fun _ out'' h => ?_
  obtain ⟨more', rfl, hmore'⟩ := h
  refine ⟨more ++ more', List.append_assoc .., fun e he => ?_⟩
  rcases List.mem_append.mp he with he | he
  · exact hmore e he
  · exact hmore' e he

theorem sends_bind {p : Async B α} {f : α → Async B β} (hp : Sends F P n p) (hf : ∀ a, Sends F P n (f a)) :
    Sends F P n (p >>= f) := by
  refine fun out => confined_bind (confined_mono (hp out) fun r out' h => ?_)
  cases r with
  | ok a => exact sends_then h (hf a)
  | error e => exact h

theorem sends_handle {p : Async B α} {h : B.Error → Async B α} (hp : Sends F P n p) (hh : ∀ e, Sends F P n (h e)) :
    Sends F P n (p.handle h) := by
  refine fun out => confined_handle (confined_mono (hp out) fun r out' hr => ?_)
  cases r with
  | ok a => exact hr
  | error e => exact sends_then hr (hh e)

theorem sends_query {q : Stmt B ρ} (hn : 1 ≤ n) (hq : q.Keeps F) (σ : B.Site) : Sends F P n (query σ q) :=
  fun out => confined_query trivial hn hq (fun _ => sends_nothing out) σ

theorem sends_pool {q : Stmt B ρ} (hq : q.Keeps F) (σ : B.Site) : Sends F P n (await σ (.pool q)) :=
  fun out => confined_pool trivial hq (fun _ => sends_nothing out) σ

theorem sends_emit {e : B.Event} (h : P e) : Sends F P n (emit e) := by
  refine fun out => (confined_emit _ _).mpr ?_
  cases B.refuse out e with
  | none => exact ⟨[e], rfl, by simpa using h⟩
  | some err => exact sends_nothing out

theorem sends_withClient {p : Async B α} (hp : Sends F P (n + 1) p) (σ : B.Site) : Sends F P n (p.withClient σ) :=
  fun out => confined_withClient trivial (fun _ => sends_nothing out) (hp out) σ

theorem sends_onlyIf {condition : Prop} [Decidable condition] {p : Async B Unit} (hp : Sends F P n p) :
    Sends F P n (onlyIf condition p) := by
  unfold onlyIf
  split
  · exact hp
  · exact sends_pure ()

/-- Its executions change the frame only and emit events of the kind only. -/
theorem Sends.exec {may : B.Site → Prop} {p : Async B α} (h : Sends F P 0 p) {s s' : B.Store} {l' : Local B}
    {r : Except B.Error α} (he : Exec may p s Local.empty r s' l') : F.kept s s' ∧ ∀ e ∈ l'.out, P e := by
  obtain ⟨hkept, -, more, hout, hmore⟩ := he.sound ((h []).post (Local.owns_zero.mpr rfl))
  rw [hout, List.nil_append]
  exact ⟨hkept, hmore⟩

/-- The same after a first event. -/
theorem Sends.exec_emit {may : B.Site → Prop} {e : B.Event} {f : Unit → Async B α} (h : Sends F P 0 (f ()))
    (haccept : B.refuse [] e = none) {s s' : B.Store} {l' : Local B} {r : Except B.Error α}
    (he : Exec may (emit e >>= f) s Local.empty r s' l') : F.kept s s' ∧ ∃ more, l'.out = e :: more ∧ ∀ x ∈ more, P x := by
  have hpost : (emit e >>= f).post may (fun _ s' l' => F.kept s s' ∧ ∃ more, l'.out = e :: more ∧ ∀ x ∈ more, P x) s
      Local.empty := by
    refine (post_bind may _ _ _ _ _).mpr ((post_emit may s e _ Local.empty).mpr ?_)
    rw [show (Local.empty : Local B).out = [] from rfl, haccept]
    exact post_mono ((h [e]).post (Local.owns_zero.mpr rfl)) fun _ _ _ h => ⟨h.1, h.2.2⟩
  exact he.sound hpost

end Sending

end Async

/-- An assertion on the store and the emitted events that a handler carries from call
to call under its protocol. -/
structure Carried (P : Protocol B) (I : B.Store → Local B → Prop) : Prop where
  rely : ∀ s t l, I s l → P.rely l s t → I t l
  sessions : ∀ s l l', I s l → l'.out = l.out → I s l'
  inv : ∀ s l, I s l → P.inv s l

namespace Async
variable {F : Frame B} {W : List B.Event → Prop} {R : Outcome B α} {n d : Nat} {rest : List (Session B)}

/-- Under a protocol that lets everyone make changes of the frame, a confined program
carries an assertion that survives such changes and the events it waits with. -/
theorem Confined.safe {policy : Policy B} {P : Protocol B} {I : B.Store → Local B → Prop} (hI : Carried P I)
    (hguar : ∀ l s t, F.kept s t → P.guar l s t)
    (hkept : ∀ s t l l', I s l → F.kept s t → W l'.out → I t l')
    {p : Async B α} {s : B.Store} {l : Local B} (h : p.Confined F W R n d l.out) (hl : l.Owns F d rest)
    (hs : ∀ l', W l'.out → I s l') :
    p.safe policy P (fun r s' l' => (∀ k, W k.out → I s' k) ∧ l'.Owns F n rest ∧ R r l'.out) s l := by
  induction p generalizing d s l with
  | ret a => obtain ⟨rfl, ha⟩ := h; exact ⟨hs, hl, ha⟩
  | raise e => obtain ⟨rfl, he⟩ := h; exact ⟨hs, hl, he⟩
  | sync c k ih =>
    obtain ⟨d', hk, hl'⟩ := h.turn hl
    exact ih _ hk hl' hs
  | call σ c k ih =>
    intro t ht
    have hst := hI.rely s t l (hs l h.waits) ht
    refine ⟨hI.inv t l hst, fun a _ => ?_⟩
    obtain ⟨d', hk, hl', hc⟩ := h.step hl a t
    exact ⟨hguar l t _ hc, ih _ hk hl' fun k hw => hkept t _ l k hst hc hw⟩

end Async

/-! ### Frames of a whole run -/

/-- Everyone makes changes of the frame, and may rely on that. -/
def Frame.protocol (F : Frame B) : Protocol B where
  rely _ s t := F.kept s t
  guar _ s t := F.kept s t
  inv _ _ := True

section Runs
variable {F : Frame B} {W : List B.Event → Prop} {R : Async.Outcome B α} {ι : Type}

theorem Frame.compatible : Compatible fun _ : ι => F.protocol where
  refl _ _ s := F.kept_refl s
  trans _ _ s t u := F.kept_trans s t u
  fits _ _ _ _ _ _ _ _ h := h

/-- Confined programs keep the protocol of their frame from the start. -/
theorem Frame.started {policy : Policy B} {n : Nat} {p : ι → Async B α} (h : ∀ i, (p i).Confined F W R n 0 [])
    (s : B.Store) : (Config.mk s fun i => Thread.start (p i) : Config B ι α).Protected policy (fun _ => F.protocol)
      fun _ _ _ _ => True := by
  refine Config.Protected.start fun i => ?_
  have hI : Carried F.protocol fun _ _ => True := ⟨fun _ _ _ _ _ => trivial, fun _ _ _ _ _ => trivial, fun _ _ _ => trivial⟩
  exact Async.safe_mono ((h i).safe hI (fun _ _ _ hk => hk) (fun _ _ _ _ _ _ _ => trivial) (Local.owns_zero.mpr rfl)
    fun _ _ => trivial) fun _ _ _ _ => trivial

variable [DecidableEq ι]

/-- A step of a run of confined programs keeps the frame. -/
theorem Frame.fire {policy : Policy B} {cfg : Config B ι α} {i : ι} {a : Answer B}
    (h : cfg.Protected policy (fun _ => F.protocol) fun _ _ _ _ => True) (he : cfg.Enabled policy i a) :
    F.kept cfg.store (cfg.fire i a).store ∧
      (cfg.fire i a).Protected policy (fun _ => F.protocol) fun _ _ _ _ => True :=
  ⟨h.guar (fun _ _ s => F.kept_refl s) he, h.fire Frame.compatible (fun _ _ _ _ _ _ _ => trivial) he⟩

/-- A run of confined programs keeps the frame from its start to its end. -/
theorem Frame.after {policy : Policy B} {cfg : Config B ι α}
    (h : cfg.Protected policy (fun _ => F.protocol) fun _ _ _ _ => True) {script : List (ι × Answer B)}
    (hr : cfg.Runs policy script) : F.kept cfg.store (cfg.after script).store ∧
      (cfg.after script).Protected policy (fun _ => F.protocol) fun _ _ _ _ => True := by
  have hstep (c : Config B ι α) (i : ι) (a : Answer B)
      (hc : F.kept cfg.store c.store ∧ c.Protected policy (fun _ => F.protocol) fun _ _ _ _ => True)
      (he : c.Enabled policy i a) : F.kept cfg.store (c.fire i a).store ∧
        (c.fire i a).Protected policy (fun _ => F.protocol) fun _ _ _ _ => True := by
    obtain ⟨hkept, hprotected⟩ := Frame.fire hc.2 he
    exact ⟨F.kept_trans _ _ _ hc.1 hkept, hprotected⟩
  exact hr.invariant hstep script ⟨F.kept_refl _, h⟩

/-- A handler none of whose calls was answered is where it was. -/
theorem Config.after_untouched {cfg : Config B ι α} {script : List (ι × Answer B)} {i : ι}
    (h : ∀ step ∈ script, step.1 ≠ i) : (cfg.after script).thread i = cfg.thread i := by
  induction script generalizing cfg with
  | nil => rfl
  | cons step rest ih =>
    have hrest : ((cfg.fire step.1 step.2).after rest).thread i = (cfg.fire step.1 step.2).thread i :=
      ih fun s hs => h s (List.mem_cons_of_mem _ hs)
    exact hrest.trans (Config.fire_other step.2 (h step List.mem_cons_self).symm)

end Runs
end GalaxiaAin.Library
