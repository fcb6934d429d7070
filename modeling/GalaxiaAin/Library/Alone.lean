import GalaxiaAin.Library.Lockstep

/-! Handlers that each keep to a part of the store. Whatever is interleaved with a
handler's steps, it goes on as if they were the only steps taken: it is answered the
same, and its part of the store ends the same. -/
namespace GalaxiaAin.Library

variable {B : Backend} {α β γ ρ : Type} {ι : Type}

/-- What handler `i` may see and change, where each handler has a part of the store:
it sees its own part only, and leaves the parts of the others as they were. -/
def View.own (part : ι → B.Store → γ) (i : ι) : View B where
  same s t := part i s = part i t
  kept s t := ∀ j, j ≠ i → part j t = part j s
  kept_refl _ _ _ := rfl
  kept_trans _ _ _ hst htu j hj := (htu j hj).trans (hst j hj)

/-- Connections in the same state whose pending writes agree for the view. -/
inductive Session.Twin (V : View B) : Session B → Session B → Prop
  | idle : Twin V .idle .idle
  | active {c : B.Context} {held held' : List B.Lock} {p q : B.Store → B.Store}
      (hpq : ∀ s t, V.same s t → V.same (p s) (q t)) (hp : ∀ s, V.kept s (p s)) (hq : ∀ s, V.kept s (q s)) :
      Twin V (.active c held p) (.active c held' q)
  | aborted {held held' : List B.Lock} : Twin V (.aborted held) (.aborted held')

namespace Session.Twin
variable {V : View B} {x y : Session B}

theorem fail (h : Twin V x y) : Twin V x.fail y.fail := by
  cases h with
  | idle => exact .idle
  | active => exact .aborted
  | aborted => exact .aborted

theorem begin (h : Twin V x y) : Twin V x.begin y.begin := by
  cases h with
  | idle => exact .active (fun _ _ hst => hst) V.kept_refl V.kept_refl
  | active hpq hp hq => exact .active hpq hp hq
  | aborted => exact .aborted

theorem configure (h : Twin V x y) (f : B.Context → B.Context) : Twin V (x.configure f) (y.configure f) := by
  cases h with
  | idle => exact .idle
  | active hpq hp hq => exact .active hpq hp hq
  | aborted => exact .aborted

theorem commit (h : Twin V x y) {s t : B.Store} (hst : V.same s t) :
    V.same (x.commit s) (y.commit t) ∧ V.kept s (x.commit s) := by
  cases h with
  | idle => exact ⟨hst, V.kept_refl s⟩
  | active hpq hp hq => exact ⟨hpq s t hst, hp s⟩
  | aborted => exact ⟨hst, V.kept_refl s⟩

/-- A statement that respects the view is answered alike and changes alike. -/
theorem query {q : Stmt B ρ} (hq : ∀ c, q.Respects V c) (h : Twin V x y) {s t : B.Store} (hst : V.same s t) :
    (x.query q s).1 = (y.query q t).1 ∧ V.same (x.query q s).2.1 (y.query q t).2.1 ∧
      V.kept s (x.query q s).2.1 ∧ Twin V (x.query q s).2.2 (y.query q t).2.2 := by
  cases h with
  | idle =>
    have hq := hq B.initial
    exact ⟨hq.reply s t hst, hq.effect s t s t hst hst, hq.kept s s, .idle⟩
  | aborted => exact ⟨rfl, hst, V.kept_refl s, .aborted⟩
  | @active c held held' f g hfg hf hg =>
    have hq := hq c
    have hr := hq.reply _ _ (hfg s t hst)
    simp only [Session.query]
    rw [← hr]
    cases q.reply c (f s) with
    | error e => exact ⟨rfl, hst, V.kept_refl s, .aborted⟩
    | ok r =>
      refine ⟨rfl, hst, V.kept_refl s, .active (fun u v huv => ?_) (fun u => ?_) (fun u => ?_)⟩
      · exact hq.effect _ _ _ _ (hfg s t hst) (hfg u v huv)
      · exact V.kept_trans _ _ _ (hf u) (hq.kept _ _)
      · exact V.kept_trans _ _ _ (hg u) (hq.kept _ _)

end Session.Twin

/-- What two handlers hold, alike for the view: twin connections, and the same events. -/
structure Local.Twin (V : View B) (l k : Local B) : Prop where
  sessions : List.Forall₂ (Session.Twin V) l.sessions k.sessions
  out : l.out = k.out

namespace Local.Twin
variable {V : View B} {l k : Local B}

theorem empty : Local.Twin V .empty .empty := ⟨.nil, rfl⟩

theorem top (h : Local.Twin V l k) : Session.Twin V l.top k.top := by
  obtain ⟨xs, out⟩ := l
  obtain ⟨ys, out'⟩ := k
  obtain ⟨hs, -⟩ := h
  cases hs with
  | nil => exact .idle
  | cons hxy _ => exact hxy

theorem tail (h : Local.Twin V l k) : List.Forall₂ (Session.Twin V) l.sessions.tail k.sessions.tail := by
  obtain ⟨xs, out⟩ := l
  obtain ⟨ys, out'⟩ := k
  obtain ⟨hs, -⟩ := h
  cases hs with
  | nil => exact .nil
  | cons _ hrest => exact hrest

theorem setTop (h : Local.Twin V l k) {x y : Session B} (hxy : Session.Twin V x y) :
    Local.Twin V (l.setTop x) (k.setTop y) := ⟨.cons hxy h.tail, h.out⟩

end Local.Twin

/-- A synchronous action ends alike in twin handlers. -/
theorem Sync.exec_twin {V : View B} (c : Sync B) {l k : Local B} (h : Local.Twin V l k) :
    (c.exec l).1 = (c.exec k).1 ∧ Local.Twin V (c.exec l).2 (c.exec k).2 := by
  cases c with
  | release => exact ⟨rfl, h.tail, h.out⟩
  | emit e =>
    simp only [Sync.exec]
    rw [← h.out]
    cases B.refuse l.out e with
    | none => exact ⟨rfl, h.sessions, rfl⟩
    | some err => exact ⟨rfl, h⟩

/-- The statement of a call, if it has one, respects the view. -/
def Call.Minds (V : View B) : Call B ρ → Prop
  | .query q => ∀ c, q.Respects V c
  | .pool q => ∀ c, q.Respects V c
  | _ => True

/-- What the call of one of two twin handlers does, with the same answer: the same
result, stores that still look the same, and the rest left alone. -/
theorem Call.exec_twin {V : View B} {c : Call B ρ} (hc : c.Minds V) {s t : B.Store} (hst : V.same s t)
    {l k : Local B} (h : Local.Twin V l k) (a : Answer B) :
    (c.exec a s l).1 = (c.exec a t k).1 ∧ V.same (c.exec a s l).2.1 (c.exec a t k).2.1 ∧
      V.kept s (c.exec a s l).2.1 ∧ Local.Twin V (c.exec a s l).2.2 (c.exec a t k).2.2 := by
  cases a with
  | fault f =>
    refine ⟨rfl, hst, V.kept_refl s, ?_⟩
    cases c with
    | connect => exact h
    | pool q => exact h
    | remote r => exact h
    | begin => exact h.setTop h.top.fail
    | configure f => exact h.setTop h.top.fail
    | query q => exact h.setTop h.top.fail
    | commit => exact h.setTop .idle
    | rollback => exact h.setTop .idle
  | done reply =>
    cases c with
    | connect => exact ⟨rfl, hst, V.kept_refl s, .cons .idle h.sessions, h.out⟩
    | remote r => exact ⟨rfl, hst, V.kept_refl s, h⟩
    | rollback => exact ⟨rfl, hst, V.kept_refl s, h.setTop .idle⟩
    | commit =>
      obtain ⟨hsame, hkept⟩ := h.top.commit hst
      exact ⟨rfl, hsame, hkept, h.setTop .idle⟩
    | pool q => exact ⟨(hc B.initial).reply s t hst, (hc B.initial).effect s t s t hst hst, (hc B.initial).kept s s, h⟩
    | query q =>
      obtain ⟨hr, hsame, hkept, htop⟩ := h.top.query hc hst
      exact ⟨hr, hsame, hkept, h.setTop htop⟩
    | begin =>
      have htop := h.top
      have hbegin := htop.begin
      simp only [Call.exec, Call.serve]
      cases hx : l.top <;> cases hy : k.top <;> rw [hx, hy] at htop hbegin <;> cases htop <;>
        exact ⟨rfl, hst, V.kept_refl s, by first | exact h | exact h.setTop hbegin⟩
    | configure f =>
      have htop := h.top
      have hconf := htop.configure f
      simp only [Call.exec, Call.serve]
      cases hx : l.top <;> cases hy : k.top <;> rw [hx, hy] at htop hconf <;> cases htop <;>
        exact ⟨rfl, hst, V.kept_refl s, by first | exact h | exact h.setTop hconf⟩

namespace Async

/-- Every statement the program may come to respects the view. -/
def Minds (V : View B) : Async B α → Prop
  | .ret _ => True
  | .raise _ => True
  | .sync _ k => ∀ r, (k r).Minds V
  | .call _ c k => c.Minds V ∧ ∀ r, (k r).Minds V

section Rules
variable {V : View B}

theorem minds_pure (a : α) : (pure a : Async B α).Minds V := trivial
theorem minds_throw (e : B.Error) : (throw e : Async B α).Minds V := trivial
theorem minds_ofExcept (r : Except B.Error α) : (ofExcept r).Minds V := by cases r <;> trivial

theorem minds_bind {p : Async B α} {f : α → Async B β} (hp : p.Minds V) (hf : ∀ a, (f a).Minds V) :
    (p >>= f).Minds V := by
  change (p.bind f).Minds V
  induction p with
  | ret a => exact hf a
  | raise e => trivial
  | sync c k ih => exact fun r => ih r (hp r)
  | call σ c k ih => exact ⟨hp.1, fun r => ih r (hp.2 r)⟩

theorem minds_handle {p : Async B α} {h : B.Error → Async B α} (hp : p.Minds V) (hh : ∀ e, (h e).Minds V) :
    (p.handle h).Minds V := by
  induction p with
  | ret a => trivial
  | raise e => exact hh e
  | sync c k ih => exact fun r => ih r (hp r)
  | call σ c k ih => exact ⟨hp.1, fun r => ih r (hp.2 r)⟩

theorem minds_await {c : Call B ρ} (hc : c.Minds V) (σ : B.Site) : (await σ c).Minds V :=
  ⟨hc, minds_ofExcept⟩

theorem minds_query {q : Stmt B ρ} (hq : ∀ c, q.Respects V c) (σ : B.Site) : (query σ q).Minds V :=
  minds_await (show (Call.query q).Minds V from hq) σ

theorem minds_emit (e : B.Event) : (emit e).Minds V := minds_ofExcept

theorem minds_withClient {p : Async B α} (hp : p.Minds V) (σ : B.Site) : (p.withClient σ).Minds V := by
  have hattempt : p.attempt.Minds V := minds_handle (minds_bind hp fun _ => trivial) fun _ => trivial
  apply minds_bind (minds_await (show (Call.connect : Call B Unit).Minds V from trivial) σ)
  intro _
  apply minds_bind hattempt
  intro r
  exact minds_bind (minds_ofExcept ·) fun _ => minds_ofExcept r

theorem minds_orRollback {p : Async B α} (hp : p.Minds V) (σ : B.Site) : (p.orRollback σ).Minds V := by
  apply minds_handle hp
  intro e
  exact minds_bind (minds_await (show (Call.rollback : Call B Unit).Minds V from trivial) σ) fun _ => trivial

theorem minds_onlyIf {condition : Prop} [Decidable condition] {p : Async B Unit} (hp : p.Minds V) :
    (onlyIf condition p).Minds V := by
  unfold onlyIf
  split
  · exact hp
  · trivial

end Rules

/-- Twin handlers with the same program run to the same call. -/
theorem settle_twin {V : View B} {p : Async B α} (hp : p.Minds V) {l k : Local B} (h : Local.Twin V l k) :
    (p.settle l).1 = (p.settle k).1 ∧ (p.settle l).1.Minds V ∧ Local.Twin V (p.settle l).2 (p.settle k).2 := by
  induction p generalizing l k with
  | ret a => exact ⟨rfl, hp, h⟩
  | raise e => exact ⟨rfl, hp, h⟩
  | call σ c q ih => exact ⟨rfl, hp, h⟩
  | sync c q ih =>
    obtain ⟨he, hl⟩ := Sync.exec_twin c h
    simp only [settle]
    rw [← he]
    exact ih _ (hp _) hl

end Async

namespace Config
variable {part : ι → B.Store → γ}

/-- A configuration in which every handler keeps to its part, and one in which handler
`i` is where it is in the first, with its part of the store the same. -/
structure Beside (part : ι → B.Store → γ) (i : ι) (cfg alone : Config B ι α) : Prop where
  minds : ∀ j, (cfg.thread j).prog.Minds (View.own part j)
  holds : ∀ j, (cfg.thread j).loc.Twin (View.own part j) (cfg.thread j).loc
  prog : (cfg.thread i).prog = (alone.thread i).prog
  loc : (cfg.thread i).loc.Twin (View.own part i) (alone.thread i).loc
  part : part i cfg.store = part i alone.store

variable [DecidableEq ι]

/-- A program that waits for no call. -/
def Over (p : Async B α) : Prop :=
  ∀ (ρ : Type) (σ : B.Site) (c : Call B ρ) (k : Except B.Error ρ → Async B α), p ≠ .call σ c k

theorem over_or_call (p : Async B α) : Over p ∨ ∃ (ρ : Type) (σ : B.Site) (c : Call B ρ) (k : Except B.Error ρ → Async B α),
    p = .call σ c k := by
  by_cases h : Over p
  · exact .inl h
  · simp only [Over, ne_eq, not_forall, not_not] at h
    exact .inr h

theorem fire_over {cfg : Config B ι α} {i : ι} (h : Over (cfg.thread i).prog) (a : Answer B) : cfg.fire i a = cfg := by
  unfold fire
  split
  · rename_i ρ σ c k l he
    exact absurd (congrArg Thread.prog he) (h ρ σ c k)
  · rfl

namespace Beside
variable {i : ι} {cfg alone : Config B ι α}

/-- A step of any handler keeps every handler to its part, and changes the stepping
handler's part of the store at most. -/
theorem keeps (h : Beside part i cfg alone) (j : ι) (a : Answer B) :
    (∀ k, ((cfg.fire j a).thread k).prog.Minds (View.own part k)) ∧
      (∀ k, ((cfg.fire j a).thread k).loc.Twin (View.own part k) ((cfg.fire j a).thread k).loc) ∧
      ∀ k, k ≠ j → part k (cfg.fire j a).store = part k cfg.store := by
  rcases over_or_call (cfg.thread j).prog with ho | ⟨ρ, σ, c, p, hp⟩
  · rw [fire_over ho]
    exact ⟨h.minds, h.holds, fun _ _ => rfl⟩
  · have hminds := h.minds j
    rw [hp] at hminds
    obtain ⟨-, -, hkept, hloc⟩ := Call.exec_twin (V := View.own part j) hminds.1 (rfl : part j cfg.store = _) (h.holds j) a
    obtain ⟨-, hprog, hset⟩ := Async.settle_twin (hminds.2 (c.exec a cfg.store (cfg.thread j).loc).1) hloc
    rw [fire_call (l := (cfg.thread j).loc) (by rw [← hp])]
    refine ⟨fun k => ?_, fun k => ?_, hkept⟩ <;> by_cases hk : k = j
    · subst hk
      simpa using hprog
    · simpa [hk] using h.minds k
    · subst hk
      simpa using hset
    · simpa [hk] using h.holds k

/-- A step of another handler is not noticed. -/
theorem other (h : Beside part i cfg alone) {j : ι} (hj : j ≠ i) (a : Answer B) :
    Beside part i (cfg.fire j a) alone := by
  obtain ⟨hminds, hholds, hpart⟩ := h.keeps j a
  have hsame : (cfg.fire j a).thread i = cfg.thread i := fire_other a hj.symm
  refine ⟨hminds, hholds, ?_, ?_, (hpart i hj.symm).trans h.part⟩
  · rw [hsame]; exact h.prog
  · rw [hsame]; exact h.loc

/-- A step of the handler itself is the same step alone. -/
theorem own (h : Beside part i cfg alone) (a : Answer B) : Beside part i (cfg.fire i a) (alone.fire i a) := by
  obtain ⟨hminds, hholds, -⟩ := h.keeps i a
  rcases over_or_call (cfg.thread i).prog with ho | ⟨ρ, σ, c, p, hp⟩
  · rw [fire_over ho, fire_over (h.prog ▸ ho)]
    exact h
  · have hm := h.minds i
    rw [hp] at hm
    have halone : (alone.thread i).prog = .call σ c p := h.prog.symm.trans hp
    obtain ⟨hr, hsame, -, hloc⟩ := Call.exec_twin (V := View.own part i) hm.1 h.part h.loc a
    obtain ⟨hprog, -, hset⟩ := Async.settle_twin (hm.2 (c.exec a cfg.store (cfg.thread i).loc).1) hloc
    refine ⟨hminds, hholds, ?_, ?_, ?_⟩ <;>
      rw [fire_call (l := (cfg.thread i).loc) (by rw [← hp]), fire_call (l := (alone.thread i).loc) (by rw [← halone])]
    · simp only [Function.update_self]
      rw [← hr]
      exact hprog
    · simp only [Function.update_self]
      rw [← hr]
      exact hset
    · exact hsame

/-- Along any steps, a handler is where its own steps alone lead. -/
theorem along (h : Beside part i cfg alone) (script : List (ι × Answer B)) :
    Beside part i (cfg.after script) (alone.after (script.filter fun step => step.1 = i)) := by
  induction script generalizing cfg alone with
  | nil => exact h
  | cons step rest ih =>
    obtain ⟨j, a⟩ := step
    by_cases hj : j = i
    · subst hj
      simpa [after] using ih (h.own a)
    · simpa [after, hj] using ih (h.other hj a)

end Beside

omit [DecidableEq ι] in
/-- Handlers that have run up to their first calls, next to themselves. -/
theorem beside_start {p : ι → Async B α} (h : ∀ j, (p j).Minds (View.own part j)) (i : ι) (s : B.Store) :
    Beside part i (Config.mk s fun j => Thread.start (p j)) (Config.mk s fun j => Thread.start (p j)) where
  minds j := (Async.settle_twin (h j) .empty).2.1
  holds j := (Async.settle_twin (h j) .empty).2.2
  prog := rfl
  loc := (Async.settle_twin (h i) .empty).2.2
  part := rfl

/-- Where each handler keeps to a part of the store, the order in which the handlers'
steps are taken does not matter: two orders of the same steps leave every handler with
the same program to go on with, the same events and the same part of the store. -/
theorem after_eq_of_steps_eq (part : ι → B.Store → γ) (p : ι → Async B α) (h : ∀ j, (p j).Minds (View.own part j)) (s : B.Store)
    {script script' : List (ι × Answer B)} {i : ι}
    (hsteps : (script.filter fun step => step.1 = i) = script'.filter fun step => step.1 = i) :
    (((Config.mk s fun j => Thread.start (p j)).after script).thread i).prog =
        (((Config.mk s fun j => Thread.start (p j)).after script').thread i).prog ∧
      (((Config.mk s fun j => Thread.start (p j)).after script).thread i).loc.out =
        (((Config.mk s fun j => Thread.start (p j)).after script').thread i).loc.out ∧
      part i ((Config.mk s fun j => Thread.start (p j)).after script).store =
        part i ((Config.mk s fun j => Thread.start (p j)).after script').store := by
  have hone := (beside_start h i s).along script
  have htwo := (beside_start h i s).along script'
  rw [hsteps] at hone
  exact ⟨hone.prog.trans htwo.prog.symm, hone.loc.out.trans htwo.loc.out.symm, hone.part.trans htwo.part.symm⟩

end Config
end GalaxiaAin.Library
