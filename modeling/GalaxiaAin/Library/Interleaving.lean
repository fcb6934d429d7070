import GalaxiaAin.Library.Execution
import Mathlib.Data.List.Basic
import Mathlib.Data.Fintype.Basic

/-! Handlers interleaved at their awaited calls. One step serves or fails the call
a handler is waiting for and runs its turn to the next call; a served statement
must find its locks free. -/
namespace GalaxiaAin.Library

variable {B : Backend} {α β ρ : Type} {ι : Type}

namespace Async

/-- Run the synchronous actions of the current turn. -/
def settle : Async B α → Local B → Async B α × Local B
  | .ret a, l => (.ret a, l)
  | .raise e, l => (.raise e, l)
  | .sync c k, l => (k (c.exec l).1).settle (c.exec l).2
  | .call σ c k, l => (.call σ c k, l)

def Settled : Async B α → Prop
  | .sync _ _ => False
  | _ => True

/-- The outcome of a program that has ended. -/
def result : Async B α → Option (Except B.Error α)
  | .ret a => some (.ok a)
  | .raise e => some (.error e)
  | _ => none

theorem settle_settled (p : Async B α) (l : Local B) : (p.settle l).1.Settled := by
  induction p generalizing l with
  | ret a => trivial
  | raise e => trivial
  | sync c k ih => exact ih _ _
  | call σ c k ih => trivial

end Async

/-- A handler: what is left of its program, and what it holds. -/
structure Thread (B : Backend) (α : Type) where
  prog : Async B α
  loc : Local B

/-- A handler that has run up to its first call. -/
def Thread.start (p : Async B α) : Thread B α := ⟨(p.settle .empty).1, (p.settle .empty).2⟩

/-- The committed store and the handlers in flight. -/
structure Config (B : Backend) (ι α : Type) where
  store : B.Store
  thread : ι → Thread B α

/-- Which answers the environment may give at a site in a store, and whether the call
may then throw. -/
abbrev Policy (B : Backend) := B.Site → B.Store → Answer B → Bool → Prop

namespace Config
variable [DecidableEq ι]

/-- Answer the call handler `i` waits for and run its turn. -/
def fire (cfg : Config B ι α) (i : ι) (a : Answer B) : Config B ι α :=
  match cfg.thread i with
  | ⟨.call _ c k, l⟩ =>
    let o := c.exec a cfg.store l
    ⟨o.2.1, Function.update cfg.thread i ⟨((k o.1).settle o.2.2).1, ((k o.1).settle o.2.2).2⟩⟩
  | _ => cfg

/-- Handler `i` waits for a call that may be answered so, with its locks free. -/
def Enabled (policy : Policy B) (cfg : Config B ι α) (i : ι) (a : Answer B) : Prop :=
  match cfg.thread i with
  | ⟨.call σ c _, l⟩ => policy σ cfg.store a (c.exec a cfg.store l).1.isOk ∧
      (¬ a.Faulty → ∀ j, j ≠ i → (c.wants cfg.store l).Disjoint (cfg.thread j).loc.locks)
  | _ => False

/-- Every step of the script is enabled. -/
def Runs (policy : Policy B) : Config B ι α → List (ι × Answer B) → Prop
  | _, [] => True
  | cfg, (i, a) :: rest => cfg.Enabled policy i a ∧ (cfg.fire i a).Runs policy rest

/-- Every step of the script meets a guard. -/
def Along (guard : Config B ι α → ι → Answer B → Prop) : Config B ι α → List (ι × Answer B) → Prop
  | _, [] => True
  | cfg, (i, a) :: rest => guard cfg i a ∧ (cfg.fire i a).Along guard rest

/-- The locks handler `i` must find free for its call. -/
def wants (cfg : Config B ι α) (i : ι) : List B.Lock :=
  match cfg.thread i with
  | ⟨.call _ c _, l⟩ => c.wants cfg.store l
  | _ => []

/-- The configuration a script leads to. -/
def after (cfg : Config B ι α) (script : List (ι × Answer B)) : Config B ι α :=
  script.foldl (fun c step => c.fire step.1 step.2) cfg

omit [DecidableEq ι] in
theorem enabled_call {policy : Policy B} {cfg : Config B ι α} {i : ι} {σ : B.Site} {c : Call B ρ}
    {k : Except B.Error ρ → Async B α} {l : Local B} (h : cfg.thread i = ⟨.call σ c k, l⟩) (a : Answer B) :
    cfg.Enabled policy i a ↔ policy σ cfg.store a (c.exec a cfg.store l).1.isOk ∧
      (¬ a.Faulty → ∀ j, j ≠ i → ∀ x ∈ c.wants cfg.store l, x ∉ (cfg.thread j).loc.locks) := by
  unfold Enabled; rw [h]; rfl

section Decidable
variable [Fintype ι] [DecidableEq B.Lock] {policy : Policy B} [∀ σ s a ok, Decidable (policy σ s a ok)]

instance (cfg : Config B ι α) (i : ι) (a : Answer B) : Decidable (cfg.Enabled policy i a) :=
  match h : cfg.thread i with
  | ⟨.call _ _ _, _⟩ => decidable_of_iff _ (enabled_call h a).symm
  | ⟨.ret _, _⟩ => isFalse (by unfold Enabled; rw [h]; exact id)
  | ⟨.raise _, _⟩ => isFalse (by unfold Enabled; rw [h]; exact id)
  | ⟨.sync _ _, _⟩ => isFalse (by unfold Enabled; rw [h]; exact id)

/-- Whether a script is a run can be computed. -/
instance decidableRuns : (cfg : Config B ι α) → (script : List (ι × Answer B)) → Decidable (cfg.Runs policy script)
  | _, [] => isTrue trivial
  | cfg, (i, a) :: rest =>
    have := decidableRuns (cfg.fire i a) rest
    inferInstanceAs (Decidable (cfg.Enabled policy i a ∧ (cfg.fire i a).Runs policy rest))

end Decidable

instance decidableAlong {guard : Config B ι α → ι → Answer B → Prop} [∀ cfg i a, Decidable (guard cfg i a)] :
    (cfg : Config B ι α) → (script : List (ι × Answer B)) → Decidable (cfg.Along guard script)
  | _, [] => isTrue trivial
  | cfg, (i, a) :: rest =>
    have : Decidable ((cfg.fire i a).Along guard rest) := decidableAlong (cfg.fire i a) rest
    inferInstanceAs (Decidable (guard cfg i a ∧ (cfg.fire i a).Along guard rest))

/-- An invariant of every enabled step holds after every run. -/
theorem Runs.invariant {policy : Policy B} {Inv : Config B ι α → Prop}
    (hstep : ∀ cfg i a, Inv cfg → cfg.Enabled policy i a → Inv (cfg.fire i a))
    {cfg : Config B ι α} (script : List (ι × Answer B)) (h : Inv cfg) (hr : cfg.Runs policy script) :
    Inv (cfg.after script) := by
  induction script generalizing cfg with
  | nil => exact h
  | cons step rest ih => exact ih (hstep cfg step.1 step.2 h hr.1) hr.2

/-- An invariant of every enabled step that meets the guard holds along a guarded run. -/
theorem Along.invariant {policy : Policy B} {guard : Config B ι α → ι → Answer B → Prop}
    {Inv : Config B ι α → Prop}
    (hstep : ∀ cfg i a, Inv cfg → cfg.Enabled policy i a → guard cfg i a → Inv (cfg.fire i a))
    {cfg : Config B ι α} (script : List (ι × Answer B)) (h : Inv cfg) (hr : cfg.Runs policy script)
    (hg : cfg.Along guard script) : Inv (cfg.after script) := by
  induction script generalizing cfg with
  | nil => exact h
  | cons step rest ih => exact ih (hstep cfg step.1 step.2 h hr.1 hg.1) hr.2 hg.2

theorem Along.append {guard : Config B ι α → ι → Answer B → Prop} {cfg : Config B ι α}
    {pre post : List (ι × Answer B)} (h : cfg.Along guard (pre ++ post)) :
    cfg.Along guard pre ∧ (cfg.after pre).Along guard post := by
  induction pre generalizing cfg with
  | nil => exact ⟨trivial, h⟩
  | cons step rest ih => exact ⟨⟨h.1, (ih h.2).1⟩, (ih h.2).2⟩

theorem Runs.append {policy : Policy B} {cfg : Config B ι α} {pre post : List (ι × Answer B)}
    (h : cfg.Runs policy (pre ++ post)) : cfg.Runs policy pre ∧ (cfg.after pre).Runs policy post := by
  induction pre generalizing cfg with
  | nil => exact ⟨trivial, h⟩
  | cons step rest ih => exact ⟨⟨h.1, (ih h.2).1⟩, (ih h.2).2⟩

theorem after_append (cfg : Config B ι α) (pre post : List (ι × Answer B)) :
    cfg.after (pre ++ post) = (cfg.after pre).after post := List.foldl_append

end Config

/-- What a handler may rely on between its steps, what its steps guarantee to the
others, and what holds whenever it waits for a call. -/
structure Protocol (B : Backend) where
  rely : Local B → B.Store → B.Store → Prop
  guar : Local B → B.Store → B.Store → Prop
  inv : B.Store → Local B → Prop

/-- The protocols of a group of handlers fit together: what one guarantees the
others may rely on, as long as no two hold a lock together. -/
structure Compatible (P : ι → Protocol B) : Prop where
  refl : ∀ i l s, (P i).rely l s s
  trans : ∀ i l s t u, (P i).rely l s t → (P i).rely l t u → (P i).rely l s u
  fits : ∀ i j l k s t, i ≠ j → l.locks.Disjoint k.locks → (P i).guar l s t → (P j).rely k s t

namespace Async

/-- A program that keeps its guarantee at each step, whatever its rely allows in
between, and ends in the postcondition. -/
def safe (policy : Policy B) (P : Protocol B) : Async B α → Post B α → B.Store → Local B → Prop
  | .ret a, Q, s, l => Q (.ok a) s l
  | .raise e, Q, s, l => Q (.error e) s l
  | .sync c k, Q, s, l => (k (c.exec l).1).safe policy P Q s (c.exec l).2
  | .call σ c k, Q, s, l => ∀ s', P.rely l s s' → P.inv s' l ∧ ∀ a : Answer B, policy σ s' a (c.exec a s' l).1.isOk →
      P.guar l s' (c.exec a s' l).2.1 ∧
      (k (c.exec a s' l).1).safe policy P Q (c.exec a s' l).2.1 (c.exec a s' l).2.2

/-- The postcondition of the first of two programs in sequence. -/
def nextSafe (policy : Policy B) (P : Protocol B) (f : α → Async B β) (Q : Post B β) : Post B α
  | .ok a => (f a).safe policy P Q
  | .error e => Q (.error e)

/-- The postcondition of a program under a handler. -/
def caughtSafe (policy : Policy B) (P : Protocol B) (h : B.Error → Async B α) (Q : Post B α) : Post B α
  | .ok a => Q (.ok a)
  | .error e => (h e).safe policy P Q

/-- A postcondition that the rely does not disturb. -/
def Stable (P : Protocol B) (Q : Post B α) : Prop :=
  ∀ r s t l, Q r s l → P.rely l s t → Q r t l

section Rules
variable {policy : Policy B} {P : Protocol B}

theorem safe_settle {p : Async B α} {Q : Post B α} {s : B.Store} {l : Local B} (h : p.safe policy P Q s l) :
    (p.settle l).1.safe policy P Q s (p.settle l).2 := by
  induction p generalizing l with
  | ret a => exact h
  | raise e => exact h
  | sync c k ih => exact ih _ h
  | call σ c k ih => exact h

theorem safe_mono {p : Async B α} {Q Q' : Post B α} {s : B.Store} {l : Local B} (h : p.safe policy P Q s l)
    (hq : ∀ r s l, Q r s l → Q' r s l) : p.safe policy P Q' s l := by
  induction p generalizing s l with
  | ret a => exact hq _ _ _ h
  | raise e => exact hq _ _ _ h
  | sync c k ih => exact ih _ h
  | call σ c k ih =>
    exact fun s' hs => ⟨(h s' hs).1, fun a ha => ⟨((h s' hs).2 a ha).1, ih _ ((h s' hs).2 a ha).2⟩⟩

@[simp] theorem safe_ret (a : α) (Q : Post B α) (s : B.Store) (l : Local B) :
    (Async.ret a).safe policy P Q s l ↔ Q (.ok a) s l := Iff.rfl
@[simp] theorem safe_pure (a : α) (Q : Post B α) (s : B.Store) (l : Local B) :
    (pure a : Async B α).safe policy P Q s l ↔ Q (.ok a) s l := Iff.rfl
@[simp] theorem safe_raise (e : B.Error) (Q : Post B α) (s : B.Store) (l : Local B) :
    (Async.raise e).safe policy P Q s l ↔ Q (.error e) s l := Iff.rfl
@[simp] theorem safe_throw (e : B.Error) (Q : Post B α) (s : B.Store) (l : Local B) :
    (throw e : Async B α).safe policy P Q s l ↔ Q (.error e) s l := Iff.rfl
@[simp] theorem safe_ofExcept (r : Except B.Error α) (Q : Post B α) (s : B.Store) (l : Local B) :
    (ofExcept r).safe policy P Q s l ↔ Q r s l := by cases r <;> rfl

@[simp] theorem nextSafe_ok (f : α → Async B β) (Q : Post B β) (a : α) (s : B.Store) (l : Local B) :
    nextSafe policy P f Q (.ok a) s l ↔ (f a).safe policy P Q s l := Iff.rfl
@[simp] theorem nextSafe_error (f : α → Async B β) (Q : Post B β) (e : B.Error) (s : B.Store) (l : Local B) :
    nextSafe policy P f Q (.error e) s l ↔ Q (.error e) s l := Iff.rfl
@[simp] theorem caughtSafe_ok (h : B.Error → Async B α) (Q : Post B α) (a : α) (s : B.Store) (l : Local B) :
    caughtSafe policy P h Q (.ok a) s l ↔ Q (.ok a) s l := Iff.rfl
@[simp] theorem caughtSafe_error (h : B.Error → Async B α) (Q : Post B α) (e : B.Error) (s : B.Store)
    (l : Local B) : caughtSafe policy P h Q (.error e) s l ↔ (h e).safe policy P Q s l := Iff.rfl

@[simp] theorem safe_bind (p : Async B α) (f : α → Async B β) (Q : Post B β) (s : B.Store) (l : Local B) :
    (p >>= f).safe policy P Q s l ↔ p.safe policy P (nextSafe policy P f Q) s l := by
  change (p.bind f).safe policy P Q s l ↔ _
  induction p generalizing s l with
  | ret a => rfl
  | raise e => rfl
  | sync c k ih => exact ih _ _ _
  | call σ c k ih =>
    exact forall_congr' fun s' => imp_congr_right fun _ => and_congr_right fun _ =>
      forall_congr' fun a => imp_congr_right fun _ => and_congr_right fun _ => ih _ _ _

@[simp] theorem safe_handle (p : Async B α) (h : B.Error → Async B α) (Q : Post B α) (s : B.Store)
    (l : Local B) : (p.handle h).safe policy P Q s l ↔ p.safe policy P (caughtSafe policy P h Q) s l := by
  induction p generalizing s l with
  | ret a => rfl
  | raise e => rfl
  | sync c k ih => exact ih _ _ _
  | call σ c k ih =>
    exact forall_congr' fun s' => imp_congr_right fun _ => and_congr_right fun _ =>
      forall_congr' fun a => imp_congr_right fun _ => and_congr_right fun _ => ih _ _ _

@[simp] theorem safe_tryCatch (p : Async B α) (h : B.Error → Async B α) (Q : Post B α) (s : B.Store)
    (l : Local B) : (tryCatch p h).safe policy P Q s l ↔ p.safe policy P (caughtSafe policy P h Q) s l :=
  safe_handle p h Q s l

theorem safe_await (σ : B.Site) (c : Call B ρ) (Q : Post B ρ) (s : B.Store) (l : Local B) :
    (await σ c).safe policy P Q s l ↔ ∀ s', P.rely l s s' → P.inv s' l ∧ ∀ a : Answer B, policy σ s' a (c.exec a s' l).1.isOk →
      P.guar l s' (c.exec a s' l).2.1 ∧ Q (c.exec a s' l).1 (c.exec a s' l).2.1 (c.exec a s' l).2.2 :=
  forall_congr' fun _ => imp_congr_right fun _ => and_congr_right fun _ =>
    forall_congr' fun _ => imp_congr_right fun _ => and_congr_right fun _ => safe_ofExcept _ _ _ _

theorem safe_attempt (p : Async B α) (Q : Post B (Except B.Error α)) (s : B.Store) (l : Local B) :
    p.attempt.safe policy P Q s l ↔ p.safe policy P (fun r => Q (.ok r)) s l := by
  rw [attempt, safe_handle, safe_bind]
  refine ⟨fun h => safe_mono h fun r s l hq => ?_, fun h => safe_mono h fun r s l hq => ?_⟩
  all_goals cases r <;> exact hq

@[simp] theorem safe_releasing (p : Async B α) (Q : Post B α) (s : B.Store) (l : Local B) :
    p.releasing.safe policy P Q s l ↔
      p.safe policy P (fun r s' l' => Q r s' ⟨l'.sessions.tail, l'.out⟩) s l := by
  rw [releasing, safe_bind, safe_attempt]
  have h (r : Except B.Error α) (s' : B.Store) (l' : Local B) :
      (Async.sync .release ofExcept >>= fun _ => ofExcept r).safe policy P Q s' l' ↔
        Q r s' ⟨l'.sessions.tail, l'.out⟩ := by
    rw [safe_bind]; exact safe_ofExcept r Q s' _
  exact ⟨fun hp => safe_mono hp fun r s' l' => (h r s' l').mp, fun hp => safe_mono hp fun r s' l' => (h r s' l').mpr⟩

@[simp] theorem safe_emit (e : B.Event) (Q : Post B Unit) (s : B.Store) (l : Local B) :
    (emit e).safe policy P Q s l ↔
      match B.refuse l.out e with
      | none => Q (.ok ()) s ⟨l.sessions, l.out ++ [e]⟩
      | some err => Q (.error err) s l := by
  change (ofExcept _).safe policy P Q s _ ↔ _
  rw [safe_ofExcept, Sync.exec]
  cases B.refuse l.out e <;> rfl

end Rules
end Async

namespace Config
variable [DecidableEq ι] {policy : Policy B} {P : ι → Protocol B} {Q : ι → Post B α}

/-- Every handler is safe, and no two hold a lock together. -/
structure Protected (policy : Policy B) (P : ι → Protocol B) (Q : ι → Post B α) (cfg : Config B ι α) : Prop where
  settled : ∀ i, (cfg.thread i).prog.Settled
  safe : ∀ i, (cfg.thread i).prog.safe policy (P i) (Q i) cfg.store (cfg.thread i).loc
  apart : ∀ i j, i ≠ j → (cfg.thread i).loc.locks.Disjoint (cfg.thread j).loc.locks

theorem fire_call {cfg : Config B ι α} {i : ι} {σ : B.Site} {c : Call B ρ} {k : Except B.Error ρ → Async B α}
    {l : Local B} (h : cfg.thread i = ⟨.call σ c k, l⟩) (a : Answer B) :
    cfg.fire i a = ⟨(c.exec a cfg.store l).2.1, Function.update cfg.thread i
      ⟨((k (c.exec a cfg.store l).1).settle (c.exec a cfg.store l).2.2).1,
        ((k (c.exec a cfg.store l).1).settle (c.exec a cfg.store l).2.2).2⟩⟩ := by
  unfold fire; rw [h]

omit [DecidableEq ι] in
/-- An enabled step answers the call its handler waits for. -/
theorem Enabled.cases {policy : Policy B} {cfg : Config B ι α} {i : ι} {a : Answer B}
    (h : cfg.Enabled policy i a) :
    ∃ (ρ : Type) (σ : B.Site) (c : Call B ρ) (k : Except B.Error ρ → Async B α) (l : Local B),
      cfg.thread i = ⟨.call σ c k, l⟩ ∧ policy σ cfg.store a (c.exec a cfg.store l).1.isOk ∧
      (¬ a.Faulty → ∀ j, j ≠ i → (c.wants cfg.store l).Disjoint (cfg.thread j).loc.locks) := by
  unfold Enabled at h
  split at h
  · rename_i σ c k l he
    exact ⟨_, σ, c, k, l, he, h⟩
  · exact h.elim

end Config

theorem Local.mem_locks_setTop {l : Local B} {x : Session B} {k : B.Lock} (h : k ∈ (l.setTop x).locks) :
    k ∈ x.locks ∨ k ∈ l.locks := by
  obtain ⟨sessions, out⟩ := l
  cases sessions with
  | nil => simpa [Local.locks, Local.setTop] using h
  | cons y rest =>
    simp only [Local.locks, Local.setTop, List.tail_cons, List.flatMap_cons, List.mem_append] at h ⊢
    exact h.imp_right .inr

theorem Local.mem_locks_top {l : Local B} {k : B.Lock} (h : k ∈ l.top.locks) : k ∈ l.locks := by
  obtain ⟨sessions, out⟩ := l
  cases sessions with
  | nil => simp [Local.top, Session.locks] at h
  | cons y rest => exact List.mem_append_left _ h

theorem Session.fail_locks (x : Session B) : x.fail.locks = x.locks := by cases x <;> rfl

/-- A call's locks are the ones it held and, when served, the ones it asked for. -/
theorem Call.mem_locks_exec {c : Call B ρ} {a : Answer B} {s : B.Store} {l : Local B} {k : B.Lock}
    (h : k ∈ (c.exec a s l).2.2.locks) : k ∈ l.locks ∨ (¬ a.Faulty ∧ k ∈ c.wants s l) := by
  cases a with
  | fault f =>
    left
    cases c <;> simp only [Call.exec, Call.failed] at h
    case connect => exact h
    case pool => exact h
    case remote => exact h
    case commit => exact (Local.mem_locks_setTop h).elim (fun h => by simp [Session.locks] at h) id
    case rollback => exact (Local.mem_locks_setTop h).elim (fun h => by simp [Session.locks] at h) id
    all_goals
      refine (Local.mem_locks_setTop h).elim (fun h => Local.mem_locks_top ?_) id
      rwa [Session.fail_locks] at h
  | done reply =>
    have hserved : ¬ (Answer.done reply : Answer B).Faulty := id
    cases c <;> simp only [Call.exec, Call.serve] at h
    case connect => exact .inl h
    case pool => exact .inl h
    case remote => exact .inl h
    case commit => exact .inl ((Local.mem_locks_setTop h).elim (fun h => by simp [Session.locks] at h) id)
    case rollback => exact .inl ((Local.mem_locks_setTop h).elim (fun h => by simp [Session.locks] at h) id)
    case begin =>
      left
      split at h
      · exact h
      · refine (Local.mem_locks_setTop h).elim (fun h => ?_) id
        cases hx : l.top with
        | idle => simp [hx, Session.begin, Session.locks] at h
        | active c held p => exact Local.mem_locks_top (by simpa [hx, Session.begin] using h)
        | aborted held => exact Local.mem_locks_top (by simpa [hx, Session.begin] using h)
    case configure f =>
      left
      split at h
      · exact h
      · refine (Local.mem_locks_setTop h).elim (fun h => ?_) id
        cases hx : l.top with
        | idle => simp [hx, Session.configure, Session.locks] at h
        | active c held p => exact Local.mem_locks_top (by simpa [hx, Session.configure, Session.locks] using h)
        | aborted held => exact Local.mem_locks_top (by simpa [hx, Session.configure] using h)
    case query q =>
      refine (Local.mem_locks_setTop h).elim (fun h => ?_) .inl
      cases hx : l.top with
      | idle => simp [hx, Session.query, Session.locks] at h
      | aborted held => exact .inl (Local.mem_locks_top (by simpa [hx, Session.query] using h))
      | active c held p =>
        rw [hx, Session.query] at h
        cases hq : q.reply c (p s) with
        | ok r =>
          rw [hq] at h
          refine (List.mem_append.mp h).elim (fun hk => .inr ⟨hserved, ?_⟩)
            (fun hk => .inl (Local.mem_locks_top (by rw [hx]; exact hk)))
          rw [Call.wants, hx]; exact hk
        | error e =>
          rw [hq] at h
          exact .inl (Local.mem_locks_top (by rw [hx]; exact h))

theorem Sync.mem_locks_exec {c : Sync B} {l : Local B} {k : B.Lock} (h : k ∈ (c.exec l).2.locks) :
    k ∈ l.locks := by
  cases c with
  | release =>
    obtain ⟨sessions, out⟩ := l
    cases sessions with
    | nil => exact h
    | cons x rest => exact List.mem_append_right _ h
  | emit e =>
    unfold Sync.exec at h
    cases he : B.refuse l.out e <;> simpa [he, Local.locks] using h

theorem Async.mem_locks_settle {p : Async B α} {l : Local B} {k : B.Lock} (h : k ∈ (p.settle l).2.locks) :
    k ∈ l.locks := by
  induction p generalizing l with
  | ret a => exact h
  | raise e => exact h
  | sync c k ih => exact Sync.mem_locks_exec (ih _ h)
  | call σ c k ih => exact h

namespace Config
variable {policy : Policy B} {P : ι → Protocol B} {Q : ι → Post B α}

/-- After a step its handler holds the locks it held and, when served, those it asked for. -/
theorem mem_locks_fire [DecidableEq ι] {cfg : Config B ι α} {i : ι} {a : Answer B} {x : B.Lock}
    (h : x ∈ ((cfg.fire i a).thread i).loc.locks) :
    x ∈ (cfg.thread i).loc.locks ∨ (¬ a.Faulty ∧ x ∈ cfg.wants i) := by
  unfold fire wants at *
  split at h
  · rename_i c k l hi
    simp only [Function.update_self] at h
    rw [hi]
    exact Call.mem_locks_exec (Async.mem_locks_settle h)
  · exact .inl h

/-- A step leaves the other handlers where they are. -/
theorem fire_other [DecidableEq ι] {cfg : Config B ι α} {i j : ι} (a : Answer B) (hj : j ≠ i) :
    (cfg.fire i a).thread j = cfg.thread j := by
  unfold fire
  split
  · exact Function.update_of_ne hj _ _
  · rfl

/-- A handler that has ended takes no step. -/
theorem Enabled.running {cfg : Config B ι α} {i : ι} {a : Answer B} (h : cfg.Enabled policy i a) :
    (cfg.thread i).prog.result = none := by
  obtain ⟨ρ, σ, c, k, l, hi, -⟩ := h.cases
  rw [hi]; rfl

/-- What the others do between two steps keeps a waiting handler safe. -/
theorem safe_stable {P : Protocol B} {Q : Post B α} {p : Async B α} {s t : B.Store} {l : Local B}
    (htrans : ∀ u, P.rely l t u → P.rely l s u) (hQ : ∀ r, p.result = some r → Q r s l → Q r t l) (hp : p.Settled)
    (h : p.safe policy P Q s l) : p.safe policy P Q t l := by
  cases p with
  | ret a => exact hQ _ rfl h
  | raise e => exact hQ _ rfl h
  | sync c k => exact hp.elim
  | call σ c k => exact fun u hu => h u (htrans u hu)

/-- A handler that has ended only has its postcondition to keep. -/
theorem safe_ended {P : Protocol B} {Q : Post B α} {p : Async B α} {s : B.Store} {l : Local B} (hp : p.result ≠ none)
    (hq : ∀ r, p.result = some r → Q r s l) : p.safe policy P Q s l := by
  cases p with
  | ret a => exact hq _ rfl
  | raise e => exact hq _ rfl
  | sync c k => exact absurd rfl hp
  | call σ c k => exact absurd rfl hp

/-- Programs that are safe from the initial store are protected when they start. -/
theorem Protected.start {s : B.Store} {p : ι → Async B α}
    (h : ∀ i, (p i).safe policy (P i) (Q i) s .empty) :
    (Config.mk s fun i => Thread.start (p i) : Config B ι α).Protected policy P Q where
  settled i := Async.settle_settled _ _
  safe i := Async.safe_settle (h i)
  apart i j _ := by
    intro x hx
    have := Async.mem_locks_settle (show x ∈ ((p i).settle .empty).2.locks from hx)
    simp [Local.empty, Local.locks] at this

/-- A protected handler that has ended meets its postcondition; one that waits for
a call keeps its invariant. -/
theorem Protected.outcome {cfg : Config B ι α} (h : cfg.Protected policy P Q) (i : ι) {r : Except B.Error α}
    (hr : (cfg.thread i).prog.result = some r) : Q i r cfg.store (cfg.thread i).loc := by
  have hs := h.safe i
  cases hp : (cfg.thread i).prog with
  | ret a => rw [hp] at hs hr; cases hr; exact hs
  | raise e => rw [hp] at hs hr; cases hr; exact hs
  | sync c k => rw [hp] at hr; cases hr
  | call σ c k => rw [hp] at hr; cases hr

theorem Protected.inv (hP : Compatible P) {cfg : Config B ι α} (h : cfg.Protected policy P Q) (i : ι)
    (hr : (cfg.thread i).prog.result = none) : (P i).inv cfg.store (cfg.thread i).loc := by
  have hs := h.safe i
  have hset := h.settled i
  cases hp : (cfg.thread i).prog with
  | ret a => rw [hp] at hr; cases hr
  | raise e => rw [hp] at hr; cases hr
  | sync c k => rw [hp] at hset; exact hset.elim
  | call σ c k => rw [hp] at hs; exact (hs _ (hP.refl i _ _)).1

variable [DecidableEq ι]

/-- A step makes a change its handler guarantees. -/
theorem Protected.guar (hrefl : ∀ i l s, (P i).rely l s s) {cfg : Config B ι α} {i : ι} {a : Answer B}
    (h : cfg.Protected policy P Q) (he : cfg.Enabled policy i a) :
    (P i).guar (cfg.thread i).loc cfg.store (cfg.fire i a).store := by
  obtain ⟨ρ, σ, c, k, l, hi, hpol, -⟩ := he.cases
  have hsafe := h.safe i
  rw [hi] at hsafe
  rw [fire_call hi a, hi]
  exact ((hsafe cfg.store (hrefl i _ _)).2 a hpol).1

/-- A step keeps its handler safe; it keeps the others safe if its change does. -/
theorem Protected.fire_of (hrefl : ∀ i l s, (P i).rely l s s) {cfg : Config B ι α} {i : ι} {a : Answer B}
    (h : cfg.Protected policy P Q) (he : cfg.Enabled policy i a)
    (hother : ∀ j, j ≠ i → (cfg.thread j).prog.safe policy (P j) (Q j) (cfg.fire i a).store (cfg.thread j).loc) :
    (cfg.fire i a).Protected policy P Q := by
  obtain ⟨ρ, σ, c, k, l, hi, hpol, hfree⟩ := he.cases
  have hsafe := h.safe i
  rw [hi] at hsafe
  obtain ⟨-, hk⟩ := (hsafe cfg.store (hrefl i _ _)).2 a hpol
  rw [fire_call hi a] at hother ⊢
  have hlocks : ∀ j, j ≠ i → ((k (c.exec a cfg.store l).1).settle (c.exec a cfg.store l).2.2).2.locks.Disjoint
      (cfg.thread j).loc.locks := by
    intro j hj x hx hxj
    rcases Call.mem_locks_exec (Async.mem_locks_settle hx) with hold | ⟨hs, hw⟩
    · have := h.apart i j (Ne.symm hj)
      rw [hi] at this
      exact this hold hxj
    · exact hfree hs j hj hw hxj
  constructor
  · intro j
    by_cases hj : j = i
    · subst hj; simpa using Async.settle_settled _ _
    · simpa [Function.update_of_ne hj] using h.settled j
  · intro j
    by_cases hj : j = i
    · subst hj; simpa using Async.safe_settle hk
    · simpa [Function.update_of_ne hj] using hother j hj
  · intro j j' hjj
    by_cases hj : j = i
    · subst hj; simpa [Function.update_of_ne (Ne.symm hjj)] using hlocks j' (Ne.symm hjj)
    · by_cases hj' : j' = i
      · subst hj'
        intro x hx hy
        simp only [Function.update_of_ne hj] at hx
        simp only [Function.update_self] at hy
        exact hlocks j hj hy hx
      · simpa [Function.update_of_ne hj, Function.update_of_ne hj'] using h.apart j j' hjj

/-- The parallel rule: a step of one handler keeps every handler safe. -/
theorem Protected.fire (hP : Compatible P) (hQ : ∀ i, Async.Stable (P i) (Q i)) {cfg : Config B ι α} {i : ι}
    {a : Answer B} (h : cfg.Protected policy P Q) (he : cfg.Enabled policy i a) :
    (cfg.fire i a).Protected policy P Q := by
  have hg := h.guar hP.refl he
  refine h.fire_of hP.refl he fun j hj => ?_
  have hr := hP.fits i j _ _ _ _ (Ne.symm hj) (h.apart i j (Ne.symm hj)) hg
  exact safe_stable (fun u hu => hP.trans j _ _ _ u hr hu) (fun r _ hq => hQ j _ _ _ _ hq hr) (h.settled j) (h.safe j)

theorem Protected.after (hP : Compatible P) (hQ : ∀ i, Async.Stable (P i) (Q i)) {cfg : Config B ι α}
    (script : List (ι × Answer B)) (h : cfg.Protected policy P Q) (hr : cfg.Runs policy script) :
    (cfg.after script).Protected policy P Q :=
  hr.invariant (fun _ _ _ hc he => hc.fire hP hQ he) script h

end Config
end GalaxiaAin.Library
