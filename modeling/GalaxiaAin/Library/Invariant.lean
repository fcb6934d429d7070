import GalaxiaAin.Library.Frame

/-! Invariants of the store that a program keeps at every call, whatever fails. What the
open transactions have pending keeps the invariant too. -/
namespace GalaxiaAin.Library

variable {B : Backend} {α β ρ : Type} {I : B.Store → Prop}

/-- What a statement has found in a store of the invariant may be written to another. -/
def Stmt.Maintains (I : B.Store → Prop) (q : Stmt B ρ) : Prop := ∀ c s t, I s → I t → I (q.effect c s t)

namespace Stmt

theorem Maintains.of_run {q : Stmt B ρ} (h : ∀ c s r w, I s → q.run c s = .ok (r, w) → ∀ t, I t → I (w t)) :
    q.Maintains I := by
  intro c s t hs ht
  cases hrun : q.run c s with
  | error e => rw [effect_error hrun]; exact ht
  | ok o => rw [effect_ok hrun]; exact h c s _ _ hs hrun t ht

theorem maintains_select (f : B.Context → B.Store → ρ) : (select f).Maintains I := fun _ _ _ _ ht => ht

theorem maintains_selection (f : B.Store → Except B.Error ρ) : (selection f).Maintains I := by
  refine .of_run fun c s r w _ hrun t ht => ?_
  simp only [selection, statement] at hrun
  cases hf : f s with
  | error e => rw [hf] at hrun; cases hrun
  | ok x => rw [hf] at hrun; cases hrun; exact ht

/-- A statement of a frame stays within the frame of an earlier store. -/
theorem Keeps.maintains {F : Frame B} {q : Stmt B ρ} (h : q.Keeps F) {a : B.Store} : q.Maintains (F.kept a) :=
  fun c s t _ ht => F.kept_trans _ _ _ ht (h c s t)

/-- A part of the store that a statement leaves alone keeps its value. -/
theorem Keeps.maintains_of {f : B.Store → β} {q : Stmt B ρ} (h : q.Keeps (Frame.of f)) {b : β} : q.Maintains fun s => f s = b :=
  fun c s t _ ht => (h c s t).trans ht

end Stmt

/-- The pending writes of a session. -/
def Session.Maintains (I : B.Store → Prop) : Session B → Prop
  | .active _ _ p => ∀ t, I t → I (p t)
  | _ => True

def Call.Maintains (I : B.Store → Prop) : Call B ρ → Prop
  | .query q => q.Maintains I
  | .pool q => q.Maintains I
  | _ => True

namespace Async

/-- The invariant, of the store and of the clients. -/
def Maintained (I : B.Store → Prop) (s : B.Store) (l : Local B) : Prop := I s ∧ ∀ x ∈ l.sessions, x.Maintains I

theorem maintained_empty {s : B.Store} (h : I s) : Maintained I s Local.empty := ⟨h, by simp [Local.empty]⟩

namespace Maintained
variable {s : B.Store} {l : Local B}

theorem top (h : Maintained I s l) : l.top.Maintains I := by
  obtain ⟨sessions, out⟩ := l
  cases sessions with
  | nil => trivial
  | cons x rest => exact h.2 x List.mem_cons_self

theorem tail (h : Maintained I s l) : ∀ x ∈ l.sessions.tail, x.Maintains I :=
  fun x hx => h.2 x (List.mem_of_mem_tail hx)

theorem setTop {t : B.Store} {x : Session B} (h : Maintained I s l) (ht : I t) (hx : x.Maintains I) :
    Maintained I t (l.setTop x) := by
  refine ⟨ht, fun y hy => ?_⟩
  rcases List.mem_cons.mp hy with rfl | hy
  · exact hx
  · exact h.tail y hy

theorem fail (h : Maintained I s l) : Maintained I s (l.setTop l.top.fail) := by
  refine h.setTop h.1 ?_
  cases l.top <;> trivial

/-- One call. -/
theorem exec {c : Call B ρ} (hc : c.Maintains I) (h : Maintained I s l) (a : Answer B) :
    Maintained I (c.exec a s l).2.1 (c.exec a s l).2.2 := by
  have htop := h.top
  cases a with
  | fault f =>
    cases c with
    | connect | pool q | remote r => exact h
    | begin | configure f | query q => exact h.fail
    | commit | rollback => exact h.setTop h.1 trivial
  | done reply =>
    cases c with
    | connect => exact ⟨h.1, fun x hx => (List.mem_cons.mp hx).elim (fun hx => hx ▸ trivial) (h.2 x)⟩
    | pool q => exact ⟨hc _ _ _ h.1 h.1, h.2⟩
    | remote r => exact h
    | rollback => exact h.setTop h.1 trivial
    | begin =>
      simp only [Call.exec, Call.serve]
      split
      · exact h
      · refine h.setTop h.1 ?_
        cases hx : l.top with
        | idle => exact fun _ ht => ht
        | active c held p => rw [hx] at htop; exact htop
        | aborted held => trivial
    | configure f =>
      simp only [Call.exec, Call.serve]
      split
      · exact h
      · refine h.setTop h.1 ?_
        cases hx : l.top with
        | active c held p => rw [hx] at htop; exact htop
        | idle | aborted held => trivial
    | commit =>
      refine h.setTop ?_ trivial
      change I (l.top.commit s)
      cases hx : l.top with
      | active c held p => rw [hx] at htop; exact htop s h.1
      | idle | aborted held => exact h.1
    | query q =>
      simp only [Call.exec, Call.serve]
      cases hx : l.top with
      | idle => exact h.setTop (hc _ _ _ h.1 h.1) trivial
      | aborted held => exact h.setTop h.1 trivial
      | active c held p =>
        rw [hx] at htop
        simp only [Session.query]
        cases q.reply c (p s) with
        | error e => exact h.setTop h.1 trivial
        | ok r => exact h.setTop h.1 fun t ht => hc _ _ _ (htop s h.1) (htop t ht)

end Maintained

/-! ### Rules -/

/-- From a store of the invariant a program ends in one, whatever fails. -/
def Preserves (I : B.Store → Prop) (p : Async B α) : Prop :=
  ∀ s l, Maintained I s l → p.post (fun _ => True) (fun _ t l' => Maintained I t l') s l

/-- Its executions keep the invariant. -/
theorem Preserves.exec {p : Async B α} (h : Preserves I p) {may : B.Site → Prop} {s t : B.Store} {l' : Local B}
    {r : Except B.Error α} (he : Exec may p s Local.empty r t l') (hs : I s) : I t :=
  ((he.mono fun _ _ => trivial).sound (h s Local.empty (maintained_empty hs))).1

theorem preserves_pure (a : α) : Preserves I (pure a) := fun _ _ h => h

theorem preserves_throw (e : B.Error) : Preserves I (throw e : Async B α) := fun _ _ h => h

theorem preserves_ofExcept (r : Except B.Error α) : Preserves I (ofExcept r) :=
  fun s l h => (post_ofExcept _ r _ s l).mpr h

theorem preserves_bind {p : Async B α} {f : α → Async B β} (hp : Preserves I p) (hf : ∀ a, Preserves I (f a)) :
    Preserves I (p >>= f) := by
  intro s l h
  rw [post_bind]
  refine post_mono (hp s l h) fun r t k hk => ?_
  cases r with
  | ok a => exact hf a t k hk
  | error e => exact hk

theorem preserves_handle {p : Async B α} {f : B.Error → Async B α} (hp : Preserves I p) (hf : ∀ e, Preserves I (f e)) :
    Preserves I (p.handle f) := by
  intro s l h
  rw [post_handle]
  refine post_mono (hp s l h) fun r t k hk => ?_
  cases r with
  | ok a => exact hk
  | error e => exact hf e t k hk

theorem preserves_await {c : Call B ρ} (hc : c.Maintains I) (σ : B.Site) : Preserves I (await σ c) :=
  fun s l h => (post_await _ σ c _ s l).mpr ⟨fun reply => h.exec hc (.done reply), fun _ f => h.exec hc (.fault f)⟩

theorem preserves_query {q : Stmt B ρ} (hq : q.Maintains I) (σ : B.Site) : Preserves I (query σ q) :=
  preserves_await (show (Call.query q).Maintains I from hq) σ

theorem preserves_emit (e : B.Event) : Preserves I (emit e : Async B Unit) := by
  intro s l h
  rw [post_emit]
  cases B.refuse l.out e <;> exact h

theorem preserves_withClient {p : Async B α} (hp : Preserves I p) (σ : B.Site) : Preserves I (p.withClient σ) := by
  intro s l h
  rw [post_withClient]
  refine ⟨post_mono (hp s _ ?_) fun r t k hk => ⟨hk.1, hk.tail⟩, fun _ _ => h⟩
  exact ⟨h.1, fun x hx => (List.mem_cons.mp hx).elim (fun hx => hx ▸ trivial) (h.2 x)⟩

theorem preserves_orRollback {p : Async B α} (hp : Preserves I p) (σ : B.Site) : Preserves I (p.orRollback σ) :=
  preserves_handle hp fun e => preserves_bind (preserves_await (show (Call.rollback : Call B Unit).Maintains I from trivial) σ) fun _ => preserves_throw e

theorem preserves_onlyIf {condition : Prop} [Decidable condition] {p : Async B Unit} (hp : Preserves I p) :
    Preserves I (onlyIf condition p) := by
  unfold onlyIf
  split
  · exact hp
  · exact preserves_pure ()

end Async
end GalaxiaAin.Library
