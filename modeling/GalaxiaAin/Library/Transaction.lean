import GalaxiaAin.Library.Frame

/-! Inside an open transaction: programs that leave the committed store alone, and what
the store that COMMIT would leave is like when they end well. -/
namespace GalaxiaAin.Library

/-! ### Fallible computations -/

section
variable {ε α β : Type}

/-- A result is as `R` says, an error as `E` says. -/
def Meets (x : Except ε α) (R : α → Prop) (E : ε → Prop) : Prop :=
  (∀ a, x = .ok a → R a) ∧ ∀ e, x = .error e → E e

variable {R : α → Prop} {E : ε → Prop}

@[simp] theorem meets_ok {a : α} : Meets (.ok a) R E ↔ R a :=
  ⟨fun h => h.1 a rfl, fun h => ⟨fun _ ha => Except.ok.inj ha ▸ h, fun _ he => nomatch he⟩⟩

@[simp] theorem meets_error {e : ε} : Meets (.error e) R E ↔ E e :=
  ⟨fun h => h.2 e rfl, fun h => ⟨fun _ ha => (nomatch ha), fun _ he => Except.error.inj he ▸ h⟩⟩

/-- Nothing is asked of the outcome. -/
theorem meets_any {x : Except ε α} : Meets x (fun _ => True) fun _ => True := ⟨fun _ _ => trivial, fun _ _ => trivial⟩

theorem Meets.mono {x : Except ε α} {R' : α → Prop} (hx : Meets x R E) (h : ∀ a, R a → R' a) : Meets x R' E :=
  ⟨fun a ha => h a (hx.1 a ha), hx.2⟩

theorem Meets.bind {x : Except ε α} {f : α → Except ε β} {R' : β → Prop} (hx : Meets x R E)
    (hf : ∀ a, R a → Meets (f a) R' E) : Meets (x >>= f) R' E := by
  cases x with
  | ok a => exact hf a (hx.1 a rfl)
  | error e => exact meets_error.mpr (hx.2 e rfl)

theorem Meets.map {x : Except ε α} {f : α → β} {R' : β → Prop} (hx : Meets x R E) (hf : ∀ a, R a → R' (f a)) :
    Meets (x.map f) R' E := by
  cases x with
  | ok a => exact meets_ok.mpr (hf a (hx.1 a rfl))
  | error e => exact meets_error.mpr (hx.2 e rfl)

end

variable {B : Backend} {α β ρ : Type}

namespace Stmt

theorem meets_selection {f : B.Store → Except B.Error ρ} {R : ρ → B.Store → Prop} {E : B.Error → Prop} {c : B.Context}
    {s : B.Store} (h : Meets (f s) (R · s) E) : Meets ((selection f).run c s) (fun o => R o.1 (o.2 s)) E :=
  h.map fun _ h => h

/-- A statement whose changes are of one form keeps what changes of that form keep. -/
theorem keeps_statement {F : Frame B} {f : B.Store → Except B.Error (ρ × (B.Store → B.Store))}
    (h : ∀ s, Meets (f s) (fun o => ∀ t, F.kept t (o.2 t)) fun _ => True) : (statement f).Keeps F :=
  Stmt.Keeps.of_run fun _ s _ _ hw t => (h s).1 _ hw t

end Stmt

namespace Async

/-! ### Programs that only look -/

/-- The store and the clients are as they were. -/
def Observes (may : B.Site → Prop) (p : Async B α) (s : B.Store) (l : Local B) (R : α → Prop) (E : B.Error → Prop) : Prop :=
  p.post may (fun r s' l' => s' = s ∧ l' = l ∧ Meets r R E) s l

section
variable {may : B.Site → Prop} {s : B.Store} {l : Local B} {E : B.Error → Prop}

theorem observes_pure {R : α → Prop} {a : α} (h : R a) : (pure a : Async B α).Observes may s l R E :=
  ⟨rfl, rfl, meets_ok.mpr h⟩

theorem observes_throw {R : α → Prop} {e : B.Error} (h : E e) : (throw e : Async B α).Observes may s l R E :=
  ⟨rfl, rfl, meets_error.mpr h⟩

theorem observes_ofExcept {R : α → Prop} {r : Except B.Error α} (h : Meets r R E) :
    (ofExcept r).Observes may s l R E := (post_ofExcept may _ _ _ _).mpr ⟨rfl, rfl, h⟩

theorem observes_bind {p : Async B α} {f : α → Async B β} {R : α → Prop} {R' : β → Prop}
    (hp : p.Observes may s l R E) (hf : ∀ a, R a → (f a).Observes may s l R' E) : (p >>= f).Observes may s l R' E := by
  refine (post_bind may _ _ _ _ _).mpr (post_mono hp fun r s' l' hr => ?_)
  obtain ⟨rfl, rfl, hr⟩ := hr
  cases r with
  | ok a => exact hf a (hr.1 a rfl)
  | error e => exact ⟨rfl, rfl, meets_error.mpr (hr.2 e rfl)⟩

theorem observes_handle {p : Async B α} {h : B.Error → Async B α} {R : α → Prop} {D : B.Error → Prop}
    (hp : p.Observes may s l R D) (hh : ∀ e, D e → (h e).Observes may s l R E) : (p.handle h).Observes may s l R E := by
  refine (post_handle may _ _ _ _ _).mpr (post_mono hp fun r s' l' hr => ?_)
  obtain ⟨rfl, rfl, hr⟩ := hr
  cases r with
  | ok a => exact ⟨rfl, rfl, meets_ok.mpr (hr.1 a rfl)⟩
  | error e => exact hh e (hr.2 e rfl)

theorem observes_onlyIf {condition : Prop} [Decidable condition] {p : Async B Unit} {R : Unit → Prop}
    (hp : condition → p.Observes may s l R E) (h : ¬ condition → R ()) : (onlyIf condition p).Observes may s l R E := by
  unfold onlyIf
  split
  · exact hp ‹_›
  · exact observes_pure (h ‹_›)

private theorem looks {q : Stmt B ρ} {R : ρ → Prop} (h : Meets (q.run B.initial s) (fun o => o.2 s = s ∧ R o.1) E) :
    q.effect B.initial s s = s ∧ Meets (q.reply B.initial s) R E := by
  cases hq : q.run B.initial s with
  | error e =>
    rw [Stmt.reply_error hq, Stmt.effect_error hq]
    exact ⟨rfl, meets_error.mpr (h.2 e hq)⟩
  | ok o =>
    rw [Stmt.reply_ok hq, Stmt.effect_ok hq]
    exact ⟨(h.1 o hq).1, meets_ok.mpr (h.1 o hq).2⟩

theorem observes_pool {q : Stmt B ρ} {R : ρ → Prop} (h : Meets (q.run B.initial s) (fun o => o.2 s = s ∧ R o.1) E)
    (hf : ∀ f, E (B.raise f)) (σ : B.Site) : (await σ (.pool q)).Observes may s l R E := by
  obtain ⟨he, hr⟩ := looks h
  rw [Observes, post_pool, he]
  exact ⟨⟨rfl, rfl, hr⟩, fun _ f => ⟨rfl, rfl, meets_error.mpr (hf f)⟩⟩

theorem observes_query {q : Stmt B ρ} {R : ρ → Prop} {rest : List (Session B)} {out : List B.Event}
    (h : Meets (q.run B.initial s) (fun o => o.2 s = s ∧ R o.1) E) (hf : ∀ f, E (B.raise f)) (σ : B.Site) :
    (query σ q).Observes may s ⟨.idle :: rest, out⟩ R E := by
  obtain ⟨he, hr⟩ := looks h
  rw [Observes, post_query_idle, he]
  exact ⟨⟨rfl, rfl, hr⟩, fun _ f => ⟨rfl, rfl, meets_error.mpr (hf f)⟩⟩

theorem observes_remote {r : B.Remote} {R : B.Reply r → Prop} (h : ∀ reply, R reply) (hf : ∀ f, E (B.raise f))
    (σ : B.Site) : (await σ (.remote r)).Observes may s l R E := by
  rw [Observes, post_remote]
  exact ⟨fun reply => ⟨rfl, rfl, meets_ok.mpr (h reply)⟩, fun _ f => ⟨rfl, rfl, meets_error.mpr (hf f)⟩⟩

end

/-! ### Parts of a transaction -/

/-- The transaction is open on the innermost client, with a store to commit that meets `R`;
an error meets `E` and leaves the client in any state. The committed store is as it was. -/
def inTransaction (c : B.Context) (s : B.Store) (rest : List (Session B)) (out : List B.Event)
    (R : α → B.Store → Prop) (E : B.Error → Prop) : Post B α
  | .ok a, s', l' => s' = s ∧ ∃ held pending, l' = ⟨.active c held pending :: rest, out⟩ ∧ R a (pending s)
  | .error e, s', l' => s' = s ∧ E e ∧ ∃ x, l' = ⟨x :: rest, out⟩

/-- A part of a transaction that starts with the store `t` to commit and ends in `R`. -/
def Transacts (may : B.Site → Prop) (p : Async B α) (c : B.Context) (s t : B.Store) (R : α → B.Store → Prop)
    (E : B.Error → Prop) : Prop :=
  ∀ held pending rest out, pending s = t →
    p.post may (inTransaction c s rest out R E) s ⟨.active c held pending :: rest, out⟩

section
variable {may : B.Site → Prop} {c : B.Context} {s t : B.Store} {E : B.Error → Prop}

theorem transacts_pure {R : α → B.Store → Prop} {a : α} (h : R a t) : (pure a : Async B α).Transacts may c s t R E :=
  fun held pending _ _ ht => ⟨rfl, held, pending, rfl, ht.symm ▸ h⟩

theorem transacts_throw {R : α → B.Store → Prop} {e : B.Error} (he : E e) :
    (throw e : Async B α).Transacts may c s t R E := fun _ _ _ _ _ => ⟨rfl, he, _, rfl⟩

theorem Transacts.mono {p : Async B α} {R R' : α → B.Store → Prop} (hp : p.Transacts may c s t R E)
    (h : ∀ a u, R a u → R' a u) : p.Transacts may c s t R' E := by
  intro held pending rest out ht
  refine post_mono (hp held pending rest out ht) fun r s' l' hr => ?_
  cases r with
  | error e => exact hr
  | ok a =>
    obtain ⟨hs, held', pending', hl, ha⟩ := hr
    exact ⟨hs, held', pending', hl, h _ _ ha⟩

/-- Fewer calls may fail. -/
theorem Transacts.fewer {may' : B.Site → Prop} {p : Async B α} {R : α → B.Store → Prop} (hp : p.Transacts may c s t R E)
    (h : ∀ σ, may' σ → may σ) : p.Transacts may' c s t R E := fun held pending rest out ht =>
  (post_iff may' p _ s _).mpr fun _ _ _ he => (he.mono h).sound (hp held pending rest out ht)

/-- Go on in the transaction. -/
theorem transacts_bind {p : Async B α} {f : α → Async B β} {R : α → B.Store → Prop} {R' : β → B.Store → Prop}
    (hp : p.Transacts may c s t R E) (hf : ∀ a u, R a u → (f a).Transacts may c s u R' E) :
    (p >>= f).Transacts may c s t R' E := by
  intro held pending rest out ht
  rw [post_bind]
  refine post_mono (hp held pending rest out ht) fun r s' l' hr => ?_
  cases r with
  | error e => exact hr
  | ok a =>
    obtain ⟨rfl, held', pending', rfl, ha⟩ := hr
    exact hf a _ ha held' pending' rest out rfl

/-- A statement decides its change from what it finds. -/
theorem transacts_query {q : Stmt B ρ} {R : ρ → B.Store → Prop} (h : Meets (q.run c t) (fun o => R o.1 (o.2 t)) E)
    (hf : ∀ f, E (B.raise f)) (σ : B.Site) :
    (query σ q).Transacts may c s t R E := by
  intro held pending rest out ht
  subst ht
  rw [post_query_active]
  refine ⟨?_, fun _ f => ⟨rfl, hf f, _, rfl⟩⟩
  cases hq : q.run c (pending s) with
  | error e =>
    rw [Stmt.reply_error hq]
    exact ⟨rfl, h.2 e hq, _, rfl⟩
  | ok o =>
    rw [Stmt.reply_ok hq]
    refine ⟨rfl, _, _, rfl, ?_⟩
    rw [Stmt.effect_ok hq]
    exact h.1 o hq

theorem Observes.transacts {p : Async B α} {R : α → B.Store → Prop} (h : ∀ l, p.Observes may s l (R · t) E) :
    p.Transacts may c s t R E := by
  intro held pending rest out ht
  refine post_mono (h _) fun r s' l' hr => ?_
  obtain ⟨rfl, rfl, hr⟩ := hr
  cases r with
  | error e => exact ⟨rfl, meets_error.mp hr, _, rfl⟩
  | ok a => exact ⟨rfl, held, pending, rfl, ht.symm ▸ hr.1 a rfl⟩

/-- What holds after a part of a transaction. -/
theorem Transacts.post {p : Async B α} {R : α → B.Store → Prop} {Q : Post B α} {held : List B.Lock}
    {pending : B.Store → B.Store} {rest : List (Session B)} {out : List B.Event} (hp : p.Transacts may c s t R E)
    (ht : pending s = t) (herror : ∀ e x, E e → Q (.error e) s ⟨x :: rest, out⟩)
    (hok : ∀ a held' pending', R a (pending' s) → Q (.ok a) s ⟨.active c held' pending' :: rest, out⟩) :
    p.post may Q s ⟨.active c held pending :: rest, out⟩ := by
  refine post_mono (hp held pending rest out ht) fun r s' l' hr => ?_
  cases r with
  | error e =>
    obtain ⟨rfl, he, x, rfl⟩ := hr
    exact herror e x he
  | ok a =>
    obtain ⟨rfl, held', pending', rfl, ha⟩ := hr
    exact hok a held' pending' ha

/-- An error of a client's work is rolled back; where ROLLBACK fails, its error is raised. -/
theorem caught_rollback {σ : B.Site} {Q : Post B α} {rest : List (Session B)} {out : List B.Event}
    (hf : ∀ f, Q (.error (B.raise f)) s ⟨.idle :: rest, out⟩) {e : B.Error} (h : Q (.error e) s ⟨.idle :: rest, out⟩)
    (x : Session B) : caught may (fun e => do await σ .rollback; .raise e) Q (.error e) s ⟨x :: rest, out⟩ := by
  rw [caught_error, post_bind, post_rollback]
  exact ⟨h, fun _ f => hf f⟩

/-- A transaction on a client of its own, and what is done once it is committed. -/
theorem Transacts.committed_then {p : Async B α} {k : α → Async B β} {R : α → B.Store → Prop} {Q : Post B β} {l : Local B}
    (hp : p.Transacts may B.initial s s R E) (hf : ∀ f, E (B.raise f)) (herror : ∀ e, E e → Q (.error e) s l)
    {σ₁ σ₂ σ₃ σ₄ : B.Site}
    (hok : ∀ a u, R a u → (k a).post may (caught may (fun e => do await σ₂ .rollback; .raise e)
      fun r s' l' => Q r s' ⟨l'.sessions.tail, l'.out⟩) u ⟨.idle :: l.sessions, l.out⟩) :
    (withClient σ₁ <| orRollback σ₂ do
      await σ₃ .begin
      let a ← p
      await σ₄ .commit
      k a).post may Q s l := by
  rw [post_withClient]
  refine ⟨?_, fun _ f => herror _ (hf f)⟩
  rw [post_orRollback, post_bind, post_begin]
  refine ⟨?_, fun _ f => caught_rollback (fun f => herror _ (hf f)) (herror _ (hf f)) _⟩
  rw [next_ok, post_bind]
  refine hp.post rfl (fun e x he => caught_rollback (fun f => herror _ (hf f)) (herror e he) x) fun a held' pending' ha => ?_
  rw [next_ok, post_bind, post_commit]
  exact ⟨hok a _ ha, fun _ f => caught_rollback (fun f => herror _ (hf f)) (herror _ (hf f)) _⟩

/-- A transaction on a client of its own: it is committed whole, or leaves everything as it was. -/
theorem Transacts.committed {p : Async B α} {R : α → B.Store → Prop} {Q : Post B α} {l : Local B}
    (hp : p.Transacts may B.initial s s R E) (hf : ∀ f, E (B.raise f)) (herror : ∀ e, E e → Q (.error e) s l)
    (hok : ∀ a u, R a u → Q (.ok a) u l) (σ₁ σ₂ σ₃ σ₄ : B.Site) :
    (withClient σ₁ <| orRollback σ₂ do
      await σ₃ .begin
      let a ← p
      await σ₄ .commit
      pure a).post may Q s l :=
  hp.committed_then hf herror fun a u ha => hok a u ha

end
end Async
end GalaxiaAin.Library
