import GalaxiaAin.Library.Transaction

/-! What some execution does: the angelic counterpart of `post`. The environment may be held
to answers of a kind; a program that can end somewhere disproves what is said of every
execution. -/
namespace GalaxiaAin.Library

variable {B : Backend} {α β ρ : Type}

namespace Async

/-- Every execution with such answers ends in the postcondition. -/
def must (allowed : B.Site → Answer B → Prop) : Async B α → Post B α → B.Store → Local B → Prop
  | .ret a, Q, s, l => Q (.ok a) s l
  | .raise e, Q, s, l => Q (.error e) s l
  | .sync c k, Q, s, l => (k (c.exec l).1).must allowed Q s (c.exec l).2
  | .call σ c k, Q, s, l => ∀ a, allowed σ a → (k (c.exec a s l).1).must allowed Q (c.exec a s l).2.1 (c.exec a s l).2.2

/-- Some execution with such answers ends in the postcondition. -/
def can (allowed : B.Site → Answer B → Prop) : Async B α → Post B α → B.Store → Local B → Prop
  | .ret a, Q, s, l => Q (.ok a) s l
  | .raise e, Q, s, l => Q (.error e) s l
  | .sync c k, Q, s, l => (k (c.exec l).1).can allowed Q s (c.exec l).2
  | .call σ c k, Q, s, l => ∃ a, allowed σ a ∧ (k (c.exec a s l).1).can allowed Q (c.exec a s l).2.1 (c.exec a s l).2.2

section Rules
variable {allowed : B.Site → Answer B → Prop} {s : B.Store} {l : Local B}

/-- What holds of every execution holds of those with such answers. -/
theorem must_of_post {p : Async B α} {Q : Post B α} (h : p.post (fun _ => True) Q s l) : p.must allowed Q s l := by
  induction p generalizing s l with
  | ret a => exact h
  | raise e => exact h
  | sync c k ih => exact ih _ h
  | call σ c k ih => exact fun a _ => ih _ (h a fun _ => trivial)

/-- An execution that is possible is one of those that must meet their postcondition. -/
theorem can_must {p : Async B α} {Q Q' : Post B α} (h : p.can allowed Q s l) (h' : p.must allowed Q' s l) :
    p.can allowed (fun r s' l' => Q r s' l' ∧ Q' r s' l') s l := by
  induction p generalizing s l with
  | ret a => exact ⟨h, h'⟩
  | raise e => exact ⟨h, h'⟩
  | sync c k ih => exact ih _ h h'
  | call σ c k ih =>
    obtain ⟨a, ha, hk⟩ := h
    exact ⟨a, ha, ih _ hk (h' a ha)⟩

theorem can_mono {p : Async B α} {Q Q' : Post B α} (h : p.can allowed Q s l) (hq : ∀ r s' l', Q r s' l' → Q' r s' l') :
    p.can allowed Q' s l := by
  induction p generalizing s l with
  | ret a => exact hq _ _ _ h
  | raise e => exact hq _ _ _ h
  | sync c k ih => exact ih _ h
  | call σ c k ih =>
    obtain ⟨a, ha, hk⟩ := h
    exact ⟨a, ha, ih _ hk⟩

/-- What some execution meets is met by it. -/
theorem can_exists {p : Async B α} {P : Prop} (h : p.can allowed (fun _ _ _ => P) s l) : P := by
  induction p generalizing s l with
  | ret a => exact h
  | raise e => exact h
  | sync c k ih => exact ih _ h
  | call σ c k ih =>
    obtain ⟨a, -, hk⟩ := h
    exact ih _ hk

/-- What holds of the executions in which certain calls may fail. -/
theorem must_of_post_may {may : B.Site → Prop} {p : Async B α} {Q : Post B α} (h : p.post may Q s l) :
    p.must (fun σ a => a.Faulty → may σ) Q s l := by
  induction p generalizing s l with
  | ret a => exact h
  | raise e => exact h
  | sync c k ih => exact ih _ h
  | call σ c k ih => exact fun a ha => ih _ (h a ha)

/-- A possible execution breaks what is said of every one. -/
theorem can_not_must {p : Async B α} {Q : Post B α} (h : p.can allowed (fun r s' l' => ¬ Q r s' l') s l) : ¬ p.must allowed Q s l :=
  fun hmust => can_exists (can_mono (can_must h hmust) fun _ _ _ hr => hr.1 hr.2)

/-- Where every call has an answer, there is an execution. -/
theorem can_of_post {p : Async B α} {Q : Post B α} (hserved : ∀ σ, ∃ a, allowed σ a) (h : p.post (fun _ => True) Q s l) :
    p.can allowed Q s l := by
  induction p generalizing s l with
  | ret a => exact h
  | raise e => exact h
  | sync c k ih => exact ih _ h
  | call σ c k ih =>
    obtain ⟨a, ha⟩ := hserved σ
    exact ⟨a, ha, ih _ (h a fun _ => trivial)⟩

/-- The postcondition of the first of two programs in sequence. -/
def nextCan (allowed : B.Site → Answer B → Prop) (f : α → Async B β) (Q : Post B β) : Post B α
  | .ok a => (f a).can allowed Q
  | .error e => Q (.error e)

/-- The postcondition of a program under a handler. -/
def caughtCan (allowed : B.Site → Answer B → Prop) (h : B.Error → Async B α) (Q : Post B α) : Post B α
  | .ok a => Q (.ok a)
  | .error e => (h e).can allowed Q

theorem can_bind (p : Async B α) (f : α → Async B β) (Q : Post B β) :
    (p >>= f).can allowed Q s l ↔ p.can allowed (nextCan allowed f Q) s l := by
  change (p.bind f).can allowed Q s l ↔ _
  induction p generalizing s l with
  | ret a => rfl
  | raise e => rfl
  | sync c k ih => exact ih _
  | call σ c k ih => exact exists_congr fun a => and_congr_right fun _ => ih _

theorem can_handle (p : Async B α) (h : B.Error → Async B α) (Q : Post B α) :
    (p.handle h).can allowed Q s l ↔ p.can allowed (caughtCan allowed h Q) s l := by
  induction p generalizing s l with
  | ret a => rfl
  | raise e => rfl
  | sync c k ih => exact ih _
  | call σ c k ih => exact exists_congr fun a => and_congr_right fun _ => ih _

theorem can_ofExcept (r : Except B.Error α) (Q : Post B α) : (ofExcept r).can allowed Q s l ↔ Q r s l := by cases r <;> rfl

theorem can_await {σ : B.Site} {c : Call B ρ} {Q : Post B ρ} {a : Answer B} (ha : allowed σ a)
    (h : Q (c.exec a s l).1 (c.exec a s l).2.1 (c.exec a s l).2.2) : (await σ c).can allowed Q s l :=
  ⟨a, ha, (can_ofExcept _ _).mpr h⟩

theorem can_attempt (p : Async B α) (Q : Post B (Except B.Error α)) :
    p.attempt.can allowed Q s l ↔ p.can allowed (fun r => Q (.ok r)) s l := by
  rw [attempt, can_handle, can_bind]
  have hpost : nextCan allowed (fun a => pure (.ok a)) (caughtCan allowed (fun e => pure (.error e)) Q) =
      fun r : Except B.Error α => Q (.ok r) := by
    funext r
    cases r <;> rfl
  rw [hpost]

/-- The client is released whatever the body's outcome. -/
theorem can_withClient {σ : B.Site} {p : Async B α} {Q : Post B α} {reply : ∀ r, B.Reply r} (ha : allowed σ (.done reply))
    (h : p.can allowed (fun r s' l' => Q r s' ⟨l'.sessions.tail, l'.out⟩) s ⟨.idle :: l.sessions, l.out⟩) :
    (p.withClient σ).can allowed Q s l := by
  rw [withClient, can_bind]
  refine can_await ha ?_
  change (p.releasing).can allowed Q s _
  rw [releasing, can_bind, can_attempt]
  refine can_mono h fun r s' l' hr => ?_
  change (ofExcept r).can allowed Q s' _
  exact (can_ofExcept _ _).mpr hr

/-- A call that fails. -/
theorem can_fault {σ : B.Site} {c : Call B ρ} {Q : Post B ρ} {f : B.Fault} (ha : allowed σ (.fault f))
    (h : Q (.error (B.raise f)) s (c.failed l)) : (await σ c).can allowed Q s l := can_await ha h

section Transactions
variable {rest : List (Session B)} {out : List B.Event} {c : B.Context} {held : List B.Lock} {pending : B.Store → B.Store}
  {σ : B.Site} {reply : ∀ r, B.Reply r}

theorem can_query_active {q : Stmt B ρ} {Q : Post B ρ} {r : ρ} {w : B.Store → B.Store} (ha : allowed σ (.done reply))
    (hrun : q.run c (pending s) = .ok (r, w))
    (h : Q (.ok r) s ⟨.active c (q.locks c (pending s) ++ held) (fun t => w (pending t)) :: rest, out⟩) :
    (query σ q).can allowed Q s ⟨.active c held pending :: rest, out⟩ := by
  refine can_await ha ?_
  simp only [Call.exec, Call.serve, Local.top_cons, Local.setTop_cons, Session.query, Stmt.reply_ok hrun, Stmt.effect_ok hrun]
  exact h

theorem can_pool {q : Stmt B ρ} {Q : Post B ρ} {r : ρ} {w : B.Store → B.Store} (ha : allowed σ (.done reply))
    (hrun : q.run B.initial s = .ok (r, w)) (h : Q (.ok r) (w s) l) : (await σ (.pool q)).can allowed Q s l := by
  refine can_await ha ?_
  simp only [Call.exec, Call.serve, Stmt.reply_ok hrun, Stmt.effect_ok hrun]
  exact h

end Transactions

end Rules

/-! ### Parts of a transaction -/

/-- A part of a transaction that can end well, from the store `t` to commit, and then meets `R`. -/
def Reaches (allowed : B.Site → Answer B → Prop) (p : Async B α) (c : B.Context) (s t : B.Store) (R : α → B.Store → Prop) : Prop :=
  ∀ held pending rest out, pending s = t →
    p.can allowed (inTransaction c s rest out R fun _ => False) s ⟨.active c held pending :: rest, out⟩

section
variable {allowed : B.Site → Answer B → Prop} {c : B.Context} {s t : B.Store}

theorem Reaches.mono {p : Async B α} {R R' : α → B.Store → Prop} (hp : p.Reaches allowed c s t R)
    (h : ∀ a u, R a u → R' a u) : p.Reaches allowed c s t R' := by
  intro held pending rest out ht
  refine can_mono (hp held pending rest out ht) fun r s' l' hr => ?_
  cases r with
  | error e => exact hr
  | ok a =>
    obtain ⟨hs, held', pending', hl, ha⟩ := hr
    exact ⟨hs, held', pending', hl, h _ _ ha⟩

theorem reaches_bind {p : Async B α} {f : α → Async B β} {R : α → B.Store → Prop} {R' : β → B.Store → Prop}
    (hp : p.Reaches allowed c s t R) (hf : ∀ a u, R a u → (f a).Reaches allowed c s u R') : (p >>= f).Reaches allowed c s t R' := by
  intro held pending rest out ht
  rw [can_bind]
  refine can_mono (hp held pending rest out ht) fun r s' l' hr => ?_
  cases r with
  | error e => exact hr.2.1.elim
  | ok a =>
    obtain ⟨rfl, held', pending', rfl, ha⟩ := hr
    exact hf a _ ha held' pending' rest out rfl

theorem reaches_query {q : Stmt B ρ} {σ : B.Site} {r : ρ} {w : B.Store → B.Store} {R : ρ → B.Store → Prop}
    (hserved : ∃ reply, allowed σ (.done reply)) (hrun : q.run c t = .ok (r, w)) (h : R r (w t)) :
    (query σ q).Reaches allowed c s t R := by
  rintro held pending rest out rfl
  obtain ⟨reply, ha⟩ := hserved
  exact can_query_active ha hrun ⟨rfl, _, _, rfl, h⟩

theorem reaches_pure {R : α → B.Store → Prop} {a : α} (h : R a t) : (pure a : Async B α).Reaches allowed c s t R :=
  fun held pending _ _ ht => ⟨rfl, held, pending, rfl, ht.symm ▸ h⟩

/-- A read of the committed store. -/
theorem reaches_select {f : B.Context → B.Store → ρ} {σ : B.Site} {R : ρ → B.Store → Prop}
    (hserved : ∃ reply, allowed σ (.done reply)) (h : R (f B.initial s) t) :
    (await σ (.pool (.select f))).Reaches allowed c s t R := by
  rintro held pending rest out rfl
  obtain ⟨reply, ha⟩ := hserved
  exact can_pool ha rfl ⟨rfl, held, pending, rfl, h⟩

theorem reaches_onlyIf {condition : Prop} [Decidable condition] {p : Async B Unit} {R : Unit → B.Store → Prop}
    (hnot : ¬ condition) (h : R () t) : (onlyIf condition p).Reaches allowed c s t R := by
  rw [onlyIf, if_neg hnot]
  exact reaches_pure h

/-- A part that never fails. -/
theorem Transacts.reaches {p : Async B α} {R : α → B.Store → Prop} (hserved : ∀ σ, ∃ a, allowed σ a)
    (h : p.Transacts (fun _ => True) c s t R fun _ => False) : p.Reaches allowed c s t R :=
  fun held pending rest out ht => can_of_post hserved (h held pending rest out ht)

/-- What can happen after a part of a transaction. -/
theorem Reaches.can {p : Async B α} {R : α → B.Store → Prop} {Q : Post B α} {held : List B.Lock} {pending : B.Store → B.Store}
    {rest : List (Session B)} {out : List B.Event} (hp : p.Reaches allowed c s t R) (ht : pending s = t)
    (hok : ∀ a held' pending', R a (pending' s) → Q (.ok a) s ⟨.active c held' pending' :: rest, out⟩) :
    p.can allowed Q s ⟨.active c held pending :: rest, out⟩ := by
  refine can_mono (hp held pending rest out ht) fun r s' l' hr => ?_
  cases r with
  | error e => exact hr.2.1.elim
  | ok a =>
    obtain ⟨rfl, held', pending', rfl, ha⟩ := hr
    exact hok a held' pending' ha

/-- A transaction on a client of its own can be committed, and what can happen then. -/
theorem Reaches.committed_then {p : Async B α} {k : α → Async B β} {R : α → B.Store → Prop} {Q : Post B β} {l : Local B}
    {σ₁ σ₂ σ₃ σ₄ : B.Site} (hp : p.Reaches allowed B.initial s s R) (h₁ : ∃ reply, allowed σ₁ (.done reply))
    (h₃ : ∃ reply, allowed σ₃ (.done reply)) (h₄ : ∃ reply, allowed σ₄ (.done reply))
    (hok : ∀ a u, R a u → (k a).can allowed (caughtCan allowed (fun e => do await σ₂ .rollback; .raise e)
      fun r s' l' => Q r s' ⟨l'.sessions.tail, l'.out⟩) u ⟨.idle :: l.sessions, l.out⟩) :
    (withClient σ₁ <| orRollback σ₂ do
      await σ₃ .begin
      let a ← p
      await σ₄ .commit
      k a).can allowed Q s l := by
  obtain ⟨_, h₁⟩ := h₁
  obtain ⟨_, h₃⟩ := h₃
  obtain ⟨_, h₄⟩ := h₄
  refine can_withClient h₁ ?_
  rw [orRollback, can_handle, can_bind]
  refine can_await h₃ ?_
  change (p >>= fun a => await σ₄ .commit >>= fun _ => k a).can allowed _ s ⟨.active B.initial [] id :: l.sessions, l.out⟩
  rw [can_bind]
  refine hp.can rfl fun a held pending ha => ?_
  change (await σ₄ .commit >>= fun _ => k a).can allowed _ s ⟨.active B.initial held pending :: l.sessions, l.out⟩
  rw [can_bind]
  exact can_await h₄ (hok a _ ha)

end

/-! ### Programs that can fail at once -/

/-- The first call can fail, and has changed nothing. -/
def Fails (allowed : B.Site → Answer B → Prop) (p : Async B α) : Prop :=
  ∀ s l, p.can allowed (fun r t _ => (∃ e, r = .error e) ∧ t = s) s l

section
variable {allowed : B.Site → Answer B → Prop} {s : B.Store} {l : Local B} {σ : B.Site}

theorem fails_await {c : Call B ρ} (hfault : ∃ f, allowed σ (.fault f)) : (await σ c).Fails allowed := by
  intro s l
  obtain ⟨f, hf⟩ := hfault
  exact can_fault hf ⟨⟨_, rfl⟩, rfl⟩

theorem fails_bind {p : Async B α} {f : α → Async B β} (hp : p.Fails allowed) : (p >>= f).Fails allowed := by
  intro s l
  rw [can_bind]
  refine can_mono (hp s l) fun r t l' h => ?_
  obtain ⟨⟨e, rfl⟩, rfl⟩ := h
  exact ⟨⟨e, rfl⟩, rfl⟩

theorem fails_withClient {p : Async B α} (hfault : ∃ f, allowed σ (.fault f)) : (p.withClient σ).Fails allowed :=
  fails_bind (fails_await hfault)

/-- A property that a program can bring about, and the next one can keep. -/
theorem can_bind_keeps {p : Async B α} {f : α → Async B β} {P : B.Store → Prop} (hp : p.can allowed (fun _ t _ => P t) s l)
    (hf : ∀ a t l', P t → (f a).can allowed (fun _ u _ => P u) t l') : (p >>= f).can allowed (fun _ u _ => P u) s l := by
  rw [can_bind]
  refine can_mono hp fun r t l' h => ?_
  cases r with
  | error e => exact h
  | ok a => exact hf a t l' h

/-- A rollback that fails as well leaves the error an error. -/
theorem can_orRollback {p : Async B α} {O : Option α → B.Store → Prop} (hfault : ∃ f, allowed σ (.fault f))
    (hp : p.can allowed (fun r t _ => O r.toOption t) s l) : (p.orRollback σ).can allowed (fun r t _ => O r.toOption t) s l := by
  rw [orRollback, can_handle]
  refine can_mono hp fun r t l' h => ?_
  cases r with
  | ok a => exact h
  | error e =>
    obtain ⟨f, hf⟩ := hfault
    change (await σ .rollback >>= fun _ => Async.raise e).can allowed _ t l'
    rw [can_bind]
    exact can_fault hf h

end
end Async
end GalaxiaAin.Library
