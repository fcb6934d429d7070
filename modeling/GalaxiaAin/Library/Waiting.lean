import GalaxiaAin.Library.Execution

/-! A handler that waits for itself. A statement on one client that wants a lock of another
client of the same handler is never served: the transaction that has the lock waits for the
statement. -/
namespace GalaxiaAin.Library

variable {B : Backend} {α β ρ : Type}

namespace Call

/-- The locks of the clients that the call does not run on. -/
def others : Call B ρ → Local B → List B.Lock
  | .pool _, l => l.locks
  | _, l => l.sessions.tail.flatMap Session.locks

/-- The call waits for a lock of another client of its handler. -/
def Waits (c : Call B ρ) (s : B.Store) (l : Local B) : Prop := ∃ x ∈ c.wants s l, x ∈ c.others l

/-- A handler with one client waits for no one. -/
theorem query_not_waits (q : Stmt B ρ) (s : B.Store) (x : Session B) (out : List B.Event) :
    ¬ (Call.query q).Waits s ⟨[x], out⟩ := fun ⟨_, _, h⟩ => List.not_mem_nil h

end Call

namespace Async

/-- Every execution ends in the postcondition, and none waits for its own handler. -/
def flows (may : B.Site → Prop) : Async B α → Post B α → B.Store → Local B → Prop
  | .ret a, Q, s, l => Q (.ok a) s l
  | .raise e, Q, s, l => Q (.error e) s l
  | .sync c k, Q, s, l => (k (c.exec l).1).flows may Q s (c.exec l).2
  | .call σ c k, Q, s, l => ¬ c.Waits s l ∧ ∀ a : Answer B, (a.Faulty → may σ) →
      (k (c.exec a s l).1).flows may Q (c.exec a s l).2.1 (c.exec a s l).2.2

/-- The postcondition of the first of two programs in sequence. -/
def nextFlows (may : B.Site → Prop) (f : α → Async B β) (Q : Post B β) : Post B α
  | .ok a => (f a).flows may Q
  | .error e => Q (.error e)

/-- The postcondition of a program under a handler. -/
def caughtFlows (may : B.Site → Prop) (h : B.Error → Async B α) (Q : Post B α) : Post B α
  | .ok a => Q (.ok a)
  | .error e => (h e).flows may Q

section Rules
variable {may : B.Site → Prop} {s : B.Store} {l : Local B}

theorem flows.post {p : Async B α} {Q : Post B α} (h : p.flows may Q s l) : p.post may Q s l := by
  induction p generalizing s l with
  | ret a => exact h
  | raise e => exact h
  | sync c k ih => exact ih _ h
  | call σ c k ih => exact fun a ha => ih _ (h.2 a ha)

theorem flows_mono {p : Async B α} {Q Q' : Post B α} (h : p.flows may Q s l) (hq : ∀ r s' l', Q r s' l' → Q' r s' l') :
    p.flows may Q' s l := by
  induction p generalizing s l with
  | ret a => exact hq _ _ _ h
  | raise e => exact hq _ _ _ h
  | sync c k ih => exact ih _ h
  | call σ c k ih => exact ⟨h.1, fun a ha => ih _ (h.2 a ha)⟩

theorem flows_weaken {may' : B.Site → Prop} (hm : ∀ σ, may' σ → may σ) {p : Async B α} {Q : Post B α} (h : p.flows may Q s l) :
    p.flows may' Q s l := by
  induction p generalizing s l with
  | ret a => exact h
  | raise e => exact h
  | sync c k ih => exact ih _ h
  | call σ c k ih => exact ⟨h.1, fun a ha => ih _ (h.2 a fun hf => hm _ (ha hf))⟩

theorem flows_bind (p : Async B α) (f : α → Async B β) (Q : Post B β) :
    (p >>= f).flows may Q s l ↔ p.flows may (nextFlows may f Q) s l := by
  change (p.bind f).flows may Q s l ↔ _
  induction p generalizing s l with
  | ret a => rfl
  | raise e => rfl
  | sync c k ih => exact ih _
  | call σ c k ih => exact and_congr_right' (forall_congr' fun a => imp_congr_right fun _ => ih _)

theorem flows_handle (p : Async B α) (h : B.Error → Async B α) (Q : Post B α) :
    (p.handle h).flows may Q s l ↔ p.flows may (caughtFlows may h Q) s l := by
  induction p generalizing s l with
  | ret a => rfl
  | raise e => rfl
  | sync c k ih => exact ih _
  | call σ c k ih => exact and_congr_right' (forall_congr' fun a => imp_congr_right fun _ => ih _)

theorem flows_orRollback (σ : B.Site) (p : Async B α) (Q : Post B α) :
    (p.orRollback σ).flows may Q s l ↔ p.flows may (caughtFlows may (fun e => do await σ .rollback; .raise e) Q) s l :=
  flows_handle p _ Q

theorem flows_ofExcept (r : Except B.Error α) (Q : Post B α) : (ofExcept r).flows may Q s l ↔ Q r s l := by cases r <;> rfl

/-- A call that does not wait is as any other. -/
theorem flows_await (σ : B.Site) (c : Call B ρ) (Q : Post B ρ) :
    (await σ c).flows may Q s l ↔ ¬ c.Waits s l ∧ (await σ c).post may Q s l := by
  refine and_congr_right' (forall_congr' fun a => imp_congr_right fun _ => ?_)
  rw [flows_ofExcept, post_ofExcept]

/-- Other calls than statements want no locks. -/
theorem flows_call {σ : B.Site} {c : Call B ρ} {Q : Post B ρ} (hc : c.wants s l = []) :
    (await σ c).flows may Q s l ↔ (await σ c).post may Q s l := by
  rw [flows_await]
  refine and_iff_right ?_
  rintro ⟨x, hx, -⟩
  rw [hc] at hx
  exact List.not_mem_nil hx

/-- A statement of a handler with one client. -/
theorem flows_query_single (σ : B.Site) (q : Stmt B ρ) (Q : Post B ρ) (x : Session B) (out : List B.Event) :
    (query σ q).flows may Q s ⟨[x], out⟩ ↔ (query σ q).post may Q s ⟨[x], out⟩ := by
  rw [query, flows_await]
  exact and_iff_right (Call.query_not_waits q s x out)

theorem flows_attempt (p : Async B α) (Q : Post B (Except B.Error α)) :
    p.attempt.flows may Q s l ↔ p.flows may (fun r => Q (.ok r)) s l := by
  rw [attempt, flows_handle, flows_bind]
  have hpost : nextFlows may (fun a => pure (.ok a)) (caughtFlows may (fun e => pure (.error e)) Q) =
      fun r : Except B.Error α => Q (.ok r) := by
    funext r
    cases r <;> rfl
  rw [hpost]

theorem flows_withClient (σ : B.Site) (p : Async B α) (Q : Post B α) :
    (p.withClient σ).flows may Q s l ↔
      p.flows may (fun r s' l' => Q r s' ⟨l'.sessions.tail, l'.out⟩) s ⟨.idle :: l.sessions, l.out⟩ ∧
      (may σ → ∀ f, Q (.error (B.raise f)) s l) := by
  have hrelease : nextFlows may (fun r => do Async.sync .release ofExcept; ofExcept r) Q =
      fun (r : Except B.Error (Except B.Error α)) s' l' => match r with
        | .ok r => Q r s' ⟨l'.sessions.tail, l'.out⟩
        | .error e => Q (.error e) s' l' := by
    funext r s' l'
    cases r with
    | ok r => exact propext (flows_ofExcept r Q)
    | error e => rfl
  rw [withClient, flows_bind, flows_call rfl, post_connect]
  refine and_congr_left' ?_
  change (p.releasing).flows may Q s _ ↔ _
  rw [releasing, flows_bind, hrelease, flows_attempt]

/-- An error is rolled back; where ROLLBACK fails, its error is raised. -/
theorem caughtFlows_rollback {σ : B.Site} {Q : Post B α} {e : B.Error} {x : Session B} {rest : List (Session B)} {out : List B.Event} :
    caughtFlows may (fun e => do await σ .rollback; .raise e) Q (.error e) s ⟨x :: rest, out⟩ ↔
      Q (.error e) s ⟨.idle :: rest, out⟩ ∧ (may σ → ∀ f, Q (.error (B.raise f)) s ⟨.idle :: rest, out⟩) := by
  change (await σ .rollback >>= fun _ => .raise e).flows may Q s _ ↔ _
  rw [flows_bind, flows_call rfl, post_rollback]
  rfl

end Rules
end Async
end GalaxiaAin.Library
