import GalaxiaAin.Library.Async

/-! Executions of one program by itself. `Exec` lets every call be served or
failed, `post` is its weakest precondition, and `run` follows a given script. -/
namespace GalaxiaAin.Library

variable {B : Backend} {α β ρ : Type}

/-- What holds of the outcome, the store and the handler's own state. -/
abbrev Post (B : Backend) (α : Type) := Except B.Error α → B.Store → Local B → Prop

namespace Async

/-- The executions in which only calls at the sites of `may` are failed. -/
inductive Exec (may : B.Site → Prop) : Async B α → B.Store → Local B → Except B.Error α →
    B.Store → Local B → Prop
  | ret (a : α) (s : B.Store) (l : Local B) : Exec may (.ret a) s l (.ok a) s l
  | raise (e : B.Error) (s : B.Store) (l : Local B) : Exec may (.raise e) s l (.error e) s l
  | sync {c : Sync B} {k : Except B.Error Unit → Async B α} {s s' : B.Store} {l l' : Local B}
      {r : Except B.Error α} (h : Exec may (k (c.exec l).1) s (c.exec l).2 r s' l') :
      Exec may (.sync c k) s l r s' l'
  | call {ρ : Type} {σ : B.Site} {c : Call B ρ} {k : Except B.Error ρ → Async B α} {s s' : B.Store}
      {l l' : Local B} {r : Except B.Error α} (a : Answer B) (ha : a.Faulty → may σ)
      (h : Exec may (k (c.exec a s l).1) (c.exec a s l).2.1 (c.exec a s l).2.2 r s' l') :
      Exec may (.call σ c k) s l r s' l'

/-- Every execution ends in the postcondition. -/
def post (may : B.Site → Prop) : Async B α → Post B α → B.Store → Local B → Prop
  | .ret a, Q, s, l => Q (.ok a) s l
  | .raise e, Q, s, l => Q (.error e) s l
  | .sync c k, Q, s, l => (k (c.exec l).1).post may Q s (c.exec l).2
  | .call σ c k, Q, s, l => ∀ a : Answer B, (a.Faulty → may σ) →
      (k (c.exec a s l).1).post may Q (c.exec a s l).2.1 (c.exec a s l).2.2

/-- The postcondition of the first of two programs in sequence. -/
def next (may : B.Site → Prop) (f : α → Async B β) (Q : Post B β) : Post B α
  | .ok a => (f a).post may Q
  | .error e => Q (.error e)

/-- The postcondition of a program under a handler. -/
def caught (may : B.Site → Prop) (h : B.Error → Async B α) (Q : Post B α) : Post B α
  | .ok a => Q (.ok a)
  | .error e => (h e).post may Q

/-- Follow a script of answers; past its end every call is served. -/
def run : Async B α → List (Answer B) → B.Store → Local B → Except B.Error α × B.Store × Local B
  | .ret a, _, s, l => (.ok a, s, l)
  | .raise e, _, s, l => (.error e, s, l)
  | .sync c k, script, s, l => (k (c.exec l).1).run script s (c.exec l).2
  | .call _ c k, script, s, l =>
    let o := c.exec (script.headD (.done B.usual)) s l
    (k o.1).run script.tail o.2.1 o.2.2

theorem post_iff (may : B.Site → Prop) (p : Async B α) (Q : Post B α) (s : B.Store) (l : Local B) :
    p.post may Q s l ↔ ∀ r s' l', Exec may p s l r s' l' → Q r s' l' := by
  induction p generalizing s l with
  | ret a => exact ⟨fun h _ _ _ he => by cases he; exact h, fun h => h _ _ _ (.ret a s l)⟩
  | raise e => exact ⟨fun h _ _ _ he => by cases he; exact h, fun h => h _ _ _ (.raise e s l)⟩
  | sync c k ih =>
    constructor
    · intro h r s' l' he
      cases he with
      | sync he => exact (ih _ _ _).mp h r s' l' he
    · exact fun h => (ih _ _ _).mpr fun r s' l' he => h r s' l' (.sync he)
  | call σ c k ih =>
    constructor
    · intro h r s' l' he
      cases he with
      | call a ha he => exact (ih _ _ _).mp (h a ha) r s' l' he
    · exact fun h a ha => (ih _ _ _).mpr fun r s' l' he => h r s' l' (.call a ha he)

/-- A proved postcondition holds of each execution. -/
theorem Exec.sound {may : B.Site → Prop} {p : Async B α} {Q : Post B α} {s s' : B.Store} {l l' : Local B}
    {r : Except B.Error α} (he : Exec may p s l r s' l') (h : p.post may Q s l) : Q r s' l' :=
  (post_iff may p Q s l).mp h r s' l' he

theorem Exec.mono {may may' : B.Site → Prop} (hm : ∀ σ, may σ → may' σ) {p : Async B α} {s s' : B.Store}
    {l l' : Local B} {r : Except B.Error α} (he : Exec may p s l r s' l') : Exec may' p s l r s' l' := by
  induction he with
  | ret a s l => exact .ret a s l
  | raise e s l => exact .raise e s l
  | sync _ ih => exact .sync ih
  | call a ha _ ih => exact .call a (fun hf => hm _ (ha hf)) ih

/-- A script whose answers are all served is an execution under any policy. -/
theorem exec_run (may : B.Site → Prop) (p : Async B α) (script : List (Answer B)) (s : B.Store) (l : Local B)
    (h : ∀ a ∈ script, a.Faulty → ∀ σ, may σ) :
    Exec may p s l (p.run script s l).1 (p.run script s l).2.1 (p.run script s l).2.2 := by
  induction p generalizing script s l with
  | ret a => exact .ret a s l
  | raise e => exact .raise e s l
  | sync c k ih => exact .sync (ih _ script s _ h)
  | call σ c k ih =>
    refine .call (script.headD (.done B.usual)) ?_ (ih _ script.tail _ _ fun a ha => h a (List.mem_of_mem_tail ha))
    cases script with
    | nil => exact False.elim
    | cons a rest => exact fun hf => h a List.mem_cons_self hf σ

/-- The run in which every call is served. -/
theorem exec_nil (may : B.Site → Prop) (p : Async B α) (s : B.Store) (l : Local B) :
    Exec may p s l (p.run [] s l).1 (p.run [] s l).2.1 (p.run [] s l).2.2 :=
  exec_run may p [] s l fun _ h => (nomatch h)

/-- With every call served, a sequence runs its parts one after the other. -/
theorem run_bind_nil (p : Async B α) (f : α → Async B β) (s : B.Store) (l : Local B) :
    (p >>= f).run [] s l = match p.run [] s l with
      | (.ok a, s', l') => (f a).run [] s' l'
      | (.error e, s', l') => (.error e, s', l') := by
  change (p.bind f).run [] s l = _
  induction p generalizing s l with
  | ret a => rfl
  | raise e => rfl
  | sync c k ih => exact ih _ _ _
  | call σ c k ih => exact ih _ _ _

theorem run_handle_nil (p : Async B α) (h : B.Error → Async B α) (s : B.Store) (l : Local B) :
    (p.handle h).run [] s l = match p.run [] s l with
      | (.ok a, s', l') => (.ok a, s', l')
      | (.error e, s', l') => (h e).run [] s' l' := by
  induction p generalizing s l with
  | ret a => rfl
  | raise e => rfl
  | sync c k ih => exact ih _ _ _
  | call σ c k ih => exact ih _ _ _

/-- A postcondition of the executions holds of the served run. -/
theorem post_served {may : B.Site → Prop} {p : Async B α} {Q : Post B α} {s : B.Store} {l : Local B}
    (h : p.post may Q s l) : Q (p.run [] s l).1 (p.run [] s l).2.1 (p.run [] s l).2.2 := (exec_nil may p s l).sound h

theorem run_nil_post {p : Async B α} {Q : Post B α} {s : B.Store} {l : Local B}
    (h : p.post (fun _ => False) Q s l) : Q (p.run [] s l).1 (p.run [] s l).2.1 (p.run [] s l).2.2 := post_served h

theorem post_mono {may : B.Site → Prop} {p : Async B α} {Q Q' : Post B α} {s : B.Store} {l : Local B}
    (h : p.post may Q s l) (hq : ∀ r s' l', Q r s' l' → Q' r s' l') : p.post may Q' s l :=
  (post_iff may p Q' s l).mpr fun r s' l' he => hq r s' l' (he.sound h)

/-- What holds of every outcome. -/
theorem post_of_forall {may : B.Site → Prop} {p : Async B α} {Q : Post B α} {s : B.Store} {l : Local B} (h : ∀ r s' l', Q r s' l') :
    p.post may Q s l := (post_iff may p Q s l).mpr fun r s' l' _ => h r s' l'

section Rules
variable (may : B.Site → Prop)

@[simp] theorem post_ret (a : α) (Q : Post B α) (s : B.Store) (l : Local B) :
    (Async.ret a).post may Q s l ↔ Q (.ok a) s l := Iff.rfl
@[simp] theorem post_pure (a : α) (Q : Post B α) (s : B.Store) (l : Local B) :
    (pure a : Async B α).post may Q s l ↔ Q (.ok a) s l := Iff.rfl
@[simp] theorem post_raise (e : B.Error) (Q : Post B α) (s : B.Store) (l : Local B) :
    (Async.raise e).post may Q s l ↔ Q (.error e) s l := Iff.rfl
@[simp] theorem post_throw (e : B.Error) (Q : Post B α) (s : B.Store) (l : Local B) :
    (throw e : Async B α).post may Q s l ↔ Q (.error e) s l := Iff.rfl
@[simp] theorem post_ofExcept (r : Except B.Error α) (Q : Post B α) (s : B.Store) (l : Local B) :
    (ofExcept r).post may Q s l ↔ Q r s l := by cases r <;> rfl

@[simp] theorem next_ok (f : α → Async B β) (Q : Post B β) (a : α) (s : B.Store) (l : Local B) :
    next may f Q (.ok a) s l ↔ (f a).post may Q s l := Iff.rfl
@[simp] theorem next_error (f : α → Async B β) (Q : Post B β) (e : B.Error) (s : B.Store) (l : Local B) :
    next may f Q (.error e) s l ↔ Q (.error e) s l := Iff.rfl
@[simp] theorem caught_ok (h : B.Error → Async B α) (Q : Post B α) (a : α) (s : B.Store) (l : Local B) :
    caught may h Q (.ok a) s l ↔ Q (.ok a) s l := Iff.rfl
@[simp] theorem caught_error (h : B.Error → Async B α) (Q : Post B α) (e : B.Error) (s : B.Store) (l : Local B) :
    caught may h Q (.error e) s l ↔ (h e).post may Q s l := Iff.rfl

@[simp] theorem post_bind (p : Async B α) (f : α → Async B β) (Q : Post B β) (s : B.Store) (l : Local B) :
    (p >>= f).post may Q s l ↔ p.post may (next may f Q) s l := by
  change (p.bind f).post may Q s l ↔ _
  induction p generalizing s l with
  | ret a => rfl
  | raise e => rfl
  | sync c k ih => exact ih _ _ _
  | call σ c k ih => exact forall_congr' fun a => imp_congr_right fun _ => ih _ _ _

@[simp] theorem post_handle (p : Async B α) (h : B.Error → Async B α) (Q : Post B α) (s : B.Store) (l : Local B) :
    (p.handle h).post may Q s l ↔ p.post may (caught may h Q) s l := by
  induction p generalizing s l with
  | ret a => rfl
  | raise e => rfl
  | sync c k ih => exact ih _ _ _
  | call σ c k ih => exact forall_congr' fun a => imp_congr_right fun _ => ih _ _ _

@[simp] theorem post_tryCatch (p : Async B α) (h : B.Error → Async B α) (Q : Post B α) (s : B.Store) (l : Local B) :
    (tryCatch p h).post may Q s l ↔ p.post may (caught may h Q) s l := post_handle may p h Q s l

@[simp] theorem post_attempt (p : Async B α) (Q : Post B (Except B.Error α)) (s : B.Store) (l : Local B) :
    p.attempt.post may Q s l ↔ p.post may (fun r => Q (.ok r)) s l := by
  rw [attempt, post_handle, post_bind, post_iff, post_iff]
  exact forall_congr' fun r => forall_congr' fun s' => forall_congr' fun l' => imp_congr_right fun _ => by
    cases r <;> rfl

@[simp] theorem post_orRollback (σ : B.Site) (p : Async B α) (Q : Post B α) (s : B.Store) (l : Local B) :
    (p.orRollback σ).post may Q s l ↔ p.post may (caught may (fun e => do await σ .rollback; .raise e) Q) s l :=
  post_handle may p _ Q s l

/-- A served call, and a failed one where the policy lets it fail. -/
theorem post_await (σ : B.Site) (c : Call B ρ) (Q : Post B ρ) (s : B.Store) (l : Local B) :
    (await σ c).post may Q s l ↔
      (∀ reply, Q (c.serve reply s l).1 (c.serve reply s l).2.1 (c.serve reply s l).2.2) ∧
      (may σ → ∀ f, Q (.error (B.raise f)) s (c.failed l)) := by
  constructor
  · intro h
    exact ⟨fun reply => (post_ofExcept may _ _ _ _).mp (h (.done reply) False.elim),
      fun hm f => (post_ofExcept may _ _ _ _).mp (h (.fault f) fun _ => hm)⟩
  · rintro ⟨hd, hf⟩ a ha
    cases a with
    | done reply => exact (post_ofExcept may _ _ _ _).mpr (hd reply)
    | fault f => exact (post_ofExcept may _ _ _ _).mpr (hf (ha trivial) f)

private theorem served {P : (∀ r, B.Reply r) → Prop} {p : Prop} (h : ∀ reply, P reply ↔ p) :
    (∀ reply, P reply) ↔ p :=
  ⟨fun hp => (h _).mp (hp B.usual), fun hp reply => (h reply).mpr hp⟩

variable (σ : B.Site) (s : B.Store) (rest : List (Session B)) (out : List B.Event)

@[simp] theorem post_connect (Q : Post B Unit) (l : Local B) :
    (await σ .connect).post may Q s l ↔
      Q (.ok ()) s ⟨.idle :: l.sessions, l.out⟩ ∧ (may σ → ∀ f, Q (.error (B.raise f)) s l) := by
  rw [post_await]; exact and_congr_left' (served fun _ => Iff.rfl)

@[simp] theorem post_begin (Q : Post B Unit) :
    (await σ .begin).post may Q s ⟨.idle :: rest, out⟩ ↔
      Q (.ok ()) s ⟨.active B.initial [] id :: rest, out⟩ ∧
      (may σ → ∀ f, Q (.error (B.raise f)) s ⟨.idle :: rest, out⟩) := by
  rw [post_await]; exact and_congr_left' (served fun _ => Iff.rfl)

@[simp] theorem post_commit (Q : Post B Unit) (c : B.Context) (held : List B.Lock) (p : B.Store → B.Store) :
    (await σ .commit).post may Q s ⟨.active c held p :: rest, out⟩ ↔
      Q (.ok ()) (p s) ⟨.idle :: rest, out⟩ ∧
      (may σ → ∀ f, Q (.error (B.raise f)) s ⟨.idle :: rest, out⟩) := by
  rw [post_await]; exact and_congr_left' (served fun _ => Iff.rfl)

/-- COMMIT without a transaction has nothing to apply. -/
@[simp] theorem post_commit_idle (Q : Post B Unit) :
    (await σ .commit).post may Q s ⟨.idle :: rest, out⟩ ↔
      Q (.ok ()) s ⟨.idle :: rest, out⟩ ∧ (may σ → ∀ f, Q (.error (B.raise f)) s ⟨.idle :: rest, out⟩) := by
  rw [post_await]; exact and_congr_left' (served fun _ => Iff.rfl)

@[simp] theorem post_rollback (Q : Post B Unit) (x : Session B) :
    (await σ .rollback).post may Q s ⟨x :: rest, out⟩ ↔
      Q (.ok ()) s ⟨.idle :: rest, out⟩ ∧ (may σ → ∀ f, Q (.error (B.raise f)) s ⟨.idle :: rest, out⟩) := by
  rw [post_await]; exact and_congr_left' (served fun _ => Iff.rfl)

@[simp] theorem post_configure (Q : Post B Unit) (f : B.Context → B.Context) (c : B.Context)
    (held : List B.Lock) (p : B.Store → B.Store) :
    (await σ (.configure f)).post may Q s ⟨.active c held p :: rest, out⟩ ↔
      Q (.ok ()) s ⟨.active (f c) held p :: rest, out⟩ ∧
      (may σ → ∀ f, Q (.error (B.raise f)) s ⟨.aborted held :: rest, out⟩) := by
  rw [post_await]; exact and_congr_left' (served fun _ => Iff.rfl)

/-- A statement on an idle client is its own transaction. -/
@[simp] theorem post_query_idle (q : Stmt B ρ) (Q : Post B ρ) :
    (query σ q).post may Q s ⟨.idle :: rest, out⟩ ↔
      Q (q.reply B.initial s) (q.effect B.initial s s) ⟨.idle :: rest, out⟩ ∧
      (may σ → ∀ f, Q (.error (B.raise f)) s ⟨.idle :: rest, out⟩) := by
  rw [query, post_await]; exact and_congr_left' (served fun _ => Iff.rfl)

/-- A statement in a transaction sees its pending writes and leaves the store alone. -/
@[simp] theorem post_query_active (q : Stmt B ρ) (Q : Post B ρ) (c : B.Context) (held : List B.Lock)
    (p : B.Store → B.Store) :
    (query σ q).post may Q s ⟨.active c held p :: rest, out⟩ ↔
      (match q.reply c (p s) with
        | .ok r => Q (.ok r) s ⟨.active c (q.locks c (p s) ++ held) (fun t => q.effect c (p s) (p t)) :: rest, out⟩
        | .error e => Q (.error e) s ⟨.aborted held :: rest, out⟩) ∧
      (may σ → ∀ f, Q (.error (B.raise f)) s ⟨.aborted held :: rest, out⟩) := by
  rw [query, post_await]
  refine and_congr_left' (served fun _ => ?_)
  simp only [Call.serve, Local.top_cons, Local.setTop_cons, Session.query]
  cases q.reply c (p s) <;> rfl

/-- An aborted transaction refuses every statement. -/
@[simp] theorem post_query_aborted (q : Stmt B ρ) (Q : Post B ρ) (held : List B.Lock) :
    (query σ q).post may Q s ⟨.aborted held :: rest, out⟩ ↔
      Q (.error B.aborted) s ⟨.aborted held :: rest, out⟩ ∧
      (may σ → ∀ f, Q (.error (B.raise f)) s ⟨.aborted held :: rest, out⟩) := by
  rw [query, post_await]; exact and_congr_left' (served fun _ => Iff.rfl)

@[simp] theorem post_pool (q : Stmt B ρ) (Q : Post B ρ) (l : Local B) :
    (await σ (.pool q)).post may Q s l ↔
      Q (q.reply B.initial s) (q.effect B.initial s s) l ∧ (may σ → ∀ f, Q (.error (B.raise f)) s l) := by
  rw [post_await]; exact and_congr_left' (served fun _ => Iff.rfl)

@[simp] theorem post_remote (r : B.Remote) (Q : Post B (B.Reply r)) (l : Local B) :
    (await σ (.remote r)).post may Q s l ↔
      (∀ reply, Q (.ok reply) s l) ∧ (may σ → ∀ f, Q (.error (B.raise f)) s l) := by
  classical
  rw [post_await]
  refine and_congr_left' ⟨fun h x => ?_, fun h reply => h (reply r)⟩
  simpa [Call.serve] using h (Function.update B.usual r x)

@[simp] theorem post_emit (e : B.Event) (Q : Post B Unit) (l : Local B) :
    (emit e).post may Q s l ↔
      match B.refuse l.out e with
      | none => Q (.ok ()) s ⟨l.sessions, l.out ++ [e]⟩
      | some err => Q (.error err) s l := by
  change (ofExcept _).post may Q s _ ↔ _
  rw [post_ofExcept, Sync.exec]
  cases B.refuse l.out e <;> rfl

/-- The client is released whatever the body's outcome. -/
@[simp] theorem post_releasing (p : Async B α) (Q : Post B α) (l : Local B) :
    p.releasing.post may Q s l ↔
      p.post may (fun r s' l' => Q r s' ⟨l'.sessions.tail, l'.out⟩) s l := by
  rw [releasing, post_bind, post_attempt, post_iff, post_iff]
  refine forall_congr' fun r => forall_congr' fun s' => forall_congr' fun l' => imp_congr_right fun _ => ?_
  rw [next_ok, post_bind]
  exact post_ofExcept may r Q s' _

@[simp] theorem post_withClient (p : Async B α) (Q : Post B α) (l : Local B) :
    (p.withClient σ).post may Q s l ↔
      p.post may (fun r s' l' => Q r s' ⟨l'.sessions.tail, l'.out⟩) s ⟨.idle :: l.sessions, l.out⟩ ∧
      (may σ → ∀ f, Q (.error (B.raise f)) s l) := by
  rw [withClient, post_bind, post_connect, next_ok, post_releasing]
  rfl

end Rules
end Async
end GalaxiaAin.Library
