import GalaxiaAin.Library.Execution

/-! Clients that are taken from a pool and given back. A function takes one with `withClient`;
when it gives it back, no transaction should be open on it. -/
namespace GalaxiaAin.Library

variable {B : Backend} {α β ρ : Type}

namespace Async

/-! ### Which client a function takes -/

/-- What releases a client neither returns nor raises by itself. -/
theorem releasing_cases (p : Async B α) :
    (∃ c k, p.releasing = .sync c k) ∨ ∃ ρ σ, ∃ c : Call B ρ, ∃ k, p.releasing = .call σ c k := by
  cases p with
  | ret a => exact .inl ⟨_, _, rfl⟩
  | raise e => exact .inl ⟨_, _, rfl⟩
  | sync c k => exact .inl ⟨_, _, rfl⟩
  | call σ c k => exact .inr ⟨_, _, _, _, rfl⟩

theorem releasing_ne_ret (p : Async B α) (a : α) : p.releasing ≠ .ret a := by
  obtain ⟨c, k, h⟩ | ⟨ρ, σ, c, k, h⟩ := releasing_cases p <;> rw [h] <;> exact fun he => by cases he

theorem releasing_ne_raise (p : Async B α) (e : B.Error) : p.releasing ≠ .raise e := by
  obtain ⟨c, k, h⟩ | ⟨ρ, σ, c, k, h⟩ := releasing_cases p <;> rw [h] <;> exact fun he => by cases he

theorem releasing_ret (a : α) : (Async.ret a : Async B α).releasing = .sync .release fun r => (ofExcept r).bind fun _ => .ret a := rfl

theorem releasing_raise (e : B.Error) :
    (Async.raise e : Async B α).releasing = .sync .release fun r => (ofExcept r).bind fun _ => .raise e := rfl

theorem releasing_sync (c : Sync B) (k : Except B.Error Unit → Async B α) :
    (Async.sync c k).releasing = .sync c fun r => (k r).releasing := rfl

theorem releasing_call (σ : B.Site) (c : Call B ρ) (k : Except B.Error ρ → Async B α) :
    (Async.call σ c k).releasing = .call σ c fun r => (k r).releasing := rfl

theorem releasing_injective {p q : Async B α} (h : p.releasing = q.releasing) : p = q := by
  have hend (x : Async B α) (k : Except B.Error Unit → Async B α) (c : Sync B)
      (he : (.sync .release fun r => (ofExcept r).bind fun _ => x) = (Async.sync c k).releasing) :
      x = (k (.ok ())).releasing := by
    rw [releasing_sync] at he
    injection he with _ hk
    exact congrFun hk (.ok ())
  induction p generalizing q with
  | ret a =>
    cases q with
    | ret b =>
      rw [releasing_ret, releasing_ret] at h
      injection h with _ hk
      exact congrFun hk (.ok ())
    | raise e =>
      rw [releasing_ret, releasing_raise] at h
      injection h with _ hk
      exact congrFun hk (.ok ())
    | sync c k => exact absurd (hend _ k c h).symm (releasing_ne_ret _ a)
    | call σ c k => cases h
  | raise e =>
    cases q with
    | ret b =>
      rw [releasing_ret, releasing_raise] at h
      injection h with _ hk
      exact congrFun hk (.ok ())
    | raise e' =>
      rw [releasing_raise, releasing_raise] at h
      injection h with _ hk
      exact congrFun hk (.ok ())
    | sync c k => exact absurd (hend _ k c h).symm (releasing_ne_raise _ e)
    | call σ c k => cases h
  | sync c k ih =>
    cases q with
    | ret b => exact absurd (hend _ k c h.symm).symm (releasing_ne_ret _ b)
    | raise e => exact absurd (hend _ k c h.symm).symm (releasing_ne_raise _ e)
    | sync c' k' =>
      rw [releasing_sync, releasing_sync] at h
      injection h with hc hk
      rw [hc]
      exact congrArg _ (funext fun r => ih r (congrFun hk r))
    | call σ c' k' => cases h
  | call σ c k ih =>
    cases q with
    | ret b => cases h
    | raise e => cases h
    | sync c' k' => cases h
    | call σ' c' k' =>
      rw [releasing_call, releasing_call] at h
      injection h with hρ hσ hc hk
      subst hρ hσ
      rw [eq_of_heq hc]
      exact congrArg _ (funext fun r => ih r (congrFun (eq_of_heq hk) r))

/-- The client a function takes and what it does with it are determined by the function. -/
theorem withClient_injective {σ σ' : B.Site} {p q : Async B α} (h : p.withClient σ = q.withClient σ') : p = q := by
  change Async.call σ .connect (fun r => (ofExcept r).bind fun _ => p.releasing) =
    Async.call σ' .connect (fun r => (ofExcept r).bind fun _ => q.releasing) at h
  injection h with _ _ _ hk
  exact releasing_injective (congrFun hk (.ok ()))

/-! ### Giving it back -/

/-- Called in this store the function takes a client, and whatever is served or fails, no
transaction is open on it when it is given back. -/
def ReturnsClean (p : Async B α) (s : B.Store) : Prop :=
  ∃ σ body, p = withClient σ body ∧
    ∀ l : Local B, body.post (fun _ => True) (fun _ _ l' => l'.top = .idle) s ⟨.idle :: l.sessions, l.out⟩

theorem returnsClean_withClient {σ : B.Site} {p : Async B α} {s : B.Store} : (p.withClient σ).ReturnsClean s ↔
    ∀ l : Local B, p.post (fun _ => True) (fun _ _ l' => l'.top = .idle) s ⟨.idle :: l.sessions, l.out⟩ := by
  refine ⟨fun h => ?_, fun h => ⟨σ, p, rfl, h⟩⟩
  obtain ⟨σ', body, hp, hbody⟩ := h
  rwa [withClient_injective hp]

/-- Where the program ends without an error, it has ended its transaction. -/
def EndsIdle (p : Async B α) : Prop :=
  ∀ s l, p.post (fun _ => True) (fun r _ l' => ∀ a, r = .ok a → l'.top = .idle) s l

/-- On a client without a transaction the program opens none. -/
def StaysIdle (p : Async B α) : Prop :=
  ∀ s l, l.top = .idle → p.post (fun _ => True) (fun _ _ l' => l'.top = .idle) s l

/-- A transaction that is rolled back on an error. -/
theorem post_orRollback_idle {p : Async B α} {s : B.Store} {l : Local B} (σ : B.Site)
    (h : p.post (fun _ => True) (fun r _ l' => ∀ a, r = .ok a → l'.top = .idle) s l) :
    (p.orRollback σ).post (fun _ => True) (fun _ _ l' => l'.top = .idle) s l := by
  rw [post_orRollback]
  refine post_mono h fun r t k hk => ?_
  cases r with
  | ok a => exact hk a rfl
  | error e =>
    rw [caught_error, post_bind, post_await]
    exact ⟨fun _ => rfl, fun _ _ => rfl⟩

theorem EndsIdle.returnsClean {p : Async B α} (h : EndsIdle p) (σ σ' : B.Site) (s : B.Store) :
    ((p.orRollback σ).withClient σ').ReturnsClean s :=
  returnsClean_withClient.mpr fun _ => post_orRollback_idle σ (h s _)

section Rules

theorem endsIdle_throw (e : B.Error) : EndsIdle (throw e : Async B α) := fun _ _ a h => by cases h

theorem endsIdle_commit (σ : B.Site) : EndsIdle (await σ .commit : Async B Unit) :=
  fun s l => (post_await _ σ _ _ s l).mpr ⟨fun _ _ _ => rfl, fun _ _ _ h => by cases h⟩

/-- What comes before the end of the transaction does not matter. -/
theorem endsIdle_bind {p : Async B α} {f : α → Async B β} (hf : ∀ a, EndsIdle (f a)) : EndsIdle (p >>= f) := by
  intro s l
  rw [post_bind]
  refine post_of_forall fun r t k => ?_
  cases r with
  | ok a => exact hf a t k
  | error e => exact fun _ h => by cases h

/-- What comes after it opens no other. -/
theorem endsIdle_then {p : Async B α} {f : α → Async B β} (hp : EndsIdle p) (hf : ∀ a, StaysIdle (f a)) :
    EndsIdle (p >>= f) := by
  intro s l
  rw [post_bind]
  refine post_mono (hp s l) fun r t k hk => ?_
  cases r with
  | ok a => exact post_mono (hf a t k (hk a rfl)) fun _ _ _ h _ _ => h
  | error e => exact fun _ h => by cases h

theorem endsIdle_handle {p : Async B α} {f : B.Error → Async B α} (hp : EndsIdle p) (hf : ∀ e, EndsIdle (f e)) :
    EndsIdle (p.handle f) := by
  intro s l
  rw [post_handle]
  refine post_mono (hp s l) fun r t k hk => ?_
  cases r with
  | ok a => exact hk
  | error e => exact hf e t k

theorem staysIdle_pure (a : α) : StaysIdle (pure a : Async B α) := fun _ _ h => h

theorem staysIdle_throw (e : B.Error) : StaysIdle (throw e : Async B α) := fun _ _ h => h

theorem staysIdle_bind {p : Async B α} {f : α → Async B β} (hp : StaysIdle p) (hf : ∀ a, StaysIdle (f a)) :
    StaysIdle (p >>= f) := by
  intro s l h
  rw [post_bind]
  refine post_mono (hp s l h) fun r t k hk => ?_
  cases r with
  | ok a => exact hf a t k hk
  | error e => exact hk

theorem staysIdle_handle {p : Async B α} {f : B.Error → Async B α} (hp : StaysIdle p) (hf : ∀ e, StaysIdle (f e)) :
    StaysIdle (p.handle f) := by
  intro s l h
  rw [post_handle]
  refine post_mono (hp s l h) fun r t k hk => ?_
  cases r with
  | ok a => exact hk
  | error e => exact hf e t k hk

theorem staysIdle_query (σ : B.Site) (q : Stmt B ρ) : StaysIdle (query σ q) := by
  intro s l h
  rw [query, post_await]
  refine ⟨fun _ => ?_, fun _ _ => ?_⟩
  · change (l.top.query q s).2.2 = .idle
    rw [h]; rfl
  · change l.top.fail = .idle
    rw [h]; rfl

theorem staysIdle_pool (σ : B.Site) (q : Stmt B ρ) : StaysIdle (await σ (.pool q)) :=
  fun s l h => (post_await _ σ _ _ s l).mpr ⟨fun _ => h, fun _ _ => h⟩

theorem staysIdle_remote (σ : B.Site) (r : B.Remote) : StaysIdle (await σ (.remote r : Call B (B.Reply r))) :=
  fun s l h => (post_await _ σ _ _ s l).mpr ⟨fun _ => h, fun _ _ => h⟩

theorem staysIdle_emit (e : B.Event) : StaysIdle (emit e : Async B Unit) := by
  intro s l h
  rw [post_emit]
  cases B.refuse l.out e <;> exact h

theorem staysIdle_onlyIf {condition : Prop} [Decidable condition] {p : Async B Unit} (hp : StaysIdle p) :
    StaysIdle (onlyIf condition p) := by
  unfold onlyIf
  split
  · exact hp
  · exact staysIdle_pure ()

end Rules
end Async
end GalaxiaAin.Library
