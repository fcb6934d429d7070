import GalaxiaAin.Library.Frame
import GalaxiaAin.Tenant.Schema

/-! Transactions that carry the organisation the row-level policies compare with. -/
namespace GalaxiaAin.Tenant
open GalaxiaAin.Library

variable {α : Type}

/-- `set_config('app.current_organization_id', $1, true)`. -/
def setOrganization (organizationId : Uuid) (c : Settings) : Settings :=
  { c with current_organization_id := organizationId }

/-- `set_config('app.rls_bootstrap', 'on', true)`. -/
def setBootstrap (c : Settings) : Settings := { c with rls_bootstrap := units "on" }

@[simp] theorem bootstrap_setOrganization (organizationId : Uuid) (c : Settings) :
    (setOrganization organizationId c).bootstrap = c.bootstrap := rfl
@[simp] theorem bootstrap_initial : ({} : Settings).bootstrap = false := rfl
@[simp] theorem currentOrganizationId_setOrganization (organizationId : Uuid) (c : Settings) :
    (setOrganization organizationId c).currentOrganizationId =
      if organizationId = [] then none else some organizationId := rfl

/-- BEGIN, the setting, the callback and COMMIT on a client; ROLLBACK when one of them throws. -/
def transaction (set : Settings → Settings) (fn : Async backend α) : Async backend α :=
  Async.orRollback .transaction do
    Async.await .transaction .begin
    Async.await .transaction (.configure set)
    let result ← fn
    Async.await .transaction .commit
    return result

/-- Run queries within a transaction with RLS org context. -/
def withTenantTransaction (organizationId : Uuid) (fn : Async backend α) : Async backend α :=
  (transaction (setOrganization organizationId) fn).withClient .transaction

/-- Bootstrap writes with explicit RLS bypass. -/
def withBootstrapTransaction (fn : Async backend α) : Async backend α :=
  (transaction setBootstrap fn).withClient .transaction

/-! ### Rules -/

/-- What the callback must establish: `Q` after COMMIT, and after ROLLBACK of an error. -/
def settles (may : Site → Prop) (Q : Post backend α) : Post backend α := fun r s l =>
  (match r with
    | .ok a => Q (.ok a) (l.top.commit s) ⟨l.sessions.tail, l.out⟩
    | .error e => Q (.error e) s ⟨l.sessions.tail, l.out⟩) ∧
  (may .transaction → ∀ f, Q (.error (.other f)) s ⟨l.sessions.tail, l.out⟩)

theorem post_withTenantTransaction {may : Site → Prop} {organizationId : Uuid} {fn : Async backend α}
    {Q : Post backend α} {s : Db} {l : Local backend}
    (hfn : fn.post may (settles may Q) s ⟨.active (setOrganization organizationId {}) [] id :: l.sessions, l.out⟩)
    (hfault : may .transaction → ∀ f, Q (.error (.other f)) s l) :
    (withTenantTransaction organizationId fn).post may Q s l := by
  have hback (e : ServiceError) (t : Db) (k : Local backend) (h : Q (.error e) t ⟨k.sessions.tail, k.out⟩)
      (hf : may .transaction → ∀ f, Q (.error (.other f)) t ⟨k.sessions.tail, k.out⟩) :
      (do Async.await .transaction .rollback; .raise e : Async backend α).post may
        (fun r s' l' => Q r s' ⟨l'.sessions.tail, l'.out⟩) t k := by
    rw [Async.post_bind, Async.post_await]
    exact ⟨fun _ => h, hf⟩
  rw [withTenantTransaction, Async.post_withClient, transaction, Async.post_orRollback, Async.post_bind,
    Async.post_begin]
  refine ⟨⟨?_, fun hm f => hback _ _ _ (hfault hm f) hfault⟩, hfault⟩
  rw [Async.next_ok, Async.post_bind, Async.post_configure]
  refine ⟨?_, fun hm f => hback _ _ _ (hfault hm f) hfault⟩
  rw [Async.next_ok, Async.post_bind]
  refine Async.post_mono hfn fun r t k ⟨hr, hf⟩ => ?_
  cases r with
  | error e => exact hback _ _ _ hr hf
  | ok a =>
    rw [Async.next_ok, Async.post_bind, Async.post_await]
    exact ⟨fun _ => hr, fun hm f => hback _ _ _ (hf hm f) hf⟩

/-- The interleaved rule: an assertion `I` is carried from call to call, and what the
callback leaves pending may be committed in any store the rely leads to. -/
theorem safe_withTenantTransaction {policy : Policy backend} {P : Protocol backend} {I : Db → Local backend → Prop}
    (hI : Carried P I) (hrefl : ∀ l s, P.guar l s s) {Q : Post backend α} {l : Local backend}
    (herr : ∀ e s, I s l → Q (.error e) s l) {organizationId : Uuid} {fn : Async backend α}
    (hfn : ∀ s, I s l → fn.safe policy P (fun r s' l' => I s' l' ∧ l'.sessions.tail = l.sessions ∧ l'.out = l.out ∧
        ∀ a, r = .ok a → ∀ t, P.rely l' s' t → P.guar l' t (l'.top.commit t) ∧ Q (.ok a) (l'.top.commit t) l)
      s ⟨.active (setOrganization organizationId {}) [] id :: l.sessions, l.out⟩)
    {s : Db} (hs : I s l) : (withTenantTransaction organizationId fn).safe policy P Q s l := by
  have hcarry {t u : Db} {k : Local backend} (h : I t l) (hr : P.rely k t u) (hk : k.out = l.out) : I u k ∧ I u l := by
    have := hI.rely t u k (hI.sessions t l k h hk) hr
    exact ⟨this, hI.sessions u k l this hk.symm⟩
  have hback (e : ServiceError) (t : Db) (k : Local backend) (h : I t l) (hs : k.sessions.tail = l.sessions)
      (hk : k.out = l.out) : (do Async.await .transaction .rollback; .raise e : Async backend α).safe policy P
        (fun r s' l' => Q r s' ⟨l'.sessions.tail, l'.out⟩) t k := by
    rw [Async.safe_bind, Async.safe_await]
    intro u hu
    obtain ⟨h₁, h₂⟩ := hcarry h hu hk
    refine ⟨hI.inv u k h₁, fun a _ => ?_⟩
    have hend (e : ServiceError) : Q (.error e) u ⟨k.sessions.tail, k.out⟩ := by
      rw [hs, hk]; exact herr e u h₂
    cases a <;> exact ⟨hrefl k u, hend _⟩
  rw [withTenantTransaction, Async.withClient, Async.safe_bind, Async.safe_await]
  intro t ht
  obtain ⟨h₁, -⟩ := hcarry hs ht rfl
  refine ⟨hI.inv t l h₁, fun a _ => ?_⟩
  cases a with
  | fault f => exact ⟨hrefl l t, herr _ _ h₁⟩
  | done reply =>
    refine ⟨hrefl l t, ?_⟩
    change ((transaction (setOrganization organizationId) fn).releasing).safe policy P Q t ⟨.idle :: l.sessions, l.out⟩
    rw [Async.safe_releasing, transaction, Async.orRollback, Async.safe_handle, Async.safe_bind, Async.safe_await]
    intro u hu
    obtain ⟨h₂, h₂'⟩ := hcarry h₁ hu rfl
    refine ⟨hI.inv u _ h₂, fun a _ => ?_⟩
    cases a with
    | fault f => exact ⟨hrefl _ u, hback _ _ _ h₂' rfl rfl⟩
    | done reply =>
      refine ⟨hrefl _ u, ?_⟩
      change Async.safe policy P (_ >>= _) _ u ⟨.active {} [] id :: l.sessions, l.out⟩
      rw [Async.safe_bind, Async.safe_await]
      intro v hv
      obtain ⟨h₃, h₃'⟩ := hcarry h₂' hv rfl
      refine ⟨hI.inv v _ h₃, fun a _ => ?_⟩
      cases a with
      | fault f => exact ⟨hrefl _ v, hback _ _ _ h₃' rfl rfl⟩
      | done reply =>
        refine ⟨hrefl _ v, ?_⟩
        change Async.safe policy P (_ >>= _) _ v ⟨.active (setOrganization organizationId {}) [] id :: l.sessions, l.out⟩
        rw [Async.safe_bind]
        refine Async.safe_mono (hfn v h₃') fun r w k h => ?_
        obtain ⟨hw, hs, hk, hok⟩ := h
        have hw' : I w l := hI.sessions w k l hw hk.symm
        cases r with
        | error e => exact hback e w k hw' hs hk
        | ok a =>
          change Async.safe policy P (_ >>= _) _ w k
          rw [Async.safe_bind, Async.safe_await]
          intro x hx
          obtain ⟨h₄, h₄'⟩ := hcarry hw' hx hk
          refine ⟨hI.inv x k h₄, fun b _ => ?_⟩
          obtain ⟨hg, hq⟩ := hok a rfl x hx
          cases b with
          | fault f => exact ⟨hrefl k x, hback _ x _ h₄' hs hk⟩
          | done reply =>
            refine ⟨hg, ?_⟩
            change Q (.ok a) (k.top.commit x) ⟨k.sessions.tail, k.out⟩
            rw [hs, hk]
            exact hq

theorem confined_withTenantTransaction {F : Frame backend} {W : List Event → Prop} {R : Async.Outcome backend α}
    {n : Nat} {out : List Event} {organizationId : Uuid} {fn : Async backend α} (hw : W out)
    (he : ∀ e, R (.error e) out)
    (hfn : fn.Confined F W (fun r out => W out ∧ R r out ∧ ∀ e, R (.error e) out) (n + 1) (n + 1) out) :
    (withTenantTransaction organizationId fn).Confined F W R n n out := by
  have hn : 1 ≤ n + 1 := Nat.succ_pos n
  refine Async.confined_withClient hw he (Async.confined_orRollback hn ?_ _) _
  refine Async.confined_bind (Async.confined_begin hw hn (fun r => ?_) _)
  cases r with
  | error e => exact ⟨hw, he⟩
  | ok u =>
    refine Async.confined_bind (Async.confined_configure hw hn (fun r => ?_) _ _)
    cases r with
    | error e => exact ⟨hw, he⟩
    | ok u =>
      refine Async.confined_bind (Async.confined_mono hfn fun r out ⟨hw, hr, he⟩ => ?_)
      cases r with
      | error e => exact ⟨hw, he⟩
      | ok a =>
        refine Async.confined_bind (Async.confined_commit hw hn (fun r => ?_) _)
        cases r with
        | error e => exact ⟨hw, he⟩
        | ok u => exact ⟨rfl, hr⟩

end GalaxiaAin.Tenant
