import GalaxiaAin.Library.Pending
import GalaxiaAin.Issuance.Minting

/-! Concurrent verifications and mints, which both give a user an investor row. They look for
the row on the pool and insert it on a client of their own, so what one of them has inserted
is seen by the others when it is committed. -/
namespace GalaxiaAin.Issuance
open GalaxiaAin.Library

/-- The users of the investors, row by row. -/
def investorUsers (db : IssuanceDb) : List Text := db.investors.map (·.galaxia_id_user_id)

/-- No two investors have one user. -/
def OneInvestor (db : IssuanceDb) : Prop := (investorUsers db).Nodup

theorem investorOf_none {userId : Text} {db : IssuanceDb} : investorOf userId db = none ↔ userId ∉ investorUsers db := by
  simp [investorOf, investorUsers, List.find?_eq_none]

/-- Where a user has one investor, every lookup of the user finds it. -/
theorem OneInvestor.found {db : IssuanceDb} (h : OneInvestor db) {i : InvestorRow} (hi : i ∈ db.investors) :
    investorOf i.galaxia_id_user_id db = some i := by
  cases hfind : investorOf i.galaxia_id_user_id db with
  | none => exact absurd (List.mem_map_of_mem hi) (investorOf_none.mp hfind)
  | some j =>
    have huser : j.galaxia_id_user_id = i.galaxia_id_user_id := by simpa using List.find?_some hfind
    rw [List.inj_on_of_nodup_map h (List.mem_of_find?_eq_some hfind) hi huser]

/-- A verification or a mint. -/
inductive InvestorCall where
  | verify (turn : VerificationTurn) (request : AccreditationRequest)
  | mint (turn : MintTurn) (request : TokenMintRequest)

/-- The user it is for. -/
def InvestorCall.userId : InvestorCall → Text
  | .verify _ request => request.investorId
  | .mint _ request => request.investorId

def InvestorCall.program : InvestorCall → Async backend Unit
  | .verify turn request => do let _ ← verifyAccreditation turn request
  | .mint turn request => do let _ ← mintTokens turn request

/-! ### A call -/

/-- A call notes that it inserts an investor. Only its COMMIT after that changes the users of
the table: it adds the user of the call. -/
def inserting (userId : Text) : Noting backend Bool where
  note inserted site _ := inserted || site == .insertInvestor
  may inserted site db db' :=
    investorUsers db' = if inserted && site == .commit then investorUsers db ++ [userId] else investorUsers db

/-- What is pending adds the user if an investor was inserted, and no other. -/
def Adds (userId : Text) (inserted : Bool) (w : IssuanceDb → IssuanceDb) : Prop :=
  ∀ db, investorUsers (w db) = if inserted then investorUsers db ++ [userId] else investorUsers db

/-- The call is in a transaction that adds what was noted. -/
def Adding (userId : Text) (inserted : Bool) (l : Local backend) : Prop :=
  ∃ held w, l.top = .active () held w ∧ Adds userId inserted w

/-- The transaction stays open unless an error ends it. -/
def StaysOpen {α : Type} (userId : Text) (r : Except IssuanceFailure α) (inserted : Bool) (l : Local backend) : Prop :=
  ∀ a, r = .ok a → Adding userId inserted l

section Statements
variable {α ρ : Type} {userId : Text} {inserted : Bool} {l : Local backend}

theorem may_elsewhere {σ : Site} (hσ : σ ≠ .commit) (inserted : Bool) (db : IssuanceDb) :
    (inserting userId).may inserted σ db db := by
  have h : (σ == Site.commit) = false := beq_eq_false_iff_ne.mpr hσ
  simp only [inserting, h, Bool.and_false, Bool.false_eq_true, if_false]

theorem note_elsewhere {σ : Site} (hσ : σ ≠ .insertInvestor) (inserted : Bool) (db : IssuanceDb) :
    (inserting userId).note inserted σ db = inserted := by
  have h : (σ == Site.insertInvestor) = false := beq_eq_false_iff_ne.mpr hσ
  simp only [inserting, h, Bool.or_false]

theorem staysOpen_error {e : IssuanceFailure} : StaysOpen (α := α) userId (.error e) inserted l := fun _ h => (nomatch h)

/-- What follows a lookup on the pool finds the transaction as it was. -/
theorem select_follows {σ : Site} {f : Unit → IssuanceDb → ρ} {k : ρ → Async backend α} (hcommit : σ ≠ .commit)
    (hinsert : σ ≠ .insertInvestor) (hk : ∀ a, (k a).Follows (inserting userId) (StaysOpen userId) inserted l) :
    (Async.await σ (.pool (.select f)) >>= k).Follows (inserting userId) (StaysOpen userId) inserted l := by
  refine Async.follows_bind (Async.follows_select (may_elsewhere hcommit inserted) fun db r => ?_)
  rw [note_elsewhere hinsert]
  cases r with
  | error e => exact staysOpen_error
  | ok a => exact hk a

/-- What follows a check of the request finds the transaction as it was. -/
theorem onlyIf_follows {condition : Prop} [Decidable condition] {e : IssuanceFailure} {k : Unit → Async backend α}
    (hk : (k ()).Follows (inserting userId) (StaysOpen userId) inserted l) :
    (onlyIf condition (.raise e) >>= k).Follows (inserting userId) (StaysOpen userId) inserted l := by
  rw [onlyIf]
  split
  · exact staysOpen_error
  · exact hk

/-- A statement of the transaction that leaves the users of the investors as they are. -/
theorem query_follows {σ : Site} {q : Stmt backend ρ} (hcommit : σ ≠ .commit) (hinsert : σ ≠ .insertInvestor)
    (hq : ∀ db r u, q.run () db = .ok (r, u) → ∀ t, investorUsers (u t) = investorUsers t) (h : Adding userId inserted l) :
    (Async.query σ q).Follows (inserting userId) (StaysOpen userId) inserted l := by
  obtain ⟨held, w, htop, hadds⟩ := h
  refine Async.follows_query htop (may_elsewhere hcommit inserted) (fun db r u k hrun => ?_) fun _ _ _ => staysOpen_error
  rw [note_elsewhere hinsert]
  refine fun _ _ => ⟨k, _, rfl, fun t => ?_⟩
  rw [hq _ _ _ hrun, hadds]

theorem insertInvestor_users {row : InvestorRow} {db : IssuanceDb} {r : Unit} {u : IssuanceDb → IssuanceDb}
    (h : (insertInvestor row).run () db = .ok (r, u)) (t : IssuanceDb) :
    investorUsers (u t) = investorUsers t ++ [row.galaxia_id_user_id] := by
  simp only [insertInvestor, Stmt.statement] at h
  split at h
  · cases h
  · obtain ⟨-, rfl⟩ := Prod.mk.inj (Except.ok.inj h)
    simp [investorUsers]

theorem insertInvestor_follows {row : InvestorRow} (h : Adding row.galaxia_id_user_id false l) :
    (Async.query (B := backend) .insertInvestor (insertInvestor row)).Follows (inserting row.galaxia_id_user_id)
      (StaysOpen row.galaxia_id_user_id) false l := by
  obtain ⟨held, w, htop, hadds⟩ := h
  refine Async.follows_query htop (may_elsewhere (by decide) false) (fun db r u k hrun => ?_) fun _ _ _ => staysOpen_error
  refine fun _ _ => ⟨k, _, rfl, fun t => ?_⟩
  rw [insertInvestor_users hrun, hadds]
  rfl

theorem updateInvestor_users (turn : VerificationTurn) (verificationType investorId : Text) (db : IssuanceDb) (r : Unit)
    (u : IssuanceDb → IssuanceDb) (h : (updateInvestor turn verificationType investorId).run () db = .ok (r, u))
    (t : IssuanceDb) : investorUsers (u t) = investorUsers t := by
  obtain ⟨-, rfl⟩ := Prod.mk.inj (Except.ok.inj h)
  simp only [investorUsers, List.map_map]
  refine List.map_congr_left fun i _ => ?_
  simp only [Function.comp_apply]
  split <;> rfl

theorem insertHolding_users (turn : MintTurn) (request : TokenMintRequest) (investorId : Text) (restrictions : Json)
    (db : IssuanceDb) (r : Unit) (u : IssuanceDb → IssuanceDb)
    (h : (insertHolding turn request investorId restrictions).run () db = .ok (r, u)) (t : IssuanceDb) :
    investorUsers (u t) = investorUsers t := by
  simp only [insertHolding, Stmt.statement] at h
  cases hrow : holdingRow turn request investorId restrictions with
  | error e => rw [hrow] at h; cases h
  | ok row =>
    rw [hrow] at h
    simp only [bind, Except.bind] at h
    split at h
    · cases h
    · obtain ⟨-, rfl⟩ := Prod.mk.inj (Except.ok.inj h)
      rfl

/-- What follows a part of the transaction runs while it is open. -/
theorem staysOpen_bind {p : Async backend ρ} {f : ρ → Async backend α}
    (hp : p.Follows (inserting userId) (StaysOpen userId) inserted l)
    (hf : ∀ a inserted l, Adding userId inserted l → (f a).Follows (inserting userId) (StaysOpen userId) inserted l) :
    (p >>= f).Follows (inserting userId) (StaysOpen userId) inserted l := by
  refine Async.follows_bind (Async.follows_mono hp fun r inserted l hr => ?_)
  cases r with
  | error e => exact staysOpen_error
  | ok a => exact hf a inserted l (hr a rfl)

end Statements

theorem getOrCreate_follows (row : InvestorRow) {l : Local backend} (h : Adding row.galaxia_id_user_id false l) :
    (getOrCreate row).Follows (inserting row.galaxia_id_user_id) (StaysOpen row.galaxia_id_user_id) false l := by
  refine select_follows (by decide) (by decide) fun investor => ?_
  cases investor with
  | some investorId => exact fun _ _ => h
  | none => exact staysOpen_bind (insertInvestor_follows h) fun _ _ _ h _ _ => h

theorem accredit_follows {turn : VerificationTurn} {request : AccreditationRequest} {l : Local backend}
    (h : Adding request.investorId false l) :
    (accredit turn request).Follows (inserting request.investorId) (StaysOpen request.investorId) false l :=
  staysOpen_bind (getOrCreate_follows (pendingInvestor turn request) h) fun investorId _ _ h =>
    query_follows (by decide) (by decide) (updateInvestor_users turn request.verificationType investorId) h

theorem mint_follows {turn : MintTurn} {request : TokenMintRequest} {l : Local backend}
    (h : Adding request.investorId false l) :
    (mint turn request).Follows (inserting request.investorId) (StaysOpen request.investorId) false l := by
  refine select_follows (by decide) (by decide) fun offering => onlyIf_follows ?_
  refine select_follows (by decide) (by decide) fun accreditation => ?_
  refine select_follows (by decide) (by decide) fun restrictions => onlyIf_follows ?_
  exact staysOpen_bind (getOrCreate_follows (unknownInvestor turn request) h) fun investorId _ _ h =>
    query_follows (by decide) (by decide) (insertHolding_users turn request investorId restrictions) h

/-- A transaction on a client of its own writes nothing before its COMMIT, and then what was noted. -/
theorem transaction_follows {α ρ : Type} {userId : Text} {p : Async backend ρ} {k : ρ → Async backend α}
    (hp : ∀ l, Adding userId false l → p.Follows (inserting userId) (StaysOpen userId) false l)
    (hk : ∀ a inserted l, (k a).Follows (inserting userId) (fun _ _ _ => True) inserted l) (l : Local backend) :
    (Async.withClient (B := backend) .connect <| Async.orRollback .rollback do
      Async.await .begin .begin
      let a ← p
      Async.await .commit .commit
      k a).Follows (inserting userId) (fun _ _ _ => True) false l := by
  have hcommitted (a : ρ) (inserted : Bool) (l : Local backend) (h : Adding userId inserted l) :
      (do Async.await .commit .commit; k a : Async backend α).Follows (inserting userId)
        (fun r inserted l => ∀ a, r = .ok a → True) inserted l := by
    obtain ⟨held, w, htop, hadds⟩ := h
    refine Async.follows_bind (Async.follows_commit htop (fun db => ?_) fun db r l' => ?_)
    · change investorUsers (w db) = _
      rw [hadds db, beq_self_eq_true, Bool.and_true]
    · cases r with
      | error e => exact fun _ _ => trivial
      | ok u => exact Async.follows_mono (hk a _ _) fun _ _ _ _ _ _ => trivial
  apply Async.follows_withClient (may_elsewhere (by decide) false) (note_elsewhere (by decide) false)
  apply Async.follows_orRollback (fun inserted db => may_elsewhere (by decide) inserted db) (fun _ _ _ => trivial)
  refine Async.follows_bind (Async.follows_begin rfl (may_elsewhere (by decide) false) (fun db => ?_)
    fun _ _ _ _ h => (nomatch h))
  rw [note_elsewhere (by decide)]
  refine Async.follows_bind (Async.follows_mono (hp _ ⟨[], id, rfl, fun _ => rfl⟩) fun r inserted l hr => ?_)
  cases r with
  | error e => exact fun _ _ => trivial
  | ok a => exact hcommitted a inserted l (hr a rfl)

theorem getTokenHolding_follows {userId holdingId : Text} {inserted : Bool} {l : Local backend} :
    (getTokenHolding holdingId).Follows (inserting userId) (fun _ _ _ => True) inserted l :=
  Async.follows_select (may_elsewhere (by decide) inserted) fun _ _ => trivial

/-- The outcome of a call is dropped. -/
theorem dropped_follows {α : Type} {userId : Text} {p : Async backend α} {l : Local backend}
    (h : p.Follows (inserting userId) (fun _ _ _ => True) false l) :
    (do let _ ← p : Async backend Unit).Follows (inserting userId) (fun _ _ _ => True) false l := by
  refine Async.follows_bind (Async.follows_mono h fun r _ _ _ => ?_)
  cases r <;> trivial

theorem InvestorCall.follows (call : InvestorCall) :
    call.program.Follows (inserting call.userId) (fun _ _ _ => True) false .empty := by
  cases call with
  | verify turn request =>
    refine dropped_follows (transaction_follows (fun l h => accredit_follows h) (fun _ _ _ => ?_) _)
    trivial
  | mint turn request =>
    refine dropped_follows (transaction_follows (fun l h => mint_follows h) (fun _ inserted l => ?_) _)
    refine Async.follows_bind (Async.follows_ofExcept (Async.follows_bind ?_))
    refine Async.follows_mono getTokenHolding_follows fun r _ _ _ => ?_
    rcases r with e | holding
    · trivial
    · cases holding <;> trivial

/-! ### Runs -/

section Runs
variable {ι : Type}

/-- Concurrent calls before their first statement. -/
def investorCalls (calls : ι → InvestorCall) (db : IssuanceDb) : Config backend ι Unit :=
  ⟨db, fun i => Thread.start (calls i).program⟩

/-- Every statement may be served and may fail. -/
def anyAnswer : Policy backend := fun _ _ _ _ => True

/-- Which calls have inserted an investor. -/
def noteInserted [DecidableEq ι] (calls : ι → InvestorCall) (inserted : ι → Bool) (cfg : Config backend ι Unit) (i : ι)
    (a : Answer backend) : ι → Bool := (inserting (calls i).userId).update inserted cfg i a

/-- A call that has inserted an investor is served its COMMIT only while its user has none in
the committed table. -/
def StillMissing (calls : ι → InvestorCall) (inserted : ι → Bool) (cfg : Config backend ι Unit) (i : ι)
    (a : Answer backend) : Prop :=
  ¬ a.Faulty → cfg.site i = some .commit → inserted i = true → investorOf (calls i).userId cfg.store = none

/-- The calls follow what they noted. -/
def Inserting (calls : ι → InvestorCall) (inserted : ι → Bool) (cfg : Config backend ι Unit) : Prop :=
  cfg.Follows (fun i => inserting (calls i).userId) (fun _ _ _ _ => True) inserted

theorem inserting_start (calls : ι → InvestorCall) (db : IssuanceDb) :
    Inserting calls (fun _ => false) (investorCalls calls db) := Config.follows_start (fun i => (calls i).follows) db

variable [DecidableEq ι] {calls : ι → InvestorCall}

theorem inserting_step {inserted : ι → Bool} {cfg : Config backend ι Unit} {i : ι} {a : Answer backend}
    (h : Inserting calls inserted cfg) (he : cfg.Enabled anyAnswer i a) :
    Inserting calls (noteInserted calls inserted cfg i a) (cfg.fire i a) := (Config.Follows.fire h he).2

/-- One step keeps the investors of the users apart exactly when it meets the condition. -/
theorem oneInvestor_step {inserted : ι → Bool} {cfg : Config backend ι Unit} {i : ι} {a : Answer backend}
    (h : Inserting calls inserted cfg) (hone : OneInvestor cfg.store) (he : cfg.Enabled anyAnswer i a) :
    OneInvestor (cfg.fire i a).store ↔ StillMissing calls inserted cfg i a := by
  obtain ⟨⟨σ, hsite, hfailed, hserved⟩, -⟩ := Config.Follows.fire h he
  by_cases hf : a.Faulty
  · rw [hfailed hf]
    exact ⟨fun _ hnot => absurd hf hnot, fun _ => hone⟩
  have husers := hserved hf
  by_cases hcommit : inserted i = true ∧ σ = .commit
  · obtain ⟨hinserted, rfl⟩ := hcommit
    simp only [inserting, hinserted, beq_self_eq_true, Bool.and_self, if_true] at husers
    rw [OneInvestor, husers, List.nodup_append_comm, List.singleton_append, List.nodup_cons]
    refine ⟨fun hnodup _ _ _ => investorOf_none.mpr hnodup.1, fun hmissing => ⟨?_, hone⟩⟩
    exact investorOf_none.mp (hmissing hf hsite hinserted)
  · have hsame : (inserted i && σ == Site.commit) = false := by
      rw [Bool.and_eq_false_iff, beq_eq_false_iff_ne]
      cases hi : inserted i with
      | false => exact .inl rfl
      | true => exact .inr fun hσ => hcommit ⟨hi, hσ⟩
    simp only [inserting, hsame, Bool.false_eq_true, if_false] at husers
    rw [OneInvestor, husers]
    refine ⟨fun _ _ hat hinserted => absurd ⟨hinserted, ?_⟩ hcommit, fun _ => hone⟩
    exact Option.some.inj (hsite.symm.trans hat)

/-- In every run of concurrent verifications and mints no two investors ever have one user
exactly when every call that inserted an investor commits while its user has none. -/
theorem investors_kept_apart (calls : ι → InvestorCall) (db : IssuanceDb) (script : List (ι × Answer backend))
    (hone : OneInvestor db) (hrun : (investorCalls calls db).Runs anyAnswer script) :
    (∀ pre post, script = pre ++ post → OneInvestor ((investorCalls calls db).after pre).store) ↔
      (investorCalls calls db).AlongWith (noteInserted calls) (StillMissing calls) (fun _ => false) script := by
  refine Config.AlongWith.iff_good (fun _ _ _ _ h he => inserting_step h he)
    (fun _ _ _ _ h hone he => oneInvestor_step h hone he) script (inserting_start calls db) hone hrun

end Runs

/-! ### A verification and a mint for one user -/

/-- An offering open to everyone. -/
def unrestrictedOffering : OfferingRow := { activeOffering with transfer_restrictions := .obj [] }

/-- No investor yet. -/
def noInvestorDb : IssuanceDb := ⟨[], [], [], [unrestrictedOffering], [], [], []⟩

def verifyCall : InvestorCall :=
  .verify ⟨units "v1", 1, 2⟩ ⟨units "u1", units "income", units "automatic"⟩

def firstMint : InvestorCall :=
  .mint ⟨units "v2", units "h1", 5⟩ ⟨units "o1", units "u1", 5, none, none, 100, none, units "0x1"⟩

/-- The verification is `false`, the mint `true`. -/
def bothCalls (i : Bool) : InvestorCall := if i then firstMint else verifyCall

def servedAnswer : Answer backend := .done backend.usual

/-- The statements of the verification, then those of the mint. -/
def turnByTurn : List (Bool × Answer backend) :=
  List.replicate 6 (false, servedAnswer) ++ List.replicate 9 (true, servedAnswer)

/-- The mint looks the investor up before the verification commits its own. -/
def crossedLookups : List (Bool × Answer backend) :=
  List.replicate 5 (false, servedAnswer) ++ List.replicate 6 (true, servedAnswer) ++
    (false, servedAnswer) :: List.replicate 3 (true, servedAnswer)

instance (σ : Site) (db : IssuanceDb) (a : Answer backend) (ok : Bool) : Decidable (anyAnswer σ db a ok) :=
  inferInstanceAs (Decidable True)

instance (db : IssuanceDb) : Decidable (OneInvestor db) := inferInstanceAs (Decidable (List.Nodup _))

/-- Whether a step meets the condition can be computed. -/
instance {ι : Type} (calls : ι → InvestorCall) (inserted : ι → Bool) (cfg : Config backend ι Unit) (i : ι)
    (a : Answer backend) : Decidable (StillMissing calls inserted cfg i a) :=
  decidable_of_iff (a.Faulty ∨ cfg.site i ≠ some .commit ∨ inserted i = false ∨
      (investorOf (calls i).userId cfg.store).isNone = true) (by
    rw [StillMissing, Option.isNone_iff_eq_none, ← Bool.not_eq_true]
    tauto)

/-- One after the other they share the investor. -/
theorem investors_kept_apart_turns : OneInvestor ((investorCalls bothCalls noInvestorDb).after turnByTurn).store := by
  have hrun : (investorCalls bothCalls noInvestorDb).Runs anyAnswer turnByTurn := by decide +kernel
  have hmissing : (investorCalls bothCalls noInvestorDb).AlongWith (noteInserted bothCalls) (StillMissing bothCalls)
      (fun _ => false) turnByTurn := by decide +kernel
  have hkept := (investors_kept_apart bothCalls noInvestorDb turnByTurn (by decide +kernel) hrun).mpr hmissing
  exact hkept turnByTurn [] (List.append_nil _).symm

/-- Crossed they give the user two. -/
theorem investors_kept_apart_crossed :
    ¬ ∀ (calls : Bool → InvestorCall) (db : IssuanceDb) (script : List (Bool × Answer backend)), OneInvestor db →
      (investorCalls calls db).Runs anyAnswer script → OneInvestor ((investorCalls calls db).after script).store := by
  intro hall
  have hone := hall bothCalls noInvestorDb crossedLookups (by decide +kernel) (by decide +kernel)
  have htwo : ¬ OneInvestor ((investorCalls bothCalls noInvestorDb).after crossedLookups).store := by decide +kernel
  exact htwo hone

end GalaxiaAin.Issuance
