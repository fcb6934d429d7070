import GalaxiaAin.Payments.Bookkeeping

/-! Jurisdictions: a lookup that finds no row detects the country, records it, and blocks
the user; a declaration does not lift the block. In every interleaving of lookups,
declarations and payments, a user who was looked up pays no more. -/
namespace GalaxiaAin.Payments
open GalaxiaAin.Library

/-- Restricted/Blocked jurisdictions (where we don't have licenses). -/
def RESTRICTED_JURISDICTIONS : List Text := []

/-- Jurisdictions requiring specific licenses. -/
def LICENSE_REQUIRED_JURISDICTIONS : List (Text × Text) :=
  [(units "USA", units "money_transmitter_license"), (units "GBR", units "fca_registration")]

inductive JurisdictionStatus where
  | allowed | restricted | blocked | requires_license
  deriving DecidableEq

/-- What is decided about a country. -/
structure Detection where
  detected_country : Text
  jurisdiction_status : JurisdictionStatus
  geo_blocked : Bool
  license_required : Bool
  license_held : Bool
  deriving DecidableEq

def detection (detectedCountry : Text) : Detection :=
  let isRestricted := RESTRICTED_JURISDICTIONS.contains detectedCountry
  let requiresLicense := LICENSE_REQUIRED_JURISDICTIONS.any fun entry => entry.1 == detectedCountry
  let hasLicense := false
  let jurisdictionStatus : JurisdictionStatus :=
    if isRestricted then .blocked else if requiresLicense && !hasLicense then .requires_license else .allowed
  ⟨detectedCountry, jurisdictionStatus, jurisdictionStatus == .blocked || jurisdictionStatus == .requires_license,
    requiresLicense, hasLicense⟩

/-- Mock IP geolocation. -/
def geolocateIP (_ipAddress : Text) : Async backend Text := pure (units "USA")

/-- `INSERT INTO user_jurisdictions ... ON CONFLICT (user_id) DO UPDATE ... RETURNING *`. -/
def upsertJurisdiction (userId : UuidText) (d : Detection) : Stmt backend UserJurisdiction :=
  .statement fun db => do
    let key ← userId.read
    match db.user_jurisdictions.find? fun j => j.user_id == key with
    | some row =>
      let updated (j : UserJurisdiction) : UserJurisdiction :=
        { j with geo_blocked := some d.geo_blocked, detected_country := some d.detected_country }
      .ok (updated row, fun db => { db with
        user_jurisdictions := db.user_jurisdictions.map fun j => if j.user_id == key then updated j else j })
    | none =>
      if (db.users key).isNone then .error .foreignKeyViolation
      else
        let row : UserJurisdiction := ⟨key, some d.geo_blocked, some d.detected_country, none⟩
        .ok (row, fun db => { db with user_jurisdictions := db.user_jurisdictions ++ [row] })

/-- Detect user jurisdiction from IP address. -/
def detectJurisdiction (userId : UuidText) (ipAddress : Text) : Async backend UserJurisdiction := do
  let detectedCountry ← geolocateIP ipAddress
  Async.await .geoBlocked (.pool (upsertJurisdiction userId (detection detectedCountry)))

/-- `SELECT * FROM user_jurisdictions WHERE user_id = $1`. -/
def getUserJurisdiction (userId : UuidText) : Async backend (Option UserJurisdiction) :=
  Async.await .geoBlocked (.pool (selectGeoBlocked userId))

/-- `UPDATE user_jurisdictions SET declared_country ...`: columns that no check reads. -/
def updateDeclared (userId : UuidText) : Stmt backend Unit :=
  .statement fun _ => userId.read.map fun _ => ((), id)

def updateDeclaredJurisdiction (userId : UuidText) : Async backend Unit :=
  Async.await .geoBlocked (.pool (updateDeclared userId))

/-- `parseFloat(config.travel_rule_threshold || 3000)`, and 3000 without a row. -/
def selectThreshold (countryCode : Option Text) : Stmt backend ℚ :=
  .select fun _ db =>
    ((db.compliance_config.find? fun c => some c.jurisdiction == countryCode).bind (·.travel_rule_threshold)).elim 3000 parseFloat

/-- What GET /v1/compliance/jurisdiction answers with, or its status 404. -/
structure JurisdictionReport where
  detected_country : Option Text
  geo_blocked : Option Bool
  travel_rule_threshold : ℚ

/-- The row that is there, or the one that is detected for an address. -/
def resolveJurisdiction (userId : UuidText) (ipAddress : Text) : Option UserJurisdiction →
    Async backend (Option UserJurisdiction)
  | some jurisdiction => pure (some jurisdiction)
  | none =>
    if ipAddress = [] then pure none
    else do
      let jurisdiction ← detectJurisdiction userId ipAddress
      pure (some jurisdiction)

def reportJurisdiction : Option UserJurisdiction → Async backend (Option JurisdictionReport)
  | none => pure none
  | some jurisdiction => do
    let threshold ← Async.await .travelRule (.pool (selectThreshold jurisdiction.detected_country))
    pure (some ⟨jurisdiction.detected_country, jurisdiction.geo_blocked, threshold⟩)

def lookupJurisdiction (userId : UuidText) (ipAddress : Text) : Async backend (Option JurisdictionReport) := do
  let found ← getUserJurisdiction userId
  let jurisdiction ← resolveJurisdiction userId ipAddress found
  reportJurisdiction jurisdiction

/-- POST /v1/compliance/jurisdiction/declare; without a country its status is 400. -/
def declareJurisdiction (userId : UuidText) (country : Option Text) : Async backend Bool := do
  match truthy country with
  | none => pure false
  | some _ => do
    updateDeclaredJurisdiction userId
    pure true

/-! ### What a lookup decides -/

/-- Whatever the address, the country that is detected needs a license that is not held. -/
theorem detection_blocks (ipAddress : Text) (userId : UuidText) :
    detectJurisdiction userId ipAddress =
      Async.await Site.geoBlocked (.pool (upsertJurisdiction userId
        ⟨units "USA", .requires_license, true, true, false⟩)) := rfl

/-- Every user with a row is blocked. -/
def AllBlocked (db : PaymentDb) : Prop := ∀ j ∈ db.user_jurisdictions, j.geo_blocked = some true

/-- The user was looked up. -/
def Listed (key : Uuid) (db : PaymentDb) : Prop := ∃ j ∈ db.user_jurisdictions, j.user_id = key

/-- The changes after which users who were looked up still are, and are blocked if they were. -/
def blockFrame : Frame backend where
  kept s t := (AllBlocked s → AllBlocked t) ∧ ∀ key, Listed key s → Listed key t
  kept_refl _ := ⟨id, fun _ => id⟩
  kept_trans _ _ _ h h' := ⟨h'.1 ∘ h.1, fun key => h'.2 key ∘ h.2 key⟩

theorem blockFrame_of_eq {s t : PaymentDb} (h : t.user_jurisdictions = s.user_jurisdictions) : blockFrame.kept s t := by
  simp only [blockFrame, AllBlocked, Listed, h]
  exact ⟨id, fun _ => id⟩

theorem upsertJurisdiction_keeps (userId : UuidText) {d : Detection} (hd : d.geo_blocked = true) :
    (upsertJurisdiction userId d).Keeps blockFrame := by
  refine Stmt.keeps_statement fun s => Meets.bind meets_any fun key _ => ?_
  split
  · refine meets_ok.mpr fun t => ⟨fun hall j hj => ?_, fun other hother => ?_⟩
    · obtain ⟨j', hj', rfl⟩ := List.mem_map.mp hj
      split
      · exact congrArg some hd
      · exact hall j' hj'
    · obtain ⟨j', hj', hkey⟩ := hother
      refine ⟨_, List.mem_map_of_mem hj', ?_⟩
      split <;> exact hkey
  · split
    · exact meets_error.mpr trivial
    · refine meets_ok.mpr fun t => ⟨fun hall j hj => ?_, fun other hother => ?_⟩
      · rcases List.mem_append.mp hj with hj | hj
        · exact hall j hj
        · rw [List.mem_singleton.mp hj]
          exact congrArg some hd
      · obtain ⟨j', hj', hkey⟩ := hother
        exact ⟨j', List.mem_append_left _ hj', hkey⟩

/-! ### The payments leave the rows alone -/

section Payment
variable (turn : Turn) (request : PaymentRequest)

theorem blockFrame_settlesIn : SettlesIn blockFrame turn where
  transaction _ _ := Stmt.keeps_statement fun _ => meets_ok.mpr fun _ => blockFrame_of_eq rfl
  records _ _ := blockFrame_of_eq rfl
  logs _ _ := blockFrame_of_eq rfl

theorem updateUser_blockFrame (userId : UuidText) (set : User → Except PaymentFailure User) :
    (updateUser userId set).Keeps blockFrame := by
  refine Stmt.keeps_statement fun s => ?_
  cases userId.read with
  | error e => exact meets_error.mpr trivial
  | ok key =>
    dsimp only
    cases s.users key with
    | none => exact meets_ok.mpr fun t => blockFrame.kept_refl t
    | some user => exact Meets.map meets_any fun _ _ _ => blockFrame_of_eq rfl

theorem updateNode_blockFrame (nodeId : Option UuidText) (earnings : Node → Except PaymentFailure Int) :
    (updateNode nodeId earnings).Keeps blockFrame := by
  refine Stmt.keeps_statement fun s => ?_
  rcases readOptional nodeId with e | _ | key
  · exact meets_error.mpr trivial
  · exact meets_ok.mpr fun t => blockFrame.kept_refl t
  · dsimp only
    cases s.nodes key with
    | none => exact meets_ok.mpr fun t => blockFrame.kept_refl t
    | some node => exact Meets.map meets_any fun _ _ _ => blockFrame_of_eq rfl

theorem insertUser_blockFrame (userId : UuidText) (tokenBalance : ℚ) (walletAddress : Option Text) :
    (insertUser userId tokenBalance walletAddress).Keeps blockFrame := by
  refine Stmt.keeps_statement fun s => Meets.bind meets_any fun _ _ => Meets.bind meets_any fun _ _ => ?_
  split
  · exact meets_error.mpr trivial
  · exact meets_ok.mpr fun _ => blockFrame_of_eq rfl

theorem insertTransaction_blockFrame : (insertTransaction turn request).Keeps blockFrame := by
  refine Stmt.keeps_statement fun s => Meets.bind meets_any fun _ _ => Meets.bind meets_any fun _ _ =>
    Meets.bind meets_any fun _ _ => Meets.bind meets_any fun _ _ => ?_
  split
  · exact meets_error.mpr trivial
  · split
    · exact meets_ok.mpr fun _ => blockFrame_of_eq rfl
    · exact meets_error.mpr trivial

theorem complianceChecks_keeps {F : Frame backend} : (complianceChecks turn request).Keeps F 1 := by
  have hprofile (site : Site) :
      (Async.await site (.pool (selectProfile (some request.user_id)))).Keeps F 1 :=
    Async.keeps_pool (Stmt.keeps_selection F _) site
  have hrefuse (condition : Prop) [Decidable condition] (failure : PaymentFailure) :
      (onlyIf condition (throw failure : Async backend Unit)).Keeps F 1 := Async.keeps_onlyIf (Async.keeps_throw _)
  apply Async.keeps_bind
  · apply Async.keeps_onlyIf
    apply Async.keeps_bind
    · exact Async.keeps_bind (Async.keeps_pool (Stmt.keeps_selection F _) _) fun _ => Async.keeps_pure _
    · exact fun _ => hrefuse _ _
  · intro _
    apply Async.keeps_onlyIf
    apply Async.keeps_bind (Async.keeps_bind (hprofile _) fun _ => Async.keeps_pure _)
    intro kycRequired
    apply Async.keeps_bind
    · apply Async.keeps_onlyIf
      exact Async.keeps_bind (hprofile _) fun _ => Async.keeps_throw _
    · intro _
      apply Async.keeps_bind (Async.keeps_bind (hprofile _) fun _ => Async.keeps_pure _)
      intro limits
      apply Async.keeps_bind (hrefuse _ _)
      intro _
      apply Async.keeps_bind (Async.keeps_query (Nat.le_refl 1) (Stmt.keeps_selection F _) _)
      exact fun _ => hrefuse _ _

theorem checkGXABalance_keeps {F : Frame backend} (amount : ℚ) (wallet : Option Text) :
    (checkGXABalance amount wallet).Keeps F 1 := by
  cases wallet with
  | none => exact Async.keeps_pure _
  | some address =>
    apply Async.keeps_handle
    · apply Async.keeps_bind
      · exact Async.keeps_handle (Async.keeps_remote _ _) fun _ => Async.keeps_pure _
      · intro balance
        exact Async.keeps_bind (Async.keeps_ofExcept _) fun _ => Async.keeps_onlyIf (Async.keeps_throw _)
    · exact fun _ => Async.keeps_pure _

theorem applyPayment_keeps (row : Option User) : (applyPayment request row).Keeps blockFrame 1 := by
  have hupdate (set : User → Except PaymentFailure User) :
      (Async.query Site.updateUser (updateUser request.user_id set)).Keeps blockFrame 1 :=
    Async.keeps_query (Nat.le_refl 1) (updateUser_blockFrame _ set) _
  have hdeposit (row : Option User) : (deposit request row).Keeps blockFrame 1 := by
    apply Async.keeps_bind (checkGXABalance_keeps _ _)
    intro _
    cases row with
    | none => exact Async.keeps_query (Nat.le_refl 1) (insertUser_blockFrame _ _ _) _
    | some user => exact hupdate _
  cases row with
  | none =>
    simp only [applyPayment]
    split
    · exact hdeposit none
    · exact Async.keeps_throw _
  | some user =>
    simp only [applyPayment]
    cases request.transaction_type with
    | deposit => exact hdeposit (some user)
    | refund => exact hupdate _
    | payment => exact Async.keeps_bind (Async.keeps_onlyIf (Async.keeps_throw _)) fun _ => hupdate _
    | payout =>
      apply Async.keeps_bind (Async.keeps_query (Nat.le_refl 1) (Stmt.keeps_selection _ _) _)
      intro node
      cases node with
      | none => exact Async.keeps_throw _
      | some node => exact Async.keeps_query (Nat.le_refl 1) (updateNode_blockFrame _ _) _

theorem processPayment_keeps : (processPayment turn request).Keeps blockFrame 0 := by
  apply Async.keeps_withClient
  apply Async.keeps_orRollback (Nat.le_refl 1)
  apply Async.keeps_bind (complianceChecks_keeps turn request)
  intro _
  apply Async.keeps_bind (Async.keeps_begin (Nat.le_refl 1) _)
  intro _
  apply Async.keeps_bind (Async.keeps_query (Nat.le_refl 1) (Stmt.keeps_selection _ _) _)
  intro row
  apply Async.keeps_bind (applyPayment_keeps request row)
  intro _
  apply Async.keeps_bind (Async.keeps_query (Nat.le_refl 1) (insertTransaction_blockFrame turn request) _)
  intro _
  apply Async.keeps_bind (Async.keeps_commit (Nat.le_refl 1) _)
  intro _
  refine Async.keeps_bind (fun out => ?_) fun _ => Async.keeps_pure _
  exact Async.confined_mono (settle_settles (blockFrame_settlesIn turn) request out) fun _ _ _ => trivial

end Payment

/-! ### Interleavings -/

inductive JurisdictionCall where
  | lookup (userId : UuidText) (ipAddress : Text)
  | declare (userId : UuidText) (country : Option Text)
  | process (turn : Turn) (request : PaymentRequest)

/-- The handler of a call; a payment returns its id. -/
def JurisdictionCall.program : JurisdictionCall → Async backend (Option Uuid)
  | .lookup userId ipAddress => do
    let _ ← lookupJurisdiction userId ipAddress
    pure none
  | .declare userId country => do
    let _ ← declareJurisdiction userId country
    pure none
  | .process turn request => do
    let id ← processPayment turn request
    pure (some id)

theorem lookupJurisdiction_keeps (userId : UuidText) (ipAddress : Text) :
    (lookupJurisdiction userId ipAddress).Keeps blockFrame 0 := by
  apply Async.keeps_bind (Async.keeps_pool (Stmt.keeps_selection _ _) _)
  intro found
  apply Async.keeps_bind
  · cases found with
    | some j => exact Async.keeps_pure _
    | none =>
      simp only [resolveJurisdiction]
      split
      · exact Async.keeps_pure _
      · rw [detection_blocks]
        exact Async.keeps_bind (Async.keeps_pool (upsertJurisdiction_keeps userId rfl) _) fun _ => Async.keeps_pure _
  · intro jurisdiction
    cases jurisdiction with
    | none => exact Async.keeps_pure _
    | some j => exact Async.keeps_bind (Async.keeps_pool (Stmt.keeps_select _ _) _) fun _ => Async.keeps_pure _

theorem declareJurisdiction_keeps (userId : UuidText) (country : Option Text) :
    (declareJurisdiction userId country).Keeps blockFrame 0 := by
  have hupdate : (updateDeclared userId).Keeps blockFrame :=
    Stmt.keeps_statement fun _ => Meets.map meets_any fun _ _ t => blockFrame.kept_refl t
  unfold declareJurisdiction
  cases truthy country with
  | none => exact Async.keeps_pure _
  | some text => exact Async.keeps_bind (Async.keeps_pool hupdate _) fun _ => Async.keeps_pure _

theorem JurisdictionCall.keeps (call : JurisdictionCall) : call.program.Keeps blockFrame 0 := by
  cases call with
  | lookup userId ipAddress => exact Async.keeps_bind (lookupJurisdiction_keeps userId ipAddress) fun _ => Async.keeps_pure _
  | declare userId country => exact Async.keeps_bind (declareJurisdiction_keeps userId country) fun _ => Async.keeps_pure _
  | process turn request => exact Async.keeps_bind (processPayment_keeps turn request) fun _ => Async.keeps_pure _

/-- The check of a user who was looked up stops the payment, whatever the others do meanwhile. -/
theorem processPayment_refused {policy : Policy backend} {turn : Turn} {request : PaymentRequest} {key : Uuid}
    (huser : request.user_id = .uuid key) {db : PaymentDb} (hall : AllBlocked db) (hlisted : Listed key db) :
    (processPayment turn request).safe policy blockFrame.protocol (fun r _ _ => ∀ id, r ≠ .ok id) db .empty := by
  have hselect (t : PaymentDb) (hall : AllBlocked t) (hlisted : Listed key t) :
      ∃ j, (selectGeoBlocked request.user_id).reply () t = .ok (some j) ∧ j.geo_blocked = some true := by
    obtain ⟨j, hj, hkey⟩ := hlisted
    obtain ⟨row, hrow⟩ := Option.isSome_iff_exists.mp (List.find?_isSome.mpr ⟨j, hj, by simpa using hkey⟩ :
      (t.user_jurisdictions.find? fun j => j.user_id == key).isSome = true)
    refine ⟨row, ?_, hall row (List.mem_of_find?_eq_some hrow)⟩
    rw [huser, ← hrow]
    rfl
  -- An error is rolled back and raised again.
  have hback (e : PaymentFailure) (t : PaymentDb) (l : Local backend) :
      (do Async.await .rollback .rollback; .raise e : Async backend Uuid).safe policy blockFrame.protocol
        (fun r _ _ => ∀ id, r ≠ .ok id) t l := by
    rw [Async.safe_bind, Async.safe_await]
    refine fun u hu => ⟨trivial, fun a _ => ?_⟩
    cases a with
    | done reply => exact ⟨blockFrame.kept_refl u, fun id h => by cases h⟩
    | fault f => exact ⟨blockFrame.kept_refl u, fun id h => by cases h⟩
  unfold processPayment Async.withClient
  rw [Async.safe_bind, Async.safe_await]
  refine fun t ht => ⟨trivial, fun a _ => ?_⟩
  cases a with
  | fault f => exact ⟨blockFrame.kept_refl t, fun id h => by cases h⟩
  | done reply =>
    refine ⟨blockFrame.kept_refl t, ?_⟩
    change (Async.releasing _).safe policy blockFrame.protocol _ t _
    rw [Async.safe_releasing, Async.orRollback, Async.safe_handle, Async.safe_bind, complianceChecks, Async.safe_bind, onlyIf,
      if_pos (by rw [huser]; exact UuidText.noConfusion), geoCheck, Async.safe_bind, isGeoBlocked, Async.safe_bind,
      Async.safe_await]
    refine fun u hu => ⟨trivial, fun a _ => ?_⟩
    have hkept := blockFrame.kept_trans _ _ _ ht hu
    obtain ⟨j, hj, hblocked⟩ := hselect u (hkept.1 hall) (hkept.2 key hlisted)
    cases a with
    | fault f => exact ⟨blockFrame.kept_refl u, hback _ _ _⟩
    | done reply =>
      refine ⟨Stmt.keeps_selection blockFrame _ () u u, ?_⟩
      simp only [Call.exec, Call.serve, hj]
      change Async.nextSafe _ _ _ _ (Except.ok (Option.elim (some j) false fun j => j.geo_blocked == some true)) _ _
      rw [Option.elim_some, hblocked]
      exact hback _ _ _

/-- Over every interleaving from tables in which whoever has a jurisdiction is blocked
(none has one at first), whoever has one is blocked. A payment that takes its first step
after its user was looked up never succeeds. -/
theorem looked_up_users_never_pay {ι : Type} [DecidableEq ι] {policy : Policy backend} (calls : ι → JurisdictionCall)
    {db : PaymentDb} (hall : AllBlocked db) (before : List (ι × Answer backend)) {after : List (ι × Answer backend)} {key : Uuid}
    (hruns : (Config.mk db fun i => Thread.start (calls i).program).Runs policy (before ++ after))
    (hlisted : Listed key ((Config.mk db fun i => Thread.start (calls i).program).after before).store) :
    AllBlocked ((Config.mk db fun i => Thread.start (calls i).program).after (before ++ after)).store ∧
      ∀ i turn request, calls i = .process turn request → request.user_id = .uuid key → (∀ step ∈ before, step.1 ≠ i) →
        ∀ id, (((Config.mk db fun i => Thread.start (calls i).program).after (before ++ after)).thread i).prog.result ≠
          some (.ok id) := by
  have hconfined (i : ι) : (calls i).program.Confined blockFrame (fun _ => True) (fun _ _ => True) 0 0 [] :=
    (calls i).keeps []
  obtain ⟨hbefore, hafter⟩ := hruns.append
  obtain ⟨hkept, hmid⟩ := Frame.after (Frame.started hconfined db) hbefore
  have hmidAll := hkept.1 hall
  rw [Config.after_append]
  refine ⟨(Frame.after hmid hafter).1.1 hmidAll, fun i turn request hcall huser hfresh id hresult => ?_⟩
  -- From here on the payment is held to an outcome, and the others to the frame only.
  have hpost : ((Config.mk db fun i => Thread.start (calls i).program).after before).Protected policy
      (fun _ => blockFrame.protocol) fun j r _ _ => j = i → ∀ id, r ≠ .ok id := by
    refine ⟨hmid.settled, fun j => ?_, hmid.apart⟩
    by_cases hj : j = i
    · subst hj
      rw [Config.after_untouched hfresh]
      refine Async.safe_settle ?_
      rw [hcall, JurisdictionCall.program, Async.safe_bind]
      refine Async.safe_mono (processPayment_refused huser hmidAll hlisted) fun r s l hr => ?_
      cases r with
      | ok paid => exact absurd rfl (hr paid)
      | error e => exact fun _ id h => by cases h
    · exact Async.safe_mono (hmid.safe j) fun r s l _ hji => absurd hji hj
  have hend := hpost.after Frame.compatible (fun _ _ _ _ _ h _ => h) after hafter
  exact hend.outcome i hresult rfl id rfl

/-- A user is looked up, and then pays. -/
theorem looked_up_users_never_pay_example :
    let db : PaymentDb := ⟨fun key => if key = 1 then some ⟨none, 900000000, 0⟩ else none, fun _ => none, [], [], [], [], [], [],
      [], [], fun _ => {}, [], [], false⟩
    let calls (b : Bool) : JurisdictionCall :=
      if b then .lookup (.uuid 1) (units "10.0.0.1") else .process ⟨7, 0, 0, none⟩ ⟨.uuid 1, 5, none, none, .refund, none⟩
    let answer : Answer backend := .done Remote.usual
    ∀ id, (((Config.mk db fun i => Thread.start (calls i).program).after
      ([(true, answer), (true, answer)] ++ [(false, answer), (false, answer), (false, answer)])).thread false).prog.result ≠
        some (.ok id) := by
  intro db calls answer
  have hall : AllBlocked db := fun j hj => by cases hj
  have hruns : (Config.mk db fun i => Thread.start (calls i).program).Runs (fun _ _ _ _ => True)
      ([(true, answer), (true, answer)] ++ [(false, answer), (false, answer), (false, answer)]) := by decide
  have hlisted : Listed 1 ((Config.mk db fun i => Thread.start (calls i).program).after
      [(true, answer), (true, answer)]).store :=
    ⟨⟨1, some true, some (units "USA"), none⟩, List.mem_singleton.mpr rfl, rfl⟩
  apply (looked_up_users_never_pay calls hall _ hruns hlisted).2 false _ _ rfl rfl
  · intro step hstep
    rcases List.mem_cons.mp hstep with rfl | hstep
    · exact Bool.noConfusion
    · rw [List.mem_singleton.mp hstep]
      exact Bool.noConfusion

end GalaxiaAin.Payments
