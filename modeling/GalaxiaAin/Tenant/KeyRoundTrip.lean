import GalaxiaAin.Tenant.Credentials

/-! The round trip of an API key: issued by `createApiCredential`, stored by its hash, and
presented to `requireAuth` in a later state. The statements run on the pool, where no
organisation is set, so the row-level policies decide whether there is a trip at all. -/
namespace GalaxiaAin.Tenant.Credentials
open GalaxiaAin.Library GalaxiaAin.Tenant

/-- Every call is served. -/
def served : CredentialSite → Answer credentialBackend := fun _ => .done credentialBackend.usual

/-- What happens to the tables after a key was issued, statement by statement. -/
inductive CredentialEvent where
  | create (draw : Draw) (input : CredentialInput)
  | revoke (organizationId credentialId : Uuid)
  | touch (credentialId : Uuid)
  | organization (o : Organization)
  | status (organizationId : Uuid) (status : Text)
  | time (elapsed : Nat)

def CredentialDb.step (rt : Runtime) (db : CredentialDb) : CredentialEvent → CredentialDb
  | .create draw input => (insertCredential rt draw input).effect {} db db
  | .revoke organizationId credentialId => revoke rt {} organizationId credentialId db
  | .touch credentialId => touch rt {} credentialId db
  | .organization o => db.insertOrganization o
  | .status organizationId status => db.setStatus organizationId status
  | .time elapsed => { db with now := db.now + elapsed }

def CredentialDb.after (rt : Runtime) (db : CredentialDb) (events : List CredentialEvent) : CredentialDb :=
  events.foldl (CredentialDb.step rt) db

/-- The credential is not revoked and not expired, and its organisation is active. -/
def Live (db : CredentialDb) (id : Uuid) : Prop :=
  ∃ c ∈ db.api_credentials, c.id = id ∧ c.is_active = true ∧ c.revoked_at = none ∧ unexpired db.now c = true ∧
    ∃ o ∈ db.organizations, o.id = c.organization_id ∧ o.status = units "active"

/-- The call succeeds, and in every later state in which the credential is live every
request that presents the key, without a bearer token, is accepted as the organisation
with the granted scopes. -/
def CredentialWorks (rt : Runtime) (env : AuthEnv) (db : CredentialDb) (draw : Draw) (input : CredentialInput) : Prop :=
  ∃ issued db', (createApiCredential rt draw input).follow served db Local.empty = (.ok issued, db', Local.empty) ∧
    ∀ events, Live (db'.after rt events) issued.id →
      ∀ requestId headers, bearerToken headers = none → headers.apiKey = some issued.plaintextKey →
        ∃ ctx db'', (requireAuth rt env requestId headers).follow served (db'.after rt events) Local.empty =
            (.ok (.next ctx), db'', Local.empty) ∧
          rt.uuid input.organizationId = some ctx.organizationId ∧ ctx.scopes = input.scopes

/-! ### Under the policies -/

/-- On the pool a policy admits no row. -/
theorem admits_pool {rt : Runtime} (h : rt.rowSecurity = true) (organization_id : Option Uuid) :
    ({} : Settings).admits rt organization_id = false := by
  cases organization_id <;> simp [Settings.admits, Settings.bootstrap, Settings.currentOrganizationId, h, units]

/-- Without row-level security it admits every row. -/
theorem admits_owner {rt : Runtime} (h : rt.rowSecurity = false) (c : Settings) (organization_id : Option Uuid) :
    c.admits rt organization_id = true := by
  simp [Settings.admits, h]

theorem insertCredential_run {rt : Runtime} {draw : Draw} {input : CredentialInput} {db : CredentialDb}
    {row : ApiCredential} (hrow : credentialRow rt draw db.now input = .ok row) (c : Settings) :
    (insertCredential rt draw input).run c db =
      if c.admits rt (some row.organization_id) then
        if db.Accepts row then .ok (row.id, fun db => db.insert row) else .error (db.refusal row)
      else .error .rowSecurityViolation := by
  simp only [insertCredential, hrow]
  rfl

/-- Under the policies no credential is ever issued, whatever else fails. -/
theorem create_denied {rt : Runtime} (h : rt.rowSecurity = true) (draw : Draw) (input : CredentialInput)
    (answer : CredentialSite → Answer credentialBackend) (db : CredentialDb) :
    ∃ e, (createApiCredential rt draw input).follow answer db Local.empty = (.error e, db, Local.empty) := by
  have hstmt : ∃ e, (insertCredential rt draw input).run {} db = .error e := by
    cases hrow : credentialRow rt draw db.now input with
    | error e => exact ⟨e, by simp only [insertCredential, hrow]; rfl⟩
    | ok row => exact ⟨.rowSecurityViolation, by rw [insertCredential_run hrow, admits_pool h]; rfl⟩
  obtain ⟨e, he⟩ := hstmt
  cases hanswer : answer .insertCredential with
  | fault f => exact ⟨.other f, by simp [createApiCredential, hanswer, Call.exec, Call.failed]⟩
  | done reply =>
    refine ⟨e, ?_⟩
    simp [createApiCredential, hanswer, Call.exec, Call.serve, Stmt.reply_error he, Stmt.effect_error he]

/-- Under the policies no key is found, whatever the tables hold. -/
theorem matching_denied {rt : Runtime} (h : rt.rowSecurity = true) (keyHash : Text) (db : CredentialDb) :
    matching rt {} keyHash db = [] := by
  simp [matching, admits_pool h]

/-- Under the policies a key yields nothing. -/
theorem key_denied {rt : Runtime} (h : rt.rowSecurity = true) (requestId rawKey : Text) (db : CredentialDb) :
    (authFromApiCredential rt requestId rawKey).follow served db Local.empty = (.ok none, db, Local.empty) := by
  simp [authFromApiCredential, served, Call.exec, Call.serve, matching_denied h]

/-! ### Without the policies -/

/-- What a credential keeps whatever happens to it. -/
def ApiCredential.issue (c : ApiCredential) : ApiCredential :=
  { c with last_used_at := none, revoked_at := none, is_active := true }

/-- The credential of that issue is in the table. -/
def Holds (row : ApiCredential) (db : CredentialDb) : Prop := ∃ c ∈ db.api_credentials, c.issue = row.issue

theorem Holds.insert {row row' : ApiCredential} {db : CredentialDb} (h : Holds row db) : Holds row (db.insert row') := by
  unfold CredentialDb.insert
  split
  · obtain ⟨c, hc, hi⟩ := h
    exact ⟨c, List.mem_append_left _ hc, hi⟩
  · exact h

theorem Holds.map {row : ApiCredential} {db db' : CredentialDb} (h : Holds row db) (f : ApiCredential → ApiCredential)
    (hmap : db'.api_credentials = db.api_credentials.map f) (hf : ∀ c, (f c).issue = c.issue) : Holds row db' := by
  obtain ⟨c, hc, hi⟩ := h
  exact ⟨f c, hmap ▸ List.mem_map_of_mem hc, (hf c).trans hi⟩

/-- No event loses a credential or changes what was issued. -/
theorem Holds.step {rt : Runtime} {row : ApiCredential} {db : CredentialDb} (h : Holds row db) (e : CredentialEvent) :
    Holds row (db.step rt e) := by
  cases e with
  | create draw input =>
    simp only [CredentialDb.step, Stmt.effect]
    cases hrow : credentialRow rt draw db.now input with
    | error e =>
      have : (insertCredential rt draw input).run {} db = .error e := by simp only [insertCredential, hrow]; rfl
      rw [this]
      exact h
    | ok row' =>
      rw [insertCredential_run hrow]
      split
      · split
        · exact h.insert
        · exact h
      · exact h
  | revoke organizationId credentialId => exact h.map _ rfl fun c => by split <;> rfl
  | touch credentialId => exact h.map _ rfl fun c => by split <;> rfl
  | organization o =>
    simp only [CredentialDb.step, CredentialDb.insertOrganization]
    split <;> exact h
  | status organizationId status => exact h
  | time elapsed => exact h

theorem Holds.after (rt : Runtime) {row : ApiCredential} {db : CredentialDb} (h : Holds row db)
    (events : List CredentialEvent) : Holds row (db.after rt events) := by
  induction events generalizing db with
  | nil => exact h
  | cons e events ih => exact ih (h.step e)

/-- A key finds the credential of its hash and the organisation of that credential. -/
theorem matching_owner {rt : Runtime} (h : rt.rowSecurity = false) {db : CredentialDb} {c : ApiCredential}
    (hc : c ∈ db.api_credentials) (hactive : c.is_active = true) (hrevoked : c.revoked_at = none) {o : Organization}
    (ho : o ∈ db.organizations) (hid : o.id = c.organization_id) :
    ∃ rest, matching rt {} c.key_hash db = (c, o.status) :: rest := by
  have hmem : (c, o.status) ∈ matching rt {} c.key_hash db := by
    simp only [matching, List.mem_flatMap, List.mem_filter, List.mem_map]
    refine ⟨c, ⟨hc, ?_⟩, o, ⟨ho, ?_⟩, rfl⟩
    · simp [admits_owner h, hactive, hrevoked]
    · simp [admits_owner h, hid]
  have hall : ∀ x ∈ matching rt {} c.key_hash db, x = (c, o.status) := by
    intro x hx
    simp only [matching, List.mem_flatMap, List.mem_filter, List.mem_map, Bool.and_eq_true, beq_iff_eq] at hx
    obtain ⟨c', ⟨hc', ⟨⟨-, hhash⟩, -⟩, -⟩, o', ⟨ho', -, hid'⟩, rfl⟩ := hx
    have hcc : c' = c := List.inj_on_of_nodup_map db.hash_unique hc' hc hhash
    subst hcc
    have hoo : o' = o := List.inj_on_of_nodup_map db.organization_unique ho' ho (hid'.trans hid.symm)
    rw [hoo]
  cases hm : matching rt {} c.key_hash db with
  | nil => rw [hm] at hmem; cases hmem
  | cons x rest => exact ⟨rest, by rw [hall x (hm ▸ List.mem_cons_self)]⟩

/-- The key of a live credential is accepted. -/
theorem key_accepted {rt : Runtime} (h : rt.rowSecurity = false) {db : CredentialDb} {c : ApiCredential}
    (hc : c ∈ db.api_credentials) (hlive : Live db c.id) {key : Text} (hkey : c.key_hash = rt.sha256 key)
    (requestId : Text) : ∃ ctx db', (authFromApiCredential rt requestId key).follow served db Local.empty =
      (.ok (some ctx), db', Local.empty) ∧ ctx.organizationId = c.organization_id ∧ ctx.scopes = c.scopes := by
  obtain ⟨c', hc', hid, hactive, hrevoked, hexpires, o, ho, hoid, hstatus⟩ := hlive
  have hcc : c' = c := List.inj_on_of_nodup_map db.id_unique hc' hc hid
  subst hcc
  obtain ⟨rest, hm⟩ := matching_owner h hc hactive hrevoked ho hoid
  refine ⟨⟨c'.created_by.getD c'.id, c'.organization_id, units "API_SERVICE_ACCOUNT", c'.project_id, some c'.id,
    c'.scopes, requestId⟩, touch rt {} c'.id db, ?_, rfl, rfl⟩
  rw [hkey] at hm
  simp [authFromApiCredential, served, Call.exec, Call.serve, hm, hexpires, hstatus]

/-- A request that presents a key is answered by what the key yields. -/
theorem requireAuth_key {rt : Runtime} (env : AuthEnv) {requestId key : Text} {headers : AuthHeaders} {db db' : CredentialDb}
    {ctx : AuthContext} (hbearer : bearerToken headers = none) (happ : headers.apiKey = some key) (hkey : key ≠ [])
    (h : (authFromApiCredential rt requestId key).follow served db Local.empty = (.ok (some ctx), db', Local.empty)) :
    (requireAuth rt env requestId headers).follow served db Local.empty = (.ok (.next ctx), db', Local.empty) := by
  have hpresent : present headers.apiKey = some key := by simp [present, happ, hkey]
  simp [requireAuth, hbearer, hpresent, h]

/-- Without the policies an accepted row is issued. -/
theorem create_accepted {rt : Runtime} (h : rt.rowSecurity = false) {draw : Draw} {input : CredentialInput}
    {db : CredentialDb} {row : ApiCredential} (hrow : credentialRow rt draw db.now input = .ok row) (hacc : db.Accepts row) :
    (createApiCredential rt draw input).follow served db Local.empty =
      (.ok ⟨row.id, draw.plaintextKey, draw.keyPrefix⟩, db.insert row, Local.empty) := by
  have hrun : (insertCredential rt draw input).run {} db = .ok (row.id, fun db => db.insert row) := by
    rw [insertCredential_run hrow, admits_owner h, if_pos rfl, if_pos hacc]
  simp [createApiCredential, served, Call.exec, Call.serve, Stmt.reply_ok hrun, Stmt.effect_ok hrun]

/-- What the code makes of the input. -/
theorem credentialRow_spec {rt : Runtime} {draw : Draw} {now : Nat} {input : CredentialInput} {row : ApiCredential}
    (h : credentialRow rt draw now input = .ok row) :
    rt.uuid input.organizationId = some row.organization_id ∧ row.scopes = input.scopes ∧
      row.key_hash = rt.sha256 draw.plaintextKey := by
  unfold credentialRow at h
  simp only [bind, Except.bind, pure, Except.pure] at h
  split at h
  · cases h
  · rename_i org horg
    split at h
    · cases h
    · split at h
      · cases h
      · cases h
        refine ⟨?_, rfl, rfl⟩
        unfold uuidText at horg
        split at horg <;> cases horg
        assumption

/-- When issued credentials work: never where the policies are in force, and always for a
role they do not bind. -/
theorem issued_credentials (rt : Runtime) (env : AuthEnv) (db : CredentialDb) (draw : Draw) (input : CredentialInput) :
    (rt.rowSecurity = true → ¬ CredentialWorks rt env db draw input) ∧
    (rt.rowSecurity = false → ∀ row, credentialRow rt draw db.now input = .ok row → db.Accepts row →
      CredentialWorks rt env db draw input) := by
  constructor
  · rintro h ⟨issued, db', hcreate, -⟩
    obtain ⟨e, he⟩ := create_denied h draw input served db
    rw [he] at hcreate
    cases hcreate
  · intro h row hrow hacc
    obtain ⟨horg, hscopes, hhash⟩ := credentialRow_spec hrow
    refine ⟨_, _, create_accepted h hrow hacc, fun events hlive requestId headers hbearer happ => ?_⟩
    have hold : Holds row (db.insert row) := by
      rw [CredentialDb.insert, dif_pos hacc]
      exact ⟨row, List.mem_append_right _ List.mem_cons_self, rfl⟩
    obtain ⟨c, hc, hissue⟩ := hold.after rt events
    have hid : c.id = row.id := show c.issue.id = row.issue.id by rw [hissue]
    have hkey : c.key_hash = row.key_hash := show c.issue.key_hash = row.issue.key_hash by rw [hissue]
    have horganization : c.organization_id = row.organization_id :=
      show c.issue.organization_id = row.issue.organization_id by rw [hissue]
    have hgranted : c.scopes = row.scopes := show c.issue.scopes = row.issue.scopes by rw [hissue]
    obtain ⟨ctx, db'', hauth, hctx, hctxScopes⟩ := key_accepted h hc (hid ▸ hlive) (hkey.trans hhash) requestId
    have hne : draw.plaintextKey ≠ [] := by simp [Draw.plaintextKey, Draw.keyPrefix, units]
    refine ⟨ctx, db'', requireAuth_key env hbearer happ hne hauth, ?_, ?_⟩
    · rw [hctx, horganization, horg]
    · rw [hctxScopes, hgranted, hscopes]

/-- One active organisation without credentials. -/
def pilotCredentialDb : CredentialDb := ⟨0, [pilotOrg], [], [], by decide, by decide, by decide⟩

def pilotDraw : Draw :=
  ⟨units "0f8fad5b-d9cb-469f-a165-70867728950e", units "00c0ffee", units "5ec2e7"⟩

def pilotInput : CredentialInput :=
  ⟨pilotOrg.id, none, units "Free tier default key", [units "inference:execute"],
    units "16fd2706-8baf-433b-82eb-8c7fada847da", none⟩

def pilotEnv : AuthEnv := ⟨true, false, fun _ => pure none⟩

/-- An active organisation gets no credential where the policies bind the role. -/
theorem issued_credentials_pilot_denied :
    pilotOrg ∈ pilotCredentialDb.organizations ∧ pilotOrg.status = units "active" ∧
      ¬ CredentialWorks (Runtime.pilot true id) pilotEnv pilotCredentialDb pilotDraw pilotInput := by
  refine ⟨List.mem_cons_self, rfl, ?_⟩
  rintro ⟨issued, db', hcreate, -⟩
  obtain ⟨e, he⟩ := create_denied (show (Runtime.pilot true id).rowSecurity = true from rfl) pilotDraw pilotInput served pilotCredentialDb
  rw [he] at hcreate
  cases hcreate

/-- The same organisation under either role. -/
theorem issued_credentials_pilot :
    ¬ CredentialWorks (Runtime.pilot true id) pilotEnv pilotCredentialDb pilotDraw pilotInput ∧
      CredentialWorks (Runtime.pilot false id) pilotEnv pilotCredentialDb pilotDraw pilotInput := by
  constructor
  · exact (issued_credentials (Runtime.pilot true id) pilotEnv pilotCredentialDb pilotDraw pilotInput).1 rfl
  · exact (issued_credentials (Runtime.pilot false id) pilotEnv pilotCredentialDb pilotDraw pilotInput).2 rfl _ rfl
      (by decide +kernel)

end GalaxiaAin.Tenant.Credentials
