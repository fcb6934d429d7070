import GalaxiaAin.Library.Machine
import GalaxiaAin.Library.Words
import GalaxiaAin.Tenant.Context
import GalaxiaAin.Tenant.KeyRoundTrip
import GalaxiaAin.Tenant.Services

/-! Free signup: the slug of a business name, and the route that creates an organisation, its
owner, its first API key and an audit event in a transaction and two statements on the pool.
The rate limiter is modelled apart; here a request passes it or not. -/
namespace GalaxiaAin.Tenant.Signup
open GalaxiaAin.Library GalaxiaAin.Tenant

/-! ### Slugs -/

def alphanumeric (c : UInt16) : Bool := (97 ≤ c && c ≤ 122) || (48 ≤ c && c ≤ 57)

def dash : UInt16 := 45

/-- `toLowerCase`, and the three replacements. -/
def slugify (toLowerCase : Text → Text) (input : Text) : Text :=
  (dropEnd dash (dropFront dash (squeeze alphanumeric dash false (toLowerCase input)))).take 48

/-- The runs of letters and digits of a name, with a dash between them. -/
def dashed (t : Text) : Text := [dash].intercalate (words alphanumeric t)

theorem alphanumeric_dash : alphanumeric dash = false := by decide

theorem slugify_eq (toLowerCase : Text → Text) (input : Text) :
    slugify toLowerCase input = (dashed (toLowerCase input)).take 48 := by
  rw [slugify, dropEnd_dropFront_squeeze alphanumeric_dash]
  rfl

/-- A slug is what its name is squeezed to from its first letter or digit on, up to some unit. -/
theorem slugify_eq_take (toLowerCase : Text → Text) (input : Text) :
    ∃ n, slugify toLowerCase input = (squeeze alphanumeric dash true (toLowerCase input)).take n := by
  obtain ⟨n, hn⟩ := dropEnd_eq_take dash (squeeze alphanumeric dash true (toLowerCase input))
  refine ⟨min 48 n, ?_⟩
  rw [slugify_eq, dashed, ← dropEnd_squeeze alphanumeric_dash, hn, List.take_take]

/-- A slug is the words of the name in small letters with a dash between two, up to its 48th
unit: only letters, digits and dashes. A slug of a slug is the same, but for a dash that it was
cut at. -/
theorem slugify_exact {toLowerCase : Text → Text}
    (hlower : ∀ t : Text, (∀ c ∈ t, alphanumeric c = true ∨ c = dash) → toLowerCase t = t) (input : Text) :
    slugify toLowerCase input = (dashed (toLowerCase input)).take 48 ∧
      (∀ c ∈ slugify toLowerCase input, alphanumeric c = true ∨ c = dash) ∧
      slugify toLowerCase (slugify toLowerCase input) = dropEnd dash (slugify toLowerCase input) := by
  obtain ⟨n, hslug⟩ := slugify_eq_take toLowerCase input
  have hunits : ∀ c ∈ slugify toLowerCase input, alphanumeric c = true ∨ c = dash := by
    intro c hc
    rw [hslug] at hc
    exact mem_squeeze (List.mem_of_mem_take hc)
  refine ⟨slugify_eq toLowerCase input, hunits, ?_⟩
  have hlength : (dropEnd dash (slugify toLowerCase input)).length ≤ 48 := by
    obtain ⟨m, hm⟩ := dropEnd_eq_take dash (slugify toLowerCase input)
    rw [hm, slugify_eq, List.take_take]
    exact (List.length_take_le _ _).trans (min_le_right _ _)
  conv_lhs => rw [slugify, hlower _ hunits]
  rw [hslug, squeeze_kept alphanumeric_dash, ← hslug, List.take_of_length_le hlength]

/-- `toLowerCase` on the first 128 characters. -/
def smallLetters (t : Text) : Text := t.map fun c => if 65 ≤ c && c ≤ 90 then c + 32 else c

theorem smallLetters_slug (t : Text) (h : ∀ c ∈ t, alphanumeric c = true ∨ c = dash) : smallLetters t = t := by
  have hsame (c : UInt16) (hc : c ∈ t) : (if 65 ≤ c && c ≤ 90 then c + 32 else c) = c := by
    apply if_neg
    have hunit := h c hc
    simp only [alphanumeric, dash, Bool.or_eq_true, Bool.and_eq_true, decide_eq_true_eq, UInt16.le_iff_toNat_le,
      ← UInt16.toNat_inj] at hunit ⊢
    simp only [UInt16.toNat_ofNat] at hunit ⊢
    omega
  rw [smallLetters, List.map_congr_left hsame, List.map_id']

/-- A name with signs at its ends and in the middle. -/
theorem slugify_exact_shop :
    slugify smallLetters (units " Ann's Shop & Co. ") = (dashed (units " ann's shop & co. ")).take 48 ∧
      (∀ c ∈ slugify smallLetters (units " Ann's Shop & Co. "), alphanumeric c = true ∨ c = dash) ∧
      slugify smallLetters (slugify smallLetters (units " Ann's Shop & Co. ")) =
        dropEnd dash (slugify smallLetters (units " Ann's Shop & Co. ")) :=
  slugify_exact smallLetters_slug (units " Ann's Shop & Co. ")

example : slugify smallLetters (units " Ann's Shop & Co. ") = units "ann-s-shop-co" := by decide

/-! ### The services -/

structure Member where
  organization_id : Uuid
  user_id : Uuid
  role : Text
  status : Text

/-- The tables the route writes to. -/
structure SignupDb where
  tables : Credentials.CredentialDb
  organization_members : List Member
  audit_events : List AuditEvent

/-- What `createOrganization` is given. -/
structure OrganizationInput where
  name : Text
  slug : Text
  ownerUserId : Uuid
  planTier : Option Text

def organizationRow (rt : Runtime) (id : Uuid) (input : OrganizationInput) : Organization where
  id := id
  name := input.name
  slug := input.slug
  status := units "active"
  billing_status := units "NOT_CONFIGURED"
  usage_mode := units "METERING_ONLY"
  plan_tier := (resolvePlan rt input.planTier).id
  financial_eligibility := false
  quota_requests_per_day := some (resolvePlan rt input.planTier).quotaRequestsPerDay

def ownerRow (id : Uuid) (input : OrganizationInput) : Member := ⟨id, input.ownerUserId, units "OWNER", units "active"⟩

/-- The two rows of the bootstrap transaction, which are entered together or not at all. -/
def createOrganization (rt : Runtime) (id : Uuid) (input : OrganizationInput) (db : SignupDb) :
    Except ServiceError (Unit × SignupDb) :=
  let org := organizationRow rt id input
  if !(setBootstrap {}).admits rt (some id) then .error .rowSecurityViolation
  else if !(varchar 255 org.name && varchar 100 org.slug && varchar 40 org.plan_tier) then .error .stringTooLong
  else if db.tables.organizations.any fun o => o.id == org.id || o.slug == org.slug then .error .uniqueViolation
  else .ok ((), { db with
    tables := db.tables.insertOrganization org
    organization_members := db.organization_members ++ [ownerRow id input] })

/-- `createApiCredential` on the tables of the route. -/
def createApiCredential (rt : Runtime) (draw : Credentials.Draw) (input : Credentials.CredentialInput) (db : SignupDb) :
    Except ServiceError (Credentials.Issued × SignupDb) := do
  let (id, write) ← (Credentials.insertCredential rt draw input).run {} db.tables
  return (⟨id, draw.plaintextKey, draw.keyPrefix⟩, { db with tables := write db.tables })

/-- The tables as the audit service has them. -/
def SignupDb.tenant (db : SignupDb) : Db :=
  ⟨db.tables.now, db.tables.organizations, db.tables.projects, [], [], db.audit_events⟩

def appendAuditEvent (rt : Runtime) (event : AuditInput) (db : SignupDb) : Except ServiceError (Unit × SignupDb) := do
  let (_, write) ← (insertAuditEvent rt event).run {} db.tenant
  return ((), { db with audit_events := (write db.tenant).audit_events })

/-! ### The route -/

/-- The body; a name that is no string is as one that is missing, and an email that is none is
not looked at. -/
structure SignupBody where
  businessName : Option Text
  email : Option Text

/-- What the generators give: canonical uuids of the owner and of the organisation, the
credential, and the time in base 36. -/
structure SignupDraw (rt : Runtime) where
  ownerUserId : Uuid
  organizationId : Uuid
  credential : Credentials.Draw
  stamp : Text
  canonical : rt.uuid organizationId = some organizationId
  nonempty : organizationId ≠ []

/-- `/^[^\s@]+@[^\s@]+\.[^\s@]+$/`. -/
def validEmail (email : Text) : Bool :=
  let domain := (email.dropWhile (· != 64)).drop 1
  email.all (fun c => !space c) && email.head?.any (· != 64) && domain.all (· != 64) && (domain.drop 1).dropLast.any (· == 46)

inductive SignupAnswer where
  | disabled | limited | invalidName | invalidEmail | conflict | failed
  | created (organizationId slug ownerUserId apiKey apiKeyPrefix : Text)

def SignupAnswer.status : SignupAnswer → Nat
  | .disabled => 403
  | .limited => 429
  | .invalidName | .invalidEmail => 400
  | .conflict => 409
  | .failed => 500
  | .created _ _ _ _ _ => 201

/-- What stops a request before any call. -/
def refused (freeSignupEnabled passes : Bool) (body : SignupBody) : Option SignupAnswer :=
  if !freeSignupEnabled then some .disabled
  else if !passes then some .limited
  else if !body.businessName.any fun name => decide (2 ≤ (trim name).length) then some .invalidName
  else if !body.email.all fun email => email == [] || validEmail email then some .invalidEmail
  else none

/-- Where a request is. -/
inductive Stage where
  | creating
  | issuing
  | auditing (issued : Credentials.Issued)
  | answered (answer : SignupAnswer)

structure SignupRequest (rt : Runtime) where
  body : SignupBody
  draw : SignupDraw rt

structure SignupCall (rt : Runtime) extends SignupRequest rt where
  stage : Stage

/-- The environment of the route. -/
structure SignupSettings where
  rt : Runtime
  toLowerCase : Text → Text

variable (env : SignupSettings)

def SignupRequest.organization (r : SignupRequest env.rt) : OrganizationInput where
  name := (trim (r.body.businessName.getD [])).take 255
  slug :=
    let baseSlug := slugify env.toLowerCase (r.body.businessName.getD [])
    (if baseSlug = [] then units "smb" else baseSlug) ++ units "-" ++ r.draw.stamp
  ownerUserId := r.draw.ownerUserId
  planTier := some (units "FREE")

def scopes : List Text :=
  [units "inference:read", units "inference:execute", units "projects:read", units "projects:write", units "usage:read",
    units "audit:read", units "providers:read"]

def SignupRequest.credential (r : SignupRequest env.rt) : Credentials.CredentialInput where
  organizationId := r.draw.organizationId
  projectId := none
  name := units "Free tier default key"
  scopes := scopes
  createdBy := r.draw.ownerUserId
  expiresAt := none

def SignupRequest.event (r : SignupRequest env.rt) : AuditInput where
  organizationId := some r.draw.organizationId
  actorId := some r.draw.ownerUserId
  eventType := units "ORG_CREATED"
  resourceType := some (units "organization")
  resourceId := some r.draw.organizationId
  result := units "SUCCESS"
  metadata := [(units "plan", .str (units "FREE")), (units "freeSignup", .bool true),
    (units "emailProvided", .bool (r.body.email.any (· ≠ [])))]

/-- How a call of the database ends. -/
inductive Ending where
  /-- It does not reach the database. -/
  | lost
  /-- It takes effect, and its answer is lost. -/
  | unanswered
  | answered

/-- Where a request goes on after a call; `e.code === '23505'` is a conflict. -/
def settle {α : Type} (ending : Ending) (result : Except ServiceError (α × SignupDb)) (next : α → Stage) (db : SignupDb) :
    Stage × SignupDb :=
  match ending, result with
  | .lost, _ => (.answered .failed, db)
  | .unanswered, .ok (_, db') => (.answered .failed, db')
  | .unanswered, .error _ => (.answered .failed, db)
  | .answered, .ok (a, db') => (next a, db')
  | .answered, .error e => (.answered (if e.code = some (units "23505") then .conflict else .failed), db)

/-- The next call of a request. -/
def SignupCall.advance (ending : Ending) (c : SignupCall env.rt) (db : SignupDb) : Stage × SignupDb :=
  match c.stage with
  | .creating =>
    settle ending (createOrganization env.rt c.draw.organizationId (c.organization env) db) (fun _ => .issuing) db
  | .issuing => settle ending (createApiCredential env.rt c.draw.credential (c.credential env) db) .auditing db
  | .auditing issued => settle ending (appendAuditEvent env.rt (c.event env) db)
      (fun _ => .answered (.created c.draw.organizationId (c.organization env).slug c.draw.ownerUserId issued.plaintextKey
        issued.keyPrefix)) db
  | .answered _ => (c.stage, db)

structure SignupWorld (rt : Runtime) where
  db : SignupDb
  calls : List (SignupCall rt)

inductive SignupEvent where
  | posted
  | went (ending : Ending)

/-- Requests come, and those in flight go on in any order. -/
inductive SignupStep : Machine (SignupWorld env.rt) SignupEvent
  | posted (w : SignupWorld env.rt) (freeSignupEnabled passes : Bool) (body : SignupBody) (draw : SignupDraw env.rt) :
      SignupStep w .posted { w with
        calls := w.calls ++ [⟨⟨body, draw⟩, ((refused freeSignupEnabled passes body).map .answered).getD .creating⟩] }
  | went {w : SignupWorld env.rt} {pre post : List (SignupCall env.rt)} {c : SignupCall env.rt}
      (hcalls : w.calls = pre ++ c :: post) (ending : Ending) : SignupStep w (.went ending)
      ⟨(c.advance env ending w.db).2, pre ++ { c with stage := (c.advance env ending w.db).1 } :: post⟩

/-- No organisation yet. -/
def nothing (rt : Runtime) : SignupWorld rt :=
  ⟨⟨⟨0, [], [], [], List.nodup_nil, List.nodup_nil, List.nodup_nil⟩, [], []⟩, []⟩

def SignupWorld.requests {rt : Runtime} (w : SignupWorld rt) : List (SignupRequest rt) := w.calls.map (·.toSignupRequest)

def SignupDb.organizationIds (db : SignupDb) : List Uuid := db.tables.organizations.map (·.id)

/-- The credential is one of the request, for its organisation. -/
structure CredentialOf (r : SignupRequest env.rt) (row : Credentials.ApiCredential) : Prop where
  organization : row.organization_id = r.draw.organizationId
  hash : row.key_hash = env.rt.sha256 r.draw.credential.plaintextKey
  scopes : row.scopes = scopes

/-- What is in the tables comes from the requests: each organisation with its one owner, each
credential with its organisation. -/
structure Sound (requests : List (SignupRequest env.rt)) (db : SignupDb) : Prop where
  organizations : ∀ o ∈ db.tables.organizations, ∃ r ∈ requests,
    o = organizationRow env.rt r.draw.organizationId (r.organization env) ∧
      db.organization_members.filter (fun m => m.organization_id = o.id) = [ownerRow r.draw.organizationId (r.organization env)]
  slugs : (db.tables.organizations.map (·.slug)).Nodup
  members : ∀ m ∈ db.organization_members, m.organization_id ∈ db.organizationIds
  credentials : ∀ row ∈ db.tables.api_credentials, row.organization_id ∈ db.organizationIds ∧
    ∃ r ∈ requests, CredentialOf env r row
  policies : env.rt.rowSecurity = true → db.tables.api_credentials = []

/-- What a request has reached is in the tables. -/
structure Reached (db : SignupDb) (c : SignupCall env.rt) : Prop where
  auditing : ∀ issued, c.stage = .auditing issued → issued.plaintextKey = c.draw.credential.plaintextKey ∧
    ∃ row ∈ db.tables.api_credentials, CredentialOf env c.toSignupRequest row
  created : ∀ id slug owner key keyPrefix, c.stage = .answered (.created id slug owner key keyPrefix) →
    id = c.draw.organizationId ∧ slug = (c.organization env).slug ∧ key = c.draw.credential.plaintextKey ∧
      (∃ row ∈ db.tables.api_credentials, CredentialOf env c.toSignupRequest row) ∧
      ∃ e ∈ db.audit_events, e.organization_id = some id

structure SignupWorld.Inv (w : SignupWorld env.rt) : Prop where
  sound : Sound env w.requests w.db
  reached : ∀ c ∈ w.calls, Reached env w.db c

/-! ### What a call does -/

section Calls
variable {env} {r : SignupRequest env.rt} {requests : List (SignupRequest env.rt)} {db db' : SignupDb}

theorem createOrganization_ok {rt : Runtime} {id : Uuid} {input : OrganizationInput} {u : Unit}
    (h : createOrganization rt id input db = .ok (u, db')) :
    id ∉ db.organizationIds ∧ input.slug ∉ db.tables.organizations.map (·.slug) ∧
      db'.tables.organizations = db.tables.organizations ++ [organizationRow rt id input] ∧
      db'.tables.api_credentials = db.tables.api_credentials ∧
      db'.organization_members = db.organization_members ++ [ownerRow id input] ∧ db'.audit_events = db.audit_events := by
  simp only [createOrganization] at h
  split at h
  · cases h
  split at h
  · cases h
  split at h
  · cases h
  rename_i hfresh
  have hnew : ∀ o ∈ db.tables.organizations, o.id ≠ id ∧ o.slug ≠ input.slug := by
    simpa [organizationRow] using hfresh
  have hid : (organizationRow rt id input).id ∉ db.tables.organizations.map (·.id) := fun hmem => by
    obtain ⟨o, ho, hsame⟩ := List.mem_map.mp hmem
    exact (hnew o ho).1 hsame
  have hslug : input.slug ∉ db.tables.organizations.map (·.slug) := fun hmem => by
    obtain ⟨o, ho, hsame⟩ := List.mem_map.mp hmem
    exact (hnew o ho).2 hsame
  cases h
  refine ⟨hid, hslug, ?_, ?_, rfl, rfl⟩
  · rw [Credentials.CredentialDb.insertOrganization, dif_neg hid]
  · rw [Credentials.CredentialDb.insertOrganization, dif_neg hid]

/-- A credential is accepted only outside the policies, for an organisation that exists. -/
theorem createApiCredential_ok {issued : Credentials.Issued}
    (h : createApiCredential env.rt r.draw.credential (r.credential env) db = .ok (issued, db')) :
    env.rt.rowSecurity = false ∧ issued.plaintextKey = r.draw.credential.plaintextKey ∧ ∃ row, CredentialOf env r row ∧
      r.draw.organizationId ∈ db.organizationIds ∧ db'.tables.organizations = db.tables.organizations ∧
      db'.tables.api_credentials = db.tables.api_credentials ++ [row] ∧
      db'.organization_members = db.organization_members ∧ db'.audit_events = db.audit_events := by
  cases hrow : Credentials.credentialRow env.rt r.draw.credential db.tables.now (r.credential env) with
  | error e =>
    simp only [createApiCredential, Credentials.insertCredential, hrow] at h
    cases h
  | ok row =>
    have hid : Credentials.uuidText env.rt r.draw.organizationId = .ok r.draw.organizationId := by
      rw [Credentials.uuidText, r.draw.canonical]
    have hof : CredentialOf env r row := by
      simp only [Credentials.credentialRow, SignupRequest.credential, hid, Credentials.optionalUuid] at hrow
      cases howner : Credentials.uuidText env.rt r.draw.ownerUserId with
      | error e => rw [howner] at hrow; cases hrow
      | ok owner =>
        rw [howner] at hrow
        cases hrow
        exact ⟨rfl, rfl, rfl⟩
    rw [createApiCredential, Credentials.insertCredential_run hrow] at h
    cases hrs : env.rt.rowSecurity with
    | true =>
      rw [Credentials.admits_pool hrs] at h
      cases h
    | false =>
      rw [Credentials.admits_owner hrs, if_pos rfl] at h
      by_cases haccepts : db.tables.Accepts row
      · rw [if_pos haccepts] at h
        cases h
        refine ⟨rfl, rfl, row, hof, ?_, ?_, ?_, rfl, rfl⟩
        · obtain ⟨o, ho, hsame⟩ := haccepts.1
          rw [← hof.organization, ← hsame]
          exact List.mem_map_of_mem ho
        · change (db.tables.insert row).organizations = _
          rw [Credentials.CredentialDb.insert, dif_pos haccepts]
        · change (db.tables.insert row).api_credentials = _
          rw [Credentials.CredentialDb.insert, dif_pos haccepts]
      · rw [if_neg haccepts] at h
        cases h

theorem appendAuditEvent_ok {u : Unit} (h : appendAuditEvent env.rt (r.event env) db = .ok (u, db')) :
    ∃ e, e.organization_id = some r.draw.organizationId ∧ db'.tables = db.tables ∧
      db'.organization_members = db.organization_members ∧ db'.audit_events = db.audit_events ++ [e] := by
  cases hrun : (insertAuditEvent env.rt (r.event env)).run {} db.tenant with
  | error e =>
    rw [appendAuditEvent, hrun] at h
    cases h
  | ok result =>
    obtain ⟨v, write⟩ := result
    rw [appendAuditEvent, hrun] at h
    obtain ⟨row, hrow, rfl⟩ := insertAuditEvent_ok hrun
    cases h
    refine ⟨row, ?_, rfl, rfl, rfl⟩
    simp only [auditRow, SignupRequest.event] at hrow
    cases hactor : uuidParameter env.rt ((some r.draw.ownerUserId).map .str) with
    | error e => rw [hactor] at hrow; cases hrow
    | ok actor =>
      rw [hactor] at hrow
      cases hrow
      simp [orNull, r.draw.nonempty]

/-- A call is answered, or takes effect. -/
theorem settle_cases (db : SignupDb) {α : Type} (ending : Ending) (result : Except ServiceError (α × SignupDb)) (next : α → Stage) :
    (∃ answer, settle ending result next db = (.answered answer, db) ∧ answer.status ≠ 201) ∨
      ∃ a db', result = .ok (a, db') ∧
        (settle ending result next db = (next a, db') ∨ settle ending result next db = (.answered .failed, db')) := by
  cases ending with
  | lost => exact .inl ⟨.failed, rfl, by decide⟩
  | unanswered =>
    cases result with
    | error e => exact .inl ⟨.failed, rfl, by decide⟩
    | ok r => exact .inr ⟨r.1, r.2, rfl, .inr rfl⟩
  | answered =>
    cases result with
    | error e =>
      refine .inl ⟨_, rfl, ?_⟩
      split <;> decide
    | ok r => exact .inr ⟨r.1, r.2, rfl, .inl rfl⟩

/-! ### What the tables keep -/

theorem Sound.mono {more : List (SignupRequest env.rt)} (h : Sound env requests db) (hmore : ∀ r ∈ requests, r ∈ more) :
    Sound env more db where
  organizations o ho := by
    obtain ⟨r, hr, hrest⟩ := h.organizations o ho
    exact ⟨r, hmore r hr, hrest⟩
  slugs := h.slugs
  members := h.members
  credentials row hrow := by
    obtain ⟨hid, r, hr, hof⟩ := h.credentials row hrow
    exact ⟨hid, r, hmore r hr, hof⟩
  policies := h.policies

theorem Sound.createOrganization (h : Sound env requests db) (hr : r ∈ requests) {u : Unit}
    (hok : createOrganization env.rt r.draw.organizationId (r.organization env) db = .ok (u, db')) : Sound env requests db' := by
  obtain ⟨hid, hslug, horgs, hcreds, hmembers, -⟩ := createOrganization_ok hok
  have hids : db'.organizationIds = db.organizationIds ++ [r.draw.organizationId] := by
    rw [SignupDb.organizationIds, horgs, List.map_append]
    rfl
  refine ⟨fun o ho => ?_, ?_, fun m hm => ?_, fun row hrow => ?_, fun hrs => hcreds.trans (h.policies hrs)⟩
  · rw [horgs] at ho
    rw [hmembers, List.filter_append]
    rcases List.mem_append.mp ho with ho | ho
    · obtain ⟨r', hr', ho', howner⟩ := h.organizations o ho
      have hother : r.draw.organizationId ≠ o.id := fun hsame => hid (hsame ▸ List.mem_map_of_mem ho)
      refine ⟨r', hr', ho', ?_⟩
      rw [howner]
      simp [ownerRow, hother]
    · rw [List.mem_singleton.mp ho]
      refine ⟨r, hr, rfl, ?_⟩
      have hnone : db.organization_members.filter (fun m => decide (m.organization_id = r.draw.organizationId)) = [] := by
        apply List.filter_eq_nil_iff.mpr
        intro m hm hsame
        exact hid (of_decide_eq_true hsame ▸ h.members m hm)
      have hone : [ownerRow r.draw.organizationId (r.organization env)].filter
          (fun m => decide (m.organization_id = r.draw.organizationId)) = [ownerRow r.draw.organizationId (r.organization env)] := by
        simp [ownerRow]
      exact congrArg₂ (· ++ ·) hnone hone
  · rw [horgs, List.map_append, List.nodup_append]
    refine ⟨h.slugs, List.nodup_singleton _, fun a ha b hb => ?_⟩
    rw [List.mem_singleton.mp hb]
    intro hsame
    rw [hsame] at ha
    exact hslug ha
  · rw [hmembers] at hm
    rw [hids, List.mem_append]
    rcases List.mem_append.mp hm with hm | hm
    · exact .inl (h.members m hm)
    · rw [List.mem_singleton.mp hm]
      exact .inr List.mem_cons_self
  · rw [hcreds] at hrow
    obtain ⟨hold, horigin⟩ := h.credentials row hrow
    exact ⟨by rw [hids]; exact List.mem_append_left _ hold, horigin⟩

theorem Sound.createApiCredential (h : Sound env requests db) (hr : r ∈ requests) {issued : Credentials.Issued}
    (hok : createApiCredential env.rt r.draw.credential (r.credential env) db = .ok (issued, db')) : Sound env requests db' := by
  obtain ⟨hrs, -, row, hof, hid, horgs, hcreds, hmembers, -⟩ := createApiCredential_ok hok
  have hids : db'.organizationIds = db.organizationIds := by rw [SignupDb.organizationIds, horgs]; rfl
  refine ⟨by rw [horgs, hmembers]; exact h.organizations, by rw [horgs]; exact h.slugs, by rw [hmembers, hids]; exact h.members,
    fun row' hrow' => ?_, fun hpolicies => absurd (hrs.symm.trans hpolicies) (by decide)⟩
  rw [hcreds] at hrow'
  rw [hids]
  rcases List.mem_append.mp hrow' with hrow' | hrow'
  · exact h.credentials row' hrow'
  · rw [List.mem_singleton.mp hrow', hof.organization]
    exact ⟨hid, r, hr, hof⟩

theorem Sound.of_tables (h : Sound env requests db) (htables : db'.tables = db.tables)
    (hmembers : db'.organization_members = db.organization_members) : Sound env requests db' := by
  have hids : db'.organizationIds = db.organizationIds := by rw [SignupDb.organizationIds, htables]; rfl
  exact ⟨by rw [htables, hmembers]; exact h.organizations, by rw [htables]; exact h.slugs,
    by rw [hmembers, hids]; exact h.members, by rw [htables, hids]; exact h.credentials, by rw [htables]; exact h.policies⟩

theorem Reached.mono {c : SignupCall env.rt} (h : Reached env db c)
    (hcreds : ∀ row ∈ db.tables.api_credentials, row ∈ db'.tables.api_credentials)
    (haudit : ∀ e ∈ db.audit_events, e ∈ db'.audit_events) : Reached env db' c where
  auditing issued hstage := by
    obtain ⟨hkey, row, hrow, hof⟩ := h.auditing issued hstage
    exact ⟨hkey, row, hcreds row hrow, hof⟩
  created id slug owner key keyPrefix hstage := by
    obtain ⟨hid, hslug, hkey, ⟨row, hrow, hof⟩, e, he, hevent⟩ := h.created id slug owner key keyPrefix hstage
    exact ⟨hid, hslug, hkey, ⟨row, hcreds row hrow, hof⟩, e, haudit e he, hevent⟩

end Calls

/-! ### Runs -/

variable {env}

/-- What a call leaves: the tables, and the request itself at its next stage. -/
structure Advanced (requests : List (SignupRequest env.rt)) (db : SignupDb) (c : SignupCall env.rt) (stage : Stage)
    (db' : SignupDb) : Prop where
  sound : Sound env requests db'
  credentials : ∀ row ∈ db.tables.api_credentials, row ∈ db'.tables.api_credentials
  events : ∀ e ∈ db.audit_events, e ∈ db'.audit_events
  reached : Reached env db' { c with stage := stage }

theorem reached_answer (db : SignupDb) (c : SignupCall env.rt) {answer : SignupAnswer} (hanswer : answer.status ≠ 201) :
    Reached env db { c with stage := .answered answer } := by
  constructor
  · intro issued hstage
    cases hstage
  · intro id slug owner key keyPrefix hstage
    cases hstage
    exact absurd rfl hanswer

/-- It is enough to look at the calls that succeed. -/
theorem settle_advanced {requests : List (SignupRequest env.rt)} {db : SignupDb} {c : SignupCall env.rt} {α : Type}
    {ending : Ending} {result : Except ServiceError (α × SignupDb)} {next : α → Stage} (h : Sound env requests db)
    (hok : ∀ a db', result = .ok (a, db') → Advanced requests db c (next a) db') :
    Advanced requests db c (settle ending result next db).1 (settle ending result next db).2 := by
  rcases settle_cases db ending result next with ⟨answer, heq, hstatus⟩ | ⟨a, db', hresult, hends⟩
  · rw [heq]
    exact ⟨h, fun _ h => h, fun _ h => h, reached_answer _ _ hstatus⟩
  · have hadvanced := hok a db' hresult
    rcases hends with heq | heq <;> rw [heq]
    · exact hadvanced
    · exact ⟨hadvanced.sound, hadvanced.credentials, hadvanced.events, reached_answer _ _ (by decide)⟩

/-- A request whose next call had an answer, or none. -/
theorem advance_inv {w : SignupWorld env.rt} (h : w.Inv env) {c : SignupCall env.rt} (hc : c ∈ w.calls) (ending : Ending) :
    Advanced w.requests w.db c (c.advance env ending w.db).1 (c.advance env ending w.db).2 := by
  have hr : c.toSignupRequest ∈ w.requests := List.mem_map_of_mem hc
  cases hstage : c.stage with
  | creating =>
    simp only [SignupCall.advance, hstage]
    apply settle_advanced h.sound
    intro u db' hok
    obtain ⟨-, -, -, hcreds, -, haudit⟩ := createOrganization_ok hok
    exact ⟨h.sound.createOrganization hr hok, fun row hrow => hcreds ▸ hrow, fun e he => haudit ▸ he,
      fun issued hstage => (by cases hstage), fun _ _ _ _ _ hstage => (by cases hstage)⟩
  | issuing =>
    simp only [SignupCall.advance, hstage]
    apply settle_advanced h.sound
    intro issued db' hok
    obtain ⟨-, hkey, row, hof, -, -, hcreds, -, haudit⟩ := createApiCredential_ok hok
    have hold : ∀ row ∈ w.db.tables.api_credentials, row ∈ db'.tables.api_credentials := by
      intro row hrow
      rw [hcreds]
      exact List.mem_append_left _ hrow
    have hnew : row ∈ db'.tables.api_credentials := by
      rw [hcreds]
      exact List.mem_append_right _ List.mem_cons_self
    refine ⟨h.sound.createApiCredential hr hok, hold, fun e he => haudit ▸ he, fun issued' hstage => ?_,
      fun _ _ _ _ _ hstage => (by cases hstage)⟩
    cases hstage
    exact ⟨hkey, row, hnew, hof⟩
  | auditing issued =>
    obtain ⟨hkey, row, hrow, hof⟩ := (h.reached c hc).auditing issued hstage
    simp only [SignupCall.advance, hstage]
    apply settle_advanced h.sound
    intro u db' hok
    obtain ⟨e, he, htables, hmembers, haudit⟩ := appendAuditEvent_ok hok
    have hold : ∀ e ∈ w.db.audit_events, e ∈ db'.audit_events := by
      intro e he
      rw [haudit]
      exact List.mem_append_left _ he
    have hnew : e ∈ db'.audit_events := by
      rw [haudit]
      exact List.mem_append_right _ List.mem_cons_self
    refine ⟨h.sound.of_tables htables hmembers, fun row hrow => htables ▸ hrow, hold, fun issued' hstage => (by cases hstage),
      fun id slug owner key keyPrefix hstage => ?_⟩
    cases hstage
    exact ⟨rfl, rfl, hkey, ⟨row, htables ▸ hrow, hof⟩, e, hnew, he⟩
  | answered answer =>
    simp only [SignupCall.advance, hstage]
    have hsame : ({ c with stage := Stage.answered answer } : SignupCall env.rt) = c := by rw [← hstage]
    exact ⟨h.sound, fun _ h => h, fun _ h => h, hsame.symm ▸ h.reached c hc⟩

theorem SignupWorld.Inv.step {w v : SignupWorld env.rt} {e : SignupEvent} (h : w.Inv env) (hs : SignupStep env w e v) :
    v.Inv env := by
  cases hs with
  | posted =>
    rename_i freeSignupEnabled passes body draw
    refine ⟨h.sound.mono fun r hr => ?_, fun c hc => ?_⟩
    · rw [SignupWorld.requests, List.map_append]
      exact List.mem_append_left _ hr
    · rcases List.mem_append.mp hc with hc | hc
      · exact h.reached c hc
      · rw [List.mem_singleton.mp hc]
        constructor
        · intro issued hstage
          cases hrefused : refused freeSignupEnabled passes body <;> rw [hrefused] at hstage <;> cases hstage
        · intro id slug owner key keyPrefix hstage
          unfold refused at hstage
          repeat' split at hstage
          all_goals cases hstage
  | went hcalls ending =>
    rename_i pre post c
    have hc : c ∈ w.calls := mem_taken hcalls
    obtain ⟨hsound, hcreds, hevents, hreached⟩ := advance_inv h hc ending
    refine ⟨?_, fun d hd => ?_⟩
    · have hrequests : w.requests = (pre ++ { c with stage := (c.advance env ending w.db).1 } :: post).map
          (·.toSignupRequest) := by
        rw [SignupWorld.requests, hcalls, List.map_append, List.map_append]
        rfl
      rw [hrequests] at hsound
      exact hsound
    · rcases mem_replaced hcalls hd with rfl | hd
      · exact hreached
      · exact (h.reached d hd).mono hcreds hevents

/-- Whatever free signups come, and however their calls are answered, lost or mixed: every
organisation is one of a request, on the free plan, not eligible, with the request's owner as
its one member; slugs differ; every credential is one of a request for an organisation that
exists; a request that is answered with a key has its organisation, the credential of the key
and an audit event. Under the row-level policies no request is: there are no credentials, and
the organisations that were created stay without one. -/
theorem signups_account (hplan : env.rt.toUpperCase (units "FREE") = units "FREE") {events : List SignupEvent}
    {w : SignupWorld env.rt} (h : Machine.Run (SignupStep env) (nothing env.rt) events w) :
    (∀ o ∈ w.db.tables.organizations, o.plan_tier = units "FREE" ∧ o.financial_eligibility = false ∧
      o.quota_requests_per_day = some 100 ∧ ∃ r ∈ w.requests, o.id = r.draw.organizationId ∧ o.slug = (r.organization env).slug ∧
        w.db.organization_members.filter (fun m => m.organization_id = o.id) =
          [⟨o.id, r.draw.ownerUserId, units "OWNER", units "active"⟩]) ∧
      (w.db.tables.organizations.map (·.slug)).Nodup ∧
      (∀ row ∈ w.db.tables.api_credentials, row.organization_id ∈ w.db.organizationIds ∧
        ∃ r ∈ w.requests, CredentialOf env r row) ∧
      (∀ c ∈ w.calls, ∀ id slug owner key keyPrefix, c.stage = .answered (.created id slug owner key keyPrefix) →
        id ∈ w.db.organizationIds ∧ slug = (c.organization env).slug ∧
          (∃ row ∈ w.db.tables.api_credentials, row.organization_id = id ∧ row.key_hash = env.rt.sha256 key ∧ row.scopes = scopes) ∧
          ∃ e ∈ w.db.audit_events, e.organization_id = some id) ∧
      (env.rt.rowSecurity = true → w.db.tables.api_credentials = [] ∧
        ∀ c ∈ w.calls, ∀ answer, c.stage = .answered answer → answer.status ≠ 201) := by
  have hstart : (nothing env.rt).Inv env :=
    ⟨⟨fun _ h => (by cases h), List.nodup_nil, fun _ h => (by cases h), fun _ h => (by cases h), fun _ => rfl⟩,
      fun _ h => (by cases h)⟩
  have hinv : w.Inv env := h.invariant (fun _ _ _ h hs => h.step hs) hstart
  have hfree : resolvePlan env.rt (some (units "FREE")) = FREE := by
    have hkey : env.rt.toUpperCase (if units "FREE" = [] then units "FREE" else units "FREE") = units "FREE" := by
      rw [ite_self, hplan]
    simp only [resolvePlan, hkey]
    rfl
  refine ⟨fun o ho => ?_, hinv.sound.slugs, hinv.sound.credentials, fun c hc id slug owner key keyPrefix hstage => ?_, fun hrs => ?_⟩
  · obtain ⟨r, hr, rfl, howner⟩ := hinv.sound.organizations o ho
    have hplanOf : resolvePlan env.rt (r.organization env).planTier = FREE := hfree
    refine ⟨?_, rfl, ?_, r, hr, rfl, rfl, howner⟩
    · rw [organizationRow, hplanOf]
      rfl
    · rw [organizationRow, hplanOf]
      rfl
  · obtain ⟨hid, hslug, hkey, ⟨row, hrow, hof⟩, e, he, hevent⟩ := (hinv.reached c hc).created id slug owner key keyPrefix hstage
    subst hid
    refine ⟨?_, hslug, ⟨row, hrow, hof.organization, ?_, hof.scopes⟩, e, he, hevent⟩
    · rw [← hof.organization]
      exact (hinv.sound.credentials row hrow).1
    · rw [hof.hash, hkey]
  · refine ⟨hinv.sound.policies hrs, fun c hc answer hstage hstatus => ?_⟩
    cases answer with
    | created id slug owner key keyPrefix =>
      obtain ⟨-, -, -, ⟨row, hrow, -⟩, -⟩ := (hinv.reached c hc).created id slug owner key keyPrefix hstage
      rw [hinv.sound.policies hrs] at hrow
      cases hrow
    | disabled => exact absurd hstatus (by decide)
    | limited => exact absurd hstatus (by decide)
    | invalidName => exact absurd hstatus (by decide)
    | invalidEmail => exact absurd hstatus (by decide)
    | conflict => exact absurd hstatus (by decide)
    | failed => exact absurd hstatus (by decide)

/-- A signup under the policies: its organisation is created, and its credential refused. -/
theorem signups_account_orphan :
    let env : SignupSettings := ⟨Runtime.pilot true id, smallLetters⟩
    let one : SignupCall env.rt := ⟨⟨⟨some (units "Ann"), none⟩,
      ⟨pilotOrg.id, pilotOrg.id, ⟨pilotOrg.id, units "p", units "s"⟩, units "1", by decide, by decide⟩⟩, .creating⟩
    let created := one.advance env .answered (nothing env.rt).db
    let two : SignupCall env.rt := { one with stage := created.1 }
    let ended := two.advance env .answered created.2
    ended.2.organizationIds = [pilotOrg.id] ∧ ended.2.tables.api_credentials = [] ∧
      ∀ answer, ended.1 = .answered answer → answer.status ≠ 201 := by
  intro env one created two ended
  let w : SignupWorld env.rt := ⟨(nothing env.rt).db, [one]⟩
  let v : SignupWorld env.rt := ⟨created.2, [two]⟩
  have hone : w.calls = [] ++ one :: [] := rfl
  have htwo : v.calls = [] ++ two :: [] := rfl
  have hrun : Machine.Run (SignupStep env) (nothing env.rt) [.posted, .went .answered, .went .answered]
      ⟨ended.2, [{ two with stage := ended.1 }]⟩ :=
    .cons (.posted _ true true one.body one.draw)
      (.cons (.went (w := w) hone .answered) (.cons (.went (w := v) htwo .answered) (.nil _)))
  obtain ⟨hnone, hstatus⟩ := (signups_account rfl hrun).2.2.2.2 rfl
  exact ⟨rfl, hnone, fun answer hanswer => hstatus _ List.mem_cons_self answer hanswer⟩

end GalaxiaAin.Tenant.Signup
