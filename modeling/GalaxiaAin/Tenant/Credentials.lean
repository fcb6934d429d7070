import GalaxiaAin.Library.Cascade
import GalaxiaAin.Tenant.Schema
import Mathlib.Data.List.Nodup

/-! API credentials: issuing and revoking them, and the authentication that looks a key up
by its hash. All of their statements run on the pool, outside a tenant transaction. -/
namespace GalaxiaAin.Tenant.Credentials
open GalaxiaAin.Library GalaxiaAin.Tenant

structure ApiCredential where
  id : Uuid
  organization_id : Uuid
  project_id : Option Uuid
  key_prefix : Text
  key_hash : Text
  name : Text
  scopes : List Text
  created_by : Option Uuid
  last_used_at : Option Nat
  expires_at : Option Nat
  revoked_at : Option Nat
  is_active : Bool
  created_at : Nat

/-- The tables of the credential services, with their unique columns. -/
structure CredentialDb where
  now : Nat
  organizations : List Organization
  projects : List Project
  api_credentials : List ApiCredential
  organization_unique : (organizations.map (·.id)).Nodup
  id_unique : (api_credentials.map (·.id)).Nodup
  hash_unique : (api_credentials.map (·.key_hash)).Nodup

namespace CredentialDb

/-- The row passes the checks of its columns and keys. -/
def Accepts (db : CredentialDb) (row : ApiCredential) : Prop :=
  (∃ o ∈ db.organizations, o.id = row.organization_id) ∧
    (∀ p ∈ row.project_id, ∃ q ∈ db.projects, q.id = p) ∧
    row.id ∉ db.api_credentials.map (·.id) ∧ row.key_hash ∉ db.api_credentials.map (·.key_hash) ∧
    varchar 16 row.key_prefix = true ∧ varchar 128 row.key_hash = true ∧ varchar 255 row.name = true

instance (db : CredentialDb) (row : ApiCredential) : Decidable (db.Accepts row) := by
  unfold Accepts; infer_instance

/-- The error of a row that does not pass. -/
def refusal (db : CredentialDb) (row : ApiCredential) : ServiceError :=
  if !(varchar 16 row.key_prefix && varchar 128 row.key_hash && varchar 255 row.name) then .stringTooLong
  else if db.api_credentials.any fun c => c.id == row.id || c.key_hash == row.key_hash then .uniqueViolation
  else .foreignKeyViolation

def insert (db : CredentialDb) (row : ApiCredential) : CredentialDb :=
  if h : db.Accepts row then
    { db with
      api_credentials := db.api_credentials ++ [row]
      id_unique := by
        rw [List.map_append, List.nodup_append]
        exact ⟨db.id_unique, by simp, by simpa using h.2.2.1⟩
      hash_unique := by
        rw [List.map_append, List.nodup_append]
        exact ⟨db.hash_unique, by simp, by simpa using h.2.2.2.1⟩ }
  else db

/-- An UPDATE that leaves the keys of its rows. -/
def update (db : CredentialDb) (f : ApiCredential → ApiCredential) (hid : ∀ c, (f c).id = c.id)
    (hhash : ∀ c, (f c).key_hash = c.key_hash) : CredentialDb :=
  { db with
    api_credentials := db.api_credentials.map f
    id_unique := by simpa [Function.comp_def, hid] using db.id_unique
    hash_unique := by simpa [Function.comp_def, hhash] using db.hash_unique }

/-- UPDATE organizations SET status. -/
def setStatus (db : CredentialDb) (id : Uuid) (status : Text) : CredentialDb :=
  { db with
    organizations := db.organizations.map fun o => if o.id = id then { o with status := status } else o
    organization_unique := by
      have : ((fun o : Organization => o.id) ∘ fun o => if o.id = id then { o with status := status } else o) =
          fun o : Organization => o.id := by
        funext o
        simp only [Function.comp_apply]
        split <;> rfl
      rw [List.map_map, this]
      exact db.organization_unique }

/-- INSERT INTO organizations. -/
def insertOrganization (db : CredentialDb) (o : Organization) : CredentialDb :=
  if h : o.id ∈ db.organizations.map (·.id) then db
  else
    { db with
      organizations := db.organizations ++ [o]
      organization_unique := by
        rw [List.map_append, List.nodup_append]
        exact ⟨db.organization_unique, by simp, by simpa using h⟩ }

end CredentialDb

inductive CredentialSite where
  | insertCredential | revokeCredential | lookup | touch | bearer
  deriving DecidableEq

abbrev credentialBackend : Backend where
  Store := CredentialDb
  Context := Settings
  initial := {}
  Lock := Unit
  Remote := Unit
  Reply _ := Unit
  usual _ := ()
  Event := Unit
  Error := ServiceError
  aborted := .inFailedTransaction
  Fault := Option Text
  raise := .other
  refuse _ _ := none
  Site := CredentialSite

structure CredentialInput where
  organizationId : Text
  projectId : Option Text
  name : Text
  scopes : List Text
  createdBy : Text
  expiresAt : Option Nat

/-- What the generators give: the id of the row, and the random bytes in hexadecimal. -/
structure Draw where
  id : Uuid
  prefixBytes : Text
  secret : Text

def Draw.keyPrefix (draw : Draw) : Text := units "gain_" ++ draw.prefixBytes

def Draw.plaintextKey (draw : Draw) : Text := draw.keyPrefix ++ units "_" ++ draw.secret

structure Issued where
  id : Uuid
  plaintextKey : Text
  keyPrefix : Text

/-- A parameter for a column of UUID type. -/
def uuidText (rt : Runtime) (t : Text) : Except ServiceError Uuid :=
  match rt.uuid t with
  | some id => .ok id
  | none => .error .invalidText

/-- The same for `t || null`. -/
def optionalUuid (rt : Runtime) : Option Text → Except ServiceError (Option Uuid)
  | some t => if t = [] then .ok none else (uuidText rt t).map some
  | none => .ok none

/-- The row `createApiCredential` inserts. -/
def credentialRow (rt : Runtime) (draw : Draw) (now : Nat) (input : CredentialInput) :
    Except ServiceError ApiCredential := do
  let organization_id ← uuidText rt input.organizationId
  let project_id ← optionalUuid rt input.projectId
  let created_by ← uuidText rt input.createdBy
  return {
    id := draw.id
    organization_id
    project_id
    key_prefix := draw.keyPrefix
    key_hash := rt.sha256 draw.plaintextKey
    name := input.name
    scopes := input.scopes
    created_by := some created_by
    last_used_at := none
    expires_at := input.expiresAt
    revoked_at := none
    is_active := true
    created_at := now }

/-- INSERT INTO api_credentials, under the policy api_credentials_all. -/
def insertCredential (rt : Runtime) (draw : Draw) (input : CredentialInput) : Stmt credentialBackend Uuid where
  run c db := do
    let row ← credentialRow rt draw db.now input
    if c.admits rt (some row.organization_id) then
      if db.Accepts row then return (row.id, fun db => db.insert row)
      else throw (db.refusal row)
    else throw .rowSecurityViolation

def createApiCredential (rt : Runtime) (draw : Draw) (input : CredentialInput) : Async credentialBackend Issued := do
  let id ← Async.await .insertCredential (.pool (insertCredential rt draw input))
  return ⟨id, draw.plaintextKey, draw.keyPrefix⟩

/-- A row an UPDATE of a credential by its id sees. -/
def selects (rt : Runtime) (c : Settings) (id : Uuid) (row : ApiCredential) : Bool :=
  row.id == id && c.admits rt (some row.organization_id)

def revoke (rt : Runtime) (c : Settings) (organizationId id : Uuid) (db : CredentialDb) : CredentialDb :=
  db.update (fun row =>
    if selects rt c id row && row.organization_id == organizationId && row.revoked_at.isNone then
      { row with revoked_at := some db.now, is_active := false } else row)
    (fun row => by split <;> rfl) (fun row => by split <;> rfl)

def revokeApiCredential (rt : Runtime) (organizationId credentialId : Text) : Async credentialBackend Bool :=
  Async.await .revokeCredential (.pool {
    run := fun c db => do
      let id ← uuidText rt credentialId
      let organization_id ← uuidText rt organizationId
      return (db.api_credentials.any fun row =>
          selects rt c id row && row.organization_id == organization_id && row.revoked_at.isNone,
        revoke rt c organization_id id) })

structure AuthContext where
  userId : Text
  organizationId : Text
  role : Text
  projectId : Option Uuid
  credentialId : Option Uuid
  scopes : List Text
  requestId : Text

/-- The rows of `api_credentials JOIN organizations` for an active key hash, with the status
of the organisation. -/
def matching (rt : Runtime) (c : Settings) (keyHash : Text) (db : CredentialDb) : List (ApiCredential × Text) :=
  (db.api_credentials.filter fun row =>
    c.admits rt (some row.organization_id) && row.key_hash == keyHash && row.is_active && row.revoked_at.isNone).flatMap
    fun row => (db.organizations.filter fun o => c.admits rt (some o.id) && o.id == row.organization_id).map
      fun o => (row, o.status)

/-- UPDATE api_credentials SET last_used_at = NOW(). -/
def touch (rt : Runtime) (c : Settings) (id : Uuid) (db : CredentialDb) : CredentialDb :=
  db.update (fun row => if selects rt c id row then { row with last_used_at := some db.now } else row)
    (fun row => by split <;> rfl) (fun row => by split <;> rfl)

/-- The row has no expiry, or one that is not past. -/
def unexpired (now : Nat) (row : ApiCredential) : Bool :=
  match row.expires_at with
  | some t => decide (now ≤ t)
  | none => true

def authFromApiCredential (rt : Runtime) (requestId rawKey : Text) : Async credentialBackend (Option AuthContext) := do
  let rows ← Async.await .lookup (.pool (.select fun c db => (matching rt c (rt.sha256 rawKey) db, db.now)))
  match rows with
  | ([], _) => return none
  | ((row, org_status) :: _, now) =>
    if org_status != units "active" then return none
    if !unexpired now row then return none
    Async.await .touch (.pool (.update fun c db => touch rt c row.id db))
    return some {
      userId := row.created_by.getD row.id
      organizationId := row.organization_id
      role := units "API_SERVICE_ACCOUNT"
      projectId := row.project_id
      credentialId := some row.id
      scopes := row.scopes
      requestId }

/-- The headers `requireAuth` reads. -/
structure AuthHeaders where
  authorization : Option Text
  apiKey : Option Text
  devOrg : Option Text
  devUser : Option Text
  devRole : Option Text

/-- The deployment: its environment variables, and the validation of bearer tokens. -/
structure AuthEnv where
  /-- `NODE_ENV` is production. -/
  production : Bool
  /-- `ALLOW_DEV_AUTH` is true. -/
  allowDevAuth : Bool
  /-- `authFromBearerJwt`. -/
  bearer : Text → Async credentialBackend (Option AuthContext)

/-- A header that is present and not empty. -/
def present (h : Option Text) : Option Text := h.filter (· != [])

def authFromDevHeaders (env : AuthEnv) (requestId : Text) (headers : AuthHeaders) : Option AuthContext :=
  if env.production || !env.allowDevAuth then none
  else
    match present headers.devOrg, present headers.devUser with
    | some org, some user =>
      some ⟨user, org, (present headers.devRole).getD (units "ADMIN"), none, none, [], requestId⟩
    | _, _ => none

inductive AuthOutcome where
  | next (ctx : AuthContext)
  | rejected (status : Nat) (code : Text) (error : Text)

/-- The token of an Authorization header of the Bearer scheme. -/
def bearerToken (headers : AuthHeaders) : Option Text :=
  headers.authorization.bind fun h => if (units "Bearer ").isPrefixOf h then some (h.drop 7) else none

def requireAuth (rt : Runtime) (env : AuthEnv) (requestId : Text) (headers : AuthHeaders) :
    Async credentialBackend AuthOutcome :=
  Async.handle (do
    match bearerToken headers with
    | some token =>
      match ← env.bearer token with
      | some ctx => return .next ctx
      | none => return .rejected 401 (units "AUTH_REQUIRED") (units "Invalid or expired Bearer token")
    | none =>
      let ctx ← match present headers.apiKey with
        | some key => authFromApiCredential rt requestId key
        | none => pure none
      match ctx.or (authFromDevHeaders env requestId headers) with
      | some ctx => return .next ctx
      | none => return .rejected 401 (units "AUTH_REQUIRED") (units "Authentication required"))
    fun _ => pure (.rejected 500 (units "INTERNAL_ERROR") (units "Authentication error"))

end GalaxiaAin.Tenant.Credentials
