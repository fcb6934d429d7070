import GalaxiaAin.Library.Execution
import GalaxiaAin.Tenant.Jwt
import GalaxiaAin.Tenant.KeyRoundTrip

/-! Where the identity of a tenant request comes from: the memberships or the credentials of
the database, whatever the client sends beside its token or its key. -/
namespace GalaxiaAin.Tenant.Credentials
open GalaxiaAin.Library GalaxiaAin.Tenant

variable (env : JwtEnv) (rt : Runtime) (allowDevAuth : Bool) (members : List Member) (requestId : Text)

/-- The token is valid, and an active member of an active organisation has the role that is
granted. -/
def GrantedToken (token : Text) (db : CredentialDb) (ctx : AuthContext) : Prop :=
  ∃ secret verified payload, present env.secret = some secret ∧ verifyHs256 env token secret = .ok verified ∧
    validateClaims env verified = .ok payload ∧
    ∃ sub org, payload.get (units "sub") = some sub ∧ orgHint payload = some org ∧ ctx.organizationId = claimText rt org ∧
      ∃ m ∈ members, rt.uuid (claimText rt sub) = some m.user_id ∧ rt.uuid (claimText rt org) = some m.organization_id ∧
        m.status = units "active" ∧ ctx.role = m.role ∧
        ∃ o ∈ db.organizations, o.id = m.organization_id ∧ o.status = units "active"

/-- The request has a bearer token, and that grants the context. -/
def GrantedByToken (headers : AuthHeaders) (db : CredentialDb) (ctx : AuthContext) : Prop :=
  ∃ token, bearerToken headers = some token ∧ GrantedToken env rt members token db ctx

/-- There is no bearer token, and the API key is that of a live credential of an active
organisation. -/
def GrantedByKey (headers : AuthHeaders) (db : CredentialDb) (ctx : AuthContext) : Prop :=
  bearerToken headers = none ∧ ∃ key, headers.apiKey = some key ∧ ∃ c ∈ db.api_credentials, c.key_hash = rt.sha256 key ∧
    c.is_active = true ∧ c.revoked_at = none ∧ unexpired db.now c = true ∧
    ctx.organizationId = c.organization_id ∧ ctx.scopes = c.scopes ∧
    ∃ o ∈ db.organizations, o.id = c.organization_id ∧ o.status = units "active"

/-- An execution of `requireAuth` from the state calls next with the context. -/
def Authenticates (headers : AuthHeaders) (db : CredentialDb) (ctx : AuthContext) : Prop :=
  ∃ db' l, Async.Exec (fun _ => True) (requireAuth rt (production env rt allowDevAuth members requestId) requestId headers)
    db Local.empty (.ok (.next ctx)) db' l

/-- Two payloads whose claims differ at most in the role. -/
def SameButRole (payload payload' : Json) : Prop :=
  ∃ fields fields', payload = .obj fields ∧ payload' = .obj fields' ∧
    ∀ name, name ≠ units "role" → payload.get name = payload'.get name

/-- The credential of the hash is in the table and revoked. -/
def Revoked (keyHash : Text) (db : CredentialDb) : Prop :=
  ∃ c ∈ db.api_credentials, c.key_hash = keyHash ∧ c.revoked_at.isSome

/-! ### What a token and a key grant -/

variable {env rt allowDevAuth members requestId}

theorem mem_memberships {c : Settings} {user organization : Uuid} {db : CredentialDb} {x : Member × Text}
    (h : x ∈ memberships rt c members user organization db) : x.1 ∈ members ∧ x.1.user_id = user ∧
      x.1.organization_id = organization ∧ ∃ o ∈ db.organizations, o.id = x.1.organization_id ∧ o.status = x.2 := by
  simp only [memberships, List.mem_flatMap, List.mem_filter, List.mem_map, Bool.and_eq_true, beq_iff_eq] at h
  obtain ⟨m, ⟨hm, ⟨-, huser⟩, horganization⟩, o, ⟨ho, -, hid⟩, rfl⟩ := h
  exact ⟨hm, huser, horganization, o, ho, hid, rfl⟩

theorem mem_matching {c : Settings} {keyHash : Text} {db : CredentialDb} {x : ApiCredential × Text}
    (h : x ∈ matching rt c keyHash db) : x.1 ∈ db.api_credentials ∧ x.1.key_hash = keyHash ∧ x.1.is_active = true ∧
      x.1.revoked_at = none ∧ ∃ o ∈ db.organizations, o.id = x.1.organization_id ∧ o.status = x.2 := by
  simp only [matching, List.mem_flatMap, List.mem_filter, List.mem_map, Bool.and_eq_true, beq_iff_eq,
    Option.isNone_iff_eq_none] at h
  obtain ⟨row, ⟨hrow, ⟨⟨-, hhash⟩, hactive⟩, hrevoked⟩, o, ⟨ho, -, hid⟩, rfl⟩ := h
  exact ⟨hrow, hhash, hactive, hrevoked, o, ho, hid, rfl⟩

/-- A key is authenticated only as a live credential. -/
theorem key_post (may : CredentialSite → Prop) (requestId key : Text) (db : CredentialDb) (l : Local credentialBackend) :
    (authFromApiCredential rt requestId key).post may (fun r _ _ => ∀ ctx, r = .ok (some ctx) →
      ∃ c ∈ db.api_credentials, c.key_hash = rt.sha256 key ∧ c.is_active = true ∧ c.revoked_at = none ∧
        unexpired db.now c = true ∧ ctx.organizationId = c.organization_id ∧ ctx.scopes = c.scopes ∧
        ∃ o ∈ db.organizations, o.id = c.organization_id ∧ o.status = units "active") db l := by
  rw [authFromApiCredential, Async.post_bind, Async.post_pool]
  refine ⟨?_, fun _ f ctx h => by cases h⟩
  simp only [Stmt.reply_select, Stmt.effect_select]
  cases hrows : matching rt credentialBackend.initial (rt.sha256 key) db with
  | nil =>
    intro ctx h
    cases h
  | cons x rest =>
    obtain ⟨hc, hhash, hactive, hrevoked, o, ho, hid, hstatus⟩ := mem_matching (hrows ▸ List.mem_cons_self)
    rw [Async.next_ok]
    dsimp only
    split
    · intro ctx h
      cases h
    rename_i hstate
    split
    · intro ctx h
      cases h
    rename_i hexpires
    rw [Async.post_bind, Async.post_pool]
    refine ⟨?_, fun _ f ctx h => by cases h⟩
    intro ctx h
    cases h
    simp only [bne_iff_ne, ne_eq, not_not, Bool.not_eq_true, Bool.not_eq_false'] at hstate hexpires
    exact ⟨x.1, hc, hhash, hactive, hrevoked, by simpa using hexpires, rfl, rfl, o, ho, hid, hstatus.trans hstate⟩

theorem selectMember_reply {sub organization : Text} {c : Settings} {db : CredentialDb} {rows : List (Member × Text)}
    (h : (selectMember rt members sub organization).reply c db = .ok rows) :
    ∃ user organizationId, rt.uuid sub = some user ∧ rt.uuid organization = some organizationId ∧
      rows = memberships rt c members user organizationId db := by
  unfold Stmt.reply selectMember uuidText at h
  cases huser : rt.uuid sub with
  | none =>
    simp only [huser] at h
    cases h
  | some user =>
    cases hid : rt.uuid organization with
    | none =>
      simp only [huser, hid] at h
      cases h
    | some organizationId =>
      simp only [huser, hid] at h
      cases h
      exact ⟨user, organizationId, rfl, rfl, rfl⟩

/-- A payload is authenticated only as an active member. -/
theorem payload_post (may : CredentialSite → Prop) (payload : Json) (db : CredentialDb) (l : Local credentialBackend) :
    (authFromPayload rt members requestId payload).post may (fun r _ _ => ∀ ctx, r = .ok (some ctx) →
      ∃ org, orgHint payload = some org ∧ ctx.organizationId = claimText rt org ∧
        ∃ m ∈ members, rt.uuid (claimText rt ((payload.get (units "sub")).getD .null)) = some m.user_id ∧
          rt.uuid (claimText rt org) = some m.organization_id ∧ m.status = units "active" ∧ ctx.role = m.role ∧
          ∃ o ∈ db.organizations, o.id = m.organization_id ∧ o.status = units "active") db l := by
  unfold authFromPayload
  cases horg : orgHint payload with
  | none =>
    intro ctx h
    cases h
  | some org =>
    rw [Async.post_bind, Async.post_pool]
    refine ⟨?_, fun _ f ctx h => by cases h⟩
    generalize hsub : claimText rt ((payload.get (units "sub")).getD .null) = sub
    cases hreply : (selectMember rt members sub (claimText rt org)).reply credentialBackend.initial db with
    | error e =>
      intro ctx h
      cases h
    | ok rows =>
      obtain ⟨user, organization, huser, horganization, rfl⟩ := selectMember_reply hreply
      rw [Async.next_ok]
      cases hrows : memberships rt credentialBackend.initial members user organization db with
      | nil =>
        intro ctx h
        cases h
      | cons x rest =>
        obtain ⟨hm, hmuser, hmorg, o, ho, hid, hstatus⟩ := mem_memberships (hrows ▸ List.mem_cons_self)
        dsimp only
        split
        · intro ctx h
          cases h
        rename_i hactive
        obtain ⟨hmember, horgactive⟩ : x.1.status = units "active" ∧ x.2 = units "active" := by
          simpa only [not_or, ne_eq, not_not] using hactive
        intro ctx h
        cases h
        exact ⟨org, rfl, rfl, x.1, hm, hmuser ▸ huser, hmorg ▸ horganization, hmember, rfl, o, ho, hid,
          hstatus.trans horgactive⟩

/-- Checked claims have a subject. -/
theorem hasSub_of_checked {payload : Json} (h : checkClaims env payload = .ok ()) :
    hasSub payload (payload.get (units "sub")) = true := by
  unfold checkClaims at h
  cases hsub : property payload (units "sub") with
  | error e =>
    simp only [hsub] at h
    cases h
  | ok sub =>
    have hget : payload.get (units "sub") = sub := by
      cases payload with
      | null => cases hsub
      | _ => exact Except.ok.inj hsub
    rw [hget]
    by_contra hhas
    simp only [hsub, bind, Except.bind, jwtError, Bool.not_eq_true] at h hhas
    rw [if_pos (by simpa using hhas)] at h
    cases h

/-- Validated claims are those of the payload, with a subject. -/
theorem validateClaims_ok {verified payload : Json} (h : validateClaims env verified = .ok payload) :
    payload = verified ∧ hasSub verified (verified.get (units "sub")) = true := by
  unfold validateClaims at h
  cases hchecked : checkClaims env verified with
  | error e =>
    rw [hchecked] at h
    cases h
  | ok _ =>
    rw [hchecked] at h
    exact ⟨(Except.ok.inj h).symm, hasSub_of_checked hchecked⟩

/-- A payload with a subject and an organisation has its subject as a claim. -/
theorem sub_of_hasSub {payload org : Json} (hsub : hasSub payload (payload.get (units "sub")) = true)
    (horg : orgHint payload = some org) : ∃ sub, payload.get (units "sub") = some sub := by
  cases payload with
  | str s => cases horg
  | obj fields =>
    obtain ⟨sub, hget, -⟩ := (Option.any_eq_true _ _).mp hsub
    exact ⟨sub, hget⟩
  | _ => cases horg

/-- A token is authenticated only as its membership says. -/
theorem token_post (may : CredentialSite → Prop) (token : Text) (db : CredentialDb) (l : Local credentialBackend) :
    (authFromBearerJwt env rt members requestId token).post may (fun r _ _ => ∀ ctx, r = .ok (some ctx) →
      GrantedToken env rt members token db ctx) db l := by
  unfold authFromBearerJwt
  cases hsecret : present env.secret with
  | none =>
    intro ctx h
    cases h
  | some secret =>
    dsimp only
    cases hverified : verifyHs256 env token secret with
    | error e =>
      rw [validPayload, hverified]
      intro ctx h
      cases h
    | ok verified =>
      cases hpayload : validateClaims env verified with
      | error e =>
        have hvalid : validPayload env token secret = .error e := by
          rw [validPayload, hverified]
          exact hpayload
        rw [hvalid]
        intro ctx h
        cases h
      | ok payload =>
        have hvalid : validPayload env token secret = .ok payload := by
          rw [validPayload, hverified]
          exact hpayload
        rw [hvalid]
        obtain ⟨rfl, hhas⟩ := validateClaims_ok hpayload
        refine Async.post_mono (payload_post may payload db l) fun r s' l' hr ctx hctx => ?_
        obtain ⟨org, horg, horganization, m, hm, huser, hrest⟩ := hr ctx hctx
        obtain ⟨sub, hsub⟩ := sub_of_hasSub hhas horg
        rw [hsub] at huser
        exact ⟨secret, payload, payload, hsecret, hverified, hpayload, sub, org, hsub, horg, horganization, m, hm, huser, hrest⟩

/-! ### The four parts -/

/-- Whoever is authenticated is so by the database. -/
theorem granted_of_authenticates {headers : AuthHeaders} {db : CredentialDb} {ctx : AuthContext}
    (h : Authenticates env rt allowDevAuth members requestId headers db ctx) :
    GrantedByToken env rt members headers db ctx ∨ GrantedByKey rt headers db ctx := by
  obtain ⟨db', l, h⟩ := h
  refine h.sound (Q := fun r _ _ => r = .ok (.next ctx) → GrantedByToken env rt members headers db ctx ∨
    GrantedByKey rt headers db ctx) ?_ rfl
  rw [requireAuth, Async.post_handle]
  cases hbearer : bearerToken headers with
  | some token =>
    dsimp only
    rw [Async.post_bind]
    refine Async.post_mono (token_post _ token db Local.empty) fun r s' l' hr => ?_
    cases r with
    | error e =>
      intro h
      cases h
    | ok found =>
      cases found with
      | none =>
        intro h
        cases h
      | some ctx' =>
        intro h
        cases h
        exact .inl ⟨token, hbearer, hr _ rfl⟩
  | none =>
    have hdev : authFromDevHeaders (production env rt allowDevAuth members requestId) requestId headers = none := rfl
    dsimp only
    cases hkey : present headers.apiKey with
    | none =>
      rw [hdev]
      intro h
      cases h
    | some key =>
      have happ : headers.apiKey = some key := (Option.filter_eq_some_iff.mp hkey).1
      rw [hdev]
      dsimp only
      rw [Async.post_bind]
      refine Async.post_mono (key_post _ requestId key db Local.empty) fun r s' l' hr => ?_
      cases r with
      | error e =>
        intro h
        cases h
      | ok found =>
        cases found with
        | none =>
          intro h
          cases h
        | some ctx' =>
          intro h
          cases h
          exact .inr ⟨hbearer, key, happ, hr _ rfl⟩

/-- A bearer token alone decides: the other headers are not read. -/
theorem requireAuth_bearer (e : AuthEnv) {headers headers' : AuthHeaders} {token : Text}
    (h : bearerToken headers = some token) (hsame : headers'.authorization = headers.authorization) :
    requireAuth rt e requestId headers' = requireAuth rt e requestId headers := by
  have h' : bearerToken headers' = some token := by
    rw [← h, bearerToken, bearerToken, hsame]
  unfold requireAuth
  rw [h, h']

/-- The role of a payload is not read. -/
theorem sameButRole_checked {payload payload' : Json} (h : SameButRole payload payload') :
    checkClaims env payload = checkClaims env payload' := by
  obtain ⟨fields, fields', rfl, rfl, hget⟩ := h
  have hsub := hget (units "sub") (by decide)
  have hexp := hget (units "exp") (by decide)
  have hnbf := hget (units "nbf") (by decide)
  have hiss := hget (units "iss") (by decide)
  have haud := hget (units "aud") (by decide)
  simp only [checkClaims, property, hasSub, hsub, hexp, hnbf, hiss, haud]
  rfl

theorem sameButRole_authenticated {payload payload' : Json} (h : SameButRole payload payload') :
    authFromPayload rt members requestId payload = authFromPayload rt members requestId payload' := by
  obtain ⟨fields, fields', rfl, rfl, hget⟩ := h
  have hsub := hget (units "sub") (by decide)
  have horganization := hget (units "organization_id") (by decide)
  have horg := hget (units "org_id") (by decide)
  simp only [authFromPayload, orgHint, hsub, horganization, horg]

/-- Tokens whose payloads differ in the role are authenticated alike. -/
theorem sameButRole_tokens {token token' secret : Text} {payload payload' : Json} (h : SameButRole payload payload')
    (hsecret : present env.secret = some secret) (hverified : verifyHs256 env token secret = .ok payload)
    (hverified' : verifyHs256 env token' secret = .ok payload') :
    authFromBearerJwt env rt members requestId token = authFromBearerJwt env rt members requestId token' := by
  have hvalid : validPayload env token secret = (checkClaims env payload).map fun _ => payload := by
    rw [validPayload, hverified]
    rfl
  have hvalid' : validPayload env token' secret = (checkClaims env payload).map fun _ => payload' := by
    rw [validPayload, hverified', sameButRole_checked h]
    rfl
  unfold authFromBearerJwt
  rw [hsecret]
  dsimp only
  rw [hvalid, hvalid']
  cases checkClaims env payload with
  | error e => rfl
  | ok _ => exact sameButRole_authenticated h

/-! ### Revocation -/

/-- A served revocation that found its credential has revoked it. -/
theorem revoked_of_revoke {organizationId credentialId : Text} {db db' : CredentialDb} {l : Local credentialBackend}
    (h : Async.Exec (fun _ => True) (revokeApiCredential rt organizationId credentialId) db Local.empty (.ok true) db' l)
    {c : ApiCredential} (hc : c ∈ db.api_credentials) (hid : rt.uuid credentialId = some c.id) : Revoked c.key_hash db' := by
  refine h.sound (Q := fun r s' _ => r = .ok true → Revoked c.key_hash s') ?_ rfl
  rw [revokeApiCredential, Async.post_pool]
  refine ⟨?_, fun _ f h => by cases h⟩
  simp only [Stmt.reply, Stmt.effect, uuidText, hid]
  cases rt.uuid organizationId with
  | none =>
    intro h
    cases h
  | some organization =>
    intro h
    obtain ⟨row, hrow, hmatch⟩ := List.any_eq_true.mp (Except.ok.inj h)
    have hrowid : row.id = c.id := by
      simp only [selects, Bool.and_eq_true, beq_iff_eq] at hmatch
      exact hmatch.1.1.1
    obtain rfl := List.inj_on_of_nodup_map db.id_unique hrow hc hrowid
    refine ⟨_, List.mem_map_of_mem hrow, ?_, ?_⟩
    · rw [if_pos hmatch]
    · rw [if_pos hmatch]
      rfl

/-- An event that only sets columns of credentials keeps what is revoked. -/
theorem Revoked.map {keyHash : Text} {db db' : CredentialDb} (h : Revoked keyHash db) {f : ApiCredential → ApiCredential}
    (hmap : db'.api_credentials = db.api_credentials.map f) (hhash : ∀ c, (f c).key_hash = c.key_hash)
    (hrevoked : ∀ c, c.revoked_at.isSome → (f c).revoked_at.isSome) : Revoked keyHash db' := by
  obtain ⟨c, hc, hkey, hisSome⟩ := h
  exact ⟨f c, hmap ▸ List.mem_map_of_mem hc, (hhash c).trans hkey, hrevoked c hisSome⟩

theorem Revoked.insert {keyHash : Text} {db : CredentialDb} (h : Revoked keyHash db) (row : ApiCredential) :
    Revoked keyHash (db.insert row) := by
  obtain ⟨c, hc, hrevoked⟩ := h
  unfold CredentialDb.insert
  split
  · exact ⟨c, List.mem_append_left _ hc, hrevoked⟩
  · exact ⟨c, hc, hrevoked⟩

/-- No event undoes a revocation. -/
theorem Revoked.step {keyHash : Text} {db : CredentialDb} (h : Revoked keyHash db) (e : CredentialEvent) :
    Revoked keyHash (db.step rt e) := by
  cases e with
  | create draw input =>
    simp only [CredentialDb.step, Stmt.effect]
    cases hrow : credentialRow rt draw db.now input with
    | error e =>
      have hrun : (insertCredential rt draw input).run {} db = .error e := by
        simp only [insertCredential, hrow]
        rfl
      rw [hrun]
      exact h
    | ok row =>
      rw [insertCredential_run hrow]
      split
      · split
        · exact h.insert row
        · exact h
      · exact h
  | revoke organizationId credentialId =>
    refine h.map rfl (fun c => by split <;> rfl) fun c hc => ?_
    split
    · rfl
    · exact hc
  | touch credentialId =>
    refine h.map rfl (fun c => by split <;> rfl) fun c hc => ?_
    split
    · exact hc
    · exact hc
  | organization o =>
    simp only [CredentialDb.step, CredentialDb.insertOrganization]
    split <;> exact h
  | status organizationId status => exact h
  | time elapsed => exact h

theorem Revoked.after {keyHash : Text} {db : CredentialDb} (h : Revoked keyHash db) (events : List CredentialEvent) :
    Revoked keyHash (db.after rt events) := by
  induction events generalizing db with
  | nil => exact h
  | cons e events ih => exact ih (h.step e)

/-- The key of a revoked credential grants nothing. -/
theorem Revoked.not_granted {key : Text} {db : CredentialDb} (h : Revoked (rt.sha256 key) db) {headers : AuthHeaders}
    (happ : headers.apiKey = some key) (ctx : AuthContext) : ¬ GrantedByKey rt headers db ctx := by
  rintro ⟨-, key', happ', c', hc', hhash', -, hrevoked', -⟩
  obtain ⟨c, hc, hhash, hrevoked⟩ := h
  obtain rfl := Option.some.inj (happ'.symm.trans happ)
  obtain rfl := List.inj_on_of_nodup_map db.hash_unique hc' hc (hhash'.trans hhash.symm)
  rw [hrevoked'] at hrevoked
  cases hrevoked

/-- The identity of a tenant request in production is derived from the database; a bearer token
is not replaced by other headers, its role is not read, and a revoked key never works again. -/
theorem tenant_identity (env : JwtEnv) (rt : Runtime) (allowDevAuth : Bool) (members : List Member) (requestId : Text) :
    (∀ headers db ctx, Authenticates env rt allowDevAuth members requestId headers db ctx →
      GrantedByToken env rt members headers db ctx ∨ GrantedByKey rt headers db ctx) ∧
    (∀ headers headers' token, bearerToken headers = some token → headers'.authorization = headers.authorization →
      ∀ db ctx, Authenticates env rt allowDevAuth members requestId headers' db ctx ↔
        Authenticates env rt allowDevAuth members requestId headers db ctx) ∧
    (∀ headers headers' token token' secret payload payload', present env.secret = some secret →
      bearerToken headers = some token → bearerToken headers' = some token' → verifyHs256 env token secret = .ok payload →
      verifyHs256 env token' secret = .ok payload' → SameButRole payload payload' →
      ∀ db ctx, Authenticates env rt allowDevAuth members requestId headers db ctx ↔
        Authenticates env rt allowDevAuth members requestId headers' db ctx) ∧
    ∀ organizationId credentialId db db' l,
      Async.Exec (fun _ => True) (revokeApiCredential rt organizationId credentialId) db Local.empty (.ok true) db' l →
      ∀ c ∈ db.api_credentials, rt.uuid credentialId = some c.id →
        ∀ events headers key, rt.sha256 key = c.key_hash → bearerToken headers = none → headers.apiKey = some key →
          ∀ ctx, ¬ Authenticates env rt allowDevAuth members requestId headers (db'.after rt events) ctx := by
  refine ⟨fun headers db ctx h => granted_of_authenticates h, ?_, ?_, ?_⟩
  · intro headers headers' token htoken hsame db ctx
    unfold Authenticates
    rw [requireAuth_bearer _ htoken hsame]
  · intro headers headers' token token' secret payload payload' hsecret htoken htoken' hverified hverified' hsame db ctx
    have hprograms : requireAuth rt (production env rt allowDevAuth members requestId) requestId headers =
        requireAuth rt (production env rt allowDevAuth members requestId) requestId headers' := by
      have hbearer : (production env rt allowDevAuth members requestId).bearer token =
          (production env rt allowDevAuth members requestId).bearer token' :=
        sameButRole_tokens hsame hsecret hverified hverified'
      unfold requireAuth
      rw [htoken, htoken']
      dsimp only
      rw [hbearer]
    unfold Authenticates
    rw [hprograms]
  · intro organizationId credentialId db db' l h c hc hid events headers key hkey hbearer happ ctx hauth
    have hrevoked : Revoked (rt.sha256 key) (db'.after rt events) := hkey ▸ (revoked_of_revoke h hc hid).after events
    rcases granted_of_authenticates hauth with ⟨token, htoken, -⟩ | hgranted
    · rw [hbearer] at htoken
      cases htoken
    · exact hrevoked.not_granted happ ctx hgranted

end GalaxiaAin.Tenant.Credentials
