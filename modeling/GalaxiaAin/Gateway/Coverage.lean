import GalaxiaAin.Gateway.Authentication

/-! What the compliance middleware covers. It runs before the route authenticates, so it
never sees the user of an API key. -/
namespace GalaxiaAin.Gateway
open GalaxiaAin.Library GalaxiaAin.Payments

variable (env : Environment) (answer : GatewaySite → Answer gateway) (db : GatewayDb) (http : HttpRequest)

/-- The API key of the request is accepted, as the key of a user. -/
def AuthenticatedAs (u : UserId) : Prop :=
  ∃ req db', (authenticateApiKey env (.received http)).follow answer db Local.empty = (.ok (.next req), db', Local.empty) ∧
    req.userId = some u

/-- The amount is above the single limit of a profile, or above what is left of its daily limit. -/
def AboveLimit (u : UserId) : Prop :=
  ∃ profile ∈ profileOf db u, http.amount.above (parseFloat profile.single_transaction_limit) = true ∨
    (http.amount.add (dailyTotal db u)).above (parseFloat profile.daily_limit) = true

/-- One of the queries of the checks fails. -/
def CheckFails : Prop :=
  ∃ site ∈ [GatewaySite.geoBlocked, .kycRequired, .kycProfile, .limitProfile, .dailyTotal], (answer site).Faulty

/-- A request of the user is to be stopped. -/
def Restricted (u : UserId) : Prop :=
  blockedBy (jurisdictionOf db u) = true ∨ AboveLimit db http u ∨ CheckFails answer

/-- The key the request presents, as the database holds it. -/
def presentedKey : Option ApiKey :=
  (present http.apiKey).bind fun apiKey =>
    db.api_keys.find? fun key => key.key_hash == env.sha256 apiKey && key.is_active == some true

/-- The key is found and not expired. -/
def Accepted (key : ApiKey) : Prop :=
  ¬ (answer .apiKey).Faulty ∧ presentedKey env db http = some key ∧ key.expired env.keyCheckedAt = false

/-- A gate behind the authentication refuses the request. -/
def StoppedLater (apiKeyId : UserId) : Prop :=
  csrfValid http = false ∨ (rateLimited env apiKeyId).isSome ∨ verifyRequest env http = false

/-- No request of an authenticated user that is to be stopped reaches the handler. -/
def Covered : Prop :=
  ∀ u, AuthenticatedAs env answer db http u → Restricted answer db http u →
    ¬ Reaches (inferenceMiddleware env) answer db (.received http)

/-! ### The chain -/

/-- Without a user a check lets the request pass. -/
theorem checked_anonymous {req : Request} (h : req.userId = none) (check : Text → Async gateway Outcome) :
    checked req check = pure (.next req) := by
  rw [checked, h]
  rfl

/-- The compliance middleware does nothing to a request without a user. -/
theorem chain_compliance (rest : List Middleware) {req : Request} (h : req.userId = none) :
    chain (complianceMiddleware env.uuid ++ rest) req = chain rest req := by
  have hgeo : geoBlockingMiddleware env.uuid req = pure (.next req) := checked_anonymous h _
  have hkyc : kycVerificationMiddleware env.uuid req = pure (.next req) := checked_anonymous h _
  have hlimit : transactionLimitMiddleware env.uuid req = pure (.next req) := checked_anonymous h _
  have haudit : complianceAuditMiddleware env.uuid req = pure (.next req) := checked_anonymous h _
  calc chain (complianceMiddleware env.uuid ++ rest) req
      = chain (kycVerificationMiddleware env.uuid :: transactionLimitMiddleware env.uuid ::
          complianceAuditMiddleware env.uuid :: rest) req := chain_next hgeo _
    _ = chain (transactionLimitMiddleware env.uuid :: complianceAuditMiddleware env.uuid :: rest) req := chain_next hkyc _
    _ = chain (complianceAuditMiddleware env.uuid :: rest) req := chain_next hlimit _
    _ = chain rest req := chain_next haudit _

variable {env answer db http}

/-- An accepted key is attached, whatever the request carries already. -/
theorem authenticate_accepted {key : ApiKey} (h : Accepted env answer db http key) {req : Request}
    (hreq : req.apiKey = http.apiKey) : (authenticateApiKey env req).follow answer db Local.empty =
      (.ok (.next { req with apiKeyId := some key.id, userId := key.user_id }), db, Local.empty) := by
  obtain ⟨hserved, hkey, hexpired⟩ := h
  obtain ⟨reply, hserved⟩ := Answer.served hserved
  obtain ⟨apiKey, hpresent, hfound⟩ := Option.bind_eq_some_iff.mp hkey
  rw [← hreq] at hpresent
  simp [authenticateApiKey, hpresent, hserved, Call.exec, Call.serve, selectApiKey, hfound, hexpired]

/-- A user is authenticated only by a key of theirs. -/
theorem accepted_of_authenticated {u : UserId} (h : AuthenticatedAs env answer db http u) :
    ∃ key, Accepted env answer db http key ∧ key.user_id = some u := by
  obtain ⟨req, db', hnext, huser⟩ := h
  have happ : (Request.received http).apiKey = http.apiKey := rfl
  cases hpresent : present http.apiKey with
  | none => simp [authenticateApiKey, happ, hpresent] at hnext
  | some apiKey =>
    cases hanswer : answer .apiKey with
    | fault f => simp [authenticateApiKey, happ, hpresent, hanswer, Call.exec] at hnext
    | done reply =>
      cases hfound : db.api_keys.find? fun key => key.key_hash == env.sha256 apiKey && key.is_active == some true with
      | none => simp [authenticateApiKey, happ, hpresent, hanswer, Call.exec, Call.serve, selectApiKey, hfound] at hnext
      | some key =>
        cases hexpired : key.expired env.keyCheckedAt with
        | true =>
          simp [authenticateApiKey, happ, hpresent, hanswer, Call.exec, Call.serve, selectApiKey, hfound, hexpired] at hnext
        | false =>
          simp [authenticateApiKey, happ, hpresent, hanswer, Call.exec, Call.serve, selectApiKey, hfound, hexpired] at hnext
          refine ⟨key, ⟨by simp [hanswer], by simp [presentedKey, hpresent, hfound], hexpired⟩, ?_⟩
          rw [← huser, ← hnext.1]

/-- The Galaxia ID lets every request pass and leaves what the client sent. -/
theorem optionalGalaxiaAuth_next (env : Environment) (req : Request) :
    ∃ req', optionalGalaxiaAuth env req = pure (.next req') ∧ req'.toHttpRequest = req.toHttpRequest := by
  unfold optionalGalaxiaAuth
  cases (bearerToken req.authorization).bind env.verifyToken with
  | some user => exact ⟨_, rfl, rfl⟩
  | none => exact ⟨req, rfl, rfl⟩

/-- The gates behind the authentication. -/
def laterGates (env : Environment) : List Middleware := [csrfProtection, rateLimit env, verifyQuantumSignature env]

theorem laterGates_next {req : Request} {apiKeyId : UserId} (hid : req.apiKeyId = some apiKeyId)
    (h : ¬ StoppedLater env req.toHttpRequest apiKeyId) : chain (laterGates env) req = pure (.next req) := by
  simp only [StoppedLater, not_or, Bool.not_eq_false] at h
  obtain ⟨hcsrf, hrate, hsignature⟩ := h
  have hcsrf : csrfProtection req = pure (.next req) := if_pos hcsrf
  have hrate : rateLimit env req = pure (.next req) := by
    have hnone : req.apiKeyId.bind (rateLimited env) = none := by
      rw [hid]
      simpa using hrate
    rw [rateLimit, hnone]
  have hsignature : verifyQuantumSignature env req = pure (.next req) := if_pos hsignature
  rw [laterGates, chain_next hcsrf, chain_next hrate, chain_next hsignature]
  rfl

theorem laterGates_answered {req : Request} {apiKeyId : UserId} (hid : req.apiKeyId = some apiKeyId)
    (h : StoppedLater env req.toHttpRequest apiKeyId) :
    ∃ response, chain (laterGates env) req = pure (.answered response) := by
  unfold laterGates
  by_cases hcsrf : csrfValid req.toHttpRequest = true
  · rw [chain_next (show csrfProtection req = pure (.next req) from if_pos hcsrf)]
    cases hrate : rateLimited env apiKeyId with
    | some response =>
      have hstop : rateLimit env req = pure (.answered response) := by
        rw [rateLimit, hid, Option.bind_some, hrate]
      exact ⟨response, chain_answered hstop _⟩
    | none =>
      have hpass : rateLimit env req = pure (.next req) := by rw [rateLimit, hid, Option.bind_some, hrate]
      have hsignature : verifyRequest env req.toHttpRequest = false := by
        rcases h with h | h | h
        · rw [hcsrf] at h
          cases h
        · rw [hrate] at h
          cases h
        · exact h
      rw [chain_next hpass]
      exact ⟨_, chain_answered (by rw [verifyQuantumSignature, hsignature]; rfl) _⟩
  · exact ⟨_, chain_answered (show csrfProtection req = pure (.answered _) from if_neg hcsrf) _⟩

/-- A request with an accepted key comes to the gates behind the authentication. -/
theorem reaches_laterGates {key : ApiKey} (h : Accepted env answer db http key) :
    ∃ req, req.toHttpRequest = http ∧ req.apiKeyId = some key.id ∧
      (Reaches (inferenceMiddleware env) answer db (.received http) ↔ Reaches (laterGates env) answer db req) := by
  obtain ⟨req, hoptional, hhttp⟩ := optionalGalaxiaAuth_next env (.received http)
  refine ⟨{ req with apiKeyId := some key.id, userId := key.user_id }, hhttp, rfl, ?_⟩
  have hchain : (chain (inferenceMiddleware env) (.received http)).follow answer db Local.empty =
      (chain (laterGates env) { req with apiKeyId := some key.id, userId := key.user_id }).follow answer db Local.empty := by
    have happ : req.apiKey = http.apiKey := congrArg HttpRequest.apiKey hhttp
    rw [inferenceMiddleware, chain_compliance _ _ rfl, chain_next hoptional, chain, Async.follow_bind, authenticate_accepted h happ,
      onOk_ok]
    rfl
  rw [Reaches, Reaches, hchain]

/-- It reaches the handler unless one of them refuses it. -/
theorem reaches_iff {key : ApiKey} (h : Accepted env answer db http key) :
    Reaches (inferenceMiddleware env) answer db (.received http) ↔ ¬ StoppedLater env http key.id := by
  obtain ⟨req, hhttp, hid, hreaches⟩ := reaches_laterGates h
  rw [hreaches, ← hhttp]
  constructor
  · rintro ⟨req', hnext⟩ hstopped
    obtain ⟨response, hanswered⟩ := laterGates_answered hid hstopped
    rw [hanswered] at hnext
    cases hnext
  · intro hpass
    exact ⟨req, by rw [laterGates_next hid hpass]; rfl⟩

/-- The gates cover a request exactly if it is no request of a user to be stopped, or a later
gate refuses it anyway. -/
theorem compliance_gates_iff (env : Environment) (answer : GatewaySite → Answer gateway) (db : GatewayDb)
    (http : HttpRequest) : Covered env answer db http ↔
      ∀ key, Accepted env answer db http key → ∀ u, key.user_id = some u → Restricted answer db http u →
        StoppedLater env http key.id := by
  constructor
  · intro hcovered key hkey u huser hrestricted
    have hauth : AuthenticatedAs env answer db http u := ⟨_, _, authenticate_accepted hkey rfl, huser⟩
    have hreaches := hcovered u hauth hrestricted
    rw [reaches_iff hkey] at hreaches
    exact not_not.mp hreaches
  · intro hstopped u hauth hrestricted
    obtain ⟨key, hkey, huser⟩ := accepted_of_authenticated hauth
    rw [reaches_iff hkey, not_not]
    exact hstopped key hkey u huser hrestricted

/-! ### A blocked user -/

/-- A platform that hashes a text to itself and knows no other service. -/
def plainEnvironment : Environment where
  uuid := some
  sha256 := id
  parseInt _ := .nan
  verifyToken _ := none
  parsePqSnark _ := none
  verifyPqSnarkSignature _ := false
  verifyQuantum _ _ := false
  pqEnabled := false
  maxSkewMs := 300000
  keyCheckedAt := 0
  rateCheckedAt := 0
  signatureCheckedAt := 0
  rateLimitMap _ := none

/-- The key "k" of the user "u". -/
def plainKey : ApiKey := ⟨units "1", some (units "u"), units "k", some true, none⟩

/-- The user "u" is blocked. -/
def blockedDb : GatewayDb := ⟨0, [plainKey], [⟨units "u", some true, none, none⟩], [], [], []⟩

/-- A request with the key "k" and a CSRF token. -/
def plainRequest : HttpRequest where
  method := units "POST"
  path := units "/v1/inference"
  body := .null
  amount := .finite 5
  authorization := none
  apiKey := some (units "k")
  csrfToken := some (units "t")
  csrfCookie := some (units "t")
  pqSnarkSignature := none
  quantumSignature := none
  quantumPublicKey := none
  quantumAlgorithm := none
  quantumTimestamp := none

/-- Every query is served. -/
def served : GatewaySite → Answer gateway := fun _ => .done gateway.usual

/-- The request of a blocked user reaches the handler. -/
theorem blocked_user_served : ¬ Covered plainEnvironment served blockedDb plainRequest := by
  intro hcovered
  have hkey : Accepted plainEnvironment served blockedDb plainRequest plainKey := ⟨id, rfl, rfl⟩
  have hreaches : ¬ Reaches (inferenceMiddleware plainEnvironment) served blockedDb (.received plainRequest) :=
    hcovered (units "u") ⟨_, _, authenticate_accepted hkey rfl, rfl⟩ (.inl (by decide +kernel))
  rw [reaches_iff hkey] at hreaches
  exact hreaches (by unfold StoppedLater; decide +kernel)

end GalaxiaAin.Gateway
