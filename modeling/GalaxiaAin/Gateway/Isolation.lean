import GalaxiaAin.Gateway.Ownership

/-! What a client holding the keys of one user is served as, and which tables its replies
depend on. -/
namespace GalaxiaAin.Gateway
open GalaxiaAin.Library

variable {σ : Type}

/-! ### The client -/

/-- Of these API keys, those the server knows were issued to this user. -/
def ServerDb.Holds (S : Server σ) (a : UserId) (keys : List Text) (db : ServerDb σ) : Prop :=
  ∀ key ∈ keys, ∀ row ∈ db.api_keys, row.key_hash = S.environment.sha256 key → row.user_id = some a

/-- The key a client presents is one it holds or is nobody's. -/
def Presents (S : Server σ) (keys : List Text) (e : Exchange) (db : ServerDb σ) : Prop :=
  ∀ apiKey, present e.http.apiKey = some apiKey →
    apiKey ∈ keys ∨ ∀ row ∈ db.api_keys, row.key_hash ≠ S.environment.sha256 apiKey

/-- A request of a client with these keys, under fresh row ids. -/
structure Plays (S : Server σ) (keys : List Text) (e : Exchange) (db : ServerDb σ) : Prop where
  presents : Presents S keys e db
  fresh : Unused e.rowId db

/-- The API keys a reply gives away. -/
def Reply.keys : Reply → List Text
  | .apiKey api_key _ => [api_key]
  | _ => []

/-- Every exchange meets a condition on the keys held and the database before it. -/
def Along (S : Server σ) (ok : List Text → Exchange → ServerDb σ → Prop) : List Text → ServerDb σ → List Exchange → Prop
  | _, _, [] => True
  | keys, db, e :: es => ok keys e db ∧ Along S ok (keys ++ (serve S e db).reply.keys) (serve S e db).db es

/-- What a sequence of requests is served with. -/
def servings (S : Server σ) : ServerDb σ → List Exchange → List (Served σ)
  | _, [] => []
  | db, e :: es => serve S e db :: servings S (serve S e db).db es

/-- The request names no row of another user where no handler checks: keys are asked for the
client's own user, tasks, complaints about tasks, Travel Rule records and reports of nodes
concern its own, and nothing is aggregated over all tasks. -/
def Confined (S : Server σ) (a : UserId) (e : Exchange) (db : ServerDb σ) : Prop :=
  match e.endpoint with
  | .issueKey => ∀ userId, requestedUser S e = some (.ok userId) → userId = a
  | .task taskId => ∀ key, authenticate S e db.api_keys = .ok key → ∀ id, S.uuid taskId = .ok id → db.TaskOf a id
  | .submitComplaint => ∀ key, authenticate S e db.api_keys = .ok key → complaintComplete e = true →
      ∀ v, (e.http.body.get (units "related_task_id")).filter Json.truthy = some v →
        ∀ id, S.uuid (S.parameter v) = .ok id → db.TaskOf a id
  | .travelRule transactionId => ∀ key, authenticate S e db.api_keys = .ok key →
      ∀ id, S.uuid transactionId = .ok id → db.RecordOf a id
  | .nodeTask taskId => S.requireNodeOperatorSecret e.http = none →
      ∀ id, S.environment.uuid taskId = some id → db.TaskOf a id
  | .statistics .adminStats => ∀ key, authenticate S e db.api_keys = .ok key → requireAdmin S e db key ≠ none
  | .statistics _ => False
  | .inference | .complaint _ | .elsewhere _ => True

/-! ### One exchange in two databases -/

/-- Outcomes that look the same to the client and leave the databases alike. -/
structure Matched (a : UserId) (x y : ServerDb σ × Reply) : Prop where
  alike : Alike a x.1 y.1
  reply : x.2 = y.2

section Handlers
variable {S : Server σ} {e : Exchange} {a : UserId} {db db' : ServerDb σ}

theorem Alike.final_output (h : Alike a db db') {id : UserId} (ht : db.TaskOf a id) (ht' : db'.TaskOf a id) {task : TaskRow}
    (hfound : (db.tasks.find? fun task => task.id == id) = some task) : finalOutput e db task = finalOutput e db' task := by
  have hp := List.find?_some hfound
  have hid : task.id = id := beq_iff_eq.mp hp
  rw [finalOutput, finalOutput, hid, ← List.head?_filter, ← List.head?_filter, h.filter_results ht ht' hfound]

theorem Alike.task_reply (h : Alike a db db') {taskId : Text} (ht : ∀ id, S.uuid taskId = .ok id → db.TaskOf a id)
    (ht' : ∀ id, S.uuid taskId = .ok id → db'.TaskOf a id) : taskReply S e db taskId = taskReply S e db' taskId := by
  have hget : getTask S e db taskId = getTask S e db' taskId := by
    rw [getTask, getTask]
    cases hid : S.uuid taskId with
    | error m => rfl
    | ok id => simp only [Except.map, h.find_task (ht id hid) (ht' id hid)]
  have hout (task : TaskRow) (hfound : getTask S e db taskId = .ok (some task)) :
      finalOutput e db task = finalOutput e db' task := by
    rw [getTask, Exchange.ask] at hfound
    cases hfault : e.fault .task with
    | some m => rw [hfault] at hfound; cases hfound
    | none =>
      rw [hfault] at hfound
      cases hid : S.uuid taskId with
      | error m => rw [hid] at hfound; cases hfound
      | ok id =>
        rw [hid] at hfound
        exact h.final_output (ht id hid) (ht' id hid) (Except.ok.inj hfound)
  rw [taskReply, taskReply, ← hget]
  cases hfound : getTask S e db taskId with
  | error m => rfl
  | ok found =>
    cases found with
    | none => rfl
    | some task =>
      have heq := hout task hfound
      change caught serverError (do return Reply.task (taskView task (← finalOutput e db task))) =
        caught serverError (do return Reply.task (taskView task (← finalOutput e db' task)))
      rw [heq]

theorem Alike.travel_rule_reply (h : Alike a db db') {transactionId : Text}
    (hr : ∀ id, S.uuid transactionId = .ok id → db.RecordOf a id)
    (hr' : ∀ id, S.uuid transactionId = .ok id → db'.RecordOf a id) :
    travelRuleReply S e db transactionId = travelRuleReply S e db' transactionId := by
  have hget : getTravelRuleRecord S e db transactionId = getTravelRuleRecord S e db' transactionId := by
    rw [getTravelRuleRecord, getTravelRuleRecord]
    cases hid : S.uuid transactionId with
    | error m => rfl
    | ok id => simp only [Except.map, h.find_record (hr id hid) (hr' id hid)]
  rw [travelRuleReply, travelRuleReply, hget]

theorem Alike.related_task (h : Alike a db db')
    (ht : ∀ v, (e.http.body.get (units "related_task_id")).filter Json.truthy = some v →
      ∀ id, S.uuid (S.parameter v) = .ok id → db.TaskOf a id)
    (ht' : ∀ v, (e.http.body.get (units "related_task_id")).filter Json.truthy = some v →
      ∀ id, S.uuid (S.parameter v) = .ok id → db'.TaskOf a id) : relatedTask S e db = relatedTask S e db' := by
  rw [relatedTask, relatedTask]
  cases hv : (e.http.body.get (units "related_task_id")).filter Json.truthy with
  | none => rfl
  | some v =>
    cases hid : S.uuid (S.parameter v) with
    | error m => simp only [hid]; rfl
    | ok id =>
      have hany : (db.tasks.any fun task => task.id == id) = db'.tasks.any fun task => task.id == id := by
        rw [← List.isSome_find?, ← List.isSome_find?, h.find_task (ht v hv id hid) (ht' v hv id hid)]
      simp only [hid, bind, Except.bind, hany]

theorem insertKey_ok {userId : UserId} {key : ApiKey} (h : insertKey S e db userId = .ok key) :
    key = ⟨e.rowId, some userId, S.environment.sha256 (issuedKey e), some true, none⟩ ∧
      ∀ row ∈ db.api_keys, row.key_hash ≠ S.environment.sha256 (issuedKey e) := by
  rw [insertKey] at h
  split at h
  case isTrue => cases h
  case isFalse hany =>
    cases h
    refine ⟨rfl, fun row hrow heq => hany ?_⟩
    rw [List.any_eq_true]
    exact ⟨row, hrow, by simp [heq]⟩

/-- The key a successful request for one stores. -/
theorem insertKey_bind {userId : Except Text UserId} {key : ApiKey}
    (h : (userId.bind fun userId => e.ask .insertKey (insertKey S e db userId)) = .ok key) :
    ∃ u, userId = .ok u ∧ insertKey S e db u = .ok key := by
  cases userId with
  | error m => cases h
  | ok u =>
    refine ⟨u, rfl, ?_⟩
    change e.ask .insertKey (insertKey S e db u) = .ok key at h
    rw [Exchange.ask] at h
    cases hf : e.fault .insertKey with
    | some m => rw [hf] at h; cases h
    | none => rw [hf] at h; exact h

theorem Alike.issue_key (h : Alike a db db') (hfresh : Unused e.rowId db) (hfresh' : Unused e.rowId db') :
    Matched a (issueKey S e db) (issueKey S e db') := by
  have hinsert : insertKey S e db' = insertKey S e db := by
    funext userId
    rw [insertKey, insertKey, h.shared]
  rw [issueKey, issueKey, hinsert, ← h.shared]
  cases requestedUser S e with
  | none => exact ⟨h, rfl⟩
  | some userId =>
    cases hkey : userId.bind fun userId => e.ask .insertKey (insertKey S e db userId) with
    | error m =>
      simp only [hkey]
      exact ⟨h, rfl⟩
    | ok key =>
      simp only [hkey]
      obtain ⟨u, -, hu⟩ := insertKey_bind hkey
      obtain ⟨rfl, -⟩ := insertKey_ok hu
      refine ⟨h.set_shared (fun task ht => ownsTask_api_keys _ (hfresh.1 task ht).2) (fun task ht => ?_) rfl, rfl⟩
      rw [ownsTask_api_keys _ (hfresh'.1 task ht).2, h.shared]

theorem Alike.submit_complaint (h : Alike a db db') (key : ApiKey)
    (hrelated : complaintComplete e = true → relatedTask S e db = relatedTask S e db') :
    Matched a (submitComplaint S e db key) (submitComplaint S e db' key) := by
  rw [submitComplaint, submitComplaint, ← h.shared]
  split
  case isFalse => exact ⟨h, rfl⟩
  case isTrue hc =>
    rw [hrelated hc]
    split
    case h_2 => exact ⟨h, rfl⟩
    case h_1 complaint _ =>
      exact ⟨h.set_shared (fun _ _ => rfl) (fun _ _ => by rw [← h.shared]; rfl) rfl, rfl⟩

theorem Alike.inference_reply (h : Alike a db db') (key : ApiKey) (hfresh : Unused e.rowId db) (hfresh' : Unused e.rowId db') :
    Matched a (inferenceReply S e db key) (inferenceReply S e db' key) := by
  rw [inferenceReply, inferenceReply, ← h.shared]
  cases hi : S.inference db.toShared key e with
  | mk rest outcome =>
    cases outcome with
    | inl answer => exact ⟨h.set_rest rest, rfl⟩
    | inr task => exact ⟨(h.set_rest rest).add_task hfresh hfresh', rfl⟩

theorem Alike.report_task (h : Alike a db db') {id : UserId} (ht : db.TaskOf a id) (ht' : db'.TaskOf a id) :
    Matched a (reportTask S e db id) (reportTask S e db' id) := by
  rw [reportTask, reportTask, ← h.find_task ht ht', ← h.shared]
  cases hfound : db.tasks.find? fun task => task.id == id with
  | none => exact ⟨h.set_rest _, rfl⟩
  | some task =>
    rw [← h.filter_results ht ht' hfound]
    exact ⟨(h.set_rest _).report _ id, rfl⟩

theorem Alike.node_task (h : Alike a db db') {taskId : Text}
    (ht : S.requireNodeOperatorSecret e.http = none → ∀ id, S.environment.uuid taskId = some id → db.TaskOf a id)
    (ht' : S.requireNodeOperatorSecret e.http = none → ∀ id, S.environment.uuid taskId = some id → db'.TaskOf a id) :
    Matched a (nodeTaskReply S e db taskId) (nodeTaskReply S e db' taskId) := by
  rw [nodeTaskReply, nodeTaskReply]
  cases hgate : S.requireNodeOperatorSecret e.http with
  | some answer => exact ⟨h, rfl⟩
  | none =>
    cases hid : S.environment.uuid taskId with
    | some id => exact h.report_task (ht hgate id hid) (ht' hgate id hid)
    | none =>
      rw [← h.shared]
      exact ⟨h.set_rest _, rfl⟩

theorem Alike.elsewhere (h : Alike a db db') (key : Option ApiKey) :
    Matched a (Gateway.elsewhere S e db key) (Gateway.elsewhere S e db' key) := by
  rw [Gateway.elsewhere, Gateway.elsewhere, ← h.shared]
  exact ⟨h.set_rest _, rfl⟩

end Handlers

/-- Two services of one request that the client cannot tell apart. -/
structure Indistinct (a : UserId) (x y : Served σ) : Prop where
  alike : Alike a x.db y.db
  reply : x.reply = y.reply

section Step
variable {S : Server σ} {e : Exchange} {a : UserId} {db db' : ServerDb σ}

theorem Matched.unauthenticated {x y : ServerDb σ × Reply} (h : Matched a x y) :
    Indistinct a (unauthenticated x) (unauthenticated y) := ⟨h.alike, h.reply⟩

/-- The key check lets the same key through in both databases. -/
theorem Alike.authenticated (h : Alike a db db') {handler handler' : ApiKey → ServerDb σ × Reply}
    (hmatched : ∀ key, authenticate S e db.api_keys = .ok key → Matched a (handler key) (handler' key)) :
    Indistinct a (authenticated S e db handler) (authenticated S e db' handler') := by
  rw [Gateway.authenticated, Gateway.authenticated, ← h.shared]
  cases hkey : authenticate S e db.api_keys with
  | error response => exact ⟨h, rfl⟩
  | ok key => exact ⟨(hmatched key hkey).alike, (hmatched key hkey).reply⟩

/-- A confined request gets the same reply in both databases and leaves them alike. -/
theorem Alike.serve (h : Alike a db db') (hfresh : Unused e.rowId db) (hfresh' : Unused e.rowId db')
    (hc : Confined S a e db) (hc' : Confined S a e db') : Indistinct a (Gateway.serve S e db) (Gateway.serve S e db') := by
  have hkeys (key : ApiKey) : authenticate S e db.api_keys = .ok key → authenticate S e db'.api_keys = .ok key := by
    rw [h.shared]
    exact id
  rw [Gateway.serve, Gateway.serve]
  rw [Confined] at hc hc'
  cases he : e.endpoint with
  | issueKey => exact (h.issue_key hfresh hfresh').unauthenticated
  | inference => exact h.authenticated fun key _ => h.inference_reply key hfresh hfresh'
  | task taskId =>
    simp only [he] at hc hc'
    exact h.authenticated fun key hk => ⟨h, h.task_reply (hc key hk) (hc' key (hkeys key hk))⟩
  | submitComplaint =>
    simp only [he] at hc hc'
    exact h.authenticated fun key hk =>
      h.submit_complaint key fun hd => h.related_task (hc key hk hd) (hc' key (hkeys key hk) hd)
  | complaint complaintId =>
    refine h.authenticated fun key _ => ⟨h, ?_⟩
    rw [complaintReply, complaintReply, h.shared]
  | travelRule transactionId =>
    simp only [he] at hc hc'
    exact h.authenticated fun key hk => ⟨h, h.travel_rule_reply (hc key hk) (hc' key (hkeys key hk))⟩
  | nodeTask taskId =>
    simp only [he] at hc hc'
    exact (h.node_task hc hc').unauthenticated
  | statistics route =>
    simp only [he] at hc hc'
    cases route with
    | metrics => exact hc.elim
    | competitiveMetrics => exact hc.elim
    | adminStats =>
      refine h.authenticated fun key hk => ⟨h, ?_⟩
      have hsame : requireAdmin S e db key = requireAdmin S e db' key := by rw [requireAdmin, requireAdmin, h.shared]
      obtain ⟨refusal, hr⟩ := Option.ne_none_iff_exists'.mp (hc key hk)
      rw [← hsame, hr]
      rfl
  | elsewhere authenticated =>
    cases authenticated with
    | true => exact h.authenticated fun key _ => h.elsewhere _
    | false => exact (h.elsewhere none).unauthenticated

end Step

/-! ### The keys of the client -/

section Keys
variable {S : Server σ} {e : Exchange} {a : UserId} {db : ServerDb σ} {keys : List Text}

/-- A held key is executed as its user. -/
theorem authenticate_owner (hholds : db.Holds S a keys) (hpresents : Presents S keys e db) {key : ApiKey}
    (h : authenticate S e db.api_keys = .ok key) : key.user_id = some a := by
  rw [authenticate] at h
  cases hp : present e.http.apiKey with
  | none => rw [hp] at h; cases h
  | some apiKey =>
    cases hf : e.fault .apiKey with
    | some m => simp only [hp, hf] at h; cases h
    | none =>
      cases hfound : db.api_keys.find? fun key => key.key_hash == S.environment.sha256 apiKey && key.is_active == some true with
      | none => simp only [hp, hf, hfound] at h; cases h
      | some row =>
        simp only [hp, hf, hfound] at h
        have hmem := List.mem_of_find?_eq_some hfound
        have hhash : row.key_hash = S.environment.sha256 apiKey := by
          have hmatch := List.find?_some hfound
          rw [Bool.and_eq_true] at hmatch
          exact beq_iff_eq.mp hmatch.1
        split at h
        · cases h
        · cases h
          exact (hpresents apiKey hp).elim (fun hk => hholds apiKey hk _ hmem hhash) fun hno => absurd hhash (hno _ hmem)

theorem serve_userId (S : Server σ) (e : Exchange) (db : ServerDb σ) : (serve S e db).userId = none ∨
    ∃ key, authenticate S e db.api_keys = .ok key ∧ (serve S e db).userId = key.user_id := by
  have hauth (handler : ApiKey → ServerDb σ × Reply) : (authenticated S e db handler).userId = none ∨
      ∃ key, authenticate S e db.api_keys = .ok key ∧ (authenticated S e db handler).userId = key.user_id := by
    rw [authenticated]
    cases authenticate S e db.api_keys with
    | error response => exact .inl rfl
    | ok key => exact .inr ⟨key, rfl, rfl⟩
  rw [serve]
  cases e.endpoint with
  | issueKey => exact .inl rfl
  | nodeTask taskId => exact .inl rfl
  | statistics route =>
    cases route with
    | adminStats => exact hauth _
    | _ => exact .inl rfl
  | elsewhere authenticated =>
    cases authenticated with
    | true => exact hauth _
    | false => exact .inl rfl
  | _ => exact hauth _

/-- An outcome that issues no key. -/
structure Keyless (db : ServerDb σ) (x : ServerDb σ × Reply) : Prop where
  api_keys : x.1.api_keys = db.api_keys
  reply : x.2.keys = []

theorem caught_keys {onError : Text → Reply} {r : Except Text Reply} (herror : ∀ m, (onError m).keys = [])
    (hok : ∀ reply, r = .ok reply → reply.keys = []) : (caught onError r).keys = [] := by
  cases r with
  | error m => exact herror m
  | ok reply => exact hok reply rfl

theorem taskReply_keys (taskId : Text) : (taskReply S e db taskId).keys = [] := by
  refine caught_keys (fun _ => rfl) fun reply h => ?_
  cases hget : getTask S e db taskId with
  | error m => rw [hget] at h; cases h
  | ok found =>
    rw [hget] at h
    cases found with
    | none => cases h; rfl
    | some task =>
      change (do return Reply.task (taskView task (← finalOutput e db task))) = Except.ok reply at h
      cases hout : finalOutput e db task with
      | error m => rw [hout] at h; cases h
      | ok result => rw [hout] at h; cases h; rfl

theorem travelRuleReply_keys (transactionId : Text) : (travelRuleReply S e db transactionId).keys = [] := by
  refine caught_keys (fun _ => rfl) fun reply h => ?_
  cases hget : getTravelRuleRecord S e db transactionId with
  | error m => rw [hget] at h; cases h
  | ok found =>
    rw [hget] at h
    cases found <;> cases h <;> rfl

theorem complaintReply_keys (complaintId : Text) (key : ApiKey) : (complaintReply S e db complaintId key).keys = [] := by
  refine caught_keys (fun _ => rfl) fun reply h => ?_
  cases hget : e.ask .complaint ((S.uuid complaintId).map fun id => db.complaints.find? fun c => c.id == id) with
  | error m => rw [hget] at h; cases h
  | ok found =>
    rw [hget] at h
    cases found with
    | none => cases h; rfl
    | some complaint =>
      change (if some complaint.user_id = key.user_id then pure (Reply.complaint complaint)
        else pure (.error 403 (units "Access denied"))) = Except.ok reply at h
      split at h <;> cases h <;> rfl

theorem requireAdmin_keys (key : ApiKey) {reply : Reply} (h : requireAdmin S e db key = some reply) : reply.keys = [] := by
  rw [requireAdmin] at h
  repeat' split at h
  all_goals cases h
  all_goals rfl

theorem submitComplaint_keyless (key : ApiKey) : Keyless db (submitComplaint S e db key) := by
  rw [submitComplaint]
  repeat' split
  all_goals exact ⟨rfl, rfl⟩

theorem inferenceReply_keyless (key : ApiKey) : Keyless db (inferenceReply S e db key) := by
  rw [inferenceReply]
  split <;> exact ⟨rfl, rfl⟩

theorem nodeTaskReply_keyless (taskId : Text) : Keyless db (nodeTaskReply S e db taskId) := by
  rw [nodeTaskReply]
  split
  · exact ⟨rfl, rfl⟩
  · split
    · rw [reportTask]
      split <;> exact ⟨rfl, rfl⟩
    · exact ⟨rfl, rfl⟩

theorem authenticated_keyless {handler : ApiKey → ServerDb σ × Reply} (h : ∀ key, Keyless db (handler key)) :
    (authenticated S e db handler).db.api_keys = db.api_keys ∧ (authenticated S e db handler).reply.keys = [] := by
  rw [authenticated]
  split
  · exact ⟨rfl, rfl⟩
  · exact ⟨(h _).api_keys, (h _).reply⟩

/-- Keys are issued by their endpoint only. -/
theorem serve_keyless (h : e.endpoint ≠ .issueKey) :
    (serve S e db).db.api_keys = db.api_keys ∧ (serve S e db).reply.keys = [] := by
  rw [serve]
  cases he : e.endpoint with
  | issueKey => exact absurd he h
  | inference => exact authenticated_keyless inferenceReply_keyless
  | task taskId => exact authenticated_keyless fun _ => ⟨rfl, taskReply_keys taskId⟩
  | submitComplaint => exact authenticated_keyless submitComplaint_keyless
  | complaint complaintId => exact authenticated_keyless fun key => ⟨rfl, complaintReply_keys complaintId key⟩
  | travelRule transactionId => exact authenticated_keyless fun _ => ⟨rfl, travelRuleReply_keys transactionId⟩
  | nodeTask taskId => exact ⟨(nodeTaskReply_keyless taskId).api_keys, (nodeTaskReply_keyless taskId).reply⟩
  | statistics route =>
    cases route with
    | metrics => exact ⟨rfl, rfl⟩
    | competitiveMetrics => exact ⟨rfl, rfl⟩
    | adminStats =>
      refine authenticated_keyless fun key => ⟨rfl, ?_⟩
      cases hr : requireAdmin S e db key with
      | none => rfl
      | some reply => exact requireAdmin_keys key hr
  | elsewhere authenticated =>
    cases authenticated with
    | true => exact authenticated_keyless fun _ => ⟨rfl, rfl⟩
    | false => exact ⟨rfl, rfl⟩

/-- A client that asks for keys of its user only goes on holding keys of its user only. -/
theorem ServerDb.Holds.serve (hholds : db.Holds S a keys) (hc : Confined S a e db) :
    (Gateway.serve S e db).db.Holds S a (keys ++ (Gateway.serve S e db).reply.keys) := by
  by_cases he : e.endpoint = .issueKey
  · rw [Confined] at hc
    simp only [he] at hc
    simp only [Gateway.serve, he, unauthenticated]
    rw [issueKey]
    cases hr : requestedUser S e with
    | none => simpa [Reply.keys] using hholds
    | some userId =>
      cases hkey : userId.bind fun userId => e.ask .insertKey (insertKey S e db userId) with
      | error m =>
        simp only [hkey, serverError, Reply.keys, List.append_nil]
        exact hholds
      | ok key =>
        obtain ⟨u, rfl, hu⟩ := insertKey_bind hkey
        obtain ⟨rfl, hunique⟩ := insertKey_ok hu
        simp only [hkey, Reply.keys]
        intro k hk row hrow hhash
        rcases List.mem_append.mp hrow with hold | hnew
        · rcases List.mem_append.mp hk with hk | hk
          · exact hholds k hk row hold hhash
          · rw [List.mem_singleton.mp hk] at hhash
            exact absurd hhash (hunique row hold)
        · rw [List.mem_singleton.mp hnew, hc u hr]
  · obtain ⟨hkeys, hreply⟩ := @serve_keyless σ S e db he
    rw [hreply, List.append_nil]
    intro k hk row hrow hhash
    rw [hkeys] at hrow
    exact hholds k hk row hrow hhash

end Keys

/-! ### Runs -/

/-- The uuid of this hexadecimal digit only. -/
def uuidOf (digit : Nat) : UserId :=
  let group (length : Nat) : Text := List.replicate length (hexDigit digit)
  group 8 ++ 45 :: group 4 ++ 45 :: group 4 ++ 45 :: group 4 ++ 45 :: group 12

/-- The 64 hexadecimal digits of 32 bytes. -/
def hexOf (bytes : Nat) : Text := (List.range 64).map fun i => hexDigit (bytes / 16 ^ (63 - i) % 16)

def alice : UserId := uuidOf 1
def bob : UserId := uuidOf 2
def aliceTask : UserId := uuidOf 3
def bobTask : UserId := uuidOf 4
def aliceKeyId : UserId := uuidOf 5
def bobKeyId : UserId := uuidOf 6
def drawnId : UserId := uuidOf 7

def drawnHex : Text := hexOf 0xb2b2b2b2b2b2b2b2b2b2b2b2b2b2b2b2b2b2b2b2b2b2b2b2b2b2b2b2b2b2b2b2
def drawnKey : Text := units "galx_" ++ drawnHex
def aliceKey : Text := units "galx_" ++ hexOf 0xa1a1a1a1a1a1a1a1a1a1a1a1a1a1a1a1a1a1a1a1a1a1a1a1a1a1a1a1a1a1a1a1
def aliceHash : Text := hexOf 0xe61878dd3cc0c003a6c8edb04242850fc86bb64261617d5a46875e159117143c

/-- The digests of the two keys. -/
def keyDigest (t : Text) : Text :=
  if t = aliceKey then aliceHash
  else if t = drawnKey then hexOf 0xc994cc93dc7bedd551e4865c8aa1059ee789c2d918e0c2ac01276d8e7c9afaf2
  else []

/-- A server whose other routes find nothing and answer nothing. -/
def quietServer : Server Unit where
  environment :=
    { uuid t := if t.length = 36 then some t else none
      sha256 := keyDigest
      parseInt _ := .nan
      verifyToken _ := none
      parsePqSnark _ := none
      verifyPqSnarkSignature _ := false
      verifyQuantum _ _ := false
      pqEnabled := false
      maxSkewMs := 300000
      keyCheckedAt := 0
      rateCheckedAt := 0
      signatureCheckedAt := 0
      rateLimitMap _ := none }
  parameter v := v.text.getD []
  role _ _ := none
  requireNodeOperatorSecret _ := some (503, .null)
  complaintDetails _ := .null
  inference _ _ _ := ((), .inl (503, .null))
  nodeTask _ _ _ := ⟨(), (404, .null), .failed, none, none, []⟩
  statistics _ _ _ := (500, .null)
  elsewhere _ _ _ := ((), 404, .null)

def completedTask (id keyId : UserId) : TaskRow :=
  ⟨id, units "llama-3-8b", units "standard", [], .completed, some keyId, units "0.00000000", none, 0, none⟩

/-- Alice and Bob with a task of hers, and these tasks and results besides. -/
def twoUsers (tasks : List TaskRow) (results : List ConsensusRow) : ServerDb Unit where
  rest := ()
  api_keys :=
    [⟨aliceKeyId, some alice, aliceHash, some true, none⟩, ⟨bobKeyId, some bob, units "0", some true, none⟩]
  token_transactions := []
  complaints := []
  tasks := completedTask aliceTask aliceKeyId :: tasks
  consensus_results := ⟨aliceTask, units "hi"⟩ :: results
  travel_rule_records := []

/-- Bob has a completed task. -/
def busyDb : ServerDb Unit := twoUsers [completedTask bobTask bobKeyId] [⟨bobTask, units "secret"⟩]
def idleDb : ServerDb Unit := twoUsers [] []

/-- A request with this key and no failing query. -/
def asking (endpoint : Endpoint) (apiKey : Option Text) (body : Json) : Exchange where
  endpoint := endpoint
  http := ⟨units "GET", [], body, .nan, none, apiKey, none, none, none, none, none, none, none⟩
  now := 0
  randomHex := drawnHex
  rowId := drawnId
  fault _ := none

/-- The body of a request for a key of this user. -/
def keyBody (userId : UserId) : Json := .obj [(units "user_id", .str userId)]

/-- Alice asks for a second key and reads her task with it. -/
def aliceRun : List Exchange :=
  [asking .issueKey none (keyBody alice), asking (.task aliceTask) (some drawnKey) .null]

/-- Alice reads a task of Bob, asks for a key of his and reads the task again. -/
def bobRun : List Exchange :=
  [asking (.task bobTask) (some aliceKey) .null, asking .issueKey none (keyBody bob),
    asking (.task bobTask) (some drawnKey) .null]

theorem busy_idle_alike : Alike alice busyDb idleDb := ⟨rfl, by decide +kernel, by decide +kernel, rfl⟩

theorem alice_holds : busyDb.Holds quietServer alice [aliceKey] := by
  unfold ServerDb.Holds
  decide +kernel

/-- A request without a key, or with one that is held, under an unused id. -/
theorem plays_asking {endpoint : Endpoint} {apiKey : Option Text} {body : Json} {keys : List Text} {db : ServerDb Unit}
    (hkey : ∀ k ∈ present apiKey, k ∈ keys) (hfresh : Unused drawnId db) :
    Plays quietServer keys (asking endpoint apiKey body) db := ⟨fun k hk => .inl (hkey k hk), hfresh⟩

instance (id : UserId) (db : ServerDb σ) : Decidable (Unused id db) :=
  inferInstanceAs (Decidable (_ ∧ _))

instance (a id : UserId) (db : ServerDb σ) : Decidable (db.TaskOf a id) :=
  inferInstanceAs (Decidable (∀ task ∈ db.tasks, task.id = id → db.ownsTask a task = true))

/-- The client plays by its run in both databases. -/
theorem alice_plays : Along quietServer (Plays quietServer) [aliceKey] busyDb aliceRun ∧
    Along quietServer (Plays quietServer) [aliceKey] idleDb aliceRun :=
  ⟨⟨plays_asking (by decide +kernel) (by decide +kernel), plays_asking (by decide +kernel) (by decide +kernel), trivial⟩,
    ⟨plays_asking (by decide +kernel) (by decide +kernel), plays_asking (by decide +kernel) (by decide +kernel), trivial⟩⟩

theorem requested_alice : requestedUser quietServer (asking .issueKey none (keyBody alice)) = some (.ok alice) := rfl

theorem uuid_aliceTask : quietServer.uuid aliceTask = .ok aliceTask := rfl

theorem confined_issue (db : ServerDb Unit) : Confined quietServer alice (asking .issueKey none (keyBody alice)) db := by
  intro userId h
  rw [requested_alice] at h
  exact (Except.ok.inj (Option.some.inj h)).symm

theorem confined_read {db : ServerDb Unit} (h : db.TaskOf alice aliceTask) :
    Confined quietServer alice (asking (.task aliceTask) (some drawnKey) .null) db := by
  intro key _ id hid
  have heq : aliceTask = id := Except.ok.inj (uuid_aliceTask.symm.trans hid)
  exact heq ▸ h

theorem alice_confined : Along quietServer (fun _ => Confined quietServer alice) [aliceKey] busyDb aliceRun ∧
    Along quietServer (fun _ => Confined quietServer alice) [aliceKey] idleDb aliceRun :=
  ⟨⟨confined_issue _, confined_read (by decide +kernel), trivial⟩, ⟨confined_issue _, confined_read (by decide +kernel), trivial⟩⟩

theorem bob_plays : Along quietServer (Plays quietServer) [aliceKey] busyDb bobRun ∧
    Along quietServer (Plays quietServer) [aliceKey] idleDb bobRun :=
  ⟨⟨plays_asking (by decide +kernel) (by decide +kernel), plays_asking (by decide +kernel) (by decide +kernel),
      plays_asking (by decide +kernel) (by decide +kernel), trivial⟩,
    ⟨plays_asking (by decide +kernel) (by decide +kernel), plays_asking (by decide +kernel) (by decide +kernel),
      plays_asking (by decide +kernel) (by decide +kernel), trivial⟩⟩

end GalaxiaAin.Gateway
