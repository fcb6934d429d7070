import GalaxiaAin.Network.Reports

/-! Where the input of a private request goes: into its row, and with every run of its
queued task to inference. Each of the two encrypts for itself, and goes on with the
plaintext when that fails. -/
namespace GalaxiaAin.Network
open GalaxiaAin.Library
open GalaxiaAin.Library.Async hiding bind

/-- Every row of `tasks` holds an input that is allowed under its key, or the one it held. -/
def inputs (allowed : Uuid → Text → Prop) : Frame backend where
  kept s t := ∀ key row', t.tasks.get? key = some row' →
    allowed key row'.input_data ∨ ∃ row, s.tasks.get? key = some row ∧ row.input_data = row'.input_data
  kept_refl _ _ row' h := .inr ⟨row', h, rfl⟩
  kept_trans _ _ _ hst htu key row'' h := by
    rcases htu key row'' h with h | ⟨row', h, hinput⟩
    · exact .inl h
    · rcases hst key row' h with h | ⟨row, h, hinput'⟩
      · exact .inl (hinput ▸ h)
      · exact .inr ⟨row, h, hinput'.trans hinput⟩

section Programs
variable {allowed : Uuid → Text → Prop} {P : Effect → Prop} {n : Nat}

/-! ### Statements -/

theorem kept_of_tasks {s t : NetworkDb} (h : t.tasks = s.tasks) : (inputs allowed).kept s t :=
  fun _ row' hrow => .inr ⟨row', h ▸ hrow, rfl⟩

/-- A statement about nodes. -/
theorem updateNode_keeps (nodeId : Uuid) (set : NodeRow → Except NetworkError NodeRow) :
    (updateNode nodeId set).Keeps (inputs allowed) := by
  refine Stmt.keeps_statement fun db => ?_
  cases db.nodes.get? nodeId with
  | none => exact meets_ok.mpr fun t => kept_of_tasks rfl
  | some node =>
    cases hset : set node with
    | error e =>
      simp only [hset]
      exact meets_error.mpr trivial
    | ok node' =>
      simp only [hset]
      exact meets_ok.mpr fun t => kept_of_tasks rfl

/-- A statement about a task that leaves its input. -/
theorem updateTask_keeps (taskId : UuidText) {set : Task → Task} (hset : ∀ task, (set task).input_data = task.input_data) :
    (updateTask taskId set).Keeps (inputs allowed) := by
  refine Stmt.keeps_statement fun db => ?_
  cases taskId with
  | malformed => exact meets_error.mpr trivial
  | uuid id =>
    refine meets_ok.mpr fun t key row' hrow => .inr ?_
    replace hrow : (t.tasks.modify id set).get? key = some row' := hrow
    rw [Table.get?_modify] at hrow
    split at hrow
    · obtain ⟨row, hget, rfl⟩ := Option.map_eq_some_iff.mp hrow
      exact ⟨row, hget, (hset row).symm⟩
    · exact ⟨row', hrow, rfl⟩

theorem insertTask_keeps {taskId : Uuid} {data : TaskData} (cost : Option ℚ) (h : allowed taskId data.input_data) :
    (insertTask taskId data cost).Keeps (inputs allowed) := by
  refine Stmt.keeps_statement fun db => ?_
  cases hcost : assignCost cost with
  | error e => exact meets_error.mpr trivial
  | ok units =>
    by_cases hnew : (db.tasks.get? taskId).isSome
    · simp only [bind, Except.bind, hnew, if_true]
      exact meets_error.mpr trivial
    · simp only [bind, Except.bind, hnew]
      refine meets_ok.mpr fun t key row' hrow => ?_
      replace hrow : (t.tasks.insert taskId (data.row units)).get? key = some row' := hrow
      cases hfree : t.tasks.get? taskId with
      | some row =>
        rw [Table.insert, dif_neg (by simp [hfree])] at hrow
        exact .inr ⟨row', hrow, rfl⟩
      | none =>
        rw [Table.get?_insert _ hfree] at hrow
        split at hrow
        · rename_i hkey
          cases hrow
          subst hkey
          exact .inl h
        · exact .inr ⟨row', hrow, rfl⟩

theorem insertPrivacySettings_keeps (taskId : Uuid) (setting : PrivacySetting) :
    (insertPrivacySettings taskId setting).Keeps (inputs allowed) := by
  refine Stmt.keeps_statement fun db => ?_
  split
  · exact meets_error.mpr trivial
  split
  · exact meets_error.mpr trivial
  · exact meets_ok.mpr fun t => kept_of_tasks rfl

/-! ### The handler -/

theorem getTask_sends (taskId : UuidText) : Sends (inputs allowed) P n (getTask taskId) :=
  sends_withClient (sends_query (Nat.succ_pos n) (Stmt.keeps_selection _ _) _) _

theorem assignTask_inputs (now : Nat) (taskId : UuidText) (requirements : TaskRequirements) :
    Sends (inputs allowed) P n (assignTask now taskId requirements) :=
  assignTask_sends (fun _ => updateNode_keeps _ _) (fun _ => updateTask_keeps taskId fun _ => rfl) now requirements

theorem createTask_sends {taskId : Uuid} {data : TaskData} (h : allowed taskId data.input_data) :
    Sends (inputs allowed) P n (createTask taskId data) := by
  refine sends_withClient (sends_bind (sends_query (Nat.succ_pos n) (Stmt.keeps_select _ _) _) fun model => ?_) _
  cases model with
  | none => exact sends_throw _
  | some model => exact sends_query (Nat.succ_pos n) (insertTask_keeps _ h) _

theorem enqueue_sends (now : Nat) {taskId model input : Text} {inputType : InputType} {privacyLevel : Option PrivacyLevel}
    (h : ∀ nodeIds, P (.enqueue (queuedTask taskId model input inputType nodeIds privacyLevel))) :
    Sends (inputs allowed) P n (enqueue now taskId model input inputType privacyLevel) := by
  refine sends_bind (getTask_sends _) fun found => ?_
  cases found with
  | none => exact sends_throw _
  | some found => exact sends_bind (assignTask_inputs _ _ _) fun nodeIds => sends_emit (h nodeIds)

end Programs

/-! ### A request -/

/-- What the request puts into the queue. -/
def Queued (request : InferenceRequest) : Effect → Prop
  | .enqueue task => task.input = request.input ∧ task.privacyLevel = some request.level
  | _ => False

/-- The input of the request's row. -/
def InferenceRequest.form (crypto : Cryptography) (request : InferenceRequest) : Text :=
  processedInput crypto request.privacy request.input (some request.level)

theorem startTask_sends (crypto : Cryptography) (request : InferenceRequest) :
    Sends (inputs fun _ x => x = request.form crypto) (Queued request) 0 (startTask crypto request) := by
  refine sends_bind (createTask_sends rfl) fun _ => ?_
  refine sends_bind (sends_onlyIf (sends_pool (insertPrivacySettings_keeps _ _) _)) fun _ => ?_
  refine sends_bind (assignTask_inputs _ _ _) fun _ => ?_
  exact sends_bind (enqueue_sends _ fun _ => ⟨rfl, rfl⟩) fun _ => sends_pure _

theorem inference_sends (rt : Tenant.Runtime) (crypto : Cryptography) (services : Services) (request : InferenceRequest) :
    Sends (inputs fun _ x => x = request.form crypto) (Queued request) 0 (inference rt crypto services request) := by
  unfold inference
  split
  · exact sends_pure _
  split
  · exact sends_pure _
  · exact sends_pure _
  split
  · exact sends_pure _
  · refine sends_handle (sends_bind (sends_ofExcept _) fun refusal => ?_) fun _ => sends_pure _
    cases refusal with
    | some response => exact sends_pure _
    | none => exact startTask_sends crypto request

/-! ### A run of the queued task -/

section Attempts
variable {allowed : Uuid → Text → Prop} {n : Nat}

/-- What is left to others after the inference. -/
def Paid : Effect → Prop
  | .distributeNodePayments .. => True
  | _ => False

theorem insertConsensus_keeps (result : ConsensusResult) : (insertConsensus result).Keeps (inputs allowed) := by
  refine Stmt.keeps_statement fun db => ?_
  split
  · exact meets_error.mpr trivial
  · exact meets_ok.mpr fun t => kept_of_tasks rfl

theorem setStatus_keeps (taskId : Uuid) (status : TaskStatus) : (setStatus taskId status).Keeps (inputs allowed) :=
  updateTask_keeps _ fun _ => rfl

theorem markResults_keeps (taskId : Uuid) (agreeing : List Uuid) (scores : Option (Int × Int)) :
    (markResults taskId agreeing scores).Keeps (inputs allowed) :=
  fun _ _ _ => kept_of_tasks rfl

/-- The verification of a task leaves the inputs. -/
theorem verifying_inputs (key : Uuid) : Verifying (inputs allowed) key where
  node := updateNode_keeps
  marks := markResults_keeps key
  consensus := fun result _ => insertConsensus_keeps result
  status := setStatus_keeps key

theorem insertResult_keeps (taskId : UuidText) (nodeId : Uuid) (output : Text) (processingTimeMs : Int) :
    (insertResult taskId nodeId output processingTimeMs).Keeps (inputs allowed) := by
  refine Stmt.keeps_statement fun db => Meets.bind (R := fun _ => True) ?_ fun key _ => Meets.bind (R := fun _ => True) ?_ ?_
  · exact ⟨fun _ _ => trivial, fun _ _ => trivial⟩
  · exact ⟨fun _ _ => trivial, fun _ _ => trivial⟩
  · intro ms _
    split
    · exact meets_error.mpr trivial
    split
    · exact meets_ok.mpr fun t => kept_of_tasks rfl
    · exact meets_ok.mpr fun t => kept_of_tasks rfl

theorem recordResults_sends (hn : 1 ≤ n) (taskId : Text) (result : InferenceResult) (nodeIds : List Text) :
    Sends (inputs allowed) Paid n (recordResults taskId result nodeIds) := by
  induction nodeIds with
  | nil => exact sends_pure ()
  | cons nodeId rest ih => exact sends_bind (sends_query hn (insertResult_keeps _ _ _ _) _) fun _ => ih

theorem payNodes_sends (services : Services) (task : QueuedTask) : Sends (inputs allowed) Paid n (payNodes services task) := by
  refine sends_withClient (sends_bind (sends_query (Nat.succ_pos n) (Stmt.keeps_selection _ _) _) fun taskData => ?_) _
  split
  · exact distributePayments_sends (fun _ _ _ _ => trivial) _ _ _ _ _
  · refine sends_bind (sends_query (Nat.succ_pos n) (Stmt.keeps_select _ _) _) fun _ => ?_
    exact distributePayments_sends (fun _ _ _ _ => trivial) _ _ _ _ _

end Attempts

/-- A run of a task: the inference, with the input as it was processed, and then payments. -/
theorem processTask_exec {may : Site → Prop} {crypto : Cryptography} {calls : PrivacyCalls} {services : Services}
    {task : QueuedTask} {s s' : NetworkDb} {r : Except NetworkError Unit} {l : Local backend}
    (h : Exec may (processTask crypto calls services task) s Local.empty r s' l) :
    (inputs fun _ _ => False).kept s s' ∧ ∃ more, l.out =
      .runInference task.model (processedInput crypto calls task.input task.privacyLevel) task.inputType :: more ∧
        ∀ e ∈ more, Paid e := by
  refine Sends.exec_emit ?_ rfl h
  refine sends_bind (sends_ofExcept _) fun result => ?_
  refine sends_bind (sends_withClient (recordResults_sends (Nat.succ_pos 0) _ _ _) _) fun _ => ?_
  exact sends_bind (verifyTaskResults_sends verifying_inputs _) fun verification => sends_onlyIf (payNodes_sends _ _)

/-! ### The life of a request -/

/-- A run of the queue on a task, with the outcome of its privacy calls. -/
structure Attempt (crypto : Cryptography) where
  task : QueuedTask
  privacy : PrivacyCalls
  services : Services
  before : NetworkDb
  after : NetworkDb
  outcome : Except NetworkError Unit
  final : Local backend
  run : Exec (fun _ => True) (processTask crypto privacy services task) before Local.empty outcome after final

/-- The handling of a request, whatever fails in it, and the runs of the task it queued. A
retried task is the same but for the number of its retries. -/
structure Life (rt : Tenant.Runtime) (crypto : Cryptography) (services : Services) (request : InferenceRequest) where
  before : NetworkDb
  after : NetworkDb
  response : Except NetworkError Response
  final : Local backend
  handled : Exec (fun _ => True) (inference rt crypto services request) before Local.empty response after final
  attempts : List (Attempt crypto)
  queued : ∀ attempt ∈ attempts, ∃ task, .enqueue task ∈ final.out ∧ ∃ retries, attempt.task = { task with retries := retries }

/-- Between the two states an input was stored. -/
def Stores (before after : NetworkDb) (x : Text) : Prop :=
  ∃ key row, after.tasks.get? key = some row ∧ row.input_data = x ∧
    ∀ row', before.tasks.get? key = some row' → row'.input_data ≠ x

/-- An input was passed to inference. -/
def Attempt.Executes {crypto : Cryptography} (attempt : Attempt crypto) (x : Text) : Prop :=
  ∃ model inputType, .runInference model x inputType ∈ attempt.final.out

theorem stores_allowed {allowed : Uuid → Text → Prop} {s t : NetworkDb} (h : (inputs allowed).kept s t) {x : Text}
    (hx : Stores s t x) : ∃ key, allowed key x := by
  obtain ⟨key, row, hrow, rfl, hnew⟩ := hx
  rcases h key row hrow with h | ⟨row', h, hinput⟩
  · exact ⟨key, h⟩
  · exact absurd hinput (hnew row' h)

namespace Life
variable {rt : Tenant.Runtime} {crypto : Cryptography} {services : Services} {request : InferenceRequest}

/-- Every stored and every executed form of the input is a ciphertext of it. -/
def Private (life : Life rt crypto services request) : Prop :=
  ∀ x, (Stores life.before life.after x ∨ ∃ attempt ∈ life.attempts, Stores attempt.before attempt.after x ∨ attempt.Executes x) →
    Sealed crypto.aead request.input x

/-- The privacy processing of the route succeeds if the request gets as far as storing its
task, and that of every run of the task does. -/
def Processed (life : Life rt crypto services request) : Prop :=
  ((∃ x, Stores life.before life.after x) →
    (processPrivateTask crypto request.privacy request.input request.level).isOk) ∧
    ∀ attempt ∈ life.attempts, (processPrivateTask crypto attempt.privacy request.input request.level).isOk

/-- The life of a request whose handling follows a script, before the queue runs its task. -/
def scripted (rt : Tenant.Runtime) (crypto : Cryptography) (services : Services) (request : InferenceRequest)
    (script : List (Answer backend)) (db : NetworkDb) : Life rt crypto services request where
  before := db
  after := ((inference rt crypto services request).run script db Local.empty).2.1
  response := ((inference rt crypto services request).run script db Local.empty).1
  final := ((inference rt crypto services request).run script db Local.empty).2.2
  handled := exec_run _ _ script db Local.empty fun _ _ _ _ => trivial
  attempts := []
  queued := nofun

/-- A request stores nothing but the input as it was processed. -/
theorem stored_form (life : Life rt crypto services request) {x : Text} (hx : Stores life.before life.after x) :
    x = request.form crypto := by
  obtain ⟨key, h⟩ := stores_allowed ((inference_sends rt crypto services request).exec life.handled).1 hx
  exact h

/-- A run of its task stores nothing. -/
theorem attempt_stores_nothing (attempt : Attempt crypto) (x : Text) : ¬ Stores attempt.before attempt.after x := by
  intro hx
  obtain ⟨key, h⟩ := stores_allowed (processTask_exec attempt.run).1 hx
  exact h

/-- A run executes the input as it was processed for the run, and nothing else. -/
theorem executes_iff (life : Life rt crypto services request) {attempt : Attempt crypto} (h : attempt ∈ life.attempts)
    (x : Text) : attempt.Executes x ↔ x = processedInput crypto attempt.privacy request.input (some request.level) := by
  obtain ⟨task, htask, retries, hattempt⟩ := life.queued attempt h
  obtain ⟨hinput, hlevel⟩ : task.input = request.input ∧ task.privacyLevel = some request.level :=
    ((inference_sends rt crypto services request).exec life.handled).2 _ htask
  obtain ⟨-, more, hout, hmore⟩ := processTask_exec attempt.run
  have hform : processedInput crypto attempt.privacy attempt.task.input attempt.task.privacyLevel =
      processedInput crypto attempt.privacy request.input (some request.level) := by
    rw [hattempt, hinput, hlevel]
  rw [hform] at hout
  constructor
  · rintro ⟨model, inputType, hmem⟩
    rw [hout] at hmem
    rcases List.mem_cons.mp hmem with he | he
    · exact (Effect.runInference.inj he).2.1
    · exact absurd (hmore _ he) id
  · rintro rfl
    exact ⟨_, _, hout ▸ List.mem_cons_self⟩

end Life

/-- The input of a private request stays private exactly when the privacy processing succeeds,
in the route as far as it stores the task, and in every run of the task. -/
theorem private_input_iff {rt : Tenant.Runtime} {crypto : Cryptography} {services : Services} {request : InferenceRequest}
    (hcrypto : Streams crypto.aead) (hlevel : request.level ≠ .publicLevel) (life : Life rt crypto services request) :
    life.Private ↔ life.Processed := by
  have hsealed (calls : PrivacyCalls) :
      Sealed crypto.aead request.input (processedInput crypto calls request.input (some request.level)) ↔
        (processPrivateTask crypto calls request.input request.level).isOk := sealed_processedInput_iff hcrypto hlevel
  constructor
  · intro hprivate
    refine ⟨?_, fun attempt hattempt => ?_⟩
    · rintro ⟨x, hx⟩
      have hform := hprivate x (.inl hx)
      rw [life.stored_form hx] at hform
      exact (hsealed _).mp hform
    · have hexecutes := (life.executes_iff hattempt _).mpr rfl
      exact (hsealed _).mp (hprivate _ (.inr ⟨attempt, hattempt, .inr hexecutes⟩))
  · rintro ⟨hroute, hattempts⟩ x (hx | ⟨attempt, hattempt, hx | hx⟩)
    · rw [life.stored_form hx]
      exact (hsealed _).mpr (hroute ⟨x, hx⟩)
    · exact absurd hx (Life.attempt_stores_nothing attempt x)
    · rw [(life.executes_iff hattempt x).mp hx]
      exact (hsealed _).mpr (hattempts attempt hattempt)

/-- A cipher that leaves the plaintext and tags it with the IV. -/
def plainCryptography : Cryptography := ⟨Galaxia.ivCipher, id⟩

/-- A quantum network that is down. -/
def failingCalls : PrivacyCalls where
  security := ⟨fun _ => .error [], fun _ _ => .error [], fun _ _ => .error []⟩
  network := fun _ => ⟨fun _ _ => .error [], fun _ _ => .error []⟩
  aesKey := []
  iv := []
  now := 0

def idleServices : Services := ⟨fun _ _ _ => .error [], fun _ _ => .ok 1, fun _ _ _ _ => .ok ()⟩

/-- A private request for "hi". -/
def hiRequest : InferenceRequest where
  taskId := units "t"
  created := 0
  enqueued := 0
  privacy := failingCalls
  model := units "llama-3-8b"
  input := units "hi"
  priority := none
  region := none
  privacyLevel := some .privateLevel
  apiKeyId := none
  userId := none
  userWallet := none

/-- A node that serves the model of the request. -/
def hiNode : NodeRow where
  device_id := units "d"
  capabilities := ⟨false, none, some [units "llama-3-8b"]⟩
  region := some (units "auto")
  uptime_score := some 10000
  reputation := some 10000
  tasks_completed := some 0
  tasks_failed := some 0
  status := .online
  last_seen := some 0
  current_load := some 0
  max_concurrent_tasks := some 3

/-- A network of one node with the model of the request. -/
def hiDb : NetworkDb where
  nodes := ⟨[(units "n", hiNode)], by decide⟩
  tasks := .empty
  task_results := .empty
  consensus_results := []
  models := ⟨[(units "llama-3-8b", ⟨none, none, none⟩)], by decide⟩
  privacy_settings := .empty
  users _ := none

/-- Every query is served. -/
def hiLife : Life (Tenant.Runtime.pilot false id) plainCryptography idleServices hiRequest := .scripted _ _ _ _ [] hiDb

theorem private_input_hi : hiLife.Private ↔ hiLife.Processed :=
  private_input_iff (fun _ _ _ => rfl) (by decide) hiLife

/-- The request is accepted and its plaintext stored. -/
theorem plaintext_stored : hiLife.response = .ok (.queued 1 .privateLevel false false) ∧ ¬ hiLife.Private := by
  have haccepted : (hiLife.response.toOption == some (.queued 1 .privateLevel false false)) = true := by decide +kernel
  refine ⟨?_, fun hprivate => ?_⟩
  · cases hresponse : hiLife.response with
    | error e =>
      rw [hresponse] at haccepted
      cases haccepted
    | ok response =>
      rw [hresponse] at haccepted
      simpa [Except.toOption] using haccepted
  · have hrow : (hiLife.after.tasks.get? (units "t")).map (·.input_data) = some (units "hi") := by decide +kernel
    obtain ⟨row, hrow, hinput⟩ := Option.map_eq_some_iff.mp hrow
    have hstores : Stores hiLife.before hiLife.after (units "hi") := ⟨units "t", row, hrow, hinput, nofun⟩
    exact not_sealed_self (fun _ _ _ => rfl) _ (hprivate _ (.inl hstores))

end GalaxiaAin.Network
