import GalaxiaAin.Tenant.Route

/-! Idempotency keys: what the payload hash tells apart, and how often the job of a
key is created and scheduled. -/
namespace GalaxiaAin.Tenant
open GalaxiaAin.Library

variable {rt : Runtime}

/-! ### Entries of idx_inference_idempotency -/

/-- The request id and the hash under a key. -/
def keyEntries (organizationId : Uuid) (key : Text) (db : Db) : List (Text × Option Text) :=
  (db.inference_requests.filter fun r => r.organization_id == organizationId && r.idempotency_key == some key).map
    fun r => (r.request_id, r.payload_hash)

theorem keyEntries_congr {s t : Db} (h : s.inference_requests = t.inference_requests) (organizationId : Uuid)
    (key : Text) : keyEntries organizationId key s = keyEntries organizationId key t := by
  rw [keyEntries, keyEntries, h]

/-- A row the lookup finds is an entry of the index. -/
theorem mem_keyEntries_of_rowsFor {input : JobInput} {key : Text} {s : Db} {row : InferenceRequest}
    (h : row ∈ rowsFor rt input key s) :
    (row.request_id, row.payload_hash) ∈ keyEntries input.organizationId key s := by
  obtain ⟨hmem, hrow⟩ := List.mem_filter.mp h
  simp only [Bool.and_eq_true] at hrow
  exact List.mem_map.mpr ⟨row, List.mem_filter.mpr ⟨hmem, by simp [hrow.1.2, hrow.2]⟩, rfl⟩

/-- In an organisation its context admits, the lookup finds every entry. -/
theorem rowsFor_entries (input : JobInput) (key : Text) (s : Db)
    (h : (setOrganization input.organizationId {}).admits rt (some input.organizationId) = true) :
    (rowsFor rt input key s).map (fun r => (r.request_id, r.payload_hash)) =
      keyEntries input.organizationId key s := by
  refine congrArg (List.map _) (List.filter_congr fun r _ => ?_)
  by_cases hr : r.organization_id = input.organizationId
  · rw [hr, h, Bool.true_and]
  · rw [beq_eq_false_iff_ne.mpr hr]; simp

/-- An accepted insertion finds its key free and enters it. -/
theorem keyEntries_insertJob {requestId : Text} {input : JobInput} {c : Settings} {s : Db} {w : Db → Db}
    (hw : (insertJob rt requestId input).run c s = .ok ((), w)) :
    c.admits rt (some input.organizationId) = true ∧
      (∀ key, input.key rt = some key → keyEntries input.organizationId key s = []) ∧
      ∀ t organizationId key, keyEntries organizationId key (w t) = keyEntries organizationId key t ++
        if input.organizationId = organizationId ∧ input.key rt = some key then [(requestId, some (input.hash rt))]
        else [] := by
  obtain ⟨row, hrow, hadmits, -, hfree, rfl⟩ := insertJob_ok hw
  obtain ⟨horg, hid, hkey, hhash, -, -⟩ := jobRow_ok hrow
  refine ⟨horg ▸ hadmits, fun key hk => ?_, fun t organizationId key => ?_⟩
  · rw [keyEntries, List.map_eq_nil_iff, List.filter_eq_nil_iff]
    intro r hr hm
    have := List.any_eq_false.mp hfree r hr
    simp only [sameKey, hkey, hk, horg, Option.isSome_some, Bool.true_and] at this
    exact this hm
  · simp only [keyEntries, List.filter_append, List.map_append]
    congr 1
    by_cases h : input.organizationId = organizationId ∧ input.key rt = some key
    · rw [if_pos h, List.filter_cons_of_pos (by simp [horg, hkey, h.1, h.2])]
      simp [hid, hhash, h.2]
    · rw [if_neg h, List.filter_cons_of_neg (by simpa [horg, hkey] using h)]
      rfl

/-! ### The payload hash -/

theorem payload_injective {m m' : Text} {b b' : Option Nat} {p p' : Option Json}
    (h : payload m b p = payload m' b' p') : m = m' ∧ b = b' ∧ p = p' := by
  have hne : units "inputBytes" ≠ units "projectId" := by decide
  simp only [payload, Json.obj.injEq, List.cons.injEq, Prod.mk.injEq, Json.str.injEq, true_and] at h
  obtain ⟨hm, h⟩ := h
  refine ⟨hm, ?_⟩
  cases b <;> cases b' <;> cases p <;> cases p' <;>
    simp_all [Numeral.ofNat_injective.eq_iff, Ne.symm hne]

/-- SHA-256 has no collision among JSON texts. -/
def Runtime.Collisionless (rt : Runtime) : Prop :=
  Set.InjOn rt.sha256 (Set.range Json.stringify) ∧ ∀ t, rt.sha256 t ≠ []

theorem payloadHash_eq (hsha : rt.Collisionless) {m m' : Text} {b b' : Option Nat} {p p' : Option Json} :
    payloadHash rt m b p = payloadHash rt m' b' p' ↔ m = m' ∧ b = b' ∧ p = p' := by
  constructor
  · intro h
    exact payload_injective (Json.stringify_injective (hsha.1 ⟨_, rfl⟩ ⟨_, rfl⟩ h))
  · rintro ⟨rfl, rfl, rfl⟩
    rfl

/-! ### Two requests with one key -/

def Request.model (req : Request) : Option Json := req.body.get (units "model")
def Request.input (req : Request) : Option Json := req.body.get (units "input")
def Request.projectId (req : Request) : Option Json := req.body.get (units "projectId")
def Request.idempotencyKey (req : Request) : Option Json := req.body.get (units "idempotencyKey")

/-- `Buffer.byteLength(String(input), 'utf8')`. -/
def Request.inputBytes (req : Request) : Option Nat := (req.input.bind Json.text).map byteLength

structure SamePayload (r₁ r₂ : Request) : Prop where
  model : r₁.model = r₂.model
  projectId : r₁.projectId = r₂.projectId
  input : r₁.input = r₂.input

/-- The payloads agree on what is hashed: the byte length stands for the input. -/
structure SameHashed (r₁ r₂ : Request) : Prop where
  model : r₁.model = r₂.model
  projectId : r₁.projectId = r₂.projectId
  inputBytes : r₁.inputBytes = r₂.inputBytes

theorem SamePayload.hashed {r₁ r₂ : Request} (h : SamePayload r₁ r₂) : SameHashed r₁ r₂ :=
  ⟨h.model, h.projectId, by rw [Request.inputBytes, Request.inputBytes, h.input]⟩

/-- What a request emits when every call is served. -/
def answers (rt : Runtime) (req : Request) (db : Db) : List Event := ((postInference rt req).run [] db .empty).2.2.out

/-- The request passes the checks of the route. -/
def Passes (rt : Runtime) (req : Request) (db : Db) : Prop :=
  ∃ a, ((admitRequest rt req).run [] db .empty).1 = .ok (some a)

def conflict : Event :=
  .respond 409 (.rejected (units "IDEMPOTENCY_CONFLICT") (units "Idempotency key reused with different payload") none)

/-- The second request is answered with the first job only if the payloads are the same,
and with a conflict when it passes the checks and they differ. -/
structure Separates (rt : Runtime) (r₁ r₂ : Request) (db : Db) : Prop where
  acknowledged : ∀ status, Event.respond 200 (.idempotent r₁.requestId status) ∈ answers rt r₂ db → SamePayload r₁ r₂
  conflicting : Passes rt r₂ db → ¬ SamePayload r₁ r₂ → answers rt r₂ db = [conflict]

theorem Admitted.hash {r₁ r₂ : Request} {a₁ a₂ : Admission} (hsha : rt.Collisionless) (h₁ : Admitted r₁ a₁)
    (h₂ : Admitted r₂ a₂) : (jobInput r₁ a₁).hash rt = (jobInput r₂ a₂).hash rt ↔ SameHashed r₁ r₂ := by
  obtain ⟨t₁, ht₁, hb₁⟩ := h₁.inputBytes
  obtain ⟨t₂, ht₂, hb₂⟩ := h₂.inputBytes
  have hbytes₁ : r₁.inputBytes = some a₁.inputBytes := by simp [Request.inputBytes, Request.input, h₁.input, ht₁, hb₁]
  have hbytes₂ : r₂.inputBytes = some a₂.inputBytes := by simp [Request.inputBytes, Request.input, h₂.input, ht₂, hb₂]
  rw [JobInput.hash, JobInput.hash, payloadHash_eq hsha]
  constructor
  · rintro ⟨hm, hb, hp⟩
    refine ⟨?_, ?_, ?_⟩
    · rw [Request.model, Request.model, h₁.model, h₂.model]; exact congrArg (some ∘ Json.str) hm
    · rw [Request.projectId, Request.projectId, ← h₁.projectId, ← h₂.projectId]; exact hp
    · rw [hbytes₁, hbytes₂]; exact hb
  · rintro ⟨hm, hp, hb⟩
    refine ⟨?_, ?_, ?_⟩
    · rw [Request.model, Request.model, h₁.model, h₂.model] at hm
      exact Json.str.inj (Option.some.inj hm)
    · rw [hbytes₁, hbytes₂] at hb; exact hb
    · rw [Request.projectId, Request.projectId, ← h₁.projectId, ← h₂.projectId] at hp; exact hp

theorem Admitted.key {req : Request} {a : Admission} {key : Json} (h : Admitted req a)
    (hk : req.idempotencyKey = some key) (ht : key.truthy = true) : (jobInput req a).key rt = some (rt.parameter key) := by
  have : a.idempotencyKey = some key := h.idempotencyKey.trans hk
  simp [JobInput.key, jobInput, this, ht]

/-- The error responder changes no table and only ever rejects. -/
theorem post_onError {may : Site → Prop} (e : ServiceError) (s : Db) (l : Local backend) :
    (onError e).post may (fun _ s' l' => s' = s ∧ l'.sessions = l.sessions ∧ (l'.out = l.out ∨
      ∃ status code error, l'.out = l.out ++ [.respond status (.rejected code error none)])) s l := by
  obtain ⟨status, code, error, h⟩ := onError_respond e
  rw [h, respond, Async.post_emit]
  split
  · exact ⟨rfl, rfl, .inr ⟨_, _, _, rfl⟩⟩
  · exact ⟨rfl, rfl, .inl rfl⟩

/-- Starting a job changes no row of inference_requests. -/
theorem post_startJob {may : Site → Prop} (req : Request) (a : Admission) (job : Job) (s : Db) (l : Local backend) :
    (startJob rt req a job).post may (fun _ s' _ => s'.inference_requests = s.inference_requests) s l := by
  have haudit (event : AuditInput) : (insertAuditEvent rt event).Keeps (Frame.of fun db : Db => db.inference_requests) :=
    insertAuditEvent_keeps fun _ _ => rfl
  have husage (record : UsageInput) : (insertUsageRecord rt record).Keeps (Frame.of fun db : Db => db.inference_requests) :=
    insertUsageRecord_keeps fun _ _ => rfl
  have h : (startJob rt req a job).Confined (Frame.of fun db : Db => db.inference_requests) (fun _ => True)
      (fun _ _ => True) 0 0 l.out := by
    refine Async.confined_bind (Async.confined_pool trivial (haudit _) (fun r => ?_) _)
    cases r with
    | error e => trivial
    | ok _ =>
      refine Async.confined_bind ((Async.confined_emit _ _).mpr ?_)
      split
      · refine Async.confined_bind ((Async.confined_emit _ _).mpr ?_)
        split
        · exact Async.confined_pool trivial (husage _) (fun _ => trivial) _
        · trivial
      · trivial
  exact Async.post_mono (h.post (Local.owns_zero.mpr rfl)) fun r s' l' h => h.1

/-- The key of an accepted request holds its job, under the hash of its payload. -/
def Created (rt : Runtime) (req : Request) (key : Json) (db : Db) : Prop :=
  (setOrganization req.auth.organizationId {}).admits rt (some req.auth.organizationId) = true ∧
    ∃ a, Admitted req a ∧ keyEntries req.auth.organizationId (rt.parameter key) db =
      [(req.requestId, some ((jobInput req a).hash rt))]

/-- A request that was accepted has created the job of its key. -/
theorem post_accepted {may : Site → Prop} (req : Request) {key : Json} (hk : req.idempotencyKey = some key)
    (ht : key.truthy = true) (s : Db) : (postInference rt req).post may
      (fun _ s' l' => .respond 202 (.accepted req.requestId) ∈ l'.out → Created rt req key s') s .empty := by
  have herror (e : ServiceError) (t : Db) (l : Local backend)
      (h : .respond 202 (.accepted req.requestId) ∈ l.out → Created rt req key t) :
      (onError e).post may (fun _ s' l' => .respond 202 (.accepted req.requestId) ∈ l'.out → Created rt req key s') t l := by
    refine Async.post_mono (post_onError e t l) fun r s' l' hpost hmem => ?_
    obtain ⟨hs, -, hout⟩ := hpost
    rw [hs]
    rcases hout with hout | ⟨_, _, _, hout⟩
    · exact h (hout ▸ hmem)
    · rw [hout, List.mem_append, List.mem_singleton] at hmem
      exact hmem.elim h fun h => by cases h
  rw [postInference, Async.post_handle, Async.post_bind]
  refine Async.post_mono ((admitRequest_confined (n := 0) (keeps_insertAuditEvent rt) req).post (l := .empty) (Local.owns_zero.mpr rfl))
    fun r s₁ l₁ hadmitted => ?_
  obtain ⟨-, hl, hr⟩ := hadmitted
  obtain ⟨sessions, out⟩ := l₁
  obtain rfl : sessions = [] := Local.owns_zero.mp hl
  rcases r with e | _ | a
  · obtain rfl : out = [] := hr
    exact herror e s₁ _ fun h => by cases h
  · obtain ⟨_, _, _, _, rfl⟩ := hr
    exact fun h => by simp at h
  · obtain ⟨rfl, ha⟩ := hr
    change Async.post may (createInferenceJob rt req.requestId (jobInput req a) >>= _) _ s₁ _
    rw [Async.post_bind]
    refine post_createInferenceJob (fun _ _ f => herror _ _ _ fun h => by cases h) (fun key' row rest hkey hrows => ?_)
      (fun e _ _ => herror _ _ _ fun h => by cases h) (fun w hw => ?_)
    · cases hack : acknowledge ((jobInput req a).hash rt) row with
      | error e => exact herror _ _ _ fun h => by cases h
      | ok job =>
        rw [acknowledge_ok hack, Async.next_ok]
        change (respond 200 _).post may _ _ _
        rw [respond, Async.post_emit]
        exact fun h => by simp at h
    · obtain ⟨hadmits, hfree, hentries⟩ := keyEntries_insertJob hw
      have hkey : (jobInput req a).key rt = some (rt.parameter key) := ha.key hk ht
      have hcreated : Created rt req key (w s₁) := by
        refine ⟨hadmits, a, ha, ?_⟩
        have hfree' := hfree _ hkey
        rw [hentries, if_pos ⟨rfl, hkey⟩]
        exact (congrArg (· ++ _) hfree').trans (List.nil_append _)
      rw [Async.next_ok]
      change (startJob rt req a _).post may _ _ _
      refine Async.post_mono (post_startJob req a _ _ _) fun r s' l' hs' => ?_
      have hc : Created rt req key s' := by
        obtain ⟨h, b, hb, he⟩ := hcreated
        exact ⟨h, b, hb, (keyEntries_congr hs' _ _).trans he⟩
      cases r with
      | ok _ => exact fun _ => hc
      | error e => exact herror e s' l' fun _ => hc

/-- A request that passes the checks is answered by the creation of its job. -/
theorem answers_of_passes {req : Request} {db : Db} (h : Passes rt req db) :
    ∃ a db', Admitted req a ∧ db'.inference_requests = db.inference_requests ∧
      answers rt req db = (((enqueue rt req a).handle onError).run [] db' .empty).2.2.out := by
  obtain ⟨a, ha⟩ := h
  have hpost := Async.run_nil_post ((admitRequest_confined (n := 0) (keeps_insertAuditEvent rt) req).post (s := db) (l := .empty)
    (Local.owns_zero.mpr rfl))
  obtain ⟨hs, hl, hr⟩ := hpost
  rw [ha] at hr
  rw [Local.owns_zero] at hl
  generalize hrun : (admitRequest rt req).run [] db .empty = o at ha hs hl hr
  obtain ⟨r, db', ⟨sessions, out⟩⟩ := o
  obtain ⟨rfl, hadm⟩ := hr
  subst ha hl
  refine ⟨a, db', hadm, congrArg Prod.fst hs, ?_⟩
  have hempty : (⟨Local.empty.sessions, []⟩ : Local backend) = .empty := rfl
  rw [answers, postInference, Async.run_handle_nil, Async.run_bind_nil, hrun, Async.run_handle_nil, hempty]

/-- A request that does not pass the checks is answered with rejections only. -/
theorem rejected_of_not_passes {req : Request} {db : Db} (h : ¬ Passes rt req db) :
    ∀ e ∈ answers rt req db, ∃ status code error quota, e = .respond status (.rejected code error quota) := by
  have hpost := Async.run_nil_post ((admitRequest_confined (n := 0) (keeps_insertAuditEvent rt) req).post (s := db) (l := .empty)
    (Local.owns_zero.mpr rfl))
  obtain ⟨-, -, hr⟩ := hpost
  have hne : ∀ a, ((admitRequest rt req).run [] db .empty).1 ≠ .ok (some a) := fun a ha => h ⟨a, ha⟩
  rw [answers, postInference, Async.run_handle_nil, Async.run_bind_nil]
  generalize (admitRequest rt req).run [] db .empty = o at hr hne
  obtain ⟨r, db', ⟨sessions, out⟩⟩ := o
  rcases r with e | _ | a
  case ok.some => exact absurd rfl (hne a)
  case ok.none =>
    obtain ⟨status, code, error, quota, rfl⟩ := hr
    exact fun e he => ⟨status, code, error, quota, List.mem_singleton.mp he⟩
  case error =>
    obtain rfl : out = [] := hr
    obtain ⟨-, -, hout⟩ := Async.run_nil_post (post_onError e db' ⟨sessions, []⟩)
    intro x hx
    change x ∈ ((onError e).run [] db' ⟨sessions, []⟩).2.2.out at hx
    rcases hout with hout | ⟨status, code, error, hout⟩ <;> rw [hout] at hx
    · cases hx
    · exact ⟨status, code, error, none, List.mem_singleton.mp hx⟩

/-- A second job under a key: the first one is acknowledged when the hashes agree, and
otherwise it is a conflict. -/
theorem second_answer {req : Request} {a : Admission} {requestId key hash : Text} {db : Db}
    (hadmits : (setOrganization req.auth.organizationId {}).admits rt (some req.auth.organizationId) = true)
    (hkey : (jobInput req a).key rt = some key) (hhash : hash ≠ [])
    (hentries : keyEntries req.auth.organizationId key db = [(requestId, some hash)]) :
    (hash = (jobInput req a).hash rt → ∃ status, (((enqueue rt req a).handle onError).run [] db .empty).2.2.out =
      [.respond 200 (.idempotent requestId status)]) ∧
    (hash ≠ (jobInput req a).hash rt → (((enqueue rt req a).handle onError).run [] db .empty).2.2.out = [conflict]) := by
  obtain ⟨row, hrow, hid, hrowhash⟩ : ∃ row, rowsFor rt (jobInput req a) key db = [row] ∧ row.request_id = requestId ∧
      row.payload_hash = some hash := by
    have h := (rowsFor_entries (jobInput req a) key db hadmits).trans hentries
    obtain ⟨row, hrow, he⟩ := List.map_eq_singleton_iff.mp h
    exact ⟨row, hrow, congrArg Prod.fst he, congrArg Prod.snd he⟩
  have hpost (Q : Post backend Unit)
      (hQ : Async.next (fun _ => False) (fun job : Job => if job.existing then respond 200 (.idempotent job.requestId job.status)
        else startJob rt req a job) (Async.caught (fun _ => False) onError Q)
          (acknowledge ((jobInput req a).hash rt) row) db .empty) :
      ((enqueue rt req a).handle onError).post (fun _ => False) Q db .empty := by
    rw [Async.post_handle, enqueue, Async.post_bind]
    refine post_createInferenceJob (fun _ hm => hm.elim) (fun key' row' rest hk hr => ?_) (fun e _ hno => ?_) (fun w hw => ?_)
    · rw [hkey] at hk; cases hk
      rw [hrow] at hr; cases hr
      exact hQ
    · exact absurd (hno key hkey) (by rw [hrow]; exact List.cons_ne_nil _ _)
    · have := (keyEntries_insertJob hw).2.1 key hkey
      rw [show (jobInput req a).organizationId = req.auth.organizationId from rfl, hentries] at this
      cases this
  constructor
  · intro he
    refine ⟨row.status, Async.run_nil_post (Q := fun _ _ l => l.out = _) (hpost _ ?_)⟩
    have hack : acknowledge ((jobInput req a).hash rt) row = .ok ⟨requestId, row.status, true⟩ := by
      rw [acknowledge, hrowhash, hid, he]; simp
    rw [hack]
    change (respond 200 _).post _ _ _ _
    rw [respond, Async.post_emit]
    rfl
  · intro he
    refine Async.run_nil_post (Q := fun _ _ l => l.out = _) (hpost _ ?_)
    have hack : acknowledge ((jobInput req a).hash rt) row = .error .idempotencyConflict := by
      rw [acknowledge, hrowhash]; simp [hhash, he]
    rw [hack]
    change (respond 409 _).post _ _ _ _
    rw [respond, Async.post_emit]
    rfl

/-- Two requests with one key are told apart exactly when the second does not pass the
checks, or the payloads are the same, or they differ in what is hashed: the model, the
project or the byte length of the input. -/
theorem idempotency_separates_iff (hsha : rt.Collisionless) {may : Site → Prop} {r₁ r₂ : Request} {key : Json}
    (hk₁ : r₁.idempotencyKey = some key) (hk₂ : r₂.idempotencyKey = some key) (ht : key.truthy = true)
    (horg : r₂.auth.organizationId = r₁.auth.organizationId) {s s₁ db : Db} {res : Except ServiceError Unit}
    {l₁ : Local backend} (hfirst : (postInference rt r₁).Exec may s .empty res s₁ l₁)
    (haccepted : .respond 202 (.accepted r₁.requestId) ∈ l₁.out)
    (hdb : keyEntries r₁.auth.organizationId (rt.parameter key) db =
      keyEntries r₁.auth.organizationId (rt.parameter key) s₁) :
    Separates rt r₁ r₂ db ↔ ¬ Passes rt r₂ db ∨ SamePayload r₁ r₂ ∨ ¬ SameHashed r₁ r₂ := by
  obtain ⟨hadmits, a₁, ha₁, hentries⟩ := hfirst.sound (post_accepted r₁ hk₁ ht s) haccepted
  rw [← hdb] at hentries
  by_cases hp : Passes rt r₂ db
  · obtain ⟨a₂, db', ha₂, hdb', hans⟩ := answers_of_passes hp
    have hhash : (jobInput r₁ a₁).hash rt ≠ [] := hsha.2 _
    have hsecond := second_answer (a := a₂) (horg ▸ hadmits) (ha₂.key hk₂ ht) hhash
      (by rw [horg, keyEntries_congr hdb']; exact hentries)
    rw [← hans, ha₁.hash hsha ha₂] at hsecond
    constructor
    · intro h
      refine .inr (Classical.or_iff_not_imp_right.mpr fun hsame => ?_)
      obtain ⟨status, hout⟩ := hsecond.1 (Classical.not_not.mp hsame)
      exact h.acknowledged status (hout ▸ List.mem_singleton.mpr rfl)
    · rintro (h | h | h)
      · exact absurd hp h
      · exact ⟨fun _ _ => h, fun _ hn => absurd h hn⟩
      · refine ⟨fun status hmem => ?_, fun _ _ => hsecond.2 fun he => h ((ha₁.hash hsha ha₂).mp he)⟩
        rw [hsecond.2 fun he => h ((ha₁.hash hsha ha₂).mp he)] at hmem
        simp [conflict] at hmem
  · refine ⟨fun _ => .inl hp, fun _ => ⟨fun status hmem => ?_, fun h => absurd h hp⟩⟩
    obtain ⟨_, _, _, _, he⟩ := rejected_of_not_passes hp _ hmem
    cases he

/-- SHA-256 at the payload of a two-byte prompt, and a stand-in without collisions elsewhere. -/
def pilotDigest (t : Text) : Text :=
  if t = units "\x7b\"modelId\":\"gpt-4o-mini\",\"inputBytes\":2\x7d" then
    units "066340ad2b9361a833b666ee1001b25d9533cf4ae4a9140086e58c848230f9dc"
  else 0 :: t

theorem pilotDigest_collisionless (rowSecurity : Bool) : (Runtime.pilot rowSecurity pilotDigest).Collisionless := by
  have hhead : ∀ t, units "066340ad2b9361a833b666ee1001b25d9533cf4ae4a9140086e58c848230f9dc" ≠ 0 :: t := by
    intro t h
    exact absurd (show (units "066340ad2b9361a833b666ee1001b25d9533cf4ae4a9140086e58c848230f9dc").headD 0 = 0 from
      congrArg (List.headD · 0) h) (by decide)
  refine ⟨fun a _ b _ h => ?_, fun t => ?_⟩
  · simp only [Runtime.pilot, pilotDigest] at h
    split at h <;> split at h
    · rename_i ha hb; rw [ha, hb]
    · exact absurd h (hhead b)
    · exact absurd h.symm (hhead a)
    · exact List.cons.inj h |>.2
  · simp only [Runtime.pilot, pilotDigest]
    split
    · decide
    · exact List.cons_ne_nil _ _

/-- The prompts `aa` and `bb` under one key: the second is answered with the first job. -/
theorem idempotency_two_prompts :
    let rt := Runtime.pilot false pilotDigest
    let r₁ := pilotRequest "6f1e1d2c-0001-4000-8000-000000000001" "aa"
    let r₂ := pilotRequest "6f1e1d2c-0001-4000-8000-000000000002" "bb"
    let db := ((postInference rt r₁).run [] pilotDb .empty).2.1
    r₁.idempotencyKey = r₂.idempotencyKey ∧ ¬ SamePayload r₁ r₂ ∧
      (answers rt r₂ db).map Event.response = [some (200, .idempotent r₁.requestId .QUEUED)] ∧
      ¬ Separates rt r₁ r₂ db := by
  intro rt r₁ r₂ db
  have hne : ¬ SamePayload r₁ r₂ := fun h => absurd (Json.str.inj (Option.some.inj h.input)) (by decide)
  have hans : (answers rt r₂ db).map Event.response = [some (200, .idempotent r₁.requestId .QUEUED)] := by
    decide +kernel
  exact ⟨rfl, hne, hans, fun h => hne (h.acknowledged .QUEUED (Event.mem_of_response (by rw [hans]; simp)))⟩

theorem pilotRequest_idempotencyKey (requestId input : String) :
    (pilotRequest requestId input).idempotencyKey = some (.str (units "k1")) := by
  have hmodel : (units "model" == units "idempotencyKey") = false := by decide
  have hinput : (units "input" == units "idempotencyKey") = false := by decide
  simp [pilotRequest, Request.idempotencyKey, Json.get, hmodel, hinput]

theorem idempotency_separates_iff_pilot :
    let rt := Runtime.pilot false pilotDigest
    let r₁ := pilotRequest "6f1e1d2c-0001-4000-8000-000000000001" "aa"
    let r₂ := pilotRequest "6f1e1d2c-0001-4000-8000-000000000002" "abc"
    let db := ((postInference rt r₁).run [] pilotDb .empty).2.1
    Separates rt r₁ r₂ db ↔ ¬ Passes rt r₂ db ∨ SamePayload r₁ r₂ ∨ ¬ SameHashed r₁ r₂ := by
  intro rt r₁ r₂ db
  have hkey₁ : r₁.idempotencyKey = some (.str (units "k1")) := pilotRequest_idempotencyKey _ _
  have hkey₂ : r₂.idempotencyKey = some (.str (units "k1")) := pilotRequest_idempotencyKey _ _
  have hanswered : some (202, Body.accepted r₁.requestId) ∈ (answers rt r₁ pilotDb).map Event.response := by
    decide +kernel
  have haccepted := Event.mem_of_response hanswered
  have hfirst := Async.exec_run (fun _ => False) (postInference rt r₁) [] pilotDb .empty (by simp)
  exact idempotency_separates_iff (pilotDigest_collisionless false) hkey₁ hkey₂ rfl rfl hfirst haccepted rfl

end GalaxiaAin.Tenant
