import GalaxiaAin.Tenant.Idempotency

/-! One job per key among concurrent callers. An entry of the unique index is
permanent, and whoever adds one holds its lock, so a key is entered once. -/
namespace GalaxiaAin.Tenant
open GalaxiaAin.Library

variable {rt : Runtime} {ι : Type}

/-- A concurrent caller of `createInferenceJob`: by itself, or the route. -/
inductive Caller where
  | direct (requestId : Text) (input : JobInput)
  | post (req : Request)

namespace Caller

def requestId : Caller → Text
  | .direct requestId _ => requestId
  | .post req => req.requestId

def organizationId : Caller → Uuid
  | .direct _ input => input.organizationId
  | .post req => req.auth.organizationId

/-- The non-empty idempotency key of the call. -/
def key (rt : Runtime) : Caller → Option Text
  | .direct _ input => input.key rt
  | .post req => (req.idempotencyKey.filter Json.truthy).map rt.parameter

def program (rt : Runtime) : Caller → Async backend (Option Job)
  | .direct requestId input => do
    let job ← createInferenceJob rt requestId input
    return some job
  | .post req => do
    postInference rt req
    return none

end Caller

def Event.isSchedule : Event → Bool
  | .respond _ _ => false
  | .schedule _ => true

/-- How often a handler scheduled `executeInferenceJob`. -/
def schedules (l : Local backend) : Nat := l.out.countP Event.isSchedule

/-- The index holds at most one entry for each key. -/
def Unique (db : Db) : Prop := ∀ organizationId key, (keyEntries organizationId key db).length ≤ 1

/-- The key of the caller holds its own job. -/
def Holds (rt : Runtime) (c : Caller) (db : Db) : Prop :=
  ∀ key, c.key rt = some key → (keyEntries c.organizationId key db).map Prod.fst = [c.requestId]

/-- An entry stays, and a free key may be entered once. -/
def Grows (a b : List (Text × Option Text)) : Prop := b = a ∨ (a = [] ∧ b.length = 1)

theorem Grows.refl (a : List (Text × Option Text)) : Grows a a := .inl rfl

theorem Grows.trans {a b c : List (Text × Option Text)} (h : Grows a b) (h' : Grows b c) : Grows a c := by
  rcases h with rfl | ⟨rfl, hb⟩
  · exact h'
  · rcases h' with rfl | ⟨rfl, -⟩
    · exact .inr ⟨rfl, hb⟩
    · exact absurd hb (by simp)

theorem Grows.entered {a b : List (Text × Option Text)} (h : Grows a b) (ha : a ≠ []) : b = a :=
  h.resolve_right fun h => ha h.1

theorem Grows.length {a b : List (Text × Option Text)} (h : Grows a b) (ha : a.length ≤ 1) : b.length ≤ 1 := by
  rcases h with rfl | ⟨-, hb⟩ <;> omega

/-- What a caller carries from call to call. -/
def Carries (rt : Runtime) (c : Caller) (db : Db) (l : Local backend) : Prop :=
  Unique db ∧ schedules l ≤ 1 ∧ (1 ≤ schedules l → Holds rt c db)

/-- Others enter keys whose lock is free; a caller enters a free key whose lock it holds. -/
def keyProtocol (rt : Runtime) (c : Caller) : Protocol backend where
  rely l s t := ∀ organizationId key, Grows (keyEntries organizationId key s) (keyEntries organizationId key t) ∧
    (Lock.idempotency organizationId key ∈ l.locks → keyEntries organizationId key t = keyEntries organizationId key s)
  guar l s t := ∀ organizationId key, keyEntries organizationId key t = keyEntries organizationId key s ∨
    (Lock.idempotency organizationId key ∈ l.locks ∧ keyEntries organizationId key s = [] ∧
      (keyEntries organizationId key t).length = 1)
  inv s l := Carries rt c s l

theorem keyProtocol_compatible (caller : ι → Caller) : Compatible fun i => keyProtocol rt (caller i) where
  refl _ _ _ _ _ := ⟨.refl _, fun _ => rfl⟩
  trans _ _ _ _ _ h h' o k := ⟨(h o k).1.trans (h' o k).1, fun hl => ((h' o k).2 hl).trans ((h o k).2 hl)⟩
  fits i j l m s t _ hd hg o k := by
    rcases hg o k with h | ⟨hl, he, hlen⟩
    · exact ⟨.inl h, fun _ => h⟩
    · exact ⟨.inr ⟨he, hlen⟩, fun hm => absurd hm (hd hl)⟩

theorem Holds.rely {c : Caller} {l : Local backend} {s t : Db} (h : Holds rt c s) (hr : (keyProtocol rt c).rely l s t) :
    Holds rt c t := by
  intro key hk
  have := h key hk
  rw [(hr c.organizationId key).1.entered fun he => by rw [he] at this; cases this]
  exact this

theorem Unique.rely {c : Caller} {l : Local backend} {s t : Db} (h : Unique s) (hr : (keyProtocol rt c).rely l s t) :
    Unique t := fun o k => (hr o k).1.length (h o k)

theorem carried_carries (c : Caller) : Carried (keyProtocol rt c) (Carries rt c) where
  rely s t l h hr := ⟨h.1.rely hr, h.2.1, fun hs => (h.2.2 hs).rely hr⟩
  sessions s l l' h ho := by
    have : schedules l' = schedules l := by rw [schedules, schedules, ho]
    rw [Carries, this]; exact h
  inv _ _ h := h

/-- Once its key holds the caller's job, the caller may schedule it once. -/
theorem carried_holds (c : Caller) :
    Carried (keyProtocol rt c) fun s l => Unique s ∧ Holds rt c s ∧ schedules l ≤ 1 where
  rely s t l h hr := ⟨h.1.rely hr, h.2.1.rely hr, h.2.2⟩
  sessions s l l' h ho := by
    have : schedules l' = schedules l := by rw [schedules, schedules, ho]
    rw [this]; exact h
  inv _ _ h := ⟨h.1, h.2.2, fun _ => h.2.1⟩

theorem guar_of_requests {c : Caller} {l : Local backend} {s t : Db} (h : t.inference_requests = s.inference_requests) :
    (keyProtocol rt c).guar l s t := fun _ _ => .inl (keyEntries_congr h _ _)

/-- What holds when a caller returns: its job is the one under the key, and it is a new
one only if it is the caller's own. -/
def Returned (rt : Runtime) (c : Caller) (r : Except ServiceError (Option Job)) (db : Db) (l : Local backend) : Prop :=
  Carries rt c db l ∧ ∀ job, r = .ok (some job) →
    (∀ key, c.key rt = some key → (keyEntries c.organizationId key db).map Prod.fst = [job.requestId]) ∧
    (job.existing = false → job.requestId = c.requestId)

theorem returned_stable (c : Caller) : Async.Stable (keyProtocol rt c) (Returned rt c) := by
  intro r s t l ⟨hc, hj⟩ hr
  refine ⟨(carried_carries c).rely s t l hc hr, fun job hjob => ⟨fun key hk => ?_, (hj job hjob).2⟩⟩
  have := (hj job hjob).1 key hk
  rw [(hr c.organizationId key).1.entered fun he => by rw [he] at this; cases this]
  exact this

/-- The row a lookup finds is the only entry of its key, then and later. -/
theorem found_entry {c : Caller} {input : JobInput} {key : Text} {s t : Db} {l : Local backend}
    {row : InferenceRequest} {rest : List InferenceRequest} (hu : Unique s) (horg : c.organizationId = input.organizationId)
    (hrows : rowsFor rt input key s = row :: rest) (hr : (keyProtocol rt c).rely l s t) :
    (keyEntries c.organizationId key t).map Prod.fst = [row.request_id] := by
  have hrow : row ∈ rowsFor rt input key s := by rw [hrows]; exact List.mem_cons_self
  have hmem := mem_keyEntries_of_rowsFor hrow
  rw [← horg] at hmem
  rw [(hr _ _).1.entered (List.ne_nil_of_mem hmem)]
  have hlen := hu c.organizationId key
  match keyEntries c.organizationId key s, hmem, hlen with
  | [e], hmem, _ => rw [← List.mem_singleton.mp hmem]; rfl

/-- The commit of an insertion enters its key, under the lock taken by the insertion. -/
theorem committed_entry {c : Caller} {input : JobInput} {s t : Db} {w : Db → Db} {ctx : Settings} {l : Local backend}
    (horg : c.organizationId = input.organizationId) (hkey : c.key rt = input.key rt) (hu : Unique s)
    (hrun : (insertJob rt c.requestId input).run ctx s = .ok ((), w))
    (hlocks : ∀ k ∈ (insertJob rt c.requestId input).locks {} s, k ∈ l.locks) (hr : (keyProtocol rt c).rely l s t) :
    (keyProtocol rt c).guar l t (w t) ∧ Unique (w t) ∧ Holds rt c (w t) := by
  obtain ⟨-, hfree, hentries⟩ := keyEntries_insertJob hrun
  have hempty (key : Text) (hk : input.key rt = some key) :
      Lock.idempotency input.organizationId key ∈ l.locks ∧ keyEntries input.organizationId key t = [] := by
    have hl : Lock.idempotency input.organizationId key ∈ l.locks := hlocks _ (by simp [insertJob, hk])
    exact ⟨hl, ((hr _ _).2 hl).trans (hfree key hk)⟩
  have hguar : (keyProtocol rt c).guar l t (w t) := by
    intro o k
    rw [hentries t o k]
    split
    · rename_i h
      obtain ⟨rfl, hk⟩ := h
      obtain ⟨hl, he⟩ := hempty k hk
      exact .inr ⟨hl, he, by rw [he]; rfl⟩
    · exact .inl (List.append_nil _)
  refine ⟨hguar, fun o k => ?_, fun key hk => ?_⟩
  · rcases hguar o k with h | ⟨-, -, h⟩
    · rw [h]; exact hu.rely hr o k
    · omega
  · rw [hkey] at hk
    rw [hentries, horg, (hempty key hk).2, if_pos ⟨rfl, hk⟩]
    rfl

/-- A direct call of `createInferenceJob` keeps its protocol. -/
theorem safe_direct (requestId : Text) (input : JobInput) {s : Db}
    (hs : Carries rt (.direct requestId input) s .empty) :
    ((Caller.direct requestId input).program rt).safe (fun _ _ _ _ => True) (keyProtocol rt (.direct requestId input))
      (Returned rt (.direct requestId input)) s .empty := by
  have hI : Carried (keyProtocol rt _) _ := carried_carries (.direct requestId input)
  rw [Caller.program, Async.safe_bind]
  refine safe_createInferenceJob hI (fun _ _ => guar_of_requests rfl) (fun e t ht => ⟨ht, fun job h => by cases h⟩) ?_ ?_ hs
  · intro t reply key row rest job ht hkey _ hrows hack l' u hu hr
    refine ⟨hu, fun j hj => ?_⟩
    cases hj
    rw [acknowledge_ok hack]
    refine ⟨fun key' hk => ?_, fun h => by cases h⟩
    obtain rfl : key = key' := Option.some.inj (hkey.symm.trans hk)
    exact found_entry ht.1 rfl hrows hr
  · intro t w ht hrun l' u hu hlocks hr
    obtain ⟨hg, hunique, hholds⟩ := committed_entry rfl rfl ht.1 hrun hlocks hr
    refine ⟨hg, ⟨hunique, hu.2.1, fun _ => hholds⟩, fun j hj => ?_⟩
    cases hj
    exact ⟨hholds, fun _ => rfl⟩

/-- The start of a job schedules it at most once and changes no entry. -/
theorem startJob_schedules (req : Request) (a : Admission) (job : Job) :
    ((startJob rt req a job).handle onError).Confined (Frame.of fun db : Db => db.inference_requests)
      (fun out => out.countP Event.isSchedule ≤ 1) (fun _ out => out.countP Event.isSchedule ≤ 1) 0 0 [] := by
  have haudit (event : AuditInput) : (insertAuditEvent rt event).Keeps (Frame.of fun db : Db => db.inference_requests) :=
    insertAuditEvent_keeps fun _ _ => rfl
  have husage (record : UsageInput) : (insertUsageRecord rt record).Keeps (Frame.of fun db : Db => db.inference_requests) :=
    insertUsageRecord_keeps fun _ _ => rfl
  have herror (e : ServiceError) (out : List Event) (h : out.countP Event.isSchedule ≤ 1) :
      (onError e).Confined (Frame.of fun db : Db => db.inference_requests)
        (fun out => out.countP Event.isSchedule ≤ 1) (fun _ out => out.countP Event.isSchedule ≤ 1) 0 0 out := by
    obtain ⟨status, code, error, he⟩ := onError_respond e
    rw [he, respond, Async.confined_emit]
    split
    · simpa [Event.isSchedule] using h
    · exact h
  refine Async.confined_handle (Async.confined_bind (Async.confined_pool (by simp) (haudit _) (fun r => ?_) _))
  cases r with
  | error e => exact herror e [] (by simp)
  | ok _ =>
    refine Async.confined_bind ((Async.confined_emit _ _).mpr ?_)
    refine Async.confined_bind ((Async.confined_emit _ _).mpr ?_)
    refine Async.confined_pool (by simp [Event.isSchedule]) (husage _) (fun r => ?_) _
    cases r with
    | error e => exact herror e _ (by simp [Event.isSchedule])
    | ok _ => simp [Async.caughtConfined, Event.isSchedule]

/-- The route keeps the protocol of its key. -/
theorem safe_post (req : Request) {s : Db} (hs : Carries rt (.post req) s .empty) :
    ((Caller.post req).program rt).safe (fun _ _ _ _ => True) (keyProtocol rt (.post req)) (Returned rt (.post req)) s
      .empty := by
  have hkeyOf {a : Admission} (ha : Admitted req a) : (Caller.post req).key rt = (jobInput req a).key rt := by
    simp only [Caller.key, JobInput.key, jobInput, Request.idempotencyKey, ha.idempotencyKey]
  have hquiet {out : List Event} (h : out.countP Event.isSchedule = 0) {t : Db} {l : Local backend}
      (ht : Carries rt (.post req) t l) : Carries rt (.post req) t ⟨[], out⟩ :=
    ⟨ht.1, by simp [schedules, h], fun hn => by simp [schedules, h] at hn⟩
  rw [Caller.program, Async.safe_bind]
  refine safe_postInference (carried_carries _) (fun _ _ => guar_of_requests rfl)
    (fun l t u h => guar_of_requests (congrArg Prod.fst h)) ?_ ?_ ?_ ?_ hs
  · intro t u l l' ht hk hq
    have hzero : schedules l' = 0 := by rw [schedules, show l'.out = [] from hq]; rfl
    exact ⟨fun o k => by rw [keyEntries_congr (congrArg Prod.fst hk)]; exact ht.1 o k, by omega, fun h => by omega⟩
  · intro t out ht hrejected
    obtain ⟨_, _, _, _, hout⟩ := hrejected
    exact ⟨hquiet (by rw [hout]; rfl) ht, fun job h => by cases h⟩
  · intro a t reply key row rest job ha ht hkey _ hrows hack l' u hu hr
    exact ⟨hquiet rfl hu, fun job h => by cases h⟩
  · intro a t w ha ht hrun l' u hu hlocks hr
    obtain ⟨hg, hunique, hholds⟩ := committed_entry (c := .post req) rfl (hkeyOf ha) ht.1 hrun hlocks hr
    refine ⟨hg, Async.safe_mono ((startJob_schedules req a _).safe (carried_holds _)
      (fun l t u h => guar_of_requests h) ?_ (l := .empty) (Local.owns_zero.mpr rfl) fun l' hl => ⟨hunique, hholds, hl⟩)
      fun r t l hstarted => ?_⟩
    · intro t u l l' ht hk hq
      obtain ⟨htu, hth, -⟩ := ht
      exact ⟨fun o k => by rw [keyEntries_congr hk]; exact htu o k,
        fun key hk' => by rw [keyEntries_congr hk]; exact hth key hk', hq⟩
    · obtain ⟨ht, -, hr⟩ := hstarted
      obtain ⟨htu, hth, hn⟩ := ht l hr
      cases r with
      | error e => exact ⟨⟨htu, hn, fun _ => hth⟩, fun job h => by cases h⟩
      | ok _ => exact ⟨⟨htu, hn, fun _ => hth⟩, fun job h => by cases h⟩

/-- The callers, before their first step. -/
def callers (rt : Runtime) (caller : ι → Caller) (db : Db) : Config backend ι (Option Job) :=
  ⟨db, fun i => Thread.start ((caller i).program rt)⟩

/-- However concurrent callers of one key interleave, and whichever calls fail: the key has
at most one row, every call that returns a job returns that row's request, at most one
returns a new job, and it is scheduled at most once in all. -/
theorem one_job_per_key [DecidableEq ι] (caller : ι → Caller) (hids : Function.Injective fun i => (caller i).requestId)
    {db : Db} (hdb : Unique db) (organizationId : Uuid) (key : Text) (script : List (ι × Answer backend))
    (hruns : (callers rt caller db).Runs (fun _ _ _ _ => True) script) :
    let cfg := (callers rt caller db).after script
    let uses i := (caller i).organizationId = organizationId ∧ (caller i).key rt = some key
    let fresh i := ∃ job, (cfg.thread i).prog.result = some (.ok (some job)) ∧ job.existing = false
    (keyEntries organizationId key cfg.store).length ≤ 1 ∧
    (∀ i job, uses i → (cfg.thread i).prog.result = some (.ok (some job)) →
      (keyEntries organizationId key cfg.store).map Prod.fst = [job.requestId]) ∧
    (∀ i j, uses i → uses j → (fresh i ∨ 1 ≤ schedules (cfg.thread i).loc) →
      (fresh j ∨ 1 ≤ schedules (cfg.thread j).loc) → i = j) ∧
    ∀ i, schedules (cfg.thread i).loc ≤ 1 := by
  intro cfg uses fresh
  have hstart : (callers rt caller db).Protected (fun _ _ _ _ => True) (fun i => keyProtocol rt (caller i))
      (fun i => Returned rt (caller i)) := by
    refine Config.Protected.start fun i => ?_
    have hempty : Carries rt (caller i) db .empty := ⟨hdb, Nat.zero_le _, fun h => by cases h⟩
    cases hc : caller i with
    | direct requestId input => rw [hc] at hempty; exact safe_direct requestId input hempty
    | post req => rw [hc] at hempty; exact safe_post req hempty
  have hprot : cfg.Protected (fun _ _ _ _ => True) (fun i => keyProtocol rt (caller i)) (fun i => Returned rt (caller i)) :=
    Config.Protected.after (keyProtocol_compatible caller) (fun i => returned_stable _) script hstart hruns
  have hcarries (i : ι) : Carries rt (caller i) cfg.store (cfg.thread i).loc := by
    cases hr : (cfg.thread i).prog.result with
    | none => exact hprot.inv (keyProtocol_compatible caller) i hr
    | some r => exact (hprot.outcome i hr).1
  have hown (i : ι) (hi : uses i) (h : fresh i ∨ 1 ≤ schedules (cfg.thread i).loc) :
      (keyEntries organizationId key cfg.store).map Prod.fst = [(caller i).requestId] := by
    rcases h with ⟨job, hjob, hnew⟩ | h
    · obtain ⟨hentry, hid⟩ := (hprot.outcome i hjob).2 job rfl
      have := hentry key hi.2
      rw [hi.1, hid hnew] at this
      exact this
    · have := (hcarries i).2.2 h key hi.2
      rw [hi.1] at this
      exact this
  refine ⟨?_, fun i job hi hjob => ?_, fun i j hi hj h h' => hids ?_, fun i => (hcarries i).2.1⟩
  · rcases isEmpty_or_nonempty ι with hι | ⟨⟨i⟩⟩
    · cases script with
      | nil => exact hdb organizationId key
      | cons step _ => exact hι.elim step.1
    · exact (hcarries i).1 organizationId key
  · have := ((hprot.outcome i hjob).2 job rfl).1 key hi.2
    rw [hi.1] at this
    exact this
  · exact (List.cons.inj ((hown i hi h).symm.trans (hown j hj h'))).1

/-- Two calls that both look the key up before either inserts: the loser is refused. -/
theorem one_job_per_key_pair :
    let input : JobInput :=
      ⟨pilotOrg.id, none, none, units "openai", units "gpt-4o-mini", some (.str (units "k1")), some 2⟩
    let caller (second : Bool) : Caller := .direct (if second then units "r2" else units "r1") input
    let served : Answer backend := .done backend.usual
    let script := (List.replicate 4 [(false, served), (true, served)]).flatten ++
      [(false, served), (false, served), (true, served), (true, served)]
    let cfg := (callers (Runtime.pilot true pilotDigest) caller pilotDb).after script
    (cfg.thread true).prog.result = some (.error .uniqueViolation) ∧
      (keyEntries pilotOrg.id (units "k1") cfg.store).length ≤ 1 ∧
      (keyEntries pilotOrg.id (units "k1") cfg.store).map Prod.fst = [units "r1"] := by
  intro input caller served script cfg
  have hids : Function.Injective fun b => (caller b).requestId := by decide
  have hdb : Unique pilotDb := fun _ _ => Nat.zero_le _
  have hruns : (callers (Runtime.pilot true pilotDigest) caller pilotDb).Runs (fun _ _ _ _ => True) script := by
    decide +kernel
  have huses : (caller false).key (Runtime.pilot true pilotDigest) = some (units "k1") := by decide +kernel
  have hwinner : (cfg.thread false).prog.result = some (.ok (some ⟨units "r1", .QUEUED, false⟩)) := by decide +kernel
  have hloser : (cfg.thread true).prog.result = some (.error .uniqueViolation) := by decide +kernel
  have horg : (caller false).organizationId = pilotOrg.id := rfl
  have h := one_job_per_key caller hids hdb pilotOrg.id (units "k1") script hruns
  -- folded, as unifying the threads of the configuration would run the script
  rw [show (callers (Runtime.pilot true pilotDigest) caller pilotDb).after script = cfg from rfl] at h
  exact ⟨hloser, h.1, h.2.1 false ⟨units "r1", .QUEUED, false⟩ ⟨horg, huses⟩ hwinner⟩
end GalaxiaAin.Tenant
