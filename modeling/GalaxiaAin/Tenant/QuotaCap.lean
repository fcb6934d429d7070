import GalaxiaAin.Tenant.Metering

/-! The daily quota among concurrent requests. A COUNT that lets a request pass says nothing
of the requests that passed before it and have no usage row yet; where the limit has room
for these too, it is kept. -/
namespace GalaxiaAin.Tenant
open GalaxiaAin.Library

variable {rt : Runtime} {ι : Type}

/-- The quota check among other handlers: the limit is read in one store, the rows are
counted in another. -/
theorem safe_checkOrganizationQuota {policy : Policy backend} {P : Protocol backend} {I : Db → Local backend → Prop}
    (hI : Carried P I) (hrefl : ∀ l s, P.guar l s s) {organizationId : Uuid} {Q : Post backend Quota} {l : Local backend}
    (herr : ∀ e s, I s l → Q (.error e) s l)
    (hcount : ∀ s t u reply tier, I s l → I t l → I u l → policy (.count organizationId) t (.done reply) true →
      Q (.ok (quotaOf rt (dailyLimit rt organizationId s) tier (usedToday rt organizationId t))) u l)
    {s : Db} (hs : I s l) : (checkOrganizationQuota rt organizationId).safe policy P Q s l := by
  have hcarry {v t : Db} {l' : Local backend} (hv : I v l) (ht : P.rely l' v t) (ho : l'.out = l.out) :
      I t l' ∧ I t l := by
    have := hI.rely v t l' (hI.sessions v l l' hv ho) ht
    exact ⟨this, hI.sessions t l' l this ho.symm⟩
  refine safe_withTenantTransaction hI hrefl herr (fun u hu => ?_) hs
  rw [readQuota, Async.safe_bind, Async.query, Async.safe_await]
  intro v hv
  obtain ⟨hv', hvl⟩ := hcarry hu hv rfl
  refine ⟨hI.inv v _ hv', fun a _ => ⟨?_, ?_⟩⟩
  · cases a <;> exact hrefl _ v
  cases a with
  | fault f => exact ⟨hI.sessions v l _ hvl rfl, rfl, rfl, fun a ha => by cases ha⟩
  | done reply =>
    change Async.safe policy P (_ >>= _) _ v _
    rw [Async.safe_bind, Async.query, Async.safe_await]
    intro w hw
    obtain ⟨hw', hwl⟩ := hcarry hvl hw rfl
    refine ⟨hI.inv w _ hw', fun a ha => ⟨?_, ?_⟩⟩
    · cases a <;> exact hrefl _ w
    cases a with
    | fault f => exact ⟨hI.sessions w l _ hwl rfl, rfl, rfl, fun a ha => by cases ha⟩
    | done reply' =>
      refine ⟨hI.sessions w l _ hwl rfl, rfl, rfl, fun quota hquota t ht => ⟨hrefl _ t, ?_⟩⟩
      cases hquota
      exact hcount v w t reply' _ hvl hwl (hcarry hwl ht rfl).2 ha

/-- The state of the quota is the comparison of the two numbers. -/
theorem quotaOf_exceeded {limit : Int} {tier : Text} {used : Nat} :
    (quotaOf rt limit tier used).state = .QUOTA_EXCEEDED ↔ limit ≤ used := by
  simp only [quotaOf]
  split
  · exact iff_of_true rfl ‹_›
  · split
    · exact iff_of_false (fun h => by cases h) ‹_›
    · exact iff_of_false (fun h => by cases h) ‹_›

/-! ### A request that finds the limit reached -/

section Handler
variable {organizationId : Uuid} {limit : Int}

/-- The organisations, as a frame. -/
abbrev organizationsKept : Frame backend := .of fun db : Db => db.organizations

/-- The organisations stay as they are; the handler accepts nothing. -/
def quotaProtocol (rt : Runtime) (organizationId : Uuid) (limit : Int) : Protocol backend :=
  { organizationsKept.protocol with inv := fun s l => dailyLimit rt organizationId s = limit ∧ ¬ Accepted l.out }

/-- No COUNT of the organisation lets a request pass. -/
def countsFull (rt : Runtime) (organizationId : Uuid) : Policy backend
  | .count id, db, .done _, _ => id = organizationId → dailyLimit rt organizationId db ≤ usedToday rt organizationId db
  | _, _, _, _ => True

/-- Nothing has been emitted. -/
def Unanswered (rt : Runtime) (organizationId : Uuid) (limit : Int) (s : Db) (l : Local backend) : Prop :=
  dailyLimit rt organizationId s = limit ∧ l.out = []

theorem carried_unanswered :
    Carried (quotaProtocol rt organizationId limit) (Unanswered rt organizationId limit) where
  rely s t l h hr := ⟨(dailyLimit_congr hr organizationId).trans h.1, h.2⟩
  sessions s l l' h ho := ⟨h.1, ho.trans h.2⟩
  inv s l h := ⟨h.1, by rw [h.2]; exact not_accepted_nil⟩

/-- A confined program that is quiet until its end, under the quota's protocol. -/
theorem safe_confined {α : Type} {policy : Policy backend} {R : Async.Outcome backend α} {p : Async backend α}
    (hp : p.Confined organizationsKept quiet R 0 0 []) {s : Db} (hs : Unanswered rt organizationId limit s .empty) :
    p.safe policy (quotaProtocol rt organizationId limit)
      (fun r s' l' => Unanswered rt organizationId limit s' .empty ∧ l'.sessions = [] ∧ R r l'.out) s .empty := by
  refine Async.safe_mono (hp.safe carried_unanswered (fun _ _ _ h => h) (fun t u l l' ht hk hq => ?_)
    (Local.owns_zero.mpr rfl) fun l' hq => carried_unanswered.sessions s _ l' hs hq) fun r t l h => ?_
  · exact ⟨(dailyLimit_congr hk organizationId).trans ht.1, hq⟩
  · exact ⟨h.1 _ rfl, Local.owns_zero.mp h.2.1, h.2.2⟩

/-- The quota check of a request that finds the limit reached does not let it go on. -/
theorem safe_checkQuota_full {req : Request} (horg : req.auth.organizationId = organizationId) {s : Db}
    (hs : Unanswered rt organizationId limit s .empty) :
    (checkQuota rt req).safe (countsFull rt organizationId) (quotaProtocol rt organizationId limit)
      (fun r s' l' => Unanswered rt organizationId limit s' .empty ∧ l'.sessions = [] ∧ match r with
        | .error _ => l'.out = []
        | .ok false => Rejected l'.out
        | .ok true => False) s .empty := by
  rw [checkQuota, Async.safe_bind]
  refine safe_checkOrganizationQuota carried_unanswered (fun _ _ => rfl) (fun e t ht => ⟨ht, rfl, rfl⟩)
    (fun t u v reply tier ht hu hv hpol => ?_) hs
  have hfull : dailyLimit rt req.auth.organizationId t ≤ usedToday rt req.auth.organizationId u := by
    rw [horg] at hpol ⊢
    exact (ht.1.trans hu.1.symm).trans_le (hpol rfl)
  rw [Async.nextSafe_ok, if_pos (quotaOf_exceeded.mpr hfull)]
  refine Async.safe_mono (safe_confined (R := fun r out => match r with
    | .error _ => out = []
    | .ok b => b = false ∧ Rejected out) ?_ hv) fun r w l h => ?_
  · refine Async.confined_bind (Async.confined_pool quiet_nil (insertAuditEvent_keeps fun _ _ => rfl) (fun r => ?_) _)
    cases r with
    | error e => rfl
    | ok _ => exact Async.confined_bind (confined_respond _ _ ⟨rfl, rfl, _, _, _, _, rfl⟩)
  · obtain ⟨hw, hl, hr⟩ := h
    rcases r with e | b
    · exact ⟨hw, hl, hr⟩
    · obtain ⟨rfl, hr⟩ := hr
      exact ⟨hw, hl, hr⟩

/-- A request whose COUNTs all find the limit reached accepts nothing. -/
theorem safe_postInference_full {req : Request} (horg : req.auth.organizationId = organizationId) {s : Db}
    (hs : Unanswered rt organizationId limit s .empty) :
    (postInference rt req).safe (countsFull rt organizationId) (quotaProtocol rt organizationId limit)
      (fun _ _ l' => ¬ Accepted l'.out) s .empty := by
  have herror (e : ServiceError) (t : Db) :
      (onError e).safe (countsFull rt organizationId) (quotaProtocol rt organizationId limit)
        (fun _ _ l' => ¬ Accepted l'.out) t .empty := safe_onError e fun out hout => hout.not_accepted
  rw [postInference, Async.safe_handle, Async.safe_bind, admitRequest, Async.safe_bind]
  refine Async.safe_mono (safe_confined (checkRequest_confined req) hs) ?_
  rintro r t l ⟨ht, hl, hr⟩
  obtain ⟨sessions, out⟩ := l
  obtain rfl : sessions = [] := hl
  rcases r with e | _ | ⟨model, input⟩
  · obtain rfl : out = [] := hr
    exact herror e t
  · exact Rejected.not_accepted hr
  obtain ⟨rfl, -⟩ := hr
  rw [Async.nextSafe_ok, Async.safe_bind]
  refine Async.safe_mono (safe_confined (checkProject_confined req _) ht) ?_
  rintro r u l ⟨hu, hl, hr⟩
  obtain ⟨sessions, out⟩ := l
  obtain rfl : sessions = [] := hl
  rcases r with e | _ | _
  · obtain rfl : out = [] := hr
    exact herror e u
  · exact Rejected.not_accepted hr
  obtain rfl : out = [] := hr
  rw [Async.nextSafe_ok, if_pos rfl, Async.safe_bind]
  refine Async.safe_mono (safe_checkQuota_full horg hu) ?_
  rintro r v l ⟨hv, hl, hr⟩
  obtain ⟨sessions, out⟩ := l
  obtain rfl : sessions = [] := hl
  rcases r with e | _ | _
  · obtain rfl : out = [] := hr
    exact herror e v
  · exact Rejected.not_accepted hr
  · exact hr.elim

/-- A request that accepts nothing while it is safe has accepted nothing. -/
theorem not_accepted_of_safe {policy : Policy backend} {th : Thread backend Unit} {s : Db} (hset : th.prog.Settled)
    (h : th.prog.safe policy (quotaProtocol rt organizationId limit) (fun _ _ l => ¬ Accepted l.out) s th.loc) :
    ¬ Accepted th.loc.out := by
  obtain ⟨prog, loc⟩ := th
  cases prog with
  | ret a => exact h
  | raise e => exact h
  | sync c k => exact hset.elim
  | call σ c k => exact (h s rfl).1.2

end Handler

/-! ### Runs -/

section Runs
variable [DecidableEq ι]

/-- The step serves a COUNT of the organisation that lets its request pass. -/
def Passing (rt : Runtime) (organizationId : Uuid) (cfg : Config backend ι Unit) (i : ι) (a : Answer backend) : Prop :=
  cfg.site i = some (.count organizationId) ∧ ¬ a.Faulty ∧
    (usedToday rt organizationId cfg.store : Int) < dailyLimit rt organizationId cfg.store

instance (organizationId : Uuid) (cfg : Config backend ι Unit) (i : ι) (a : Answer backend) :
    Decidable (Passing rt organizationId cfg i a) := by
  unfold Passing; infer_instance

/-- The requests that a COUNT of the organisation has let pass. -/
def notePassed (rt : Runtime) (organizationId : Uuid) (passed : List ι) (cfg : Config backend ι Unit) (i : ι)
    (a : Answer backend) : List ι :=
  if Passing rt organizationId cfg i a then passed.insert i else passed

/-- The request has accepted its job, or still may. -/
def Candidate (cfg : Config backend ι Unit) (i : ι) : Prop :=
  (cfg.thread i).prog.result.isNone = true ∨ Accepted (cfg.thread i).loc.out

instance (cfg : Config backend ι Unit) (i : ι) : Decidable (Candidate cfg i) := by
  unfold Candidate; infer_instance

/-- A usage row of the day carries the request id. -/
def Recorded (rt : Runtime) (organizationId : Uuid) (p : Party) (db : Db) : Prop :=
  ∃ u ∈ todaysUsage rt organizationId db, p.requestId = some u.request_id

instance (organizationId : Uuid) (p : Party) (db : Db) : Decidable (Recorded rt organizationId p db) := by
  unfold Recorded; infer_instance

/-- How many of the requests let pass are candidates without a usage row. -/
def unrecorded (rt : Runtime) (organizationId : Uuid) (party : ι → Party) (passed : List ι)
    (cfg : Config backend ι Unit) : Nat :=
  (passed.filter fun i => Candidate cfg i ∧ ¬ Recorded rt organizationId (party i) cfg.store).length

/-- A COUNT that lets a request pass leaves room for those that are not recorded yet. -/
def leavesRoom (rt : Runtime) (organizationId : Uuid) (party : ι → Party) (passed : List ι)
    (cfg : Config backend ι Unit) (i : ι) (a : Answer backend) : Prop :=
  Passing rt organizationId cfg i a →
    (usedToday rt organizationId cfg.store + unrecorded rt organizationId party passed cfg : Int) <
      dailyLimit rt organizationId cfg.store

instance (organizationId : Uuid) (party : ι → Party) (passed : List ι) (cfg : Config backend ι Unit) (i : ι)
    (a : Answer backend) : Decidable (leavesRoom rt organizationId party passed cfg i a) := by
  unfold leavesRoom; infer_instance

omit [DecidableEq ι] in
/-- The candidates let pass are counted, or unrecorded. -/
theorem candidates_le {party : ι → Party} {organizationId : Uuid} {passed : List ι} {cfg : Config backend ι Unit}
    (hids : ∀ i j id, (party i).requestId = some id → (party j).requestId = some id → i = j) (hnodup : passed.Nodup) :
    (passed.filter fun i => Candidate cfg i).length ≤
      usedToday rt organizationId cfg.store + unrecorded rt organizationId party passed cfg := by
  have hsplit := List.length_eq_length_filter_add (l := passed.filter fun i => Candidate cfg i)
    fun i => decide (Recorded rt organizationId (party i) cfg.store)
  rw [List.filter_filter, List.filter_filter] at hsplit
  have hfound (i : ι) (hi : i ∈ passed.filter fun i => decide (Recorded rt organizationId (party i) cfg.store) &&
      decide (Candidate cfg i)) : Recorded rt organizationId (party i) cfg.store := by
    have := (List.mem_filter.mp hi).2
    rw [Bool.and_eq_true] at this
    exact of_decide_eq_true this.1
  have hrecorded : (passed.filter fun i => decide (Recorded rt organizationId (party i) cfg.store) &&
      decide (Candidate cfg i)).length ≤ usedToday rt organizationId cfg.store := by
    rw [usedToday, ← List.length_map (f := fun u : UsageRecord => some u.request_id),
      ← List.length_map (f := fun i => (party i).requestId)]
    refine (List.subperm_of_subset ?_ ?_).length_le
    · refine (List.Nodup.filter _ hnodup).map_on fun i hi j hj hij => ?_
      obtain ⟨u, -, hu⟩ := hfound i hi
      exact hids i j u.request_id hu (hij ▸ hu)
    · intro id hid
      obtain ⟨i, hi, rfl⟩ := List.mem_map.mp hid
      obtain ⟨u, hmem, hu⟩ := hfound i hi
      exact List.mem_map.mpr ⟨u, hmem, hu.symm⟩
  have hrest : (passed.filter fun i => !decide (Recorded rt organizationId (party i) cfg.store) &&
      decide (Candidate cfg i)).length = unrecorded rt organizationId party passed cfg := by
    unfold unrecorded
    congr 1
    apply List.filter_congr
    intro i _
    simp [Bool.and_comm]
  omega

/-- A step makes no new candidate. -/
theorem candidate_of_fire {policy : Policy backend} {cfg : Config backend ι Unit} {i : ι} {a : Answer backend}
    (he : cfg.Enabled policy i a) {j : ι} (h : Candidate (cfg.fire i a) j) : Candidate cfg j := by
  by_cases hj : j = i
  · subst hj
    exact .inl (by rw [he.running]; rfl)
  · unfold Candidate at h ⊢
    rwa [Config.fire_other a hj] at h

/-- Where every COUNT leaves room: the candidates let pass are within the limit, and the
others accept nothing. -/
structure Capped (rt : Runtime) (organizationId : Uuid) (party : ι → Party) (limit : Int) (passed : List ι)
    (cfg : Config backend ι Unit) : Prop where
  framed : cfg.Protected sameDay (fun _ => organizationsKept.protocol) fun _ _ _ _ => True
  limited : dailyLimit rt organizationId cfg.store = limit
  blocked : ∀ i, i ∉ passed → (party i).requests organizationId = true →
    (cfg.thread i).prog.safe (countsFull rt organizationId) (quotaProtocol rt organizationId limit)
      (fun _ _ l => ¬ Accepted l.out) cfg.store (cfg.thread i).loc
  nodup : passed.Nodup
  bound : ((passed.filter fun i => Candidate cfg i).length : Int) ≤ max 0 limit

section
variable {party : ι → Party} {organizationId : Uuid} {limit : Int} {db : Db} {cfg : Config backend ι Unit}

omit [DecidableEq ι] in
/-- Every statement leaves the organisations alone. -/
theorem workload_framed (party : ι → Party) (db : Db) : (workload rt party db).Protected sameDay
    (fun _ => organizationsKept.protocol) fun _ _ _ _ => True :=
  Frame.started (fun i => Party.confined (F := organizationsKept) (fun _ => insertAuditEvent_keeps fun _ _ => rfl)
    (fun _ => insertUsageRecord_keeps fun _ _ => rfl) (fun _ _ => insertJob_keeps fun _ _ => rfl)
    (fun _ _ _ => updateJob_keeps fun _ _ => rfl) (fun _ _ _ _ => rfl) (party i)) db

omit [DecidableEq ι] in
theorem capped_start : Capped rt organizationId party (dailyLimit rt organizationId db) [] (workload rt party db) where
  framed := workload_framed party db
  limited := rfl
  blocked i _ hi := by
    cases hp : party i with
    | request req =>
      rw [hp] at hi
      simp only [workload, hp]
      exact Async.safe_settle (safe_postInference_full (beq_iff_eq.mp hi) ⟨rfl, rfl⟩)
    | execution job => rw [hp] at hi; cases hi
    | clock elapsed => rw [hp] at hi; cases hi
  nodup := List.nodup_nil
  bound := le_max_left 0 _

omit [DecidableEq ι] in
/-- A step that lets no request pass serves no COUNT that would. -/
theorem enabled_full {i : ι} {a : Answer backend} (he : cfg.Enabled sameDay i a)
    (hpass : ¬ Passing rt organizationId cfg i a) : cfg.Enabled (countsFull rt organizationId) i a := by
  refine he.weaken fun σ hσ ok _ => ?_
  cases σ with
  | count org =>
    cases a with
    | fault f => trivial
    | done reply =>
      intro horg
      by_contra hlt
      exact hpass ⟨horg ▸ hσ, id, by omega⟩
  | _ => trivial

/-- A step that leaves room keeps the cap. -/
theorem capped_fire {passed : List ι} {i : ι} {a : Answer backend}
    (hids : ∀ i j id, (party i).requestId = some id → (party j).requestId = some id → i = j)
    (h : Capped rt organizationId party limit passed cfg) (he : cfg.Enabled sameDay i a)
    (hg : leavesRoom rt organizationId party passed cfg i a) :
    Capped rt organizationId party limit (notePassed rt organizationId passed cfg i a) (cfg.fire i a) := by
  obtain ⟨hkept, hframed⟩ := Frame.fire h.framed he
  have hfewer (l : List ι) : (l.filter fun j => Candidate (cfg.fire i a) j).length ≤
      (l.filter fun j => Candidate cfg j).length :=
    (List.monotone_filter_right l fun j hj => by simpa using candidate_of_fire he (of_decide_eq_true hj)).length_le
  refine ⟨hframed, (dailyLimit_congr hkept organizationId).trans h.limited, fun j hj hreq => ?_, ?_, ?_⟩
  · have hold : j ∉ passed := by
      intro hmem
      refine hj ?_
      unfold notePassed
      split
      · exact List.mem_insert_of_mem hmem
      · exact hmem
    by_cases hji : j = i
    · subst hji
      have hpass : ¬ Passing rt organizationId cfg j a := by
        intro hpass
        rw [notePassed, if_pos hpass] at hj
        exact hj List.mem_insert_self
      exact Config.safe_fire (fun _ _ => rfl) (enabled_full he hpass) (h.blocked j hold hreq)
    · rw [Config.fire_other a hji]
      exact Config.safe_stable (fun u hu => hu.trans hkept) (fun _ _ hq => hq) (h.framed.settled j) (h.blocked j hold hreq)
  · unfold notePassed
    split
    · exact h.nodup.insert
    · exact h.nodup
  · unfold notePassed
    split
    · rename_i hpass
      by_cases hi : i ∈ passed
      · rw [List.insert_of_mem hi]
        exact le_trans (by exact_mod_cast hfewer passed) h.bound
      · have hroom := hg hpass
        have hcount : (passed.filter fun j => Candidate cfg j).length ≤ usedToday rt organizationId cfg.store +
            unrecorded rt organizationId party passed cfg := candidates_le hids h.nodup
        rw [List.insert_of_not_mem hi]
        have hcons : ((i :: passed).filter fun j => Candidate (cfg.fire i a) j).length ≤
            (passed.filter fun j => Candidate (cfg.fire i a) j).length + 1 := by
          rw [List.filter_cons]
          split <;> simp
        have := hfewer passed
        have hlimit := h.limited
        omega
    · exact le_trans (by exact_mod_cast hfewer passed) h.bound

/-- In every run within a day whose COUNTs leave room, whatever else interleaves or fails,
the jobs accepted for an organisation stay within its daily limit. -/
theorem daily_quota_cap [Fintype ι] (party : ι → Party)
    (hids : ∀ i j id, (party i).requestId = some id → (party j).requestId = some id → i = j) (organizationId : Uuid)
    (db : Db) (script : List (ι × Answer backend)) (hruns : (workload rt party db).Runs sameDay script)
    (hroom : Config.AlongWith (notePassed rt organizationId) (leavesRoom rt organizationId party) []
      (workload rt party db) script) :
    (accepted party organizationId ((workload rt party db).after script) : Int) ≤
      max 0 (dailyLimit rt organizationId db) := by
  have h : Capped rt organizationId party (dailyLimit rt organizationId db)
      (Config.history (notePassed rt organizationId) [] (workload rt party db) script)
      ((workload rt party db).after script) :=
    hroom.invariant (fun _ _ _ _ hcap he hg => capped_fire hids hcap he hg) script capped_start hruns
  generalize Config.history (notePassed rt organizationId) [] (workload rt party db) script = passed at h
  generalize (workload rt party db).after script = cfg at h
  have hcard : accepted party organizationId cfg ≤ (passed.filter fun i => Candidate cfg i).length := by
    refine le_trans (Finset.card_le_card (t := (passed.filter fun i => Candidate cfg i).toFinset) fun i hi => ?_)
      (List.toFinset_card_le _)
    obtain ⟨hreq, hacc⟩ := (Finset.mem_filter.mp hi).2
    refine List.mem_toFinset.mpr (List.mem_filter.mpr ⟨?_, decide_eq_true (.inr hacc)⟩)
    by_contra hnot
    exact not_accepted_of_safe (h.framed.settled i) (h.blocked i hnot hreq) hacc
  exact le_trans (by exact_mod_cast hcard) h.bound

end

end Runs

/-! ### A limit of one -/

/-- The pilot organisation with one request a day. -/
def singleDb : Db := { pilotDb with organizations := [{ pilotOrg with quota_requests_per_day := some 1 }] }

/-- Two requests without an idempotency key. -/
def pair (second : Bool) : Party :=
  .request { pilotRequest (if second then "r2" else "r1") "aa" with
    body := .obj [(units "model", .str (units "gpt-4o-mini")), (units "input", .str (units "aa"))] }

/-- Both COUNTs run before either request is recorded, and both jobs are accepted. -/
theorem quota_race :
    let rt := Runtime.pilot false id
    let served : Answer backend := .done backend.usual
    let script := List.replicate 5 (false, served) ++ List.replicate 13 (true, served) ++ List.replicate 8 (false, served)
    (workload rt pair singleDb).Runs sameDay script ∧ dailyLimit rt pilotOrg.id singleDb = 1 ∧
      accepted pair pilotOrg.id ((workload rt pair singleDb).after script) = 2 := by
  decide +kernel

/-- One after the other: the second COUNT finds the first request recorded. -/
theorem daily_quota_cap_single :
    let rt := Runtime.pilot false id
    let served : Answer backend := .done backend.usual
    let script := List.replicate 13 (false, served) ++ List.replicate 7 (true, served)
    let cfg := (workload rt pair singleDb).after script
    (accepted pair pilotOrg.id cfg : Int) ≤ max 0 (dailyLimit rt pilotOrg.id singleDb) ∧
      accepted pair pilotOrg.id cfg = 1 := by
  intro rt served script cfg
  have hids : ∀ i j id, (pair i).requestId = some id → (pair j).requestId = some id → i = j := by
    intro i j id hi hj
    have hinj : ∀ i j, (pair i).requestId = (pair j).requestId → i = j := by decide
    exact hinj i j (hi.trans hj.symm)
  obtain ⟨hruns, hroom, haccepted⟩ : (workload rt pair singleDb).Runs sameDay script ∧
      Config.AlongWith (notePassed rt pilotOrg.id) (leavesRoom rt pilotOrg.id pair) []
        (workload rt pair singleDb) script ∧ accepted pair pilotOrg.id cfg = 1 := by decide +kernel
  exact ⟨daily_quota_cap pair hids pilotOrg.id singleDb script hruns hroom, haccepted⟩

end GalaxiaAin.Tenant
