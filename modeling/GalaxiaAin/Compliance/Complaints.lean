import GalaxiaAin.Compliance.Deadlines
import GalaxiaAin.Compliance.Schema
import GalaxiaAin.Tenant.Schema

/-! Complaints. Each handler is one statement of the pool, so a run is the statements that
took effect in their order; the times of the process and of the database are one, in
milliseconds, and the sessions are in the zone of the process. Ids are uuids in the form in which
the database prints them. -/
namespace GalaxiaAin.Compliance
open GalaxiaAin.Library
open GalaxiaAin.Tenant (varchar)

inductive ComplaintStatus where
  | submitted | acknowledged | under_review | resolved | escalated | closed
  deriving DecidableEq

structure Complaint where
  id : Text
  user_id : Text
  complaint_number : Text
  category : Text
  subject : Text
  description : Text
  priority : Text
  related_transaction_id : Option Text
  related_task_id : Option Text
  status : ComplaintStatus
  assigned_to : Option Text
  submitted_at : Int
  acknowledged_at : Option Int
  acknowledged_by : Option Text
  response_due_date : Int
  resolved_at : Option Int
  resolution_notes : Option Text
  resolution_satisfactory : Option Bool
  escalated_to_regulator : Bool
  regulator_reference : Option Text
  updated_at : Int

/-- The complaints with their unique columns, and the keys they refer to. -/
structure ComplaintDb where
  users : List Text
  token_transactions : List Text
  tasks : List Text
  complaints : List Complaint
  id_unique : (complaints.map (·.id)).Nodup
  number_unique : (complaints.map (·.complaint_number)).Nodup

inductive ComplaintFailure where
  | invalidDate | invalidText | stringTooLong | uniqueViolation | foreignKeyViolation
  deriving DecidableEq

/-- The values of complaint_category. -/
def complaintCategories : List Text :=
  [units "service_issue", units "billing", units "security", units "privacy", units "compliance", units "other"]

/-- A value of TEXT. -/
def storedText (t : Text) : Bool := t.all (· != 0)

namespace ComplaintDb

def Accepts (db : ComplaintDb) (row : Complaint) : Prop :=
  complaintCategories.contains row.category = true ∧ storedText row.description = true ∧ varchar 255 row.subject = true ∧
    varchar 50 row.complaint_number = true ∧
    (∀ c ∈ db.complaints, c.id ≠ row.id ∧ c.complaint_number ≠ row.complaint_number) ∧
    db.users.contains row.user_id = true ∧ (∀ t ∈ row.related_transaction_id, db.token_transactions.contains t = true) ∧
    ∀ t ∈ row.related_task_id, db.tasks.contains t = true

instance (db : ComplaintDb) (row : Complaint) : Decidable (db.Accepts row) := by
  unfold Accepts; infer_instance

/-- The error of a row that does not pass. -/
def refusal (db : ComplaintDb) (row : Complaint) : ComplaintFailure :=
  if !(complaintCategories.contains row.category && storedText row.description) then .invalidText
  else if !(varchar 255 row.subject && varchar 50 row.complaint_number) then .stringTooLong
  else if db.complaints.any fun c => c.id == row.id || c.complaint_number == row.complaint_number then .uniqueViolation
  else .foreignKeyViolation

def insert (db : ComplaintDb) (row : Complaint) (h : db.Accepts row) : ComplaintDb :=
  { db with
    complaints := db.complaints ++ [row]
    id_unique := by
      rw [List.map_append, List.nodup_append]
      exact ⟨db.id_unique, by simp, by simpa using fun c hc => (h.2.2.2.2.1 c hc).1⟩
    number_unique := by
      rw [List.map_append, List.nodup_append]
      exact ⟨db.number_unique, by simp, by simpa using fun c hc => (h.2.2.2.2.1 c hc).2⟩ }

/-- UPDATE complaints … WHERE id. -/
def update (db : ComplaintDb) (complaintId : Text) (set : Complaint → Complaint) (hid : ∀ c, (set c).id = c.id)
    (hnumber : ∀ c, (set c).complaint_number = c.complaint_number) : ComplaintDb :=
  { db with
    complaints := db.complaints.map fun c => if c.id = complaintId then set c else c
    id_unique := by
      have hsame : ((fun c : Complaint => c.id) ∘ fun c => if c.id = complaintId then set c else c) = fun c => c.id := by
        funext c
        simp only [Function.comp_apply]
        split
        · exact hid c
        · rfl
      rw [List.map_map, hsame]
      exact db.id_unique
    number_unique := by
      have hsame : ((fun c : Complaint => c.complaint_number) ∘ fun c => if c.id = complaintId then set c else c) =
          fun c => c.complaint_number := by
        funext c
        simp only [Function.comp_apply]
        split
        · exact hnumber c
        · rfl
      rw [List.map_map, hsame]
      exact db.number_unique }

end ComplaintDb

/-! ### The service -/

structure ComplaintData where
  category : Text
  subject : Text
  description : Text
  related_transaction_id : Option Text
  related_task_id : Option Text

/-- What the generators give: the id of the row, and the time and the random number in
base 36, in capitals. -/
structure ComplaintDraw where
  id : Text
  timestamp : Text
  random : Text

def generateComplaintNumber (draw : ComplaintDraw) : Text :=
  units "COMP-" ++ draw.timestamp ++ units "-" ++ draw.random

def determinePriority (category : Text) : Text :=
  if category = units "security" then units "urgent"
  else if category = units "privacy" ∨ category = units "compliance" then units "high"
  else if category = units "other" then units "low"
  else units "normal"

def complaintRow (draw : ComplaintDraw) (now due : Int) (userId : Text) (data : ComplaintData) : Complaint where
  id := draw.id
  user_id := userId
  complaint_number := generateComplaintNumber draw
  category := data.category
  subject := data.subject
  description := data.description
  priority := determinePriority data.category
  related_transaction_id := orNull data.related_transaction_id
  related_task_id := orNull data.related_task_id
  status := .submitted
  assigned_to := none
  submitted_at := now
  acknowledged_at := none
  acknowledged_by := none
  response_due_date := due
  resolved_at := none
  resolution_notes := none
  resolution_satisfactory := none
  escalated_to_regulator := false
  regulator_reference := none
  updated_at := now

/-- Fifteen business days end within 21 days, so the fuel suffices. -/
def createComplaint (offset : Int) (draw : ComplaintDraw) (now : Int) (userId : Text) (data : ComplaintData)
    (db : ComplaintDb) : Except ComplaintFailure (Complaint × ComplaintDb) :=
  match calculateBusinessDays offset 22 (some now) 15 with
  | some (some responseDueDate) =>
    let row := complaintRow draw now responseDueDate userId data
    if h : db.Accepts row then .ok (row, db.insert row h) else .error (db.refusal row)
  | _ => .error .invalidDate

def acknowledgeComplaint (now : Int) (complaintId acknowledgedBy : Text) (db : ComplaintDb) : ComplaintDb :=
  db.update complaintId
    (fun c => { c with status := .acknowledged, acknowledged_at := some now, acknowledged_by := some acknowledgedBy, updated_at := now })
    (fun _ => rfl) fun _ => rfl

def assignComplaint (now : Int) (complaintId assignedTo : Text) (db : ComplaintDb) : ComplaintDb :=
  db.update complaintId (fun c => { c with assigned_to := some assignedTo, status := .under_review, updated_at := now })
    (fun _ => rfl) fun _ => rfl

def resolveComplaint (now : Int) (complaintId resolutionNotes : Text) (satisfactory : Option Bool) (db : ComplaintDb) :
    Except ComplaintFailure ComplaintDb :=
  if storedText resolutionNotes then
    .ok <| db.update complaintId
      (fun c => { c with
        status := .resolved
        resolution_notes := some resolutionNotes
        resolution_satisfactory := satisfactory
        resolved_at := some now
        updated_at := now })
      (fun _ => rfl) fun _ => rfl
  else .error .invalidText

def escalateToRegulator (now : Int) (complaintId regulatorReference : Text) (db : ComplaintDb) :
    Except ComplaintFailure ComplaintDb :=
  if varchar 255 regulatorReference then
    .ok <| db.update complaintId
      (fun c => { c with
        status := .escalated
        escalated_to_regulator := true
        regulator_reference := some regulatorReference
        updated_at := now })
      (fun _ => rfl) fun _ => rfl
  else .error .stringTooLong

/-- `status` filters where it is not empty. -/
def getUserComplaints (userId : Text) (status : Option ComplaintStatus) (db : ComplaintDb) : List Complaint :=
  (db.complaints.filter fun c => decide (c.user_id = userId) && status.all fun s => decide (c.status = s)).mergeSort
    fun a b => decide (b.submitted_at ≤ a.submitted_at)

def getComplaint (complaintId : Text) (db : ComplaintDb) : Option Complaint :=
  db.complaints.find? fun c => decide (c.id = complaintId)

/-- CURRENT_DATE is the start of the day of the session. -/
def getOverdueComplaints (offset now : Int) (db : ComplaintDb) : List Complaint :=
  (db.complaints.filter fun c => decide (localDay offset c.response_due_date < localDay offset now) &&
      !decide (c.status ∈ [.resolved, .closed, .escalated])).mergeSort
    fun a b => decide (a.response_due_date ≤ b.response_due_date)

/-! ### Runs -/

inductive ComplaintCall where
  | create (draw : ComplaintDraw) (userId : Text) (data : ComplaintData)
  | acknowledge (complaintId acknowledgedBy : Text)
  | assign (complaintId assignedTo : Text)
  | resolve (complaintId resolutionNotes : Text) (satisfactory : Option Bool)
  | escalate (complaintId regulatorReference : Text)

/-- A call, and when its statement is executed: a time that a Date can hold. -/
structure ComplaintEvent where
  now : Int
  call : ComplaintCall
  valid : -maxTime ≤ now ∧ now ≤ maxTime

/-- The tables after the call; one that fails leaves them. -/
def ComplaintEvent.apply (offset : Int) (db : ComplaintDb) (e : ComplaintEvent) : ComplaintDb :=
  match e.call with
  | .create draw userId data => ((createComplaint offset draw e.now userId data db).map Prod.snd).toOption.getD db
  | .acknowledge complaintId acknowledgedBy => acknowledgeComplaint e.now complaintId acknowledgedBy db
  | .assign complaintId assignedTo => assignComplaint e.now complaintId assignedTo db
  | .resolve complaintId resolutionNotes satisfactory =>
    (resolveComplaint e.now complaintId resolutionNotes satisfactory db).toOption.getD db
  | .escalate complaintId regulatorReference =>
    (escalateToRegulator e.now complaintId regulatorReference db).toOption.getD db

def ComplaintDb.after (offset : Int) (db : ComplaintDb) (events : List ComplaintEvent) : ComplaintDb :=
  events.foldl (ComplaintEvent.apply offset) db

/-- Tables without complaints. -/
def noComplaints (users token_transactions tasks : List Text) : ComplaintDb :=
  ⟨users, token_transactions, tasks, [], List.nodup_nil, List.nodup_nil⟩

/-- The status a call gives a complaint. -/
def ComplaintCall.moves (id : Text) : ComplaintCall → Option ComplaintStatus
  | .create _ _ _ => none
  | .acknowledge complaintId _ => if id = complaintId then some .acknowledged else none
  | .assign complaintId _ => if id = complaintId then some .under_review else none
  | .resolve complaintId resolutionNotes _ => if id = complaintId ∧ storedText resolutionNotes then some .resolved else none
  | .escalate complaintId reference => if id = complaintId ∧ varchar 255 reference then some .escalated else none

/-- The last status that the calls give a complaint. -/
def lastMove (id : Text) (events : List ComplaintEvent) : Option ComplaintStatus :=
  (events.filterMap fun e => e.call.moves id).getLast?

/-- The call enters a complaint of this id. -/
def ComplaintEvent.Creates (offset : Int) (id : Text) (db : ComplaintDb) (e : ComplaintEvent) : Prop :=
  ∃ draw userId data row db', e.call = .create draw userId data ∧ draw.id = id ∧
    createComplaint offset draw e.now userId data db = .ok (row, db')

/-! ### The deadline -/

/-- A week has five business days. -/
theorem businessDaysIn_week {first last : Int} (h : first ≤ last) :
    businessDaysIn first (last + 7) = businessDaysIn first last + 5 := by
  have hday (k : Nat) : businessDaysIn first (last + (k + 1 : Nat)) = businessDaysIn first (last + k) +
      if (last % 7 + k + 5) % 7 = 0 ∨ (last % 7 + k + 5) % 7 = 6 then 0 else 1 := by
    have hsucc := businessDaysIn_succ first (last + k) (by omega)
    have hnext : last + ((k + 1 : Nat) : Int) = last + k + 1 := by push_cast; ring
    rw [hnext, hsucc]
    congr 1
    have hbusiness : businessDay (last + k + 1) = true ↔ ¬((last % 7 + k + 5) % 7 = 0 ∨ (last % 7 + k + 5) % 7 = 6) := by
      simp only [businessDay, Bool.and_eq_true, bne_iff_ne]
      omega
    by_cases hb : businessDay (last + k + 1) = true
    · rw [if_pos hb, if_neg (hbusiness.mp hb)]
    · rw [if_neg hb, if_pos (not_not.mp fun hn => hb (hbusiness.mpr hn))]
  have hmod : last % 7 = 0 ∨ last % 7 = 1 ∨ last % 7 = 2 ∨ last % 7 = 3 ∨ last % 7 = 4 ∨ last % 7 = 5 ∨ last % 7 = 6 := by
    omega
  have hweek : businessDaysIn first (last + (7 : Nat)) = businessDaysIn first (last + (0 : Nat)) + 5 := by
    rw [hday 6, hday 5, hday 4, hday 3, hday 2, hday 1, hday 0]
    rcases hmod with hr | hr | hr | hr | hr | hr | hr <;> norm_num [hr]
  simpa using hweek

theorem daysUntil_fifteen (first : Int) : 19 ≤ daysUntil first 15 ∧ daysUntil first 15 ≤ 21 := by
  have hone : businessDaysIn first (first + 7) = 5 := by
    rw [businessDaysIn_week (le_refl first), businessDaysIn_self]
  have htwo : businessDaysIn first (first + 14) = 10 := by
    rw [show first + 14 = first + 7 + 7 by ring, businessDaysIn_week (by omega), hone]
  have hthree : businessDaysIn first (first + 21) = 15 := by
    rw [show first + 21 = first + 14 + 7 by ring, businessDaysIn_week (by omega), htwo]
  constructor
  · by_contra hearly
    have hfind : 15 ≤ businessDaysIn first (first + daysUntil first 15) := Nat.find_spec (exists_businessDays first 15)
    have hwide := @businessDaysIn_le first (first + daysUntil first 15) first (first + (14 + 4 : Nat)) (le_refl _) (by omega)
    have hmore := businessDaysIn_add_le first 14 4
    rw [show first + ((14 : Nat) : Int) = first + 14 by norm_num, htwo] at hmore
    omega
  · apply Nat.find_min'
    rw [show first + ((21 : Nat) : Int) = first + 21 by norm_num, hthree]

/-- A complaint that is entered has the deadline of its day. -/
theorem createComplaint_ok {offset now : Int} (hvalid : -maxTime ≤ now ∧ now ≤ maxTime) {draw : ComplaintDraw}
    {userId : Text} {data : ComplaintData} {db db' : ComplaintDb} {row : Complaint}
    (h : createComplaint offset draw now userId data db = .ok (row, db')) :
    row = complaintRow draw now (now + daysUntil (localDay offset now) 15 * dayLength) userId data ∧
      ∃ haccepts : db.Accepts row, db' = db.insert row haccepts := by
  have hdate := @calculateBusinessDays_eq offset now 15 22 hvalid (by decide)
    (Nat.lt_of_le_of_lt (daysUntil_fifteen (localDay offset now)).2 (by decide))
  unfold createComplaint at h
  rw [hdate] at h
  cases hclip : timeClip (now + daysUntil (localDay offset now) 15 * dayLength) with
  | none => rw [hclip] at h; cases h
  | some due =>
    rw [hclip] at h
    have hdue := timeClip_eq_some hclip.symm
    subst hdue
    simp only at h
    split at h
    · rename_i haccepts
      cases h
      exact ⟨rfl, haccepts, rfl⟩
    · cases h

/-! ### What a call does to one complaint -/

section Step
variable {offset : Int} {db : ComplaintDb} {id : Text}

theorem getComplaint_update {complaintId : Text} {set : Complaint → Complaint} (hid : ∀ c, (set c).id = c.id)
    (hnumber : ∀ c, (set c).complaint_number = c.complaint_number) :
    getComplaint id (db.update complaintId set hid hnumber) =
      (getComplaint id db).map fun c => if id = complaintId then set c else c := by
  simp only [getComplaint, ComplaintDb.update, List.find?_map]
  have hsame : ((fun c : Complaint => decide (c.id = id)) ∘ fun c => if c.id = complaintId then set c else c) =
      fun c => decide (c.id = id) := by
    funext c
    simp only [Function.comp_apply]
    split
    · rw [hid]
    · rfl
  rw [hsame]
  cases hfind : db.complaints.find? fun c => decide (c.id = id) with
  | none => rfl
  | some c =>
    have hc : c.id = id := by simpa using List.find?_some hfind
    simp only [Option.map_some, hc]

theorem getComplaint_insert {row : Complaint} (h : db.Accepts row) :
    getComplaint id (db.insert row h) = (getComplaint id db).or (if row.id = id then some row else none) := by
  rw [getComplaint, ComplaintDb.insert, List.find?_append, getComplaint]
  congr 1
  by_cases hid : row.id = id <;> simp [hid]

/-- A row keeps its entry and its deadline, and gets the status the call gives it. -/
structure Moved (moves : Option ComplaintStatus) (c c' : Complaint) : Prop where
  submitted : c'.submitted_at = c.submitted_at
  due : c'.response_due_date = c.response_due_date
  status : c'.status = moves.getD c.status

theorem Moved.refl (c : Complaint) : Moved none c c := ⟨rfl, rfl, rfl⟩

/-- A call that enters nothing changes the complaint of each id by itself. -/
theorem ComplaintEvent.apply_update (offset : Int) (id : Text) (e : ComplaintEvent)
    (hnot : ∀ draw userId data, e.call ≠ .create draw userId data) :
    ∃ set : Complaint → Complaint, (∀ c, Moved (e.call.moves id) c (set c)) ∧
      getComplaint id (e.apply offset db) = (getComplaint id db).map set := by
  obtain ⟨now, call, hvalid⟩ := e
  cases call with
  | create draw userId data => exact absurd rfl (hnot draw userId data)
  | acknowledge complaintId acknowledgedBy =>
    simp only [apply, acknowledgeComplaint]
    refine ⟨_, fun c => ?_, getComplaint_update _ _⟩
    simp only [ComplaintCall.moves]
    split
    · exact ⟨rfl, rfl, rfl⟩
    · exact .refl c
  | assign complaintId assignedTo =>
    simp only [apply, assignComplaint]
    refine ⟨_, fun c => ?_, getComplaint_update _ _⟩
    simp only [ComplaintCall.moves]
    split
    · exact ⟨rfl, rfl, rfl⟩
    · exact .refl c
  | resolve complaintId resolutionNotes satisfactory =>
    by_cases hfits : storedText resolutionNotes = true
    · simp only [apply, resolveComplaint, if_pos hfits, Except.toOption, Option.getD_some]
      refine ⟨_, fun c => ?_, getComplaint_update _ _⟩
      simp only [ComplaintCall.moves, hfits, and_true]
      split
      · exact ⟨rfl, rfl, rfl⟩
      · exact .refl c
    · have hmoves : ¬(id = complaintId ∧ storedText resolutionNotes = true) := fun hboth => hfits hboth.2
      simp only [apply, resolveComplaint, if_neg hfits, Except.toOption, Option.getD_none, ComplaintCall.moves, if_neg hmoves]
      exact ⟨_, .refl, Option.map_id'.symm⟩
  | escalate complaintId reference =>
    by_cases hfits : varchar 255 reference = true
    · simp only [apply, escalateToRegulator, if_pos hfits, Except.toOption, Option.getD_some]
      refine ⟨_, fun c => ?_, getComplaint_update _ _⟩
      simp only [ComplaintCall.moves, hfits, and_true]
      split
      · exact ⟨rfl, rfl, rfl⟩
      · exact .refl c
    · have hmoves : ¬(id = complaintId ∧ varchar 255 reference = true) := fun hboth => hfits hboth.2
      simp only [apply, escalateToRegulator, if_neg hfits, Except.toOption, Option.getD_none, ComplaintCall.moves, if_neg hmoves]
      exact ⟨_, .refl, Option.map_id'.symm⟩

/-- A creation is refused, or enters its row. -/
theorem ComplaintEvent.apply_create (offset : Int) {now : Int} {draw : ComplaintDraw} {userId : Text} {data : ComplaintData}
    (hvalid : -maxTime ≤ now ∧ now ≤ maxTime) :
    ((∃ f, createComplaint offset draw now userId data db = .error f) ∧
        ComplaintEvent.apply offset db ⟨now, .create draw userId data, hvalid⟩ = db) ∨
      ∃ row haccepts, createComplaint offset draw now userId data db = .ok (row, db.insert row haccepts) ∧
        row = complaintRow draw now (now + daysUntil (localDay offset now) 15 * dayLength) userId data ∧
        ComplaintEvent.apply offset db ⟨now, .create draw userId data, hvalid⟩ = db.insert row haccepts := by
  cases hcreate : createComplaint offset draw now userId data db with
  | error f => exact .inl ⟨⟨f, rfl⟩, by simp only [apply, hcreate]; rfl⟩
  | ok r =>
    obtain ⟨row, db'⟩ := r
    obtain ⟨hrow, haccepts, rfl⟩ := createComplaint_ok hvalid hcreate
    exact .inr ⟨row, haccepts, rfl, hrow, by simp only [apply, hcreate]; rfl⟩

/-- An entered complaint goes on. -/
theorem ComplaintEvent.apply_some (offset : Int) (e : ComplaintEvent) {c : Complaint} (h : getComplaint id db = some c) :
    ∃ c', getComplaint id (e.apply offset db) = some c' ∧ Moved (e.call.moves id) c c' := by
  by_cases hcall : ∃ draw userId data, e.call = .create draw userId data
  · obtain ⟨now, call, hvalid⟩ := e
    obtain ⟨draw, userId, data, rfl⟩ := hcall
    refine ⟨c, ?_, .refl c⟩
    rcases apply_create offset hvalid with ⟨-, hsame⟩ | ⟨row, haccepts, -, -, hentered⟩
    · rw [hsame, h]
    · rw [hentered, getComplaint_insert, h, Option.some_or]
  · obtain ⟨set, hset, hget⟩ := e.apply_update offset id fun draw userId data he => hcall ⟨draw, userId, data, he⟩
    exact ⟨set c, by rw [hget, h, Option.map_some], hset c⟩

/-- Where there is no complaint of the id, only its creation makes one. -/
theorem ComplaintEvent.apply_none (offset : Int) (e : ComplaintEvent) (h : getComplaint id db = none) :
    (getComplaint id (e.apply offset db) = none ∧ ¬e.Creates offset id db) ∨ ∃ c,
      getComplaint id (e.apply offset db) = some c ∧ e.Creates offset id db ∧ c.submitted_at = e.now ∧
        c.response_due_date = e.now + daysUntil (localDay offset e.now) 15 * dayLength ∧ c.status = .submitted := by
  by_cases hcall : ∃ draw userId data, e.call = .create draw userId data
  · obtain ⟨now, call, hvalid⟩ := e
    obtain ⟨draw, userId, data, rfl⟩ := hcall
    rcases apply_create offset hvalid with ⟨⟨f, hrefused⟩, hsame⟩ | ⟨row, haccepts, hcreate, hrow, hentered⟩
    · refine .inl ⟨by rw [hsame, h], ?_⟩
      rintro ⟨draw', userId', data', row, db', hcall, -, hok⟩
      cases hcall
      cases hrefused.symm.trans hok
    · have hid : row.id = draw.id := by rw [hrow]; rfl
      rw [hentered, getComplaint_insert, h, Option.none_or]
      by_cases hdraw : draw.id = id
      · refine .inr ⟨row, if_pos (hid.trans hdraw), ⟨draw, userId, data, row, _, rfl, hdraw, hcreate⟩, ?_⟩
        rw [hrow]
        exact ⟨rfl, rfl, rfl⟩
      · refine .inl ⟨if_neg fun hsame => hdraw (hid.symm.trans hsame), ?_⟩
        rintro ⟨draw', userId', data', row', db', hcall, hsame, -⟩
        cases hcall
        exact hdraw hsame
  · obtain ⟨set, -, hget⟩ := e.apply_update offset id fun draw userId data he => hcall ⟨draw, userId, data, he⟩
    refine .inl ⟨by rw [hget, h, Option.map_none], ?_⟩
    rintro ⟨draw, userId, data, -, -, he, -⟩
    exact hcall ⟨draw, userId, data, he⟩

end Step

/-! ### Runs of calls -/

section Runs
variable {offset : Int} {id : Text}

theorem ComplaintDb.after_append (db : ComplaintDb) (before later : List ComplaintEvent) :
    db.after offset (before ++ later) = (db.after offset before).after offset later := List.foldl_append

theorem lastMove_append (events : List ComplaintEvent) (e : ComplaintEvent) :
    lastMove id (events ++ [e]) = (e.call.moves id).or (lastMove id events) := by
  rw [lastMove, lastMove, List.filterMap_append, List.getLast?_append]
  congr 1
  cases hmoves : e.call.moves id with
  | none => simp [hmoves]
  | some s => simp [hmoves]

/-- A complaint goes on through the calls after it was entered. -/
theorem ComplaintDb.after_some (offset : Int) {db : ComplaintDb} {c : Complaint} (h : getComplaint id db = some c)
    (later : List ComplaintEvent) : ∃ c', getComplaint id (db.after offset later) = some c' ∧ Moved (lastMove id later) c c' := by
  induction later using List.reverseRecOn with
  | nil => exact ⟨c, h, .refl c⟩
  | append_singleton later e ih =>
    obtain ⟨c', hc', hmoved⟩ := ih
    obtain ⟨c'', hc'', hmoved'⟩ := ComplaintEvent.apply_some offset e hc'
    rw [ComplaintDb.after_append, lastMove_append]
    refine ⟨c'', hc'', hmoved'.submitted.trans hmoved.submitted, hmoved'.due.trans hmoved.due, ?_⟩
    rw [hmoved'.status, hmoved.status]
    cases e.call.moves id <;> rfl

/-- The calls enter a complaint of this id, and then there are the later ones. -/
def EnteredBy (offset : Int) (db : ComplaintDb) (id : Text) (events : List ComplaintEvent) (e : ComplaintEvent)
    (later : List ComplaintEvent) : Prop :=
  ∃ before, events = before ++ e :: later ∧ e.Creates offset id (db.after offset before)

theorem getComplaint_of_creates {db : ComplaintDb} {e : ComplaintEvent} (h : e.Creates offset id db) :
    getComplaint id db = none := by
  obtain ⟨draw, userId, data, row, db', hcall, hid, hok⟩ := h
  obtain ⟨hrow, haccepts, -⟩ := createComplaint_ok e.valid hok
  rw [getComplaint, List.find?_eq_none]
  intro c hc hsame
  have hnew := (haccepts.2.2.2.2.1 c hc).1
  rw [hrow] at hnew
  exact hnew ((of_decide_eq_true hsame).trans hid.symm)

theorem exists_entered {db : ComplaintDb} (hdb : getComplaint id db = none) (events : List ComplaintEvent)
    (h : getComplaint id (db.after offset events) ≠ none) : ∃ e later, EnteredBy offset db id events e later := by
  induction events using List.reverseRecOn with
  | nil => exact absurd hdb h
  | append_singleton events e ih =>
    by_cases hbefore : getComplaint id (db.after offset events) = none
    · rw [ComplaintDb.after_append] at h
      rcases ComplaintEvent.apply_none offset e hbefore with ⟨hnone, -⟩ | ⟨_, -, hcreates, -⟩
      · exact absurd hnone h
      · exact ⟨e, [], events, rfl, hcreates⟩
    · obtain ⟨e', later, before, rfl, hcreates⟩ := ih hbefore
      exact ⟨e', later ++ [e], before, by simp, hcreates⟩

/-- An entered complaint has the deadline of the day it was entered on, and the status that
the last call about it gave it. -/
theorem EnteredBy.row {db : ComplaintDb} {events later : List ComplaintEvent} {e : ComplaintEvent}
    (h : EnteredBy offset db id events e later) : ∃ c, getComplaint id (db.after offset events) = some c ∧
      c.response_due_date = e.now + daysUntil (localDay offset e.now) 15 * dayLength ∧
      c.status = (lastMove id later).getD .submitted := by
  obtain ⟨before, rfl, hcreates⟩ := h
  rcases ComplaintEvent.apply_none offset e (getComplaint_of_creates hcreates) with ⟨-, hnot⟩ | ⟨c, hc, -, -, hdue, hstatus⟩
  · exact absurd hcreates hnot
  · obtain ⟨c', hc', hmoved⟩ := ComplaintDb.after_some offset hc later
    refine ⟨c', ?_, hmoved.due.trans hdue, ?_⟩
    · rw [ComplaintDb.after_append]
      exact hc'
    · rw [hmoved.status, hstatus]

theorem moves_ne_closed (call : ComplaintCall) : call.moves id ≠ some .closed := by
  cases call with
  | create _ _ _ => exact fun h => by cases h
  | acknowledge _ _ => simp only [ComplaintCall.moves]; split <;> simp
  | assign _ _ => simp only [ComplaintCall.moves]; split <;> simp
  | resolve _ _ _ => simp only [ComplaintCall.moves]; split <;> simp
  | escalate _ _ => simp only [ComplaintCall.moves]; split <;> simp

theorem lastMove_ne_closed (id : Text) (events : List ComplaintEvent) : lastMove id events ≠ some .closed := by
  intro h
  obtain ⟨e, -, he⟩ := List.mem_filterMap.mp (List.mem_of_getLast? h)
  exact moves_ne_closed e.call he

end Runs

theorem getComplaint_of_mem {db : ComplaintDb} {c : Complaint} (h : c ∈ db.complaints) : getComplaint c.id db = some c := by
  cases hfind : getComplaint c.id db with
  | none => exact absurd (List.find?_eq_none.mp hfind c h) (by simp)
  | some c' =>
    have hid : c'.id = c.id := by simpa using List.find?_some hfind
    rw [List.inj_on_of_nodup_map db.id_unique (List.mem_of_find?_eq_some hfind) h hid]

theorem mem_overdue {offset now : Int} {db : ComplaintDb} {id : Text} :
    id ∈ (getOverdueComplaints offset now db).map (·.id) ↔ ∃ c, getComplaint id db = some c ∧
      localDay offset c.response_due_date < localDay offset now ∧ c.status ∉ [.resolved, .closed, .escalated] := by
  simp only [getOverdueComplaints, List.mem_map, List.mem_mergeSort, List.mem_filter, Bool.and_eq_true, decide_eq_true_eq,
    Bool.not_eq_true', decide_eq_false_iff_not]
  constructor
  · rintro ⟨c, ⟨hc, hcond⟩, rfl⟩
    exact ⟨c, getComplaint_of_mem hc, hcond⟩
  · rintro ⟨c, hc, hcond⟩
    exact ⟨c, ⟨List.mem_of_find?_eq_some hc, hcond⟩, by simpa using List.find?_some hc⟩

/-- The complaint needs no answer any more: it was resolved or handed on, and neither
acknowledged nor assigned after that. -/
def Settled (id : Text) (later : List ComplaintEvent) : Prop :=
  lastMove id later = some .resolved ∨ lastMove id later = some .escalated

/-- An entered complaint is on the list when its fifteenth business day is over and it is
not settled. -/
theorem overdue_iff_entered {offset : Int} {db : ComplaintDb} {id : Text} {events later : List ComplaintEvent}
    {e : ComplaintEvent} (h : EnteredBy offset db id events e later) (now : Int) :
    id ∈ (getOverdueComplaints offset now (db.after offset events)).map (·.id) ↔
      localDay offset e.now + daysUntil (localDay offset e.now) 15 < localDay offset now ∧ ¬Settled id later := by
  obtain ⟨c, hc, hdue, hstatus⟩ := h.row
  have hopen : c.status ∉ [.resolved, .closed, .escalated] ↔ ¬Settled id later := by
    have hclosed := lastMove_ne_closed id later
    rw [hstatus, Settled]
    cases hlast : lastMove id later with
    | none => simp
    | some s =>
      rw [hlast] at hclosed
      cases s <;> simp_all
  rw [mem_overdue, hc, ← hopen, ← localDay_add, ← hdue]
  simp only [Option.some.injEq, exists_eq_left']

/-- The list of overdue complaints, after any calls: in the order of their deadlines and
each once, the complaints whose fifteenth business day is over and that are not settled. -/
theorem overdue_exact (offset : Int) (users token_transactions tasks : List Text) (events : List ComplaintEvent) (now : Int) :
    let db := (noComplaints users token_transactions tasks).after offset events
    (getOverdueComplaints offset now db).Pairwise (fun c d => c.response_due_date ≤ d.response_due_date) ∧
      ((getOverdueComplaints offset now db).map (·.id)).Nodup ∧
      ∀ id, id ∈ (getOverdueComplaints offset now db).map (·.id) ↔ ∃ e later,
        EnteredBy offset (noComplaints users token_transactions tasks) id events e later ∧
          localDay offset e.now + daysUntil (localDay offset e.now) 15 < localDay offset now ∧ ¬Settled id later := by
  intro db
  refine ⟨?_, ?_, fun id => ?_⟩
  · have htrans (a b c : Complaint) (hab : decide (a.response_due_date ≤ b.response_due_date) = true)
        (hbc : decide (b.response_due_date ≤ c.response_due_date) = true) :
        decide (a.response_due_date ≤ c.response_due_date) = true := by
      simp only [decide_eq_true_eq] at *
      omega
    have htotal (a b : Complaint) : (decide (a.response_due_date ≤ b.response_due_date) ||
        decide (b.response_due_date ≤ a.response_due_date)) = true := by
      simp only [Bool.or_eq_true, decide_eq_true_eq]
      omega
    exact (List.pairwise_mergeSort htrans htotal _).imp of_decide_eq_true
  · apply ((List.mergeSort_perm _ _).map _).nodup_iff.mpr
    exact db.id_unique.sublist (List.filter_sublist.map _)
  · rw [mem_overdue]
    have hnone : getComplaint id (noComplaints users token_transactions tasks) = none := rfl
    constructor
    · rintro ⟨c, hc, hall⟩
      obtain ⟨e, later, hentered⟩ := exists_entered hnone events (hc ▸ Option.some_ne_none c)
      exact ⟨e, later, hentered, (overdue_iff_entered hentered now).mp (mem_overdue.mpr ⟨c, hc, hall⟩)⟩
    · rintro ⟨e, later, hentered, hall⟩
      exact mem_overdue.mp ((overdue_iff_entered hentered now).mpr hall)

/-- A complaint that is not settled is on the list from the 22nd day after it was entered
on, and on no list of the first 19 days. -/
theorem overdue_after_three_weeks {offset : Int} {users token_transactions tasks : List Text} {events later : List ComplaintEvent}
    {id : Text} {e : ComplaintEvent} (h : EnteredBy offset (noComplaints users token_transactions tasks) id events e later)
    (hopen : ¬Settled id later) (now : Int) :
    (localDay offset e.now + 22 ≤ localDay offset now →
        id ∈ (getOverdueComplaints offset now ((noComplaints users token_transactions tasks).after offset events)).map (·.id)) ∧
      (localDay offset now ≤ localDay offset e.now + 19 →
        id ∉ (getOverdueComplaints offset now ((noComplaints users token_transactions tasks).after offset events)).map (·.id)) := by
  obtain ⟨hearliest, hlatest⟩ := daysUntil_fifteen (localDay offset e.now)
  have hlisted := overdue_iff_entered h now
  constructor
  · intro hpast
    exact hlisted.mpr ⟨by omega, hopen⟩
  · intro hsoon hmem
    have := (hlisted.mp hmem).1
    omega

end GalaxiaAin.Compliance
