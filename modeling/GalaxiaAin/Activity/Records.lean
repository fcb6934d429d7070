import GalaxiaAin.Activity.Store

/-! What the records of the store are as JSON, and that a store that is written is read back. -/
namespace GalaxiaAin.Activity
open GalaxiaAin.Library

variable {readNumber : Text → Numeral}

/-! ### What is written -/

namespace Value

/-- A value of the language: its numbers are read back from their texts, its properties are in order. -/
def Held (readNumber : Text → Numeral) (v : Value) : Prop := v.written.Held readNumber

theorem writtenFields_eq (fields : List (Text × Value)) : writtenFields fields = fields.map fun f => (f.1, f.2.written) := by
  induction fields with
  | nil => rfl
  | cons f fields ih =>
    rw [writtenFields, ih]
    rfl

mutual
theorem written_ofJson (v : Json) : (ofJson v).written = v := by
  match v with
  | .null => rfl
  | .bool b => rfl
  | .num n => rfl
  | .str s => rfl
  | .arr items => rw [ofJson, written, writtenItems_ofItems items]
  | .obj fields => rw [ofJson, written, writtenFields_ofFields fields]

theorem writtenItems_ofItems (items : List Json) : writtenItems (ofItems items) = items := by
  match items with
  | [] => rfl
  | v :: rest => rw [ofItems, writtenItems, written_ofJson v, writtenItems_ofItems rest]

theorem writtenFields_ofFields (fields : List (Text × Json)) : writtenFields (ofFields fields) = fields := by
  match fields with
  | [] => rfl
  | (key, v) :: rest => rw [ofFields, writtenFields, written_ofJson v, writtenFields_ofFields rest]
end

theorem held_ofJson {v : Json} (h : v.Held readNumber) : (ofJson v).Held readNumber := by
  rw [Held, written_ofJson]
  exact h

theorem held_str (s : Text) : (str s).Held readNumber := trivial

theorem held_none : ∀ v ∈ (none : Option Value), v.Held readNumber := fun v h => (Option.not_mem_none v h).elim

end Value

theorem held_orElse {v : Option Value} {w : Value} (hv : ∀ u ∈ v, u.Held readNumber) (hw : w.Held readNumber) :
    (orElse v w).Held readNumber := by
  cases v with
  | none => exact hw
  | some v =>
    rw [orElse]
    split
    · exact hv v rfl
    · exact hw

theorem held_coalesce {v w : Option Value} (hv : ∀ u ∈ v, u.Held readNumber) (hw : ∀ u ∈ w, u.Held readNumber) :
    ∀ u ∈ coalesce v w, u.Held readNumber := by
  match v with
  | none => exact hw
  | some .null => exact hw
  | some (.bool b) => exact hv
  | some (.num n) => exact hv
  | some (.special x) => exact hv
  | some (.str s) => exact hv
  | some (.arr items) => exact hv
  | some (.obj fields) => exact hv

theorem held_get {v w : Json} {key : Text} (hv : v.Held readNumber) (h : v.get key = some w) : w.Held readNumber := by
  cases v with
  | obj fields =>
    obtain ⟨f, hf, rfl⟩ := Option.map_eq_some_iff.mp h
    exact Json.heldFields_iff.mp hv.2 f (List.mem_of_find?_eq_some hf)
  | null => cases h
  | bool b => cases h
  | num n => cases h
  | str s => cases h
  | arr items => cases h

/-! ### Records -/

/-- The keys of a record: different ones, and no index. -/
def Keys (fields : List (Text × Option Value)) : Prop :=
  (fields.map (·.1)).Nodup ∧ ∀ f ∈ fields, arrayIndex f.1 = none

theorem event_keys (e : Event) : Keys e.fields := by
  constructor
  · have h : e.fields.map (·.1) = [units "id", units "kind", units "title", units "detail", units "source", units "simulated",
      units "mode", units "at", units "refs", units "clientId"] := rfl
    rw [h]
    decide +kernel
  · simp only [Event.fields, List.forall_mem_cons]
    refine ⟨?_, ?_, ?_, ?_, ?_, ?_, ?_, ?_, ?_, ?_, List.forall_mem_nil _⟩ <;> decide

theorem job_keys (j : Job) : Keys j.fields := by
  constructor
  · have h : j.fields.map (·.1) = [units "id", units "name", units "status", units "source", units "simulated", units "mode",
      units "description", units "industryId", units "templateId", units "estimatedGpuHours", units "costLabel",
      units "progressPct", units "createdAt", units "updatedAt", units "matchedNodes"] := rfl
    rw [h]
    decide +kernel
  · simp only [Job.fields, List.forall_mem_cons]
    refine ⟨?_, ?_, ?_, ?_, ?_, ?_, ?_, ?_, ?_, ?_, ?_, ?_, ?_, ?_, ?_, List.forall_mem_nil _⟩ <;> decide

theorem mem_present {fields : List (Text × Option Value)} {f : Text × Value} : f ∈ present fields ↔ (f.1, some f.2) ∈ fields := by
  obtain ⟨key, v⟩ := f
  simp only [present, List.mem_filterMap, Option.map_eq_some_iff, Prod.mk.injEq]
  constructor
  · rintro ⟨g, hg, w, hw, hkey, rfl⟩
    rw [← hkey, ← hw]
    exact hg
  · intro h
    exact ⟨_, h, v, rfl, rfl, rfl⟩

theorem mem_keys {α : Type} {fields : List (Text × α)} {key : Text} {v : α} (h : (key, v) ∈ fields) : key ∈ fields.map (·.1) :=
  List.mem_map.mpr ⟨_, h, rfl⟩

/-- Properties at different keys that are no indices are in order. -/
theorem ordered_of_keys {α : Type} {fields : List (Text × α)} (hnodup : (fields.map (·.1)).Nodup)
    (hindex : ∀ f ∈ fields, arrayIndex f.1 = none) : Json.Ordered fields := by
  apply (List.pairwise_map.mp hnodup).imp_of_mem
  intro f g _ hg hne
  refine ⟨hne, fun i hi => ?_⟩
  rw [hindex g hg] at hi
  cases hi

theorem nodup_present {fields : List (Text × Option Value)} (h : (fields.map (·.1)).Nodup) : ((present fields).map (·.1)).Nodup := by
  have hsublist : ((present fields).map (·.1)).Sublist (fields.map (·.1)) := by
    clear h
    induction fields with
    | nil => exact List.Sublist.refl _
    | cons f fields ih =>
      obtain ⟨key, o⟩ := f
      cases o with
      | none => exact ih.cons key
      | some v => exact ih.cons_cons key
  exact h.sublist hsublist

theorem find_present {fields : List (Text × Option Value)} (hnodup : (fields.map (·.1)).Nodup) {key : Text} {o : Option Value}
    (h : (key, o) ∈ fields) : (present fields).find? (fun f => f.1 == key) = o.map fun v => (key, v) := by
  induction fields with
  | nil => exact (List.not_mem_nil h).elim
  | cons f fields ih =>
    obtain ⟨hnew, hrest⟩ := List.nodup_cons.mp hnodup
    rcases List.mem_cons.mp h with rfl | hmem
    · cases o with
      | some v => exact List.find?_cons_of_pos (beq_self_eq_true key)
      | none =>
        have hnone : (present fields).find? (fun f => f.1 == key) = none := by
          rw [List.find?_eq_none]
          intro g hg hkey
          exact hnew (eq_of_beq hkey ▸ mem_keys (mem_present.mp hg))
        exact hnone
    · obtain ⟨fkey, fo⟩ := f
      have hkey : fkey ≠ key := by
        rintro rfl
        exact hnew (mem_keys hmem)
      cases fo with
      | none => exact ih hrest hmem
      | some v => exact (List.find?_cons_of_neg (by simpa using hkey)).trans (ih hrest hmem)

/-- A property of a record, as it is written. -/
theorem get_record {fields : List (Text × Option Value)} (h : Keys fields) {key : Text} {o : Option Value} (hmem : (key, o) ∈ fields) :
    (Value.obj (present fields)).written.get key = o.map Value.written := by
  rw [Value.written, Value.writtenFields_eq, Json.get, List.find?_map, Option.map_map]
  have hfind := find_present h.1 hmem
  change ((present fields).find? fun f => f.1 == key).map _ = _
  rw [hfind, Option.map_map]
  rfl

theorem held_record {fields : List (Text × Option Value)} (h : Keys fields)
    (hheld : ∀ f ∈ fields, ∀ v ∈ f.2, v.Held readNumber) : (Value.obj (present fields)).Held readNumber := by
  rw [Value.Held, Value.written, Value.writtenFields_eq]
  constructor
  · apply ordered_of_keys
    · rw [List.map_map]
      exact nodup_present h.1
    · intro f hf
      obtain ⟨g, hg, rfl⟩ := List.mem_map.mp hf
      exact h.2 _ (mem_present.mp hg)
  · apply Json.heldFields_iff.mpr
    intro f hf
    obtain ⟨g, hg, rfl⟩ := List.mem_map.mp hf
    exact hheld _ (mem_present.mp hg) _ rfl

theorem idOf_event (e : Event) : idOf e.record.written = some e.id := by
  have h := get_record (event_keys e) (List.mem_cons_self : (units "id", some (Value.str e.id)) ∈ e.fields)
  rw [idOf, Event.record, h]
  rfl

theorem idOf_job (j : Job) : idOf j.record.written = some j.id := by
  have h := get_record (job_keys j) (List.mem_cons_self : (units "id", some (Value.str j.id)) ∈ j.fields)
  rw [idOf, Job.record, h]
  rfl

/-! ### The file -/

/-- JSON.parse reads 0 and 1. -/
def ReadsDigits (readNumber : Text → Numeral) : Prop := ∀ n, n ≤ 1 → readNumber (decimal n) = .ofNat n

theorem held_digit (hread : ReadsDigits readNumber) {n : Nat} (h : n ≤ 1) : (Json.num (.ofNat n)).Held readNumber := by
  refine ⟨?_, hread n h⟩
  interval_cases n <;> decide

/-- A store whose records are values of the language. -/
structure Store.Held (readNumber : Text → Numeral) (store : Store) : Prop where
  activity : ∀ e ∈ store.activity, e.Held readNumber
  jobs : ∀ j ∈ store.jobs, j.Held readNumber

theorem store_held (hread : ReadsDigits readNumber) {store : Store} (h : store.Held readNumber) : store.json.Held readNumber := by
  refine ⟨?_, held_digit hread le_rfl, trivial, trivial, Json.heldItems_iff.mpr h.activity, Json.heldItems_iff.mpr h.jobs, trivial⟩
  apply ordered_of_keys
  · have h : [units "version", units "mode", units "disclaimer", units "activity", units "jobs"].Nodup := by decide
    exact h
  · simp only [List.forall_mem_cons]
    refine ⟨?_, ?_, ?_, ?_, ?_, List.forall_mem_nil _⟩ <;> decide

/-- A store that is written is read back. -/
theorem readStore_bytes (hread : ReadsDigits readNumber) {store : Store} (h : store.Held readNumber) :
    readStore readNumber (some store.bytes) = store := by
  have hparse := Json.parse_utf8_indented (store_held hread h)
  rw [readStore, Store.bytes, hparse]
  rfl

theorem readStore_writeStore (hread : ReadsDigits readNumber) {store : Store} (h : store.Held readNumber) (d : Disk UInt8) :
    readStore readNumber ((writeStore store).foldl Disk.run d).file = store := by
  rw [writeStore, replaceFile_run]
  exact readStore_bytes hread h

end GalaxiaAin.Activity
