import GalaxiaAin.Network.Verification

/-! The maps by output that the verifications build: what is grouped under an output, and the
first of the largest groups. -/
namespace GalaxiaAin.Network
open GalaxiaAin.Library

namespace OutputMap
variable {α : Type}

/-- `map.get(output)`. -/
def lookup (m : OutputMap α) (output : Text) : Option α := (m.find? fun entry => entry.1 = output).map Prod.snd

@[simp] theorem lookup_nil (output : Text) : lookup ([] : OutputMap α) output = none := rfl

theorem lookup_cons (key : Text) (x : α) (m : OutputMap α) (output : Text) :
    lookup ((key, x) :: m) output = if key = output then some x else m.lookup output := by
  simp only [lookup, List.find?_cons]
  split
  case h_1 h => rw [if_pos (of_decide_eq_true h)]; rfl
  case h_2 h => rw [if_neg (of_decide_eq_false h)]

/-- A set changes one key. -/
theorem lookup_alter (m : OutputMap α) (key : Text) (f : Option α → α) (output : Text) :
    (m.alter key f).lookup output = if key = output then some (f (m.lookup key)) else m.lookup output := by
  induction m with
  | nil => rw [alter, lookup_cons, lookup_nil, lookup_nil]
  | cons entry m ih =>
    obtain ⟨k, x⟩ := entry
    rw [alter]
    by_cases hk : k = key
    · subst hk
      rw [if_pos rfl, lookup_cons, lookup_cons, lookup_cons, if_pos rfl]
      split <;> rfl
    · rw [if_neg hk, lookup_cons, lookup_cons, lookup_cons, ih, if_neg hk]
      by_cases ho : k = output
      · rw [if_pos ho, if_pos ho, if_neg fun he => hk (ho.trans he.symm)]
      · rw [if_neg ho, if_neg ho]

/-- The keys are those there were, and the new one. -/
theorem mem_keys_alter {m : OutputMap α} {key : Text} {f : Option α → α} {k : Text} (h : k ∈ (m.alter key f).map Prod.fst) :
    k = key ∨ k ∈ m.map Prod.fst := by
  induction m with
  | nil => exact .inl (List.mem_singleton.mp h)
  | cons entry m ih =>
    obtain ⟨k', x⟩ := entry
    rw [alter] at h
    split at h
    · exact .inr h
    · rcases List.mem_cons.mp h with h | h
      · exact .inr (h ▸ List.mem_cons_self)
      · exact (ih h).imp_right (List.mem_cons_of_mem _)

theorem nodup_alter {m : OutputMap α} (key : Text) (f : Option α → α) (h : (m.map Prod.fst).Nodup) :
    ((m.alter key f).map Prod.fst).Nodup := by
  induction m with
  | nil => exact List.nodup_singleton _
  | cons entry m ih =>
    obtain ⟨k, x⟩ := entry
    rw [List.map_cons, List.nodup_cons] at h
    rw [alter]
    split
    · exact List.nodup_cons.mpr h
    case isFalse hk =>
      refine List.nodup_cons.mpr ⟨fun hmem => ?_, ih h.2⟩
      exact (mem_keys_alter hmem).elim hk h.1

/-- With keys that occur once, an entry is what is found under its key. -/
theorem lookup_of_mem {m : OutputMap α} (h : (m.map Prod.fst).Nodup) {output : Text} {x : α} (hmem : (output, x) ∈ m) :
    m.lookup output = some x := by
  induction m with
  | nil => cases hmem
  | cons entry m ih =>
    obtain ⟨k, y⟩ := entry
    rw [List.map_cons, List.nodup_cons] at h
    rw [lookup_cons]
    rcases List.mem_cons.mp hmem with he | he
    · obtain ⟨rfl, rfl⟩ := Prod.mk.inj he
      exact if_pos rfl
    · have hk : k ≠ output := fun hk => h.1 (List.mem_map.mpr ⟨(output, x), he, hk.symm⟩)
      rw [if_neg hk]
      exact ih h.2 he

theorem mem_of_lookup {m : OutputMap α} {output : Text} {x : α} (h : m.lookup output = some x) : (output, x) ∈ m := by
  obtain ⟨entry, hfind, rfl⟩ := Option.map_eq_some_iff.mp h
  have hkey : entry.1 = output := by simpa using List.find?_some hfind
  rw [← hkey]
  exact List.mem_of_find?_eq_some hfind

/-! ### Maps of a list -/

variable {ι : Type} (key : ι → Text) (set : ι → Option α → α)

/-- The map after each element has set its key. -/
def gather (xs : List ι) : OutputMap α := xs.foldl (fun m x => m.alter (key x) (set x)) []

variable {key set}

theorem nodup_gather (xs : List ι) : ((gather key set xs).map Prod.fst).Nodup := by
  suffices h : ∀ m : OutputMap α, (m.map Prod.fst).Nodup →
      ((xs.foldl (fun m x => m.alter (key x) (set x)) m).map Prod.fst).Nodup from h [] List.nodup_nil
  induction xs with
  | nil => exact fun m hm => hm
  | cons x xs ih => exact fun m hm => ih _ (nodup_alter _ _ hm)

/-- Under a key is what the elements with the key have set, one after the other. -/
theorem lookup_gather (xs : List ι) (output : Text) : (gather key set xs).lookup output =
    (xs.filter fun x => key x = output).foldl (fun found x => some (set x found)) none := by
  suffices h : ∀ m : OutputMap α, (xs.foldl (fun m x => m.alter (key x) (set x)) m).lookup output =
      (xs.filter fun x => key x = output).foldl (fun found x => some (set x found)) (m.lookup output) from h []
  induction xs with
  | nil => exact fun m => rfl
  | cons x xs ih =>
    intro m
    rw [List.foldl_cons, ih, lookup_alter, List.filter_cons]
    by_cases hx : key x = output
    · rw [if_pos hx, if_pos (decide_eq_true hx), List.foldl_cons, hx]
    · rw [if_neg hx, if_neg (by simpa using hx)]

/-! ### The largest entry -/

/-- The scan keeps an entry of the map, and none of the map is larger. -/
theorem largest_spec (size : α → Nat) (m : OutputMap α) :
    (∀ entry, largest size m = some entry → entry ∈ m ∧ 0 < size entry.2) ∧
      ∀ entry ∈ m, size entry.2 ≤ (largest size m).elim 0 fun best => size best.2 := by
  induction m using List.reverseRecOn with
  | nil => exact ⟨fun _ h => (nomatch h), fun _ h => (nomatch h)⟩
  | append_singleton m entry ih =>
    have hstep : largest size (m ++ [entry]) =
        if (largest size m).elim 0 (fun b => size b.2) < size entry.2 then some entry else largest size m := by
      rw [largest, List.foldl_append]; rfl
    rw [hstep]
    split
    case isTrue hlarger =>
      refine ⟨fun e he => ?_, fun e he => ?_⟩
      · obtain rfl := Option.some.inj he
        exact ⟨List.mem_append_right _ List.mem_cons_self, by omega⟩
      · rcases List.mem_append.mp he with he | he
        · exact (ih.2 e he).trans hlarger.le
        · rw [List.mem_singleton.mp he]; exact le_rfl
    case isFalse hsmaller =>
      refine ⟨fun e he => ⟨List.mem_append_left _ (ih.1 e he).1, (ih.1 e he).2⟩, fun e he => ?_⟩
      rcases List.mem_append.mp he with he | he
      · exact ih.2 e he
      · rw [List.mem_singleton.mp he]; exact not_lt.mp hsmaller

end OutputMap
end GalaxiaAin.Network
