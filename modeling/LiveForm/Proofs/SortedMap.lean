import LiveForm.SortedMap
import Mathlib.Data.List.Nodup

/-!
# Look-ups in maps

The view of a map is its look-up. Every operation on maps is described by what the result answers
for a key, and the keys by which look-ups have an answer.
-/

namespace LiveForm.SortedMap

variable {α β : Type}

/-- Changing the values of a list of entries changes what is found, not where. -/
theorem find?_map (f : String → α → β) (k : String) (l : List (String × α)) :
    find? k (l.map fun e => (e.1, f e.1 e.2)) = (find? k l).map (f k) := by
  induction l with
  | nil => rfl
  | cons e r ih =>
    simp only [List.map_cons, find?]
    split
    case isTrue h => subst h; rfl
    case isFalse => exact ih

/-- A map with changed values answers with the changed value. -/
@[simp] theorem get?_mapValues (f : String → α → β) (m : SortedMap α) (k : String) :
    (m.mapValues f).get? k = (m.get? k).map (f k) :=
  find?_map f k m.toList

/-- What is found in one list after another is found in the first that has it. -/
theorem find?_append (k : String) (l r : List (String × α)) :
    find? k (l ++ r) = (find? k l).or (find? k r) := by
  induction l with
  | nil => rfl
  | cons e l ih =>
    simp only [List.cons_append, find?]
    split
    · rfl
    · exact ih

/-- Entries laid over a map are found before those of the map, the last one first. -/
theorem get?_insertAll (m : SortedMap α) (entries : List (String × α)) (k : String) :
    (m.insertAll entries).get? k = (find? k entries.reverse).or (m.get? k) := by
  induction entries generalizing m with
  | nil => rfl
  | cons e r ih =>
    have hstep : m.insertAll (e :: r) = (m.insert e.1 e.2).insertAll r := rfl
    rw [hstep, ih, List.reverse_cons, find?_append, Option.or_assoc, get?_insert]
    congr 1
    simp only [find?]
    split <;> rfl

/-- In a list where no key occurs twice, the order of the entries does not matter. -/
theorem find?_reverse (k : String) {l : List (String × α)} (h : (l.map (·.1)).Nodup) :
    find? k l.reverse = find? k l := by
  induction l with
  | nil => rfl
  | cons e r ih =>
    rw [List.map_cons, List.nodup_cons] at h
    rw [List.reverse_cons, find?_append, ih h.2]
    simp only [find?]
    split
    case isTrue hk =>
      subst hk
      have hr : find? e.1 r = none := by
        rw [← Option.not_isSome_iff_eq_none, find?_isSome_iff]
        exact h.1
      rw [hr]
      rfl
    case isFalse => exact Option.or_none

/-- The keys of a map are different. -/
theorem nodup_keys (m : SortedMap α) : m.keys.Nodup := by
  refine List.pairwise_map.mpr (m.sorted.imp fun hlt heq => ?_)
  rw [heq] at hlt
  exact String.lt_irrefl _ hlt

/-- Putting a value where it is changes nothing. -/
theorem insert_of_get?_eq_some {m : SortedMap α} {k : String} {v : α} (h : m.get? k = some v) :
    m.insert k v = m := by
  ext k'
  rw [get?_insert]
  split
  case isTrue heq => rw [heq, h]
  case isFalse => rfl

/-- A map laid over another is asked first. -/
@[simp] theorem get?_insertAll_toList (m n : SortedMap α) (k : String) :
    (m.insertAll n.toList).get? k = (n.get? k).or (m.get? k) := by
  rw [get?_insertAll, find?_reverse k n.nodup_keys]
  rfl

/-- The map of entries with different keys answers as the list does. -/
theorem get?_ofList {entries : List (String × α)} (h : (entries.map (·.1)).Nodup) (k : String) :
    (ofList entries).get? k = find? k entries := by
  rw [ofList, get?_insertAll, find?_reverse k h]
  exact Option.or_none

/-- The entries of a map make the map. -/
@[simp] theorem ofList_toList (m : SortedMap α) : ofList m.toList = m := by
  ext k
  rw [get?_ofList m.nodup_keys]
  rfl

/-- Entries laid over a map come from either. -/
theorem mem_of_mem_insertAll {m : SortedMap α} {entries : List (String × α)} {e : String × α}
    (h : e ∈ (m.insertAll entries).toList) : e ∈ m.toList ∨ e ∈ entries := by
  induction entries generalizing m with
  | nil => exact .inl h
  | cons e' r ih =>
    rcases ih (m := m.insert e'.1 e'.2) h with h | h
    · rcases mem_place h with rfl | h
      · exact .inr List.mem_cons_self
      · exact .inl h
    · exact .inr (List.mem_cons_of_mem _ h)

/-- The entries of a map of entries are among them. -/
theorem mem_of_mem_ofList {entries : List (String × α)} {e : String × α}
    (h : e ∈ (ofList entries).toList) : e ∈ entries :=
  (mem_of_mem_insertAll h).resolve_left (by simp [empty])

/-- The keys of a map are those with an answer. -/
theorem mem_keys_iff {m : SortedMap α} {k : String} : k ∈ m.keys ↔ (m.get? k).isSome :=
  find?_isSome_iff.symm

/-- Maps that have answers for the same keys have the same keys in the same order. -/
theorem keys_eq {m : SortedMap α} {n : SortedMap β}
    (h : ∀ k, (m.get? k).isSome = (n.get? k).isSome) : m.keys = n.keys := by
  have hperm : m.keys.Perm n.keys := by
    rw [List.perm_ext_iff_of_nodup m.nodup_keys n.nodup_keys]
    intro k
    rw [mem_keys_iff, mem_keys_iff, h k]
  have hm : m.keys.Pairwise (· < ·) := List.pairwise_map.mpr m.sorted
  have hn : n.keys.Pairwise (· < ·) := List.pairwise_map.mpr n.sorted
  refine hperm.eq_of_pairwise (fun k k' _ _ hlt hgt => ?_) hm hn
  exact absurd (String.lt_trans hlt hgt) (String.lt_irrefl k)

/-- The keys of a map of entries are those of the entries. -/
theorem mem_keys_ofList {entries : List (String × α)} {k : String} :
    k ∈ (ofList entries).keys ↔ k ∈ entries.map (·.1) := by
  rw [mem_keys_iff, ofList, get?_insertAll]
  have hempty : (empty : SortedMap α).get? k = none := rfl
  rw [hempty, Option.or_none, find?_isSome_iff, List.map_reverse, List.mem_reverse]

/-- What a list of entries with different keys gives for the key of an entry. -/
theorem find?_eq_some_of_mem {entries : List (String × α)} (h : (entries.map (·.1)).Nodup)
    {e : String × α} (he : e ∈ entries) : find? e.1 entries = some e.2 := by
  induction entries with
  | nil => cases he
  | cons e' r ih =>
    rw [List.map_cons, List.nodup_cons] at h
    rcases List.mem_cons.mp he with rfl | he
    · simp [find?]
    · have hne : e.1 ≠ e'.1 := fun heq => h.1 (heq ▸ List.mem_map_of_mem he)
      simp [find?, hne, ih h.2 he]

/-- What a list of entries gives for a key is one of its values. -/
theorem mem_of_find?_eq_some {k : String} {v : α} {l : List (String × α)}
    (h : find? k l = some v) : (k, v) ∈ l := by
  induction l with
  | nil => cases h
  | cons e l ih =>
    simp only [find?] at h
    split at h
    case isTrue heq =>
      cases h
      rw [heq]
      exact List.mem_cons_self
    case isFalse => exact List.mem_cons_of_mem e (ih h)

/-- All values of a map have a property if all that look-ups find have it. -/
theorem forall_toList_iff {P : α → Prop} {m : SortedMap α} :
    (∀ e ∈ m.toList, P e.2) ↔ ∀ k v, m.get? k = some v → P v := by
  constructor
  · intro h k v hv
    exact h _ (mem_of_find?_eq_some hv)
  · intro h e he
    exact h e.1 e.2 (find?_eq_some_of_mem m.nodup_keys he)

/-- A map is empty if it has no keys. -/
theorem isEmpty_iff {m : SortedMap α} : m.isEmpty ↔ ∀ k, k ∉ m.keys := by
  rw [isEmpty, List.isEmpty_iff, keys, ← List.map_eq_nil_iff, List.eq_nil_iff_forall_not_mem]

/-- A map from which some keys have been taken answers for the others as before. -/
theorem get?_filter (p : String → Bool) (m : SortedMap α) (k : String) :
    (m.filter fun id _ => p id).get? k = if p k then m.get? k else none := by
  have hfind (l : List (String × α)) :
      find? k (l.filter fun e => p e.1) = if p k then find? k l else none := by
    induction l with
    | nil => simp [find?]
    | cons e r ih =>
      by_cases hk : k = e.1
      · subst hk
        by_cases hp : p e.1 <;> simp [hp, find?, ih]
      · by_cases hp : p e.1 <;> simp [hp, find?, ih, hk]
  exact hfind m.toList

/-- A map can be given any answer for one key. -/
theorem exists_update (m : SortedMap α) (k : String) (o : Option α) :
    ∃ n : SortedMap α, n.get? k = o ∧ ∀ k' ≠ k, n.get? k' = m.get? k' := by
  cases o with
  | none => exact ⟨m.erase k, by simp, fun k' hk => by simp [hk]⟩
  | some v => exact ⟨m.insert k v, by simp, fun k' hk => by simp [hk]⟩

/-- The keys of a map come in increasing order. -/
theorem sorted_keys (m : SortedMap α) : m.keys.Pairwise (· < ·) := List.pairwise_map.mpr m.sorted

/-- Of keys in increasing order, the first that passes a test is the least. -/
theorem le_of_find?_eq_some {keys : List String} (hsorted : keys.Pairwise (· < ·))
    {p : String → Bool} {k k' : String} (hk : keys.find? p = some k) (hk' : k' ∈ keys)
    (hp : p k') : k ≤ k' := by
  obtain ⟨-, before, after, rfl, hbefore⟩ := List.find?_eq_some_iff_append.mp hk
  rcases List.mem_append.mp hk' with hk' | hk'
  · -- the keys before the first that passes do not
    have hfails := hbefore k' hk'
    rw [hp] at hfails
    cases hfails
  · rcases List.mem_cons.mp hk' with rfl | hk'
    · exact String.le_refl k'
    · have hlt := (List.pairwise_cons.mp (List.pairwise_append.mp hsorted).2.1).1 k' hk'
      exact Std.le_of_lt hlt

/-! ### Maps that a test finds alike -/

section

variable {same : α → α → Bool} {m n : SortedMap α}

/-- Maps are found alike if their keys are equal and their values found alike, place by place. -/
theorem all2_iff_forall₂ : all2 same m n ↔
    List.Forall₂ (fun e f => e.1 = f.1 ∧ same e.2 f.2) m.toList n.toList := by
  simp only [all2, Bool.and_eq_true, beq_iff_eq, List.all_eq_true, List.forall₂_iff_zip]
  constructor
  · rintro ⟨hlength, hzip⟩
    exact ⟨hlength, fun {e f} h => hzip (e, f) h⟩
  · rintro ⟨hlength, hzip⟩
    exact ⟨hlength, fun _ h => hzip h⟩

/-- Maps that are found alike answer every look-up alike. -/
theorem rel_of_all2 (h : all2 same m n) (k : String) :
    Option.Rel (fun v w => same v w) (m.get? k) (n.get? k) := by
  rw [all2_iff_forall₂] at h
  unfold get?
  generalize m.toList = l, n.toList = r at h
  induction h with
  | nil => exact .none
  | cons hef _ ih =>
    simp only [find?, ← hef.1]
    split
    · exact .some hef.2
    · exact ih

/-- Maps are found alike if they answer every look-up alike. -/
theorem all2_iff :
    all2 same m n ↔ ∀ k, Option.Rel (fun v w => same v w) (m.get? k) (n.get? k) := by
  refine ⟨rel_of_all2, fun h => ?_⟩
  have hkeys : m.keys = n.keys := by
    refine keys_eq fun k => ?_
    have hk := h k
    cases hm : m.get? k <;> cases hn : n.get? k <;> simp_all
  have hplaces : List.Forall₂ (fun e f => e.1 = f.1) m.toList n.toList := by
    have hequal : List.Forall₂ (· = ·) (m.toList.map (·.1)) (n.toList.map (·.1)) := by
      rw [List.forall₂_eq_eq_eq]
      exact hkeys
    exact List.forall₂_map_right_iff.mp (List.forall₂_map_left_iff.mp hequal)
  rw [List.forall₂_iff_zip] at hplaces
  rw [all2_iff_forall₂, List.forall₂_iff_zip]
  refine ⟨hplaces.1, fun {e f} hmem => ?_⟩
  have hkey : e.1 = f.1 := hplaces.2 hmem
  have he : m.get? e.1 = some e.2 := find?_eq_some_of_mem m.nodup_keys (List.of_mem_zip hmem).1
  have hf : n.get? f.1 = some f.2 := find?_eq_some_of_mem n.nodup_keys (List.of_mem_zip hmem).2
  have halike := h e.1
  rw [he, hkey, hf] at halike
  cases halike with
  | some halike => exact ⟨hkey, halike⟩

/-- Maps that are found alike are equal if values of theirs are that are found alike. -/
theorem eq_of_all2 (h : all2 same m n)
    (heq : ∀ e ∈ m.toList, ∀ f ∈ n.toList, same e.2 f.2 → e.2 = f.2) : m = n := by
  refine SortedMap.ext fun k => ?_
  have hk := rel_of_all2 h k
  cases hm : m.get? k <;> cases hn : n.get? k <;> simp only [hm, hn] at hk
  case none.none => rfl
  case none.some | some.none => cases hk
  case some.some v w =>
    cases hk with
    | some hvw =>
      have hequal := heq _ (mem_of_find?_eq_some hm) _ (mem_of_find?_eq_some hn) hvw
      exact congrArg some hequal

/-- A map is found like itself if its values are. -/
theorem all2_self (h : ∀ e ∈ m.toList, same e.2 e.2) : all2 same m m := by
  rw [all2_iff_forall₂, List.forall₂_same]
  exact fun e he => ⟨rfl, h e he⟩

end

end LiveForm.SortedMap
