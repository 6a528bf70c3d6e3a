import LiveForm.Json.Decoding
import LiveForm.Proofs.Json.Basic
import LiveForm.Proofs.SortedMap

/-!
# Parts of what is read

Everything that is read from a finite value is read from a finite part of it. Lists and maps read
back as far as their members do.
-/

namespace LiveForm.Json

variable {α : Type} {read : Json → Option α} {v : Json}

/-- What a reader gives was read from a finite value. -/
def Reads (read : Json → Option α) (a : α) : Prop := ∃ u : Json, u.isFinite ∧ read u = some a

/-- The fields of a record are read from the same value as the record. -/
theorem read_of_record? {format : Format} {size : Nat} {a : α}
    (h : record? format size read v = some a) : read v = some a := by
  unfold record? at h
  split at h
  · exact h
  · cases h

/-- A field is read from a finite value, or has the value of an absent one. -/
theorem reads_of_part? {names : List String} {place : Nat} {absent : Option α} {a : α}
    (hfinite : v.isFinite) (h : part? names place absent read v = some a) :
    absent = some a ∨ Reads read a := by
  unfold part? at h
  split at h
  next entries =>
    rw [isFinite_object, List.all_eq_true] at hfinite
    split at h
    · exact .inl h
    · next e he =>
      have hmem : e ∈ entries := List.mem_of_mem_filter (he ▸ List.mem_singleton_self e)
      exact .inr ⟨e.2, hfinite e hmem, h⟩
    · cases h
  next items =>
    rw [isFinite_list, List.all_eq_true] at hfinite
    split at h
    · exact .inl h
    · next u hu => exact .inr ⟨u, hfinite u (List.mem_of_getElem? hu), h⟩
  next => cases h

/-- A field that may not be absent is read from a finite value. -/
theorem reads_of_required {names : List String} {place : Nat} {a : α} (hfinite : v.isFinite)
    (h : part? names place none read v = some a) : Reads read a :=
  (reads_of_part? hfinite h).resolve_left (by simp)

/-- An optional part of free data, if it is there, is the canonical form of a value that is finite
and not null. -/
theorem exists_canonical_of_part? {names : List String} {place : Nat} {o : Option Json}
    (hfinite : v.isFinite) (ho : part? names place (some none) (optional? free?) v = some o) :
    ∀ a ∈ o, ∃ u : Json, u.isFinite ∧ u ≠ .null ∧ a = u.canonical := by
  intro a ha
  rcases reads_of_part? hfinite ho with hnone | ⟨u, hu, hread⟩
  · cases hnone
    cases ha
  · unfold optional? at hread
    split at hread
    · cases hread
      cases ha
    · next hne =>
      cases hread
      cases ha
      exact ⟨u, hu, hne, rfl⟩

/-- The rest of a tagged value is finite with it. -/
theorem isFinite_of_tagged? {key kind : String} {rest : Json} (hfinite : v.isFinite)
    (h : tagged? key v = some (kind, rest)) : rest.isFinite := by
  unfold tagged? at h
  split at h
  next entries =>
    split at h <;> cases h
    rw [isFinite_object, List.all_eq_true] at hfinite ⊢
    exact fun e he => hfinite e (List.mem_of_mem_filter he)
  next kind' items =>
    cases h
    rw [isFinite_list, List.all_cons, Bool.and_eq_true] at hfinite
    rw [isFinite_list]
    exact hfinite.2
  next => cases h

/-- Every member that some values are read as comes from one of them. -/
theorem exists_of_mem_mapM {β γ : Type} {f : β → Option γ} {xs : List β} {ys : List γ}
    (h : xs.mapM f = some ys) {y : γ} (hy : y ∈ ys) : ∃ x ∈ xs, f x = some y := by
  induction xs generalizing ys with
  | nil =>
    rw [List.mapM_nil] at h
    cases h
    cases hy
  | cons x xs ih =>
    simp only [List.mapM_cons, Option.bind_eq_bind, Option.bind_eq_some_iff] at h
    obtain ⟨z, hz, zs, hzs, heq⟩ := h
    cases heq
    rcases List.mem_cons.mp hy with rfl | hy
    · exact ⟨x, by simp, hz⟩
    · obtain ⟨x', hx', hf⟩ := ih hzs hy
      exact ⟨x', List.mem_cons_of_mem _ hx', hf⟩

/-- The items of a list are read from finite values. -/
theorem reads_of_listOf? {v : Json} {xs : List α} (hfinite : v.isFinite)
    (h : listOf? read v = some xs) : ∀ a ∈ xs, Reads read a := by
  cases v with
  | list items =>
    rw [isFinite_list, List.all_eq_true] at hfinite
    intro a ha
    obtain ⟨u, hu, hread⟩ := exists_of_mem_mapM h ha
    exact ⟨u, hfinite u hu, hread⟩
  | _ => cases h

/-- The values of a map are read from finite values. -/
theorem reads_of_mapOf? {m : SortedMap α} (hfinite : v.isFinite) (h : mapOf? read v = some m) :
    ∀ e ∈ m.toList, Reads read e.2 := by
  unfold mapOf? at h
  split at h
  next entries =>
    rw [isFinite_object, List.all_eq_true] at hfinite
    obtain ⟨es, hes, rfl⟩ := Option.map_eq_some_iff.mp h
    intro e he
    obtain ⟨e', he', hread⟩ := exists_of_mem_mapM hes (SortedMap.mem_of_mem_ofList he)
    obtain ⟨a, ha, rfl⟩ := Option.map_eq_some_iff.mp hread
    exact ⟨e'.2, hfinite e' he', ha⟩
  next => cases h

/-! ### Reading what was written -/

section

variable {f : α → Json} {g : α → α}

/-- If every member of a list is read back as its image, the list is read back as that of the
images. -/
theorem listOf?_map {xs : List α} (h : ∀ a ∈ xs, read (f a) = some (g a)) :
    listOf? read (.list (xs.map f)) = some (xs.map g) := by
  rw [listOf?]
  induction xs with
  | nil => rfl
  | cons a xs ih =>
    rw [List.forall_mem_cons] at h
    rw [List.map_cons, List.mapM_cons, h.1, ih h.2]
    rfl

/-- Texts are read back. -/
@[simp] theorem listOf?_ofTexts (texts : List String) :
    listOf? text? (ofTexts texts) = some texts := by
  have h : listOf? text? (.list (texts.map .text)) = some (texts.map id) :=
    listOf?_map fun _ _ => rfl
  rwa [List.map_id] at h

/-- If every value of a map is read back as its image, the map is read back as that of the
images. -/
theorem mapOf?_ofMap {m : SortedMap α} (h : ∀ e ∈ m.toList, read (f e.2) = some (g e.2)) :
    mapOf? read (ofMap f m) = some (m.mapValues fun _ => g) := by
  have hentries : ∀ l : List (String × α), (∀ e ∈ l, read (f e.2) = some (g e.2)) →
      (l.map fun e => (e.1, f e.2)).mapM (fun e => (read e.2).map fun a => (e.1, a)) =
        some (l.map fun e => (e.1, g e.2)) := by
    intro l hl
    induction l with
    | nil => rfl
    | cons e l ih =>
      rw [List.forall_mem_cons] at hl
      rw [List.map_cons, List.mapM_cons, hl.1, ih hl.2]
      rfl
  rw [ofMap, mapOf?, hentries m.toList h, Option.map_some]
  exact congrArg some (SortedMap.ofList_toList (m.mapValues fun _ => g))

/-- A natural number below a bound is read back. -/
theorem natBelow?_int {n bound : Nat} (h : n < bound) : natBelow? bound (.int n) = some n := by
  simp [natBelow?, h]

/-- A natural number that is read is below its bound. -/
theorem lt_of_natBelow? {v : Json} {n bound : Nat} (h : natBelow? bound v = some n) :
    n < bound := by
  cases v with
  | int k =>
    rw [natBelow?] at h
    split_ifs at h with hk
    cases h
    omega
  | _ => cases h

end

/-! ### Records that are read back

A record is written as an object. What its reader takes from there is computed by `simp`: first the
entries under the names of a part, then what it makes of them.
-/

section

variable {read' : Json → Option α} {write : α → Json}

/-- The entries under some names. -/
def under (names : List String) (entries : List (String × Json)) : List (String × Json) :=
  entries.filter fun e => names.contains e.1

/-- The field of a record that is one of these entries, if there is just one. -/
def one? (absent : Option α) (read : Json → Option α) : List (String × Json) → Option α
  | [] => absent
  | [e] => read e.2
  | _ => none

/-- A field of an object is the one under its names. -/
theorem part?_object (names : List String) (place : Nat) (absent : Option α)
    (entries : List (String × Json)) :
    part? names place absent read (.object entries) = one? absent read (under names entries) := by
  rw [part?]
  unfold one?
  rfl

section

variable {names : List String}

@[simp] theorem under_nil : under names [] = [] := rfl

@[simp] theorem under_cons (e : String × Json) (entries : List (String × Json)) :
    under names (e :: entries) =
      if names.contains e.1 then e :: under names entries else under names entries :=
  List.filter_cons

@[simp] theorem under_append (entries entries' : List (String × Json)) :
    under names (entries ++ entries') = under names entries ++ under names entries' :=
  List.filter_append ..

/-- An optional part is under a name as a whole or not at all. -/
@[simp] theorem under_entryOf (key : String) (o : Option α) :
    under names (entryOf key write o) = if names.contains key then entryOf key write o else [] := by
  cases o <;> simp [entryOf]

end

@[simp] theorem one?_nil (absent : Option α) : one? absent read [] = absent := rfl

@[simp] theorem one?_singleton (absent : Option α) (e : String × Json) :
    one? absent read [e] = read e.2 := rfl

/-- An optional part is read back if it is where it is there. -/
theorem one?_entryOf {key : String} {o : Option α}
    (h : ∀ a ∈ o, optional? read (write a) = some (some a)) :
    one? (some none) (optional? read) (entryOf key write o) = some o := by
  cases o with
  | none => rfl
  | some a => exact h a rfl

/-- An optional text is read back. -/
@[simp] theorem one?_entryOf_text (key : String) (o : Option String) :
    one? (some none) (optional? text?) (entryOf key .text o) = some o :=
  one?_entryOf fun _ _ => rfl

/-- Whatever a reader gives for a finite value is written so that it is read back. -/
def ReadsBack (read read' : Json → Option α) (write : α → Json) : Prop :=
  ∀ ⦃a⦄, Reads read a → read' (write a) = some a

/-- A value that is free data is read back as it is. -/
theorem readsBack_free : ReadsBack free? free? fun v => v := by
  rintro a ⟨u, -, hu⟩
  cases hu
  rw [free?, canonical_canonical]

/-- An integer within bounds is read back. -/
theorem readsBack_int {low high : Int} :
    ReadsBack (intWithin? low high) (intWithin? low high) int := by
  rintro n ⟨v, -, h⟩
  cases v with
  | int k =>
    rw [intWithin?] at h
    split at h
    · cases h
      rw [intWithin?, if_pos ‹_›]
    · cases h
  | _ => cases h

/-- A list is read back if its items are. -/
theorem ReadsBack.listOf (h : ReadsBack read read' write) :
    ReadsBack (listOf? read) (listOf? read') fun xs => .list (xs.map write) := by
  rintro xs ⟨v, hfinite, hv⟩
  have hitems : ∀ a ∈ xs, read' (write a) = some (id a) :=
    fun a ha => h (reads_of_listOf? hfinite hv a ha)
  rw [listOf?_map hitems, List.map_id]

/-- A part is read back where it was read, and where its default is. -/
theorem ReadsBack.part (h : ReadsBack read read' write) {names : List String} {place : Nat}
    {absent : Option α} (habsent : ∀ a ∈ absent, read' (write a) = some a) {v : Json}
    (hfinite : v.isFinite) {a : α} (ha : part? names place absent read v = some a) :
    read' (write a) = some a :=
  (reads_of_part? hfinite ha).elim (habsent a) fun hreads => h hreads

/-- An optional part of free data that was read is not null, and is read back. -/
theorem one?_entryOf_free (key : String) {names : List String} {place : Nat} {v : Json}
    {o : Option Json} (hfinite : v.isFinite)
    (ho : part? names place (some none) (optional? free?) v = some o) :
    one? (some none) (optional? free?) (entryOf key (fun u => u) o) = some o := by
  refine one?_entryOf fun a ha => ?_
  obtain ⟨u, hu, hne, rfl⟩ := exists_canonical_of_part? hfinite ho a ha
  have hnull := canonical_ne_null hu hne
  unfold optional?
  split
  · next hnull' => exact absurd hnull' hnull
  · rw [free?, canonical_canonical]
    rfl

end

end LiveForm.Json
