/-!
# Maps with text keys

A map is a list of entries in increasing order of their keys, so equal maps are equal lists, and
the order in which a map is walked is the order of its keys. Two maps that answer every look-up
alike are equal.
-/

namespace LiveForm

/-- Entries in strictly increasing order of their keys. -/
structure SortedMap (α : Type) where
  /-- The entries. -/
  toList : List (String × α)
  /-- Keys increase, so no key occurs twice. -/
  sorted : toList.Pairwise (fun a b => a.1 < b.1)

namespace SortedMap

variable {α β : Type}

/-- The value that a list of entries gives for a key, the first if there are several. -/
def find? (k : String) : List (String × α) → Option α
  | [] => none
  | (k', v) :: r => if k = k' then some v else find? k r

/-- Puts an entry into its place among entries in key order, in place of one with its key. -/
def place (k : String) (v : α) : List (String × α) → List (String × α)
  | [] => [(k, v)]
  | (k', v') :: r =>
    if k < k' then (k, v) :: (k', v') :: r
    else if k = k' then (k, v) :: r
    else (k', v') :: place k v r

theorem mem_place {k : String} {v : α} {l : List (String × α)} {e : String × α}
    (h : e ∈ place k v l) : e = (k, v) ∨ e ∈ l := by
  induction l with
  | nil => simpa [place] using h
  | cons e' r ih =>
    obtain ⟨k', v'⟩ := e'
    simp only [place] at h
    split at h
    · simpa using h
    · split at h
      · simp only [List.mem_cons] at h ⊢
        exact h.imp_right Or.inr
      · simp only [List.mem_cons] at h ⊢
        rcases h with h | h
        · exact Or.inr (Or.inl h)
        · exact (ih h).imp_right Or.inr

theorem pairwise_place (k : String) (v : α) {l : List (String × α)}
    (h : l.Pairwise (fun a b => a.1 < b.1)) : (place k v l).Pairwise (fun a b => a.1 < b.1) := by
  induction l with
  | nil => simp [place]
  | cons e r ih =>
    obtain ⟨k', v'⟩ := e
    rw [List.pairwise_cons] at h
    simp only [place]
    split
    case isTrue hlt =>
      refine List.pairwise_cons.2 ⟨fun e he => ?_, List.pairwise_cons.2 h⟩
      rcases List.mem_cons.1 he with rfl | he
      · exact hlt
      · exact String.lt_trans hlt (h.1 e he)
    case isFalse hlt =>
      split
      case isTrue heq => subst heq; exact List.pairwise_cons.2 ⟨h.1, h.2⟩
      case isFalse hne =>
        refine List.pairwise_cons.2 ⟨fun e he => ?_, ih h.2⟩
        rcases mem_place he with rfl | he
        · rcases String.le_total k k' with hle | hle
          · exact absurd (Std.lt_of_le_of_ne hle hne) hlt
          · exact Std.lt_of_le_of_ne hle (Ne.symm hne)
        · exact h.1 e he

/-- The map without entries. -/
def empty : SortedMap α := ⟨[], .nil⟩

instance : EmptyCollection (SortedMap α) := ⟨empty⟩

instance : Inhabited (SortedMap α) := ⟨empty⟩

/-- The value of a key. -/
def get? (m : SortedMap α) (k : String) : Option α := find? k m.toList

/-- Whether a key has a value. -/
def contains (m : SortedMap α) (k : String) : Bool := (m.get? k).isSome

/-- Gives a key a value, whether it had one or not. -/
def insert (m : SortedMap α) (k : String) (v : α) : SortedMap α :=
  ⟨place k v m.toList, pairwise_place k v m.sorted⟩

/-- Takes a key out. -/
def erase (m : SortedMap α) (k : String) : SortedMap α :=
  ⟨m.toList.filter (fun e => e.1 != k), m.sorted.filter _⟩

/-- Keeps the entries that pass a test. -/
def filter (p : String → α → Bool) (m : SortedMap α) : SortedMap α :=
  ⟨m.toList.filter (fun e => p e.1 e.2), m.sorted.filter _⟩

/-- Changes every value by a function of its key and itself. -/
def mapValues (f : String → α → β) (m : SortedMap α) : SortedMap β :=
  ⟨m.toList.map (fun e => (e.1, f e.1 e.2)), List.pairwise_map.2 m.sorted⟩

/-- The keys in increasing order. -/
def keys (m : SortedMap α) : List String := m.toList.map (·.1)

/-- The values in the order of their keys. -/
def values (m : SortedMap α) : List α := m.toList.map (·.2)

/-- How many entries there are. -/
def size (m : SortedMap α) : Nat := m.toList.length

/-- Whether there are no entries. -/
def isEmpty (m : SortedMap α) : Bool := m.toList.isEmpty

/-- Lays entries over a map one after another, so that the last of a key counts. -/
def insertAll (m : SortedMap α) (entries : List (String × α)) : SortedMap α :=
  entries.foldl (fun m e => m.insert e.1 e.2) m

/-- The map of a list of entries, in which the last of a key counts. -/
def ofList (entries : List (String × α)) : SortedMap α := empty.insertAll entries

/-- Whether two maps have the same keys with values that a test calls alike. -/
def all2 (same : α → α → Bool) (m n : SortedMap α) : Bool :=
  m.toList.length == n.toList.length &&
    (m.toList.zip n.toList).all (fun p => p.1.1 == p.2.1 && same p.1.2 p.2.2)

theorem find?_place (k k' : String) (v : α) (l : List (String × α)) :
    find? k' (place k v l) = if k' = k then some v else find? k' l := by
  induction l with
  | nil => simp [place, find?]
  | cons e r ih =>
    obtain ⟨k₁, v₁⟩ := e
    simp only [place]
    split
    · simp [find?]
    · split
      case isTrue heq => subst heq; simp only [find?]; split <;> simp_all
      case isFalse hlt hne =>
        simp only [find?, ih]
        split
        case isTrue heq => subst heq; simp [Ne.symm hne]
        case isFalse => rfl

@[simp]
theorem get?_empty (k : String) : (∅ : SortedMap α).get? k = none := rfl

@[simp]
theorem get?_insert (m : SortedMap α) (k k' : String) (v : α) :
    (m.insert k v).get? k' = if k' = k then some v else m.get? k' :=
  find?_place k k' v m.toList

theorem find?_filter_ne (k k' : String) (l : List (String × α)) :
    find? k' (l.filter (fun e => e.1 != k)) = if k' = k then none else find? k' l := by
  induction l with
  | nil => simp [find?]
  | cons e r ih =>
    obtain ⟨k₁, v₁⟩ := e
    by_cases h : k₁ = k
    · subst h
      simp only [List.filter, bne_self_eq_false, ih, find?]
      split <;> simp_all
    · have : (k₁ != k) = true := by simpa using h
      simp only [List.filter, this, find?, ih]
      split <;> simp_all

@[simp]
theorem get?_erase (m : SortedMap α) (k k' : String) :
    (m.erase k).get? k' = if k' = k then none else m.get? k' :=
  find?_filter_ne k k' m.toList

theorem find?_eq_none_of_forall_lt {k : String} {l : List (String × α)}
    (h : ∀ e ∈ l, k < e.1) : find? k l = none := by
  induction l with
  | nil => rfl
  | cons e r ih =>
    have hk : k ≠ e.1 := fun heq => String.lt_irrefl _ (heq ▸ h e (by simp))
    simp only [find?, if_neg hk]
    exact ih fun e he => h e (by simp [he])

theorem find?_isSome_iff {k : String} {l : List (String × α)} :
    (find? k l).isSome ↔ k ∈ l.map (·.1) := by
  induction l with
  | nil => simp [find?]
  | cons e r ih =>
    simp only [find?]
    split
    case isTrue h => subst h; simp
    case isFalse h => simp [ih, h]

/-- A key is among the keys exactly when it has a value. -/
theorem contains_iff_mem_keys {m : SortedMap α} {k : String} : m.contains k ↔ k ∈ m.keys :=
  find?_isSome_iff

theorem eq_of_find?_eq {l₁ l₂ : List (String × α)} (h₁ : l₁.Pairwise (fun a b => a.1 < b.1))
    (h₂ : l₂.Pairwise (fun a b => a.1 < b.1)) (h : ∀ k, find? k l₁ = find? k l₂) : l₁ = l₂ := by
  induction l₁ generalizing l₂ with
  | nil =>
    cases l₂ with
    | nil => rfl
    | cons e r => simpa [find?] using h e.1
  | cons e r ih =>
    obtain ⟨k, v⟩ := e
    cases l₂ with
    | nil => simpa [find?] using h k
    | cons e' r' =>
      obtain ⟨k', v'⟩ := e'
      rw [List.pairwise_cons] at h₁ h₂
      have hk : k = k' := by
        apply Classical.byContradiction
        intro hne
        rcases String.le_total k k' with hle | hle
        · have hlt : k < k' := Std.lt_of_le_of_ne hle hne
          have hnone : find? k r' = none :=
            find?_eq_none_of_forall_lt fun e he => String.lt_trans hlt (h₂.1 e he)
          simpa [find?, hne, hnone] using h k
        · have hlt : k' < k := Std.lt_of_le_of_ne hle (Ne.symm hne)
          have hnone : find? k' r = none :=
            find?_eq_none_of_forall_lt fun e he => String.lt_trans hlt (h₁.1 e he)
          simpa [find?, Ne.symm hne, hnone] using h k'
      subst hk
      have hv : v = v' := by simpa [find?] using h k
      subst hv
      congr 1
      refine ih h₁.2 h₂.2 fun k₁ => ?_
      by_cases hk₁ : k₁ = k
      · subst hk₁
        rw [find?_eq_none_of_forall_lt h₁.1, find?_eq_none_of_forall_lt h₂.1]
      · simpa [find?, hk₁] using h k₁

/-- Maps that answer every look-up alike are equal. -/
@[ext]
theorem ext {m n : SortedMap α} (h : ∀ k, m.get? k = n.get? k) : m = n := by
  obtain ⟨l₁, h₁⟩ := m
  obtain ⟨l₂, h₂⟩ := n
  congr
  exact eq_of_find?_eq h₁ h₂ h

instance [DecidableEq α] : DecidableEq (SortedMap α) := fun m n =>
  decidable_of_iff (m.toList = n.toList)
    ⟨fun h => by cases m; cases n; congr, fun h => h ▸ rfl⟩

instance [Repr α] : Repr (SortedMap α) := ⟨fun m p => reprPrec m.toList p⟩

end SortedMap

end LiveForm
