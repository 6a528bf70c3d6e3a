import LiveForm.Proofs.Decimal.Layout
import LiveForm.Proofs.Json.Basic
import LiveForm.Proofs.Json.Quote

/-!
# Compact text

The compact text of a finite value determines the value, as far as the texts of numbers determine
the numbers. Its first character tells the kind of the value, and it ends where no number can go on.
-/

namespace LiveForm.Json

open Decimal (isNumeral IsNumeral)

/-- The kinds of values that the first character of a text tells apart. -/
inductive Kind where
  | null | bool | number | text | list | object
  deriving DecidableEq, Repr

/-- The kind of a value. -/
def kind : Json → Kind
  | .null => .null
  | .bool _ => .bool
  | .int _ | .float _ => .number
  | .text _ => .text
  | .list _ => .list
  | .object _ => .object

/-- The kind of the values whose text begins with a character. -/
def kindOf? (c : Char) : Option Kind :=
  if c = 'n' then some .null
  else if c = 't' ∨ c = 'f' then some .bool
  else if isNumeral c then some .number
  else if c = '"' then some .text
  else if c = '[' then some .list
  else if c = '{' then some .object
  else none

/-- No number goes on with the text. -/
def EndsNumber (s : List Char) : Prop := s.head?.any isNumeral = false

/-- Numbers among some and others are equal if their texts are. -/
def TellsApart (us vs : List Json) : Prop :=
  ∀ a ∈ us, ∀ b ∈ vs, a.compact = b.compact → a = b

/-- The compact texts of items are those of each. -/
@[simp] theorem compactItems_eq_map (items : List Json) :
    compactItems items = items.map compactChars := by
  induction items with
  | nil => rfl
  | cons v r ih => rw [compactItems, ih, List.map_cons]

/-- The compact text of an entry. -/
def entryChars (e : String × Json) : List Char := quote e.1 ++ ':' :: e.2.compactChars

/-- The compact texts of entries are those of each. -/
@[simp] theorem compactEntries_eq_map (entries : List (String × Json)) :
    compactEntries entries = entries.map entryChars := by
  induction entries with
  | nil => rfl
  | cons e r ih => rw [compactEntries, ih, List.map_cons, entryChars]

/-- A number, which is a finite one, is written with characters of numbers. -/
theorem isNumeral_compactChars {v : Json} (hfinite : v.isFinite) (hkind : v.kind = .number) :
    IsNumeral v.compactChars := by
  cases v with
  | int n => exact Decimal.isNumeral_toString n
  | float x =>
    have htext : floatText x = Decimal.dataLayout.render x := if_pos hfinite
    rw [compactChars, scalarText, htext]
    · exact Decimal.isNumeral_render Decimal.dataLayout hfinite
    all_goals simp
  | _ => simp [kind] at hkind

/-- The first character of the text of a value tells its kind. -/
theorem exists_compactChars_eq_cons {v : Json} (hfinite : v.isFinite) :
    ∃ c cs, v.compactChars = c :: cs ∧ kindOf? c = some v.kind := by
  by_cases hnumber : v.kind = .number
  · obtain ⟨hne, hall⟩ := isNumeral_compactChars hfinite hnumber
    obtain ⟨c, cs, hc⟩ := List.exists_cons_of_ne_nil hne
    have hnumeral : isNumeral c := hall c (by simp [hc])
    refine ⟨c, cs, hc, ?_⟩
    have hn : c ≠ 'n' := by rintro rfl; exact absurd hnumeral (by decide)
    have ht : c ≠ 't' := by rintro rfl; exact absurd hnumeral (by decide)
    have hf : c ≠ 'f' := by rintro rfl; exact absurd hnumeral (by decide)
    simp [kindOf?, hn, ht, hf, hnumeral, hnumber]
  · cases v with
    | null => exact ⟨'n', _, rfl, rfl⟩
    | bool b => cases b <;> exact ⟨_, _, rfl, rfl⟩
    | int n => exact absurd rfl hnumber
    | float x => exact absurd rfl hnumber
    | text s => exact ⟨'"', _, rfl, rfl⟩
    | list items => exact ⟨'[', _, rfl, rfl⟩
    | object entries => exact ⟨'{', _, rfl, rfl⟩

/-- Joined texts are the first one and each other one after a separator. -/
theorem joinWith_cons (separator t : List Char) (ts : List (List Char)) :
    joinWith separator (t :: ts) = t ++ ts.flatMap (separator ++ ·) := by
  induction ts generalizing t with
  | nil => simp [joinWith]
  | cons t' ts ih =>
    rw [joinWith, ih, List.flatMap_cons, List.append_assoc, List.append_assoc]
    · simp

/-- A number ends before a character that numbers are not written with. -/
theorem endsNumber_cons {c : Char} (s : List Char) (h : isNumeral c = false) :
    EndsNumber (c :: s) := h

/-- A number ends where another item or the closing bracket follows. -/
theorem endsNumber_tail {closing : Char} (ts : List (List Char)) (r : List Char)
    (h : isNumeral closing = false) :
    EndsNumber (ts.flatMap ([','] ++ ·) ++ closing :: r) := by
  cases ts with
  | nil => exact endsNumber_cons r h
  | cons t ts => exact endsNumber_cons _ (by decide)

/-- Texts of two things can be told from each other, and from what follows. -/
def Apart {α : Type} (f : α → List Char) (x y : α) : Prop :=
  ∀ r r', EndsNumber r → EndsNumber r' → f x ++ r = f y ++ r' → x = y ∧ r = r'

section Parts

variable {α : Type} {f : α → List Char} {closing : Char} {xs ys : List α}

/-- Parts after separators, up to a closing bracket, are told apart if each is. -/
theorem tail_append_inj (hcomma : closing ≠ ',') (hclosing : isNumeral closing = false)
    (hparts : ∀ x ∈ xs, ∀ y ∈ ys, Apart f x y) {r r' : List Char}
    (h : (xs.map f).flatMap ([','] ++ ·) ++ closing :: r =
      (ys.map f).flatMap ([','] ++ ·) ++ closing :: r') : xs = ys ∧ r = r' := by
  induction xs generalizing ys with
  | nil =>
    cases ys with
    | nil => simpa using h
    | cons y ys => exact absurd (List.cons.inj h).1 hcomma
  | cons x xs ih =>
    cases ys with
    | nil => exact absurd (List.cons.inj h).1.symm hcomma
    | cons y ys =>
      simp only [List.map_cons, List.flatMap_cons, List.append_assoc, List.cons_append,
        List.nil_append, List.cons.injEq, true_and] at h
      obtain ⟨rfl, htail⟩ := hparts x (by simp) y (by simp) _ _
        (endsNumber_tail _ _ hclosing) (endsNumber_tail _ _ hclosing) h
      have hrest : ∀ x ∈ xs, ∀ y ∈ ys, Apart f x y := fun x hx y hy =>
        hparts x (List.mem_cons_of_mem _ hx) y (List.mem_cons_of_mem _ hy)
      obtain ⟨rfl, rfl⟩ := ih hrest htail
      exact ⟨rfl, rfl⟩

/-- Joined parts, up to a closing bracket, are told apart if each part is and none begins with the
bracket. -/
theorem joinWith_append_inj (hcomma : closing ≠ ',') (hclosing : isNumeral closing = false)
    (hfirst : ∀ x ∈ xs ++ ys, ∃ c cs, f x = c :: cs ∧ c ≠ closing)
    (hparts : ∀ x ∈ xs, ∀ y ∈ ys, Apart f x y) {r r' : List Char}
    (h : joinWith [','] (xs.map f) ++ closing :: r = joinWith [','] (ys.map f) ++ closing :: r') :
    xs = ys ∧ r = r' := by
  cases xs with
  | nil =>
    cases ys with
    | nil => simpa [joinWith] using h
    | cons y ys =>
      obtain ⟨c, cs, hy, hc⟩ := hfirst y (by simp)
      rw [List.map_cons, joinWith_cons, hy] at h
      exact absurd (List.cons.inj h).1.symm hc
  | cons x xs =>
    cases ys with
    | nil =>
      obtain ⟨c, cs, hx, hc⟩ := hfirst x (by simp)
      rw [List.map_cons, joinWith_cons, hx] at h
      exact absurd (List.cons.inj h).1 hc
    | cons y ys =>
      apply tail_append_inj hcomma hclosing hparts
      simpa [joinWith_cons] using h

end Parts

/-- Texts of numbers before something else can be told from what follows. -/
theorem isNumeral_append_inj {s t r r' : List Char} (hs : IsNumeral s) (ht : IsNumeral t)
    (hr : EndsNumber r) (hr' : EndsNumber r') (h : s ++ r = t ++ r') : s = t ∧ r = r' := by
  have hs := takeWhile_run r (List.all_eq_true.mpr hs.2) hr
  have ht := takeWhile_run r' (List.all_eq_true.mpr ht.2) hr'
  rw [h] at hs
  exact ⟨hs.1.symm.trans ht.1, hs.2.symm.trans ht.2⟩

variable {u v : Json}

/-- The texts of values of different kinds begin with different characters. -/
theorem apart_of_kind_ne (hu : u.isFinite) (hv : v.isFinite) (hne : u.kind ≠ v.kind) :
    Apart compactChars u v := by
  intro r r' _ _ h
  obtain ⟨c, cs, hc, hkind⟩ := exists_compactChars_eq_cons hu
  obtain ⟨c', cs', hc', hkind'⟩ := exists_compactChars_eq_cons hv
  rw [hc, hc'] at h
  obtain ⟨rfl, -⟩ := List.cons.inj h
  rw [hkind] at hkind'
  exact absurd (Option.some.inj hkind') hne

/-- A number is the only number in itself. -/
theorem numbers_of_kind (h : u.kind = .number) : u.numbers = [u] := by
  cases u with
  | int n => rfl
  | float x => rfl
  | _ => simp [kind] at h

/-- The texts of two numbers are told apart. -/
theorem apart_of_number (hu : u.isFinite) (hv : v.isFinite) (hukind : u.kind = .number)
    (happart : TellsApart u.numbers v.numbers) : Apart compactChars u v := by
  by_cases hne : u.kind ≠ v.kind
  · exact apart_of_kind_ne hu hv hne
  have hvkind : v.kind = .number := by rw [← not_ne_iff.mp hne, hukind]
  intro r r' hr hr' h
  obtain ⟨htext, rfl⟩ := isNumeral_append_inj (isNumeral_compactChars hu hukind)
    (isNumeral_compactChars hv hvkind) hr hr' h
  rw [numbers_of_kind hukind, numbers_of_kind hvkind] at happart
  exact ⟨happart u (by simp) v (by simp) (congrArg String.ofList htext), rfl⟩

/-- The texts of two lists are told apart if those of their items are. -/
theorem apart_list {xs ys : List Json} (hxs : ∀ x ∈ xs, x.isFinite) (hys : ∀ y ∈ ys, y.isFinite)
    (hitems : ∀ x ∈ xs, ∀ y ∈ ys, Apart compactChars x y) :
    Apart compactChars (.list xs) (.list ys) := by
  intro r r' hr hr' h
  simp only [compactChars, compactItems_eq_map, List.cons_append, List.append_assoc,
    List.nil_append, List.cons.injEq, true_and] at h
  have hfirst : ∀ x ∈ xs ++ ys, ∃ c cs, compactChars x = c :: cs ∧ c ≠ ']' := by
    intro x hx
    have hfinite : x.isFinite := (List.mem_append.mp hx).elim (hxs x) (hys x)
    obtain ⟨c, cs, hc, hkind⟩ := exists_compactChars_eq_cons hfinite
    refine ⟨c, cs, hc, ?_⟩
    rintro rfl
    exact absurd hkind (by simp [kindOf?, show isNumeral ']' = false by decide])
  obtain ⟨rfl, rfl⟩ := joinWith_append_inj (by decide) (by decide) hfirst hitems h
  exact ⟨rfl, rfl⟩

/-- The texts of two entries are told apart if those of their values are. -/
theorem apart_entry {e f : String × Json} (h : Apart compactChars e.2 f.2) :
    Apart entryChars e f := by
  intro r r' hr hr' heq
  rw [entryChars, entryChars, List.append_assoc, List.append_assoc] at heq
  obtain ⟨hkey, hrest⟩ := quote_append_inj heq
  obtain ⟨hvalue, rfl⟩ := h r r' hr hr' (List.cons.inj hrest).2
  exact ⟨Prod.ext hkey hvalue, rfl⟩

/-- The texts of two objects are told apart if those of the values of their entries are. -/
theorem apart_object {es fs : List (String × Json)}
    (hentries : ∀ e ∈ es, ∀ f ∈ fs, Apart compactChars e.2 f.2) :
    Apart compactChars (.object es) (.object fs) := by
  intro r r' hr hr' h
  simp only [compactChars, compactEntries_eq_map, List.cons_append, List.append_assoc,
    List.nil_append, List.cons.injEq, true_and] at h
  obtain ⟨rfl, rfl⟩ := joinWith_append_inj (by decide) (by decide)
    (fun e _ => ⟨'"', _, rfl, by decide⟩)
    (fun e he f hf => apart_entry (hentries e he f hf)) h
  exact ⟨rfl, rfl⟩

/-- The texts of two finite values are told apart if those of their numbers are. -/
theorem apart_of_tellsApart (hu : u.isFinite) (hv : v.isFinite)
    (happart : TellsApart u.numbers v.numbers) : Apart compactChars u v := by
  induction u using induct generalizing v with
  | null =>
    cases v with
    | null => exact fun r r' _ _ h => ⟨rfl, List.append_cancel_left h⟩
    | _ => exact apart_of_kind_ne hu hv (by simp [kind])
  | bool a =>
    cases v with
    | bool b => cases a <;> cases b <;> simp [Apart, compactChars, scalarText]
    | _ => exact apart_of_kind_ne hu hv (by simp [kind])
  | int n => exact apart_of_number hu hv rfl happart
  | float x => exact apart_of_number hu hv rfl happart
  | text s =>
    cases v with
    | text t =>
      intro r r' hr hr' h
      obtain ⟨rfl, rfl⟩ := quote_append_inj h
      exact ⟨rfl, rfl⟩
    | _ => exact apart_of_kind_ne hu hv (by simp [kind])
  | list xs ih =>
    cases v with
    | list ys =>
      rw [isFinite_list, List.all_eq_true] at hu hv
      rw [numbers_list, numbers_list] at happart
      refine apart_list hu hv fun x hx y hy => ih x hx (hu x hx) (hv y hy) ?_
      exact fun a ha b hb =>
        happart a (List.mem_flatMap_of_mem hx ha) b (List.mem_flatMap_of_mem hy hb)
    | _ => exact apart_of_kind_ne hu hv (by simp [kind])
  | object es ih =>
    cases v with
    | object fs =>
      rw [isFinite_object, List.all_eq_true] at hu hv
      rw [numbers_object, numbers_object] at happart
      refine apart_object fun e he f hf => ih e he (hu e he) (hv f hf) ?_
      exact fun a ha b hb =>
        happart a (List.mem_flatMap_of_mem he ha) b (List.mem_flatMap_of_mem hf hb)
    | _ => exact apart_of_kind_ne hu hv (by simp [kind])

/-- The compact text of a finite value determines the value, if the texts of numbers do. -/
theorem compact_inj (hu : u.isFinite) (hv : v.isFinite) (happart : TellsApart u.numbers v.numbers)
    (h : u.compact = v.compact) : u = v := by
  have hchars : u.compactChars ++ [] = v.compactChars ++ [] := by
    rw [List.append_nil, List.append_nil]
    exact String.ofList_injective h
  have hnil : EndsNumber [] := rfl
  exact (apart_of_tellsApart hu hv happart [] [] hnil hnil hchars).1

end LiveForm.Json
