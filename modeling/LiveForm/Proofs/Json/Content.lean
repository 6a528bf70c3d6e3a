import LiveForm.Json.Coercion
import LiveForm.Proofs.Double.Value
import LiveForm.Proofs.Json.Sameness

/-!
# What a value says

The content of a value is what it says, however its numbers are written: three is the same number as
an integer and as a float. Values that are the same have the same content and write their numbers
the same way. As answers, two numbers are the same if they are the same number, as long as both are
numbers of doubles; inside other values it matters how a number is written.
-/

namespace LiveForm

/-- What a value says: numbers by their size, and everything else as it is. -/
inductive Content where
  | null
  | bool (b : Bool)
  | number (q : ℚ)
  | text (s : String)
  | list (items : List Content)
  | object (entries : List (String × Content))

/-- Lists are related place by place in two ways if they are in one. -/
theorem forall₂_congr_of_mem {α β : Type} {R S : α → β → Prop} {a : List α} {b : List β}
    (h : ∀ v ∈ a, ∀ w ∈ b, (R v w ↔ S v w)) : List.Forall₂ R a b ↔ List.Forall₂ S a b := by
  rw [List.forall₂_iff_zip, List.forall₂_iff_zip]
  refine and_congr_right fun _ => ⟨fun hR v w hmem => ?_, fun hS v w hmem => ?_⟩
  · exact (h v (List.of_mem_zip hmem).1 w (List.of_mem_zip hmem).2).mp (hR hmem)
  · exact (h v (List.of_mem_zip hmem).1 w (List.of_mem_zip hmem).2).mpr (hS hmem)

section

variable {α β γ : Type} {f : α → β} {g : α → List γ} {a b : List α}

/-- Joined parts are equally long in all if each is as long as something else that is equal tells. -/
theorem length_flatMap_of_map_eq (hmap : a.map f = b.map f)
    (hlength : ∀ v ∈ a, ∀ w, f v = f w → (g v).length = (g w).length) :
    (a.flatMap g).length = (b.flatMap g).length := by
  induction a generalizing b with
  | nil => rw [List.map_eq_nil_iff.mp hmap.symm]
  | cons v a ih =>
    obtain ⟨w, b, rfl, hw, hmap⟩ := List.map_eq_cons_iff.mp hmap.symm
    rw [List.forall_mem_cons] at hlength
    rw [List.flatMap_cons, List.flatMap_cons, List.length_append, List.length_append,
      hlength.1 w hw.symm, ih hmap.symm hlength.2]

/-- Joined parts are equal just if each is, where something else that is equal tells how long they
are. -/
theorem forall₂_eq_and_eq_iff (hlength : ∀ v w, f v = f w → (g v).length = (g w).length) :
    List.Forall₂ (fun v w => f v = f w ∧ g v = g w) a b ↔
      a.map f = b.map f ∧ a.flatMap g = b.flatMap g := by
  induction a generalizing b with
  | nil => cases b <;> simp
  | cons v a ih =>
    cases b with
    | nil => simp
    | cons w b =>
      rw [List.forall₂_cons, ih, List.map_cons, List.map_cons, List.cons.injEq, List.flatMap_cons,
        List.flatMap_cons]
      constructor
      · rintro ⟨⟨hf, hg⟩, hmap, hflat⟩
        exact ⟨⟨hf, hmap⟩, by rw [hg, hflat]⟩
      · rintro ⟨⟨hf, hmap⟩, happend⟩
        obtain ⟨hg, hflat⟩ := List.append_inj happend (hlength v w hf)
        exact ⟨⟨hf, hg⟩, hmap, hflat⟩

end

namespace Json

mutual

/-- The content of a value. -/
def content : Json → Content
  | .null => .null
  | .bool b => .bool b
  | .int n => .number n
  | .float x => .number (Double.value x)
  | .text s => .text s
  | .list items => .list (contentOfItems items)
  | .object entries => .object (contentOfEntries entries)

/-- The content of some items. -/
def contentOfItems : List Json → List Content
  | [] => []
  | v :: r => v.content :: contentOfItems r

/-- The content of some entries. -/
def contentOfEntries : List (String × Json) → List (String × Content)
  | [] => []
  | (k, v) :: r => (k, v.content) :: contentOfEntries r

end

/-- The content of a list is that of its items. -/
theorem content_list (items : List Json) :
    (Json.list items).content = .list (items.map content) := by
  rw [content]
  congr
  induction items with
  | nil => rfl
  | cons v r ih => rw [contentOfItems, ih, List.map_cons]

/-- The content of an object is that of its entries. -/
theorem content_object (entries : List (String × Json)) :
    (Json.object entries).content = .object (entries.map fun e => (e.1, e.2.content)) := by
  rw [content]
  congr
  induction entries with
  | nil => rfl
  | cons e r ih => rw [contentOfEntries, ih, List.map_cons]

/-- Whether a number is written as an integer. -/
def isInt : Json → Bool
  | .int _ => true
  | _ => false

/-- How the numbers in a value are written: for each of them, whether as an integer. -/
def spelling (v : Json) : List Bool := v.numbers.map isInt

/-- The numbers in a list are written as in its items. -/
theorem spelling_list (items : List Json) :
    (Json.list items).spelling = items.flatMap spelling := by
  rw [spelling, numbers_list, List.map_flatMap]
  rfl

/-- The numbers in an object are written as in the values of its entries. -/
theorem spelling_object (entries : List (String × Json)) :
    (Json.object entries).spelling = entries.flatMap fun e => e.2.spelling := by
  rw [spelling, numbers_object, List.map_flatMap]
  rfl

/-- Values with the same content have as many numbers. -/
theorem length_spelling {v w : Json} (h : v.content = w.content) :
    v.spelling.length = w.spelling.length := by
  induction v using induct generalizing w with
  | null | bool b | text s => cases w <;> first | rfl | cases h
  | int n | float x => cases w <;> first | rfl | cases h
  | list items ih =>
    cases w with
    | list items' =>
      rw [content_list, content_list, Content.list.injEq] at h
      rw [spelling_list, spelling_list]
      exact length_flatMap_of_map_eq h fun v hv w => ih v hv
    | _ => cases h
  | object entries ih =>
    cases w with
    | object entries' =>
      rw [content_object, content_object, Content.object.injEq] at h
      rw [spelling_object, spelling_object]
      exact length_flatMap_of_map_eq h fun e he e' heq => ih e he (Prod.ext_iff.mp heq).2
    | _ => cases h

/-- Finite values are the same just if they have the same content and write their numbers the same
way. -/
theorem same_iff_content {v w : Json} (hv : v.isFinite) (hw : w.isFinite) :
    same v w ↔ v.content = w.content ∧ v.spelling = w.spelling := by
  induction v using induct generalizing w with
  | null | bool b | text s => cases w <;> simp [same, content, spelling, numbers]
  | int n => cases w <;> simp [same, content, spelling, numbers, isInt]
  | float x =>
    cases w with
    | float y =>
      rw [same, Double.beq_iff_value_eq hv hw]
      simp [content, spelling, numbers, isInt]
    | _ => simp [same, content, spelling, numbers, isInt]
  | list items ih =>
    cases w with
    | list items' =>
      rw [isFinite_list, List.all_eq_true] at hv hw
      rw [same, sameItems_iff, content_list, content_list, Content.list.injEq, spelling_list,
        spelling_list, ← forall₂_eq_and_eq_iff fun v w => length_spelling]
      exact forall₂_congr_of_mem fun v hmem w hmem' => ih v hmem (hv v hmem) (hw w hmem')
    | _ => simp [same, content]
  | object entries ih =>
    cases w with
    | object entries' =>
      rw [isFinite_object, List.all_eq_true] at hv hw
      rw [same, sameEntries_iff, content_object, content_object, Content.object.injEq,
        spelling_object, spelling_object, ← forall₂_eq_and_eq_iff fun e f heq =>
          length_spelling (Prod.ext_iff.mp heq).2]
      refine forall₂_congr_of_mem fun e he f hf => ?_
      rw [ih e he (hv e he) (hw f hf), Prod.mk.injEq, and_assoc]
    | _ => simp [same, content]

/-! ### Answers -/

/-- A number, if the value is one, is that of a double. -/
def IsExact (v : Json) : Prop := ∀ q, v.content = .number q → ∃ x, Double.value x = q

/-- A float is exact. -/
theorem isExact_float (x : Float) : (Json.float x).IsExact :=
  fun _ hq => ⟨x, Content.number.inj hq⟩

/-- An integer up to `2 ^ 53` is exact. -/
theorem isExact_int {n : ℤ} (h : n.natAbs ≤ 2 ^ 53) : (Json.int n).IsExact :=
  fun _ hq => ⟨Float.ofInt n, (Double.value_ofInt_of_le h).trans (Content.number.inj hq)⟩

/-- A number is a value whose content is one. -/
theorem isSome_toFloat?_iff {v : Json} : v.toFloat?.isSome ↔ ∃ q, v.content = .number q := by
  cases v <;> simp [toFloat?, content]

/-- The double made of an exact number is finite, and this number. -/
theorem value_of_toFloat? {v : Json} {x : Float} (hv : v.isFinite) (hexact : v.IsExact)
    (hx : v.toFloat? = some x) : x.isFinite ∧ v.content = .number (Double.value x) := by
  cases v with
  | float y =>
    obtain rfl := Option.some_inj.mp hx
    exact ⟨hv, rfl⟩
  | int n =>
    obtain ⟨y, hy⟩ := hexact n rfl
    have hvalue := Double.value_ofInt hy
    obtain rfl := Option.some_inj.mp hx
    refine ⟨?_, by rw [content, hvalue]⟩
    rcases eq_or_ne n 0 with rfl | hn
    · rfl
    · apply Double.isFinite_of_value_ne_zero
      rw [hvalue]
      exact_mod_cast hn
  | _ => cases hx

/-- **The same answer is the same content.** Two finite values that are numbers are the same answer
just if they are the same number, as long as both are numbers of doubles; all others just if they
have the same content and also write the numbers inside the same way. -/
theorem sameAnswer_iff_content {a b : Json} (ha : a.isFinite) (hb : b.isFinite)
    (hexact : a.toFloat?.isSome → b.toFloat?.isSome → a.IsExact ∧ b.IsExact) :
    sameAnswer a b ↔
      a.content = b.content ∧ (a.toFloat?.isSome ∨ a.spelling = b.spelling) := by
  have hsame := same_iff_content ha hb
  rw [sameAnswer]
  cases hx : a.toFloat? with
  | none => simpa using hsame
  | some x =>
    rw [Option.isSome_some, eq_self_iff_true, true_or, and_true]
    cases hy : b.toFloat? with
    | none =>
      -- a number and a value that is none
      have hne : a.content ≠ b.content := by
        intro h
        have hsome := isSome_toFloat?_iff.mp (Option.isSome_of_eq_some hx)
        rw [h, ← isSome_toFloat?_iff, hy] at hsome
        cases hsome
      exact iff_of_false (fun h => hne (hsame.mp h).1) hne
    | some y =>
      rw [hx, hy] at hexact
      obtain ⟨hexact, hexact'⟩ := hexact rfl rfl
      obtain ⟨hfinite, hvalue⟩ := value_of_toFloat? ha hexact hx
      obtain ⟨hfinite', hvalue'⟩ := value_of_toFloat? hb hexact' hy
      rw [hvalue, hvalue', Content.number.injEq]
      exact Double.beq_iff_value_eq hfinite hfinite'

/-- Three is the same answer as an integer and as a float. Inside lists, integers of any size are
told apart. -/
theorem sameAnswer_iff_content_amount :
    (sameAnswer (.int 3) (.float 3.0) ∧
      (Json.int 3).content = (Json.float 3.0).content) ∧
    (¬sameAnswer (.list [.int 9007199254740993]) (.list [.int 9007199254740992]) ∧
      (Json.list [.int 9007199254740993]).content ≠
        (Json.list [.int 9007199254740992]).content) := by
  have hnumbers := sameAnswer_iff_content (a := .int 3) (b := .float 3.0) rfl rfl
    fun _ _ => ⟨isExact_int (by decide), isExact_float _⟩
  have hlists := sameAnswer_iff_content (a := .list [.int 9007199254740993])
    (b := .list [.int 9007199254740992]) rfl rfl nofun
  have hsame : sameAnswer (.int 3) (.float 3.0) := by decide +kernel
  have hdiffer : (Json.list [.int 9007199254740993]).content ≠
      (Json.list [.int 9007199254740992]).content := by
    rw [content_list, content_list]
    simp [content]
  exact ⟨⟨hsame, (hnumbers.mp hsame).1⟩, fun h => hdiffer (hlists.mp h).1, hdiffer⟩

/-- Two large integers are the same answer, since they are rounded to one double. Three as an integer
and as a float are not, in a list. -/
theorem sameAnswer_rounded :
    (sameAnswer (.int 9007199254740993) (.int 9007199254740992) ∧
      (Json.int 9007199254740993).content ≠ (Json.int 9007199254740992).content) ∧
    (¬sameAnswer (.list [.int 3]) (.list [.float 3.0]) ∧
      (Json.list [.int 3]).content = (Json.list [.float 3.0]).content) := by
  have hthree : (3.0 : Float) = Float.ofInt 3 := by decide +kernel
  refine ⟨⟨by decide +kernel, by simp [content]⟩, by decide +kernel, ?_⟩
  rw [content_list, content_list, hthree]
  simp [content, Double.value_ofInt_of_le (n := 3) (by decide)]

end Json

end LiveForm
