import LiveForm.Proofs.Json.Compact

/-!
# Where objects begin

A look at compact text from left to right, which tells quotes from the rest. Outside of quotes an
object begins only at the start or after a bracket, a comma or a colon, and inside of quotes a brace
before a quote is the last character. So `{"p` never stands after a letter or a digit.
-/

namespace LiveForm.Json

/-- Where a look from left to right is. -/
inductive Place where
  /-- A value may begin. -/
  | start
  /-- Outside of quotes, elsewhere. -/
  | later
  /-- Just after a closing quote. -/
  | closed
  /-- Inside of quotes. -/
  | inside
  /-- Inside of quotes, just after a backslash. -/
  | escaped
  deriving DecidableEq, Repr

namespace Place

/-- Goes over a character. There is no way where an object begins in the wrong place, or where a `p`
follows a closing quote. -/
def step : Place → Char → Option Place
  | .inside, c => some (if c = '"' then .closed else if c = '\\' then .escaped else .inside)
  | .escaped, _ => some .inside
  | place, c =>
    if c = '"' then some .inside
    else if c = '{' then if place = .start then some .later else none
    else if c = 'p' then if place = .closed then none else some .later
    else if c = ':' ∨ c = ',' ∨ c = '[' then some .start
    else some .later

/-- Goes over a text. -/
def scan (place : Place) (s : List Char) : Option Place := s.foldlM step place

/-- A value has ended. -/
def IsRest (place : Place) : Prop := place = .later ∨ place = .closed

/-- A value may begin, or has ended. -/
def IsOutside (place : Place) : Prop := place = .start ∨ place.IsRest

/-- The way over a text leads to the end of a value. -/
def Passes (place : Place) (s : List Char) : Prop := ∃ p, scan place s = some p ∧ p.IsRest

@[simp] theorem scan_nil (place : Place) : scan place [] = some place := rfl

@[simp] theorem scan_cons (place : Place) (c : Char) (s : List Char) :
    scan place (c :: s) = (step place c).bind (scan · s) := rfl

/-- The way over a text leads over its parts. -/
theorem scan_append (place : Place) (s t : List Char) :
    scan place (s ++ t) = (scan place s).bind (scan · t) := by
  simp only [scan, List.foldlM_append]
  rfl

/-- A quote outside of quotes opens a text. -/
theorem IsOutside.step_quote {place : Place} (h : place.IsOutside) :
    step place '"' = some .inside := by
  rcases h with rfl | rfl | rfl <;> rfl

/-- A value may begin after a comma. -/
theorem IsOutside.step_comma {place : Place} (h : place.IsOutside) :
    step place ',' = some .start := by
  rcases h with rfl | rfl | rfl <;> rfl

/-- A bracket ends a list, and a brace an object. -/
theorem IsOutside.step_closing {place : Place} (h : place.IsOutside) {c : Char}
    (hc : c = ']' ∨ c = '}') : step place c = some .later := by
  rcases h with rfl | rfl | rfl <;> rcases hc with rfl | rfl <;> rfl

/-- The escaped forms of control characters leave the place inside of quotes. -/
theorem scan_control : ∀ n < 0x20,
    scan .inside ['\\', 'u', '0', '0', hexDigit (n / 16), hexDigit (n % 16)] = some .inside := by
  decide

/-- A character in quotes leaves the place inside of quotes. -/
theorem scan_escape (c : Char) : scan .inside (escape c) = some .inside := by
  unfold escape
  split
  case h_8 hquote hbackslash _ _ _ _ _ =>
    split
    case isTrue hcontrol => exact scan_control c.toNat hcontrol
    case isFalse hcontrol => simp_all [step]
  all_goals rfl

/-- Characters in quotes leave the place inside of quotes. -/
theorem scan_flatMap_escape (cs : List Char) :
    scan .inside (cs.flatMap escape) = some .inside := by
  induction cs with
  | nil => rfl
  | cons c cs ih => rw [List.flatMap_cons, scan_append, scan_escape, Option.bind_some, ih]

/-- A text in quotes ends just after its closing quote. -/
theorem IsOutside.scan_quote {place : Place} (h : place.IsOutside) (s : String) :
    scan place (quote s) = some .closed := by
  rw [quote, List.cons_append, scan_cons, h.step_quote, Option.bind_some, scan_append,
    scan_flatMap_escape]
  rfl

/-- A character of numbers begins nothing. -/
theorem IsOutside.step_numeral {place : Place} (h : place.IsOutside) {c : Char}
    (hc : Decimal.isNumeral c) : step place c = some .later := by
  have hother : c ∉ ['"', '{', 'p', ':', ',', '['] := by
    intro hmem
    simp only [List.mem_cons, List.not_mem_nil, or_false] at hmem
    rcases hmem with rfl | rfl | rfl | rfl | rfl | rfl <;> exact absurd hc (by decide)
  simp only [List.mem_cons, List.not_mem_nil, or_false, not_or] at hother
  rcases h with rfl | rfl | rfl <;> simp [step, hother]

/-- Characters of numbers stay outside of quotes. -/
theorem scan_numerals {s : List Char} (h : ∀ c ∈ s, Decimal.isNumeral c) :
    scan .later s = some .later := by
  induction s with
  | nil => rfl
  | cons c s ih =>
    rw [List.forall_mem_cons] at h
    have houtside : IsOutside .later := .inr (.inl rfl)
    rw [scan_cons, houtside.step_numeral h.1, Option.bind_some, ih h.2]

/-- The text of a number is passed. -/
theorem passes_numeral {s : List Char} (h : Decimal.IsNumeral s) : Passes .start s := by
  obtain ⟨hne, hall⟩ := h
  obtain ⟨c, cs, rfl⟩ := List.exists_cons_of_ne_nil hne
  rw [List.forall_mem_cons] at hall
  have houtside : IsOutside .start := .inl rfl
  refine ⟨.later, ?_, .inl rfl⟩
  rw [scan_cons, houtside.step_numeral hall.1, Option.bind_some, scan_numerals hall.2]

/-- Parts after commas are passed if each part is. -/
theorem passes_tail {place : Place} {ts : List (List Char)} (hplace : place.IsRest)
    (hts : ∀ t ∈ ts, Passes .start t) : Passes place (ts.flatMap ([','] ++ ·)) := by
  induction ts generalizing place with
  | nil => exact ⟨place, rfl, hplace⟩
  | cons t ts ih =>
    rw [List.forall_mem_cons] at hts
    obtain ⟨q, ht, hq⟩ := hts.1
    obtain ⟨q', hrest, hq'⟩ := ih hq hts.2
    refine ⟨q', ?_, hq'⟩
    rw [List.flatMap_cons, scan_append, List.singleton_append, scan_cons,
      IsOutside.step_comma (.inr hplace), Option.bind_some, ht, Option.bind_some, hrest]

/-- Parts with commas between them and a closing bracket are passed if each part is. -/
theorem passes_parts {place : Place} {ts : List (List Char)} {closing : Char}
    (hplace : place.IsOutside) (hclosing : closing = ']' ∨ closing = '}')
    (hts : ∀ t ∈ ts, Passes .start t) (hfirst : ∀ t ∈ ts, Passes place t) :
    Passes place (joinWith [','] ts ++ [closing]) := by
  refine ⟨.later, ?_, .inl rfl⟩
  cases ts with
  | nil => rw [joinWith, List.nil_append, scan_cons, hplace.step_closing hclosing]; rfl
  | cons t ts =>
    obtain ⟨q, ht, hq⟩ := hfirst t (by simp)
    obtain ⟨q', hrest, hq'⟩ := passes_tail hq (List.forall_mem_cons.mp hts).2
    rw [joinWith_cons, scan_append, scan_append, ht, Option.bind_some, hrest, Option.bind_some,
      scan_cons, IsOutside.step_closing (.inr hq') hclosing]
    rfl

/-- An entry is passed if its value is. -/
theorem IsOutside.passes_entry {place : Place} (h : place.IsOutside) {e : String × Json}
    (he : Passes .start e.2.compactChars) : Passes place (entryChars e) := by
  obtain ⟨q, hvalue, hq⟩ := he
  refine ⟨q, ?_, hq⟩
  rw [entryChars, scan_append, h.scan_quote, Option.bind_some, scan_cons]
  exact hvalue

/-- The compact text of a finite value is passed. -/
theorem passes_compactChars {v : Json} (hfinite : v.isFinite) : Passes .start v.compactChars := by
  induction v using induct with
  | null => exact ⟨.later, rfl, .inl rfl⟩
  | bool b => cases b <;> exact ⟨.later, rfl, .inl rfl⟩
  | int n => exact passes_numeral (isNumeral_compactChars hfinite rfl)
  | float x => exact passes_numeral (isNumeral_compactChars hfinite rfl)
  | text s => exact ⟨.closed, IsOutside.scan_quote (.inl rfl) s, .inr rfl⟩
  | list items ih =>
    rw [isFinite_list, List.all_eq_true] at hfinite
    have hitems : ∀ t ∈ items.map compactChars, Passes .start t := by
      intro t ht
      obtain ⟨v, hv, rfl⟩ := List.mem_map.mp ht
      exact ih v hv (hfinite v hv)
    obtain ⟨q, hscan, hq⟩ := passes_parts (.inl rfl) (.inl rfl) hitems hitems
    refine ⟨q, ?_, hq⟩
    rw [compactChars, compactItems_eq_map, List.cons_append, scan_cons]
    exact hscan
  | object entries ih =>
    rw [isFinite_object, List.all_eq_true] at hfinite
    have hentries {place : Place} (hplace : place.IsOutside) :
        ∀ t ∈ entries.map entryChars, Passes place t := by
      intro t ht
      obtain ⟨e, he, rfl⟩ := List.mem_map.mp ht
      exact hplace.passes_entry (ih e he (hfinite e he))
    have hlater : IsOutside .later := .inr (.inl rfl)
    obtain ⟨q, hscan, hq⟩ :=
      passes_parts hlater (.inr rfl) (hentries (.inl rfl)) (hentries hlater)
    refine ⟨q, ?_, hq⟩
    rw [compactChars, compactEntries_eq_map, List.cons_append, scan_cons]
    exact hscan

/-- No way leads over `{"p` after a character without a meaning of its own. -/
theorem scan_brace (place : Place) (before after : List Char) {c : Char}
    (hc : c ∉ ['"', '\\', '{', ':', ',', '[']) :
    scan place (before ++ c :: '{' :: '"' :: 'p' :: after) = none := by
  simp only [List.mem_cons, List.not_mem_nil, or_false, not_or] at hc
  rw [scan_append]
  cases scan place before with
  | none => rfl
  | some q =>
    cases q with
    | start | later => by_cases hp : c = 'p' <;> simp [step, hc, hp]
    | closed => by_cases hp : c = 'p' <;> simp [step, hc, hp]
    | inside | escaped => simp [step, hc]

end Place

/-- In the compact text of a finite value, `{"p` stands after no letter or digit. -/
theorem compactChars_ne_brace {v : Json} (hfinite : v.isFinite) (before after : List Char)
    {c : Char} (hc : c ∉ ['"', '\\', '{', ':', ',', '[']) :
    v.compactChars ≠ before ++ c :: '{' :: '"' :: 'p' :: after := by
  intro h
  obtain ⟨q, hscan, -⟩ := Place.passes_compactChars hfinite
  rw [h, Place.scan_brace .start before after hc] at hscan
  exact absurd hscan (by simp)

end LiveForm.Json
