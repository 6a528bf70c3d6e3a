import LiveForm.Proofs.Json.Numeral

/-!
# Compact text reads back

The reader makes a draft of the compact text of a value that denotes the value, wherever the text
stands, if the numbers in it are legible and the value nests no deeper than the reader goes.
-/

namespace LiveForm.Json

/-! ### How deep values nest -/

mutual

/-- How many levels of lists and objects a value nests. -/
def depth : Json → Nat
  | .list items => depthOfItems items + 1
  | .object entries => depthOfEntries entries + 1
  | _ => 0

/-- How deep some items nest. -/
def depthOfItems : List Json → Nat
  | [] => 0
  | v :: r => max v.depth (depthOfItems r)

/-- How deep the values of some entries nest. -/
def depthOfEntries : List (String × Json) → Nat
  | [] => 0
  | (_, v) :: r => max v.depth (depthOfEntries r)

end

/-- A list nests one level deeper than its items. -/
theorem depth_list_le {items : List Json} {n : Nat} :
    (Json.list items).depth ≤ n + 1 ↔ ∀ v ∈ items, v.depth ≤ n := by
  rw [depth, Nat.succ_le_succ_iff]
  induction items with
  | nil => simp [depthOfItems]
  | cons v r ih => rw [depthOfItems, Nat.max_le, ih, List.forall_mem_cons]

/-- An object nests one level deeper than the values of its entries. -/
theorem depth_object_le {entries : List (String × Json)} {n : Nat} :
    (Json.object entries).depth ≤ n + 1 ↔ ∀ e ∈ entries, e.2.depth ≤ n := by
  rw [depth, Nat.succ_le_succ_iff]
  induction entries with
  | nil => simp [depthOfEntries]
  | cons e r ih => rw [depthOfEntries, Nat.max_le, ih, List.forall_mem_cons]

/-- Joined texts are as long as each of them. -/
theorem length_le_joinWith (separator : List Char) {t : List Char} {ts : List (List Char)}
    (ht : t ∈ ts) :
    t.length ≤ (joinWith separator ts).length := by
  cases ts with
  | nil => cases ht
  | cons t' ts =>
    rw [joinWith_cons, List.length_append]
    rcases List.mem_cons.mp ht with rfl | ht
    · omega
    · obtain ⟨before, after, rfl⟩ := List.append_of_mem ht
      simp
      omega

/-- Every level takes a character. -/
theorem depth_le_length (v : Json) : v.depth ≤ v.compactChars.length := by
  induction v using induct with
  | null | bool b | int n | float x | text s => exact Nat.zero_le _
  | list items ih =>
    rw [compactChars, List.length_append, List.length_cons]
    refine depth_list_le.mpr fun v hv => (ih v hv).trans ?_
    have h := length_le_joinWith [','] (List.mem_map_of_mem (f := compactChars) hv)
    rw [← compactItems_eq_map] at h
    omega
  | object entries ih =>
    rw [compactChars, List.length_append, List.length_cons]
    refine depth_object_le.mpr fun e he => (ih e he).trans ?_
    have h := length_le_joinWith [','] (List.mem_map_of_mem (f := entryChars) he)
    have hentry : e.2.compactChars.length ≤ (entryChars e).length := by
      simp [entryChars]
      omega
    rw [← compactEntries_eq_map] at h
    omega

/-! ### Drafts of texts -/

/-- What tells the kinds of values apart is no space and ends nothing. -/
theorem not_isSpace_of_kindOf? {c : Char} {k : Kind} (h : kindOf? c = some k) :
    isSpace c = false ∧ c ≠ ']' := by
  constructor
  · rw [← Bool.not_eq_true]
    intro hspace
    simp only [isSpace, Bool.or_eq_true, beq_iff_eq] at hspace
    rcases hspace with ((rfl | rfl) | rfl) | rfl <;> exact absurd h (by decide +revert)
  · rintro rfl
    exact absurd h (by decide +revert)

/-- Nothing is skipped before the text of a value. -/
theorem skipSpace_compactChars {v : Json} (h : v.isFinite) (rest : List Char) :
    skipSpace (v.compactChars ++ rest) = v.compactChars ++ rest := by
  obtain ⟨c, cs, hc, hkind⟩ := exists_compactChars_eq_cons h
  rw [hc, List.cons_append, skipSpace, List.dropWhile_cons, (not_isSpace_of_kindOf? hkind).1]
  rfl

/-- A draft is what the reader makes of the text of a value, wherever it stands, and it denotes the
value. -/
structure IsDraftOf (v : Json) (d : Draft) : Prop where
  /-- The reader makes the draft of the text. -/
  read : ∀ levels, v.depth ≤ levels → ∀ rest, EndsValue rest →
    draftOf levels (v.compactChars ++ rest) = some (d, rest)
  /-- The draft denotes the value. -/
  denotes : ∀ levels, v.depth ≤ levels → d.value? levels = some v

section Parts

variable {item : List Char → Option (Draft × List Char)} {draft : Json → Draft}

/-- Items are read one after another, up to the closing bracket. -/
theorem itemsOf_compactChars {v : Json} {items : List Json}
    (hfinite : ∀ u ∈ v :: items, u.isFinite)
    (hitem : ∀ u ∈ v :: items, ∀ rest, EndsValue rest →
      item (u.compactChars ++ rest) = some (draft u, rest))
    {fuel : Nat} (hfuel : items.length < fuel) (rest : List Char) :
    itemsOf item fuel
        (v.compactChars ++ ((items.map compactChars).flatMap ([','] ++ ·) ++ ']' :: rest)) =
      some ((v :: items).map draft, rest) := by
  obtain ⟨fuel, rfl⟩ : ∃ n, fuel = n + 1 := ⟨fuel - 1, by omega⟩
  have hskip := skipSpace_compactChars (hfinite v List.mem_cons_self)
  have hfirst := hitem v List.mem_cons_self
  induction items generalizing v fuel with
  | nil =>
    have hend : EndsValue (']' :: rest) := rfl
    rw [List.map_nil, List.flatMap_nil, List.nil_append, itemsOf, hskip, hfirst _ hend]
    rfl
  | cons u items ih =>
    rw [List.length_cons] at hfuel
    obtain ⟨fuel, rfl⟩ : ∃ n, fuel = n + 1 := ⟨fuel - 1, by omega⟩
    have hrest := ih (v := u) (fun w hw => hfinite w (List.mem_cons_of_mem v hw))
      (fun w hw => hitem w (List.mem_cons_of_mem v hw)) fuel (by omega)
      (skipSpace_compactChars (hfinite u (by simp))) (hitem u (by simp))
    rw [List.map_cons, List.flatMap_cons, List.append_assoc, List.append_assoc,
      List.singleton_append]
    generalize u.compactChars ++ _ = text at hrest ⊢
    have hend : EndsValue (',' :: text) := rfl
    have hcomma : skipSpace (',' :: text) = ',' :: text := rfl
    rw [itemsOf, hskip, hfirst _ hend]
    simp only [hcomma, hrest]
    rfl

/-- What the reader makes of an entry and what follows it. -/
def entriesAfter (item : List Char → Option (Draft × List Char)) (fuel : Nat)
    (entry : Option String × Draft) (s : List Char) :
    Option (List (Option String × Draft) × List Char) :=
  match skipSpace s with
  | ',' :: rest => (entriesOf item fuel rest).map fun (es, rest) => (entry :: es, rest)
  | '}' :: rest => some ([entry], rest)
  | _ => none

/-- An entry is read, and then what follows it. -/
theorem entriesOf_entryChars {e : String × Json} (hfinite : e.2.isFinite) {d : Draft}
    (hitem : ∀ rest, EndsValue rest → item (e.2.compactChars ++ rest) = some (d, rest)) (fuel : Nat)
    (tail : List Char) (hend : EndsValue tail) :
    entriesOf item (fuel + 1) (entryChars e ++ tail) =
      entriesAfter item fuel (some e.1, d) tail := by
  have hquote (s : List Char) : skipSpace ('"' :: s) = '"' :: s := rfl
  have hcolon (s : List Char) : skipSpace (':' :: s) = ':' :: s := rfl
  rw [entryChars, List.append_assoc, List.cons_append, quote_append, entriesOf, hquote]
  simp only [stringOf_quote, hcolon, skipSpace_compactChars hfinite, hitem tail hend]
  rfl

/-- Entries are read one after another, up to the closing brace. -/
theorem entriesOf_compactChars {e : String × Json} {entries : List (String × Json)}
    (hfinite : ∀ x ∈ e :: entries, x.2.isFinite)
    (hitem : ∀ x ∈ e :: entries, ∀ rest, EndsValue rest →
      item (x.2.compactChars ++ rest) = some (draft x.2, rest))
    {fuel : Nat} (hfuel : entries.length < fuel) (rest : List Char) :
    entriesOf item fuel
        (entryChars e ++ ((entries.map entryChars).flatMap ([','] ++ ·) ++ '}' :: rest)) =
      some ((e :: entries).map fun x => (some x.1, draft x.2), rest) := by
  obtain ⟨fuel, rfl⟩ : ∃ n, fuel = n + 1 := ⟨fuel - 1, by omega⟩
  have hfirst := entriesOf_entryChars (hfinite e List.mem_cons_self) (hitem e List.mem_cons_self)
  induction entries generalizing e fuel with
  | nil =>
    have hend : EndsValue ('}' :: rest) := rfl
    rw [List.map_nil, List.flatMap_nil, List.nil_append, hfirst fuel _ hend]
    rfl
  | cons x entries ih =>
    rw [List.length_cons] at hfuel
    obtain ⟨fuel, rfl⟩ : ∃ n, fuel = n + 1 := ⟨fuel - 1, by omega⟩
    have hrest := ih (e := x) (fun y hy => hfinite y (List.mem_cons_of_mem e hy))
      (fun y hy => hitem y (List.mem_cons_of_mem e hy)) fuel (by omega)
      (entriesOf_entryChars (hfinite x (by simp)) (hitem x (by simp)))
    rw [List.map_cons, List.flatMap_cons, List.append_assoc, List.append_assoc,
      List.singleton_append]
    generalize entryChars x ++ _ = text at hrest ⊢
    have hend : EndsValue (',' :: text) := rfl
    have hcomma : skipSpace (',' :: text) = ',' :: text := rfl
    rw [hfirst _ _ hend, entriesAfter, hcomma]
    simp only [hrest]
    rfl

end Parts

/-! ### Drafts of values -/

/-- A text that begins like a number is read as a literal. -/
theorem draftOf_numeral (levels : Nat) {c : Char} (hc : Decimal.isNumeral c) (s : List Char) :
    draftOf levels (c :: s) =
      (literalOf (c :: s)).map fun (literal, rest) => (.number literal, rest) := by
  rw [draftOf.eq_def]
  dsimp only
  split
  case h_7 => rfl
  all_goals
    rename_i heq
    rw [(List.cons.inj heq).1] at hc
    exact absurd hc (by decide)

/-- A legible number has a draft. -/
theorem IsLegible.isDraftOf {v : Json} (h : v.IsLegible) (hfinite : v.isFinite)
    (hkind : v.kind = .number) : ∃ d, IsDraftOf v d := by
  obtain ⟨l, hread, hvalue⟩ := h
  obtain ⟨hne, hall⟩ := isNumeral_compactChars hfinite hkind
  refine ⟨.number l, fun levels _ rest hrest => ?_, fun levels _ => hvalue⟩
  have happend := literalOf_append hrest hread
  obtain ⟨c, cs, hc⟩ := List.exists_cons_of_ne_nil hne
  rw [hc, List.cons_append] at happend ⊢
  rw [draftOf_numeral levels (hall c (by simp [hc])), happend]
  rfl

/-- The drafts of some items denote the items. -/
theorem values?_map {draft : Json → Draft} {items : List Json} {levels : Nat}
    (h : ∀ v ∈ items, (draft v).value? levels = some v) :
    Draft.values? levels (items.map draft) = some items := by
  induction items with
  | nil => rfl
  | cons v items ih =>
    rw [List.forall_mem_cons] at h
    rw [List.map_cons, Draft.values?, h.1, ih h.2]
    rfl

/-- The drafts of some entries denote the entries. -/
theorem entryValues?_map {draft : Json → Draft} {entries : List (String × Json)} {levels : Nat}
    (h : ∀ e ∈ entries, (draft e.2).value? levels = some e.2) :
    Draft.entryValues? levels (entries.map fun e => (some e.1, draft e.2)) = some entries := by
  induction entries with
  | nil => rfl
  | cons e entries ih =>
    rw [List.forall_mem_cons] at h
    rw [List.map_cons, Draft.entryValues?, h.1, ih h.2]
    rfl

/-- A text with so many parts after commas in it is longer than they are many. -/
theorem lt_length_of_parts (s : List Char) (ts : List (List Char)) (c : Char) (rest : List Char) :
    ts.length < (s ++ (ts.flatMap ([','] ++ ·) ++ c :: rest)).length := by
  induction ts with
  | nil => simp
  | cons t ts ih =>
    simp only [List.flatMap_cons, List.length_append, List.length_cons] at ih ⊢
    omega

/-- The reader goes into a list. -/
theorem draftOf_list {items : List Json} (hfinite : ∀ v ∈ items, v.isFinite) {draft : Json → Draft}
    {levels : Nat} (hitem : ∀ v ∈ items, ∀ rest, EndsValue rest →
      draftOf levels (v.compactChars ++ rest) = some (draft v, rest)) (rest : List Char) :
    draftOf (levels + 1) ((Json.list items).compactChars ++ rest) =
      some (.list (items.map draft), rest) := by
  rw [compactChars, compactItems_eq_map, List.cons_append, List.cons_append, draftOf]
  cases items with
  | nil => rfl
  | cons v items =>
    rw [List.map_cons, joinWith_cons, List.append_assoc, List.append_assoc, List.singleton_append,
      skipSpace_compactChars (hfinite v List.mem_cons_self)]
    have hfuel := lt_length_of_parts v.compactChars (items.map compactChars) ']' rest
    rw [List.length_map] at hfuel
    split
    case h_1 rest' heq =>
      obtain ⟨c, cs, hc, hkind⟩ := exists_compactChars_eq_cons (hfinite v List.mem_cons_self)
      rw [hc, List.cons_append] at heq
      exact absurd (List.cons.inj heq).1 (not_isSpace_of_kindOf? hkind).2
    case h_2 =>
      rw [itemsOf_compactChars hfinite hitem hfuel rest]
      rfl

/-- The reader goes into an object. -/
theorem draftOf_object {entries : List (String × Json)} (hfinite : ∀ e ∈ entries, e.2.isFinite)
    {draft : Json → Draft} {levels : Nat} (hitem : ∀ e ∈ entries, ∀ rest, EndsValue rest →
      draftOf levels (e.2.compactChars ++ rest) = some (draft e.2, rest)) (rest : List Char) :
    draftOf (levels + 1) ((Json.object entries).compactChars ++ rest) =
      some (.object (entries.map fun e => (some e.1, draft e.2)), rest) := by
  rw [compactChars, compactEntries_eq_map, List.cons_append, List.cons_append, draftOf]
  cases entries with
  | nil => rfl
  | cons e entries =>
    have hquote (s : List Char) : skipSpace ('"' :: s) = '"' :: s := rfl
    have hskip (s : List Char) : skipSpace (entryChars e ++ s) = entryChars e ++ s := by
      rw [entryChars, List.append_assoc, quote_append, hquote]
    rw [List.map_cons, joinWith_cons, List.append_assoc, List.append_assoc, List.singleton_append,
      hskip]
    have hfuel := lt_length_of_parts (entryChars e) (entries.map entryChars) '}' rest
    rw [List.length_map] at hfuel
    split
    case h_1 rest' heq =>
      rw [entryChars, List.append_assoc, quote_append] at heq
      exact absurd (List.cons.inj heq).1 (by decide)
    case h_2 =>
      rw [entriesOf_compactChars hfinite hitem hfuel rest]
      rfl

/-- A list has a draft if its items have. -/
theorem exists_isDraftOf_list {items : List Json} (hfinite : ∀ v ∈ items, v.isFinite)
    (h : ∀ v ∈ items, ∃ d, IsDraftOf v d) : ∃ d, IsDraftOf (.list items) d := by
  choose! draft hdraft using h
  refine ⟨.list (items.map draft), fun levels hlevels rest _ => ?_, fun levels hlevels => ?_⟩
  all_goals
    obtain ⟨levels, rfl⟩ : ∃ n, levels = n + 1 := ⟨levels - 1, by rw [depth] at hlevels; omega⟩
    rw [depth_list_le] at hlevels
  · exact draftOf_list hfinite (fun v hv => (hdraft v hv).read levels (hlevels v hv)) rest
  · have hvalues := values?_map fun v hv => (hdraft v hv).denotes levels (hlevels v hv)
    simp [Draft.value?, hvalues]

/-- An object has a draft if the values of its entries have. -/
theorem exists_isDraftOf_object {entries : List (String × Json)}
    (hfinite : ∀ e ∈ entries, e.2.isFinite) (h : ∀ e ∈ entries, ∃ d, IsDraftOf e.2 d) :
    ∃ d, IsDraftOf (.object entries) d := by
  have hvalues : ∀ v ∈ entries.map (·.2), ∃ d, IsDraftOf v d := by
    intro v hv
    obtain ⟨e, he, rfl⟩ := List.mem_map.mp hv
    exact h e he
  choose! draft hdraft using hvalues
  have hdraft : ∀ e ∈ entries, IsDraftOf e.2 (draft e.2) := fun e he =>
    hdraft e.2 (List.mem_map_of_mem he)
  refine ⟨.object (entries.map fun e => (some e.1, draft e.2)), fun levels hlevels rest _ => ?_,
    fun levels hlevels => ?_⟩
  all_goals
    obtain ⟨levels, rfl⟩ : ∃ n, levels = n + 1 := ⟨levels - 1, by rw [depth] at hlevels; omega⟩
    rw [depth_object_le] at hlevels
  · exact draftOf_object hfinite (fun e he => (hdraft e he).read levels (hlevels e he)) rest
  · have hvalues := entryValues?_map fun e he => (hdraft e he).denotes levels (hlevels e he)
    simp [Draft.value?, hvalues]

/-- A finite value has a draft if its numbers are legible. -/
theorem exists_isDraftOf {v : Json} (hfinite : v.isFinite) (h : ∀ n ∈ v.numbers, n.IsLegible) :
    ∃ d, IsDraftOf v d := by
  induction v using induct with
  | null =>
    refine ⟨.null, fun _ _ _ _ => ?_, fun _ _ => rfl⟩
    simp [compactChars, scalarText, draftOf, afterWord?]
  | bool b =>
    refine ⟨.bool b, fun _ _ _ _ => ?_, fun _ _ => rfl⟩
    cases b <;> simp [compactChars, scalarText, draftOf, afterWord?]
  | int n => exact (h _ (by simp [numbers])).isDraftOf hfinite rfl
  | float x => exact (h _ (by simp [numbers])).isDraftOf hfinite rfl
  | text s =>
    refine ⟨.text (some s), fun levels _ rest _ => ?_, fun _ _ => rfl⟩
    rw [compactChars, scalarText, quote_append, draftOf, stringOf_quote]
    · rfl
    all_goals simp
  | list items ih =>
    rw [isFinite_list, List.all_eq_true] at hfinite
    rw [numbers_list] at h
    exact exists_isDraftOf_list hfinite fun v hv =>
      ih v hv (hfinite v hv) fun n hn => h n (List.mem_flatMap_of_mem hv hn)
  | object entries ih =>
    rw [isFinite_object, List.all_eq_true] at hfinite
    rw [numbers_object] at h
    exact exists_isDraftOf_object hfinite fun e he =>
      ih e he (hfinite e he) fun n hn => h n (List.mem_flatMap_of_mem he hn)

/-! ### Reading -/

/-- The compact text of a finite value reads back, if its numbers are legible and it nests no deeper
than the reader goes. -/
theorem read?_compact {v : Json} (hfinite : v.isFinite) (hlegible : ∀ n ∈ v.numbers, n.IsLegible)
    (hdepth : v.depth ≤ maxLevels) : read? v.compact = some v := by
  obtain ⟨d, hread, hdenotes⟩ := exists_isDraftOf hfinite hlegible
  have hlength : v.depth ≤ v.compact.length := by
    rw [compact, String.length_ofList]
    exact v.depth_le_length
  have hdraft : Draft.read? v.compact = some d := by
    have hall := hread v.compact.length hlength [] rfl
    have hskip := skipSpace_compactChars hfinite []
    rw [List.append_nil] at hall hskip
    have hchars : v.compact.toList = v.compactChars := String.toList_ofList
    rw [Draft.read?, hchars, hskip, hall]
    rfl
  rw [read?, hdraft, Option.bind_some, hdenotes maxLevels hdepth]

/-- A float that is read from its text is finite. -/
theorem isFinite_of_read? {x : Float} (h : read? (Json.float x).compact = some (.float x)) :
    x.isFinite := by
  by_contra hnot
  have hnull : (Json.float x).compact = "null" := by
    have htext : (Json.float x).compactChars = (floatText x).toList := rfl
    rw [compact, htext, floatText, if_neg hnot, String.ofList_toList]
  have hread : read? "null" = some .null := by decide +kernel
  rw [hnull, hread] at h
  cases h

/-- What is left of the text of a number is not blank. -/
theorem eq_nil_of_skipSpace {s r : List Char} (hall : ∀ c ∈ s, Decimal.isNumeral c) (h : r <:+ s)
    (hspace : (skipSpace r).isEmpty) : r = [] := by
  rw [List.isEmpty_iff, skipSpace, List.dropWhile_eq_nil_iff] at hspace
  refine List.eq_nil_iff_forall_not_mem.mpr fun c hc => ?_
  have hnumeral := hall c (h.subset hc)
  have hblank := hspace c hc
  simp only [isSpace, Bool.or_eq_true, beq_iff_eq] at hblank
  rcases hblank with ((rfl | rfl) | rfl) | rfl <;> exact absurd hnumeral (by decide)

/-- A float that is read from its text is legible. -/
theorem isLegible_of_read? {x : Float} (h : read? (Json.float x).compact = some (.float x)) :
    IsLegible (.float x) := by
  have hfinite : (Json.float x).isFinite := isFinite_of_read? h
  obtain ⟨hne, hall⟩ := isNumeral_compactChars hfinite rfl
  have hskip := skipSpace_compactChars hfinite []
  rw [List.append_nil] at hskip
  obtain ⟨c, cs, hc⟩ := List.exists_cons_of_ne_nil hne
  rw [read?, Draft.read?, compact, String.toList_ofList, hskip, hc,
    draftOf_numeral _ (hall c (by simp [hc])), ← hc] at h
  cases hliteral : literalOf (Json.float x).compactChars with
  | none =>
    rw [hliteral] at h
    cases h
  | some p =>
    obtain ⟨l, r⟩ := p
    simp only [hliteral, Option.map_some] at h
    split at h
    case isTrue hspace =>
      rw [eq_nil_of_skipSpace hall (suffix_of_literalOf hliteral) hspace] at hliteral
      exact ⟨l, hliteral, h⟩
    case isFalse => cases h

end LiveForm.Json
