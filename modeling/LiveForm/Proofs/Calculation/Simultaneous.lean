import LiveForm.Proofs.Calculation.Guard
import LiveForm.Proofs.Text.Words

/-!
# Replacing all ids at once

Ids are replaced one after the other, each in the text in which those before it have been replaced
already. All at once means that an id is looked for in the expression as it was, outside of what
longer ids have taken. Both give the same text as long as no id can be found across a number that
has been put in: the ids start and end with word characters, so that what is next to an occurrence
stays next to it, and an id that comes later has no word of the number.
-/

namespace LiveForm.Calculation

open Text (isWord words)

/-! ### Marks -/

/-- The text that some pieces were made from. -/
def original (ps : List Piece) : List Char := spell (fun v => v) ps

/-- The last character of the text up to the end of a piece. -/
def Piece.last (before : Option Char) : Piece → Option Char
  | .char c => some c
  | .name v => v.getLast? <|> before

/-- Whether a word stands as a whole word at the start of a text, outside of its names. -/
def isFreeAt (w : List Char) (before : Option Char) (ps : List Piece) : Bool :=
  (w.map .char).isPrefixOf ps && standsAt w before (original ps)

/-- Makes every whole-word occurrence of a word a name, scanning from the left. Names stay as they
are. The character before the text is given, and so many pieces at its start still belong to the
last occurrence. -/
def markFrom (w : List Char) : Option Char → Nat → List Piece → List Piece
  | _, _, [] => []
  | before, skip + 1, p :: ps => markFrom w (p.last before) skip ps
  | before, 0, p :: ps =>
    if isFreeAt w before (p :: ps) then
      .name w :: markFrom w (p.last before) (w.length - 1) ps
    else p :: markFrom w (p.last before) 0 ps

/-- Makes the occurrences of an id names. -/
def mark (ps : List Piece) (id : String) : List Piece := markFrom id.toList none 0 ps

/-- An expression in which the occurrences of ids are marked as names, longer ids first. -/
def marks (expression : String) (ids : List String) : List Piece :=
  (replacementOrder ids).foldl mark (expression.toList.map .char)

/-- An expression with numbers in place of all marks. -/
def replaceAtOnce (expression : String) (ids : List String) (data : FormData) : String :=
  String.ofList (spell (insertedFor data) (marks expression ids))

section

@[simp] theorem original_nil : original [] = [] := rfl

@[simp] theorem original_char (c : Char) (ps : List Piece) :
    original (.char c :: ps) = c :: original ps := rfl

@[simp] theorem original_name (v : List Char) (ps : List Piece) :
    original (.name v :: ps) = v ++ original ps := rfl

@[simp] theorem original_append (ps qs : List Piece) :
    original (ps ++ qs) = original ps ++ original qs := spell_append ps qs

@[simp] theorem original_map_char (s : List Char) : original (s.map .char) = s := spell_map_char s

variable {w : List Char}

/-- The pieces of the last occurrence are left out. -/
theorem markFrom_skip (w s : List Char) (before : Option Char) (ps : List Piece) :
    markFrom w before s.length (s.map .char ++ ps) =
      markFrom w (s.getLast? <|> before) 0 ps := by
  induction s generalizing before with
  | nil => rfl
  | cons c s ih =>
    refine (ih (some c)).trans ?_
    rw [List.getLast?_cons]
    cases s.getLast? <;> rfl

/-- A word that stands freely is marked, and the scan goes on behind it. -/
theorem markFrom_of_standsAt (hw : w ≠ []) {before : Option Char} {ps : List Piece}
    (h : standsAt w before (w ++ original ps)) :
    markFrom w before 0 (w.map .char ++ ps) = .name w :: markFrom w w.getLast? 0 ps := by
  have hfree : isFreeAt w before (w.map .char ++ ps) := by
    simp [isFreeAt, h]
  obtain ⟨c, s, rfl⟩ := List.exists_cons_of_ne_nil hw
  rw [List.map_cons, List.cons_append] at hfree ⊢
  rw [markFrom, if_pos hfree, List.length_cons, Nat.add_sub_cancel, Piece.last, markFrom_skip,
    List.getLast?_cons]
  cases s.getLast? <;> rfl

/-- Elsewhere a piece is kept. -/
theorem markFrom_of_not_isFreeAt {before : Option Char} {p : Piece} {ps : List Piece}
    (h : isFreeAt w before (p :: ps) = false) :
    markFrom w before 0 (p :: ps) = p :: markFrom w (p.last before) 0 ps := by
  simp [markFrom, h]

/-- Follows the scan for a word: at each place the word is marked or the next piece is kept. -/
theorem markFrom_induction (hw : w ≠ []) {P : Option Char → List Piece → Prop}
    (nil : ∀ before, P before [])
    (mark : ∀ before ps, standsAt w before (w ++ original ps) → P w.getLast? ps →
      P before (w.map .char ++ ps))
    (keep : ∀ before p ps, isFreeAt w before (p :: ps) = false → P (p.last before) ps →
      P before (p :: ps))
    (before : Option Char) (ps : List Piece) : P before ps := by
  induction hlength : ps.length using Nat.strong_induction_on generalizing before ps with
  | h n ih =>
    cases ps with
    | nil => exact nil before
    | cons p ps =>
      cases hfree : isFreeAt w before (p :: ps) with
      | false => exact keep before p ps hfree (ih ps.length (by simp [← hlength]) _ _ rfl)
      | true =>
        rw [isFreeAt, Bool.and_eq_true, List.isPrefixOf_iff_prefix] at hfree
        obtain ⟨⟨rest, hrest⟩, hstands⟩ := hfree
        rw [← hrest] at hstands hlength ⊢
        rw [original_append, original_map_char] at hstands
        have hshorter : rest.length < n := by
          have := List.length_pos_iff.mpr hw
          rw [← hlength, List.length_append, List.length_map]
          omega
        exact mark before rest hstands (ih rest.length hshorter _ _ rfl)

/-- Marks leave the text as it was. -/
@[simp] theorem original_markFrom (hw : w ≠ []) (before : Option Char) (ps : List Piece) :
    original (markFrom w before 0 ps) = original ps := by
  induction before, ps using markFrom_induction hw with
  | nil => rfl
  | mark before ps hstands ih => simp [markFrom_of_standsAt hw hstands, ih]
  | keep before p ps hfree ih =>
    rw [markFrom_of_not_isFreeAt hfree]
    cases p <;> simp [ih]

/-- The names are those that were there and the marked word. -/
theorem mem_markFrom (hw : w ≠ []) {before : Option Char} {ps : List Piece} {v : List Char}
    (h : .name v ∈ markFrom w before 0 ps) : v = w ∨ .name v ∈ ps := by
  induction before, ps using markFrom_induction hw with
  | nil => exact .inr h
  | mark before ps hstands ih =>
    rw [markFrom_of_standsAt hw hstands, List.mem_cons, Piece.name.injEq] at h
    rcases h with rfl | h
    · exact .inl rfl
    · exact (ih h).imp_right (List.mem_append_right _)
  | keep before p ps hfree ih =>
    rw [markFrom_of_not_isFreeAt hfree, List.mem_cons] at h
    rcases h with rfl | h
    · exact .inr List.mem_cons_self
    · exact (ih h).imp_right (List.mem_cons_of_mem p)

/-- No name is lost. -/
theorem mem_markFrom_of_mem (hw : w ≠ []) {before : Option Char} {ps : List Piece} {v : List Char}
    (h : .name v ∈ ps) : .name v ∈ markFrom w before 0 ps := by
  induction before, ps using markFrom_induction hw with
  | nil => exact h
  | mark before ps hstands ih =>
    rw [markFrom_of_standsAt hw hstands]
    have hmem : .name v ∈ ps := by simpa using h
    exact List.mem_cons_of_mem _ (ih hmem)
  | keep before p ps hfree ih =>
    rw [markFrom_of_not_isFreeAt hfree]
    rcases List.mem_cons.mp h with rfl | h
    · exact List.mem_cons_self
    · exact List.mem_cons_of_mem p (ih h)

end

/-! ### Names that stand as whole words -/

/-- A text starts and ends with characters that belong to words. -/
structure HasWordEnds (w : List Char) : Prop where
  /-- It starts with one. -/
  first : w.head?.any isWord
  /-- It ends with one. -/
  last : w.getLast?.any isWord

/-- The names of a text, which comes after a character, stand in it as whole words. -/
def NamesStand : Option Char → List Piece → Prop
  | _, [] => True
  | _, .char c :: ps => NamesStand (some c) ps
  | before, .name v :: ps =>
    before.any isWord = false ∧ (original ps).head?.any isWord = false ∧
      NamesStand (v.getLast? <|> before) ps

instance (w : List Char) : Decidable (HasWordEnds w) :=
  decidable_of_iff (w.head?.any isWord ∧ w.getLast?.any isWord)
    ⟨fun h => ⟨h.1, h.2⟩, fun h => ⟨h.first, h.last⟩⟩

section

variable {w : List Char} {before : Option Char} {ps : List Piece}

theorem HasWordEnds.ne_nil (hw : HasWordEnds w) : w ≠ [] := by
  rintro rfl
  exact nomatch hw.first

/-- What comes before a text with ends does not matter for its last character. -/
theorem HasWordEnds.getLast?_orElse (hw : HasWordEnds w) (before : Option Char) :
    (w.getLast? <|> before) = w.getLast? := by
  rw [List.getLast?_eq_some_getLast hw.ne_nil]
  rfl

theorem HasWordEnds.any_isWord (hw : HasWordEnds w) : w.any isWord := by
  obtain ⟨c, s, rfl⟩ := List.exists_cons_of_ne_nil hw.ne_nil
  have hc : isWord c = true := hw.first
  simp [hc]

/-- A text with word ends stands where it is written just if no word goes on at its ends. -/
theorem standsAt_append (hw : HasWordEnds w) {r : List Char} :
    standsAt w before (w ++ r) ↔ before.any isWord = false ∧ r.head?.any isWord = false := by
  have hprefix : w.isPrefixOf (w ++ r) = true :=
    List.isPrefixOf_iff_prefix.mpr (List.prefix_append w r)
  have hhead : (w ++ r).head?.any isWord = true := by
    rw [List.head?_append_of_ne_nil w hw.ne_nil]
    exact hw.first
  rw [standsAt, hprefix, List.drop_left, hw.getLast?_orElse, Text.isBoundary, Text.isBoundary,
    hhead, hw.last]
  simp

/-- Where a text with word ends stands, it is written there, and no word goes on at its ends. -/
theorem exists_of_standsAt (hw : HasWordEnds w) {s : List Char} (h : standsAt w before s) :
    ∃ r, s = w ++ r ∧ before.any isWord = false ∧ r.head?.any isWord = false := by
  have hprefix := h
  simp only [standsAt, Bool.and_eq_true, List.isPrefixOf_iff_prefix] at hprefix
  obtain ⟨⟨⟨r, rfl⟩, -⟩, -⟩ := hprefix
  exact ⟨r, rfl, (standsAt_append hw).mp h⟩

/-- A text with word ends stands only where a word starts. -/
theorem isWord_of_standsAt (hw : HasWordEnds w) {c : Char} {s : List Char}
    (h : standsAt w before (c :: s)) : isWord c := by
  obtain ⟨r, heq, -, -⟩ := exists_of_standsAt hw h
  have hfirst := hw.first
  rw [← List.head?_append_of_ne_nil w hw.ne_nil, ← heq] at hfirst
  exact hfirst

/-- Characters before the names do not matter, up to the last of them. -/
theorem namesStand_map_char_append (s : List Char) (before : Option Char) (ps : List Piece) :
    NamesStand before (s.map .char ++ ps) ↔ NamesStand (s.getLast? <|> before) ps := by
  induction s generalizing before with
  | nil => rfl
  | cons c s ih =>
    refine (ih (some c)).trans ?_
    rw [List.getLast?_cons]
    cases s.getLast? <;> rfl

/-- Marked words stand as whole words. -/
theorem NamesStand.markFrom (hw : HasWordEnds w) (h : NamesStand before ps) :
    NamesStand before (markFrom w before 0 ps) := by
  induction before, ps using markFrom_induction hw.ne_nil with
  | nil => trivial
  | mark before ps hstands ih =>
    rw [namesStand_map_char_append, hw.getLast?_orElse] at h
    rw [markFrom_of_standsAt hw.ne_nil hstands]
    obtain ⟨hbefore, hbehind⟩ := (standsAt_append hw).mp hstands
    refine ⟨hbefore, ?_, ?_⟩
    · rw [original_markFrom hw.ne_nil]
      exact hbehind
    · rw [hw.getLast?_orElse]
      exact ih h
  | keep before p ps hfree ih =>
    rw [markFrom_of_not_isFreeAt hfree]
    cases p with
    | char c => exact ih h
    | name v =>
      obtain ⟨hbefore, hbehind, hrest⟩ := h
      refine ⟨hbefore, ?_, ih hrest⟩
      rw [original_markFrom hw.ne_nil]
      exact hbehind

/-- After a word character no name comes next, so that the next character stays in the text. -/
theorem NamesStand.head?_spell (h : NamesStand before ps) (hbefore : before.any isWord)
    (text : List Char → List Char) : (spell text ps).head? = (original ps).head? := by
  cases ps with
  | nil => rfl
  | cons p ps =>
    cases p with
    | char c => rfl
    | name v =>
      rw [h.1] at hbefore
      cases hbefore

/-- A text in pieces is some characters, and then a name, if there is one. -/
theorem exists_chars_append (ps : List Piece) :
    ∃ (s : List Char) (rest : List Piece), ps = s.map .char ++ rest ∧
      (rest = [] ∨ ∃ v qs, rest = .name v :: qs) := by
  induction ps with
  | nil => exact ⟨[], [], rfl, .inl rfl⟩
  | cons p ps ih =>
    cases p with
    | char c =>
      obtain ⟨s, rest, rfl, hrest⟩ := ih
      exact ⟨c :: s, rest, rfl, hrest⟩
    | name v => exact ⟨[], _, rfl, .inr ⟨v, ps, rfl⟩⟩

end

/-! ### Words in a text with numbers -/

section

variable {w : List Char} {before : Option Char} {ps : List Piece}
  {value : List Char → List Char}

/-- A word is found where it is written in characters of the expression. -/
theorem isFreeAt_of_spell (hw : HasWordEnds w) (value : List Char → List Char)
    (hstand : NamesStand before (w.map .char ++ ps)) (hbefore : before.any isWord = false)
    (hbehind : (spell value ps).head?.any isWord = false) :
    isFreeAt w before (w.map .char ++ ps) := by
  rw [namesStand_map_char_append, hw.getLast?_orElse] at hstand
  rw [hstand.head?_spell hw.last] at hbehind
  rw [isFreeAt, original_append, original_map_char, (standsAt_append hw).mpr ⟨hbefore, hbehind⟩]
  simp

/-- A word that goes on from characters of the expression into a number has a word of the number. -/
theorem exists_common_word_of_append {s t r : List Char} {v : List Char}
    (hw : HasWordEnds (s ++ t)) (hs : s ≠ []) (ht : t ≠ []) (hv : HasWordEnds v)
    (hvalue : (value v).any isWord) (hstand : NamesStand before (s.map .char ++ .name v :: ps))
    (hspell : value v ++ spell value ps = t ++ r) (hr : r.head?.any isWord = false) :
    ∃ u ∈ words (s ++ t), u ∈ words (value v) := by
  rw [namesStand_map_char_append] at hstand
  obtain ⟨hlast, hbehind, hrest⟩ := hstand
  rw [hv.getLast?_orElse] at hrest
  rw [← hrest.head?_spell hv.last value] at hbehind
  -- the word ends in the rest, and the character before it belongs to no word
  have hword : t.any isWord := by
    have hend := hw.last
    rw [List.getLast?_append_of_ne_nil s ht, List.getLast?_eq_some_getLast ht] at hend
    exact List.any_eq_true.mpr ⟨_, List.getLast_mem ht, hend⟩
  obtain ⟨u, huvalue, hut⟩ := Text.exists_common_word hspell hvalue hword hbehind hr
  obtain ⟨front, d, rfl⟩ := (List.eq_nil_or_concat' s).resolve_left hs
  rw [List.getLast?_concat] at hlast
  refine ⟨u, ?_, huvalue⟩
  rw [List.append_assoc, List.singleton_append, Text.words_append_cons hlast]
  exact List.mem_append_right _ hut

/-- A word that does not begin in a number is found only where it stands in the expression. -/
theorem isFreeAt_of_standsAt (hw : HasWordEnds w) (hvalue : ∀ v, (value v).any isWord)
    (hwords : ∀ v, .name v ∈ ps → HasWordEnds v ∧ ∀ u ∈ words w, u ∉ words (value v))
    (hstand : NamesStand before ps) (hhead : ∀ v, ps.head? ≠ some (.name v))
    (h : standsAt w before (spell value ps)) : isFreeAt w before ps := by
  obtain ⟨r, hspell, hbefore, hr⟩ := exists_of_standsAt hw h
  obtain ⟨s, rest, rfl, hrest⟩ := exists_chars_append ps
  rw [spell_append, spell_map_char, List.append_eq_append_iff] at hspell
  rcases hspell with ⟨t, rfl, hvalues⟩ | ⟨t, rfl, rfl⟩
  · by_cases ht : t = []
    · -- the word ends with the characters
      subst ht
      rw [List.append_nil] at hw ⊢
      refine isFreeAt_of_spell hw value hstand hbefore ?_
      rw [hvalues]
      exact hr
    · -- the word goes on in a number
      exfalso
      rcases hrest with rfl | ⟨v, qs, rfl⟩
      · rw [spell_nil] at hvalues
        exact ht (List.append_eq_nil_iff.mp hvalues.symm).1
      · have hs : s ≠ [] := by
          rintro rfl
          exact hhead v rfl
        obtain ⟨hv, hdisjoint⟩ := hwords v (by simp)
        rw [spell_name] at hvalues
        obtain ⟨u, hu, hu'⟩ :=
          exists_common_word_of_append hw hs ht hv (hvalue v) hstand hvalues hr
        exact hdisjoint u hu hu'
  · -- the word ends within the characters
    rw [List.map_append, List.append_assoc] at hstand ⊢
    refine isFreeAt_of_spell hw value hstand hbefore ?_
    rw [spell_append, spell_map_char]
    exact hr

/-- A number is copied that has no word of the word that is looked for. -/
theorem replaceFrom_value (hw : HasWordEnds w) (repl : List Char) {x y r : List Char}
    (hr : r.head?.any isWord = false) (hwords : ∀ u ∈ words w, u ∉ words (y ++ x))
    (hbefore : y ≠ [] → before = y.getLast?) : ∃ before',
      replaceFrom w repl before 0 (x ++ r) = x ++ replaceFrom w repl before' 0 r := by
  -- the induction is on what is left of the number, after a part that has been copied
  induction x generalizing y before with
  | nil => exact ⟨before, rfl⟩
  | cons c x ih =>
    have hstands : standsAt w before (c :: (x ++ r)) = false := by
      rw [← Bool.not_eq_true]
      intro hstands
      obtain ⟨t, heq, hnone, ht⟩ := exists_of_standsAt hw hstands
      have hword : (c :: x).any isWord := by simp [isWord_of_standsAt hw hstands]
      have heq' : (c :: x) ++ r = w ++ t := heq
      obtain ⟨u, hux, huw⟩ := Text.exists_common_word heq' hword hw.any_isWord hr ht
      refine hwords u huw ?_
      rcases List.eq_nil_or_concat' y with rfl | ⟨front, d, rfl⟩
      · exact hux
      · rw [hbefore (by simp), List.getLast?_concat] at hnone
        rw [List.append_assoc, List.singleton_append, Text.words_append_cons hnone]
        exact List.mem_append_right _ hux
    have hcopied : ∀ u ∈ words w, u ∉ words ((y ++ [c]) ++ x) := by
      rw [List.append_assoc]
      exact hwords
    obtain ⟨before', hrest⟩ := @ih (some c) _ hcopied fun _ => List.getLast?_concat.symm
    refine ⟨before', ?_⟩
    rw [List.cons_append, replaceFrom, if_neg (by simp [hstands]), hrest]
    rfl

/-- A word that stands at the start of a text is replaced, and the scan goes on behind it. -/
theorem replaceFrom_of_standsAt (hw : w ≠ []) (repl : List Char) {r : List Char}
    (h : standsAt w before (w ++ r)) : ∃ before',
      replaceFrom w repl before 0 (w ++ r) = repl ++ replaceFrom w repl before' 0 r := by
  obtain ⟨c, s, rfl⟩ := List.exists_cons_of_ne_nil hw
  obtain ⟨before', hrest⟩ := replaceFrom_skip repl (c :: s) s (some c) r
  refine ⟨before', ?_⟩
  rw [List.cons_append] at h
  simp [replaceFrom, h, hrest]

/-- Replacing a word in a text with numbers puts its number in where it is marked in the
expression. -/
theorem replaceFrom_spell_markFrom (hw : HasWordEnds w) (hvalue : ∀ v, (value v).any isWord)
    (hwords : ∀ v, .name v ∈ ps → HasWordEnds v ∧ ∀ u ∈ words w, u ∉ words (value v))
    (hstand : NamesStand before ps) {before' : Option Char}
    (hbefore : (original ps).head?.any isWord → before = before') :
    replaceFrom w (value w) before' 0 (spell value ps) =
      spell value (markFrom w before 0 ps) := by
  induction before, ps using markFrom_induction hw.ne_nil generalizing before' with
  | nil => rfl
  | mark before ps hstands ih =>
    have hfirst : (original (w.map .char ++ ps)).head?.any isWord := by
      rw [original_append, original_map_char, List.head?_append_of_ne_nil w hw.ne_nil]
      exact hw.first
    rw [namesStand_map_char_append, hw.getLast?_orElse] at hstand
    obtain ⟨hnone, hbehind⟩ := (standsAt_append hw).mp hstands
    rw [markFrom_of_standsAt hw.ne_nil hstands, spell_append, spell_map_char, spell_name]
    have hspelled : standsAt w before' (w ++ spell value ps) := by
      rw [standsAt_append hw, hstand.head?_spell hw.last, ← hbefore hfirst]
      exact ⟨hnone, hbehind⟩
    obtain ⟨last, hreplaced⟩ := replaceFrom_of_standsAt hw.ne_nil (value w) hspelled
    rw [hreplaced, ih (fun v hv => hwords v (List.mem_append_right _ hv)) hstand]
    intro hhead
    rw [hbehind] at hhead
    cases hhead
  | keep before p ps hfree ih =>
    have hrest := fun v hv => hwords v (List.mem_cons_of_mem p hv)
    rw [markFrom_of_not_isFreeAt hfree]
    cases p with
    | char c =>
      have hnot : standsAt w before' (c :: spell value ps) = false := by
        rw [← Bool.not_eq_true]
        intro hstands
        have hc := isWord_of_standsAt hw hstands
        rw [← hbefore hc] at hstands
        have hfound := isFreeAt_of_standsAt hw hvalue hwords hstand (by simp) hstands
        rw [hfree] at hfound
        cases hfound
      rw [spell_char, spell_char, replaceFrom, if_neg (by simp [hnot])]
      exact congrArg _ (ih hrest hstand fun _ => rfl)
    | name v =>
      obtain ⟨hv, hdisjoint⟩ := hwords v List.mem_cons_self
      obtain ⟨-, hbehind, hstand⟩ := hstand
      rw [hv.getLast?_orElse] at hstand
      have hend := hbehind
      rw [← hstand.head?_spell hv.last value] at hend
      have hfresh : ([] : List Char) ≠ [] → before' = none := fun hne => absurd rfl hne
      obtain ⟨last, hcopied⟩ := replaceFrom_value hw (value w) hend hdisjoint hfresh
      rw [spell_name, spell_name, hcopied]
      rw [← hv.getLast?_orElse before] at hstand
      refine congrArg _ (ih hrest hstand fun hhead => ?_)
      rw [hbehind] at hhead
      cases hhead

end

/-! ### The order of replacement -/

/-- Ids are replaced in an order. -/
theorem goesBefore_trans {a b c : String} (h : goesBefore a b) (h' : goesBefore b c) :
    goesBefore a c := by
  simp only [goesBefore, Bool.or_eq_true, Bool.and_eq_true, decide_eq_true_eq, beq_iff_eq] at *
  rcases h with h | ⟨h, hlt⟩ <;> rcases h' with h' | ⟨h', hlt'⟩
  · exact .inl (h'.trans h)
  · exact .inl (h' ▸ h)
  · exact .inl (h ▸ h')
  · exact .inr ⟨h.trans h', String.lt_trans hlt hlt'⟩

/-- Of two ids one is replaced before the other. -/
theorem goesBefore_of_not {a b : String} (hne : a ≠ b) (h : goesBefore a b = false) :
    goesBefore b a := by
  simp only [goesBefore, Bool.or_eq_false_iff, Bool.and_eq_false_iff, decide_eq_false_iff_not,
    beq_eq_false_iff_ne] at h
  simp only [goesBefore, Bool.or_eq_true, Bool.and_eq_true, decide_eq_true_eq, beq_iff_eq]
  obtain ⟨hsize, hsame⟩ := h
  rcases Nat.lt_or_ge a.utf8ByteSize b.utf8ByteSize with hlt | hge
  · exact .inl hlt
  · have heq : b.utf8ByteSize = a.utf8ByteSize := by omega
    have hnot : ¬ a < b := hsame.resolve_left (· heq.symm)
    exact .inr ⟨heq, lt_of_le_of_ne (not_lt.mp hnot) hne.symm⟩

/-- An id is put into its place. -/
theorem pairwise_insertId {id : String} {l : List String} (h : l.Pairwise (goesBefore · ·)) :
    (insertId id l).Pairwise (goesBefore · ·) := by
  induction l with
  | nil => exact List.pairwise_singleton _ _
  | cons other l ih =>
    obtain ⟨hother, hl⟩ := List.pairwise_cons.mp h
    unfold insertId
    split
    case isTrue => exact h
    case isFalse hne =>
      split
      case isTrue hbefore =>
        refine List.pairwise_cons.mpr ⟨fun x hx => ?_, h⟩
        rcases List.mem_cons.mp hx with rfl | hx
        · exact hbefore
        · exact goesBefore_trans hbefore (hother x hx)
      case isFalse hnot =>
        refine List.pairwise_cons.mpr ⟨fun x hx => ?_, ih hl⟩
        rcases mem_insertId.mp hx with rfl | hx
        · exact goesBefore_of_not hne (by simpa using hnot)
        · exact hother x hx

/-- Each id comes after those that are replaced before it. -/
theorem pairwise_replacementOrder (ids : List String) :
    (replacementOrder ids).Pairwise (goesBefore · ·) := by
  unfold replacementOrder
  induction ids.filter isUsableId with
  | nil => exact .nil
  | cons id l ih => exact pairwise_insertId ih

/-! ### All ids -/

/-- Digits belong to words. -/
theorem isWord_of_isDigit {c : Char} (h : Decimal.isDigit c) : isWord c := by
  have hascii : c.toNat < 0x80 := by
    have := (Decimal.isDigit_iff.mp h).2
    omega
  have hdigit : c.isDigit := h
  rw [Text.isWord, if_pos hascii]
  simp [Text.isAsciiWord, Char.isAlphanum, hdigit]

/-- The digits of a number are at least one. -/
theorem any_isDigit_toDigits (n : Nat) : (Nat.toDigits 10 n).any Decimal.isDigit := by
  obtain ⟨c, s, hdigits⟩ := List.exists_cons_of_ne_nil (Nat.toDigits_ne_nil (b := 10) (n := n))
  have hall := Decimal.all_isDigit_toDigits n
  rw [hdigits, List.all_cons, Bool.and_eq_true] at hall
  simp [hdigits, hall.1]

/-- Digits around a point are at least one. -/
theorem any_isDigit_positional (d : Decimal.Digits) : d.positional.any Decimal.isDigit := by
  have hdigits : (Decimal.digitChars d.coefficient).any Decimal.isDigit := any_isDigit_toDigits _
  unfold Decimal.Digits.positional
  simp only
  split
  · rw [List.any_append, hdigits, Bool.true_or]
  · generalize hpadded : List.replicate _ '0' ++ Decimal.digitChars d.coefficient = padded
    have hany : padded.any Decimal.isDigit := by
      rw [← hpadded, List.any_append, hdigits, Bool.or_true]
    rw [← List.take_append_drop (padded.length - (-d.exponent).toNat) padded, List.any_append,
      Bool.or_eq_true] at hany
    rw [List.any_append, List.any_cons, Bool.or_eq_true, Bool.or_eq_true]
    exact hany.imp_right .inr

/-- The size of a number is written with a digit. -/
theorem any_isDigit_size (x : Float) : (Decimal.plainLayout.size x).any Decimal.isDigit := by
  unfold Decimal.Layout.size
  simp [Decimal.plainLayout, any_isDigit_positional]

/-- A finite number is written with a digit. -/
theorem any_isDigit_numberText {x : Float} (h : x.isFinite) :
    (Json.numberText x).toList.any Decimal.isDigit := by
  unfold Json.numberText
  split
  case h_1 n hn =>
    rw [Int.toString_eq_repr, Int.repr_eq_if]
    split
    · rw [Nat.toList_repr]
      exact any_isDigit_toDigits _
    · rw [String.toList_append, List.any_append, Nat.toList_repr, any_isDigit_toDigits,
        Bool.or_true]
  case h_2 =>
    rw [Decimal.Layout.render, Double.isNaN_of_isFinite h, Double.isInf_of_isFinite h]
    simp only [Bool.false_eq_true, if_false, String.toList_ofList]
    rw [List.any_append, any_isDigit_size, Bool.or_true]

/-- What is put in for an id has a word. -/
theorem any_isWord_insertedFor (data : FormData) (v : List Char) :
    (insertedFor data v).any isWord := by
  have hnumber : (Json.numberText (numberOf data (String.ofList v))).toList.any isWord := by
    obtain ⟨c, hc, hdigit⟩ :=
      List.any_eq_true.mp (any_isDigit_numberText (isFinite_numberOf data (String.ofList v)))
    exact List.any_eq_true.mpr ⟨c, hc, isWord_of_isDigit hdigit⟩
  unfold insertedFor insertedText
  split
  · rw [String.toList_append, String.toList_append, List.any_append, List.any_append, hnumber]
    simp
  · exact hnumber

section

variable {data : FormData} {order : List String} {ps : List Piece}

/-- Marking more ids leaves the text as it was. -/
theorem original_foldl_mark (h : ∀ id ∈ order, id.toList ≠ []) :
    original (order.foldl mark ps) = original ps := by
  induction order generalizing ps with
  | nil => rfl
  | cons id order ih =>
    rw [List.foldl_cons, ih fun i hi => h i (List.mem_cons_of_mem id hi), mark,
      original_markFrom (h id List.mem_cons_self)]

/-- Marking more ids loses no name. -/
theorem mem_foldl_mark (hends : ∀ id ∈ order, HasWordEnds id.toList) {v : List Char}
    (h : .name v ∈ ps) : .name v ∈ order.foldl mark ps := by
  induction order generalizing ps with
  | nil => exact h
  | cons id order ih =>
    refine ih (fun i hi => hends i (List.mem_cons_of_mem id hi)) ?_
    exact mem_markFrom_of_mem (hends id List.mem_cons_self).ne_nil h

/-- Replacing ids in their order puts the numbers in where they are marked. -/
theorem foldl_substituteId_spell (hends : ∀ id ∈ order, HasWordEnds id.toList)
    (horder : order.Pairwise (goesBefore · ·)) (hstand : NamesStand none ps)
    (hnames : ∀ v, .name v ∈ ps → HasWordEnds v)
    (hwords : ∀ v, .name v ∈ order.foldl mark ps → ∀ id ∈ order,
      .name v ∈ ps ∨ goesBefore (String.ofList v) id →
        ∀ u ∈ words id.toList, u ∉ words (insertedFor data v)) :
    order.foldl (substituteId data) (spell (insertedFor data) ps) =
      spell (insertedFor data) (order.foldl mark ps) := by
  induction order generalizing ps with
  | nil => rfl
  | cons id order ih =>
    obtain ⟨hfirst, hlater⟩ := List.pairwise_cons.mp horder
    have hid := hends id List.mem_cons_self
    have hrest := fun i hi => hends i (List.mem_cons_of_mem id hi)
    have hkept : ∀ v, .name v ∈ ps → .name v ∈ order.foldl mark (mark ps id) := fun v hv =>
      mem_foldl_mark hrest (mem_markFrom_of_mem hid.ne_nil hv)
    have hstep : substituteId data (spell (insertedFor data) ps) id =
        spell (insertedFor data) (mark ps id) := by
      have hvalue : (insertedText (numberOf data id)).toList = insertedFor data id.toList := by
        rw [insertedFor, String.ofList_toList]
      rw [substituteId, replaceWord, hvalue, mark]
      refine replaceFrom_spell_markFrom hid (any_isWord_insertedFor data) (fun v hv => ?_) hstand
        fun _ => rfl
      exact ⟨hnames v hv, hwords v (hkept v hv) id List.mem_cons_self (.inl hv)⟩
    rw [List.foldl_cons, List.foldl_cons, hstep]
    refine ih hrest hlater (hstand.markFrom hid) (fun v hv => ?_) fun v hv i hi hbefore => ?_
    · rcases mem_markFrom hid.ne_nil hv with rfl | hv
      · exact hid
      · exact hnames v hv
    · refine hwords v hv i (List.mem_cons_of_mem id hi) ?_
      rcases hbefore with hmarked | hbefore
      · rcases mem_markFrom hid.ne_nil hmarked with rfl | hv
        · rw [String.ofList_toList]
          exact .inr (hfirst i hi)
        · exact .inl hv
      · exact .inr hbefore

end

/-- Marks take nothing from an expression and add nothing to it. -/
theorem original_marks (expression : String) (ids : List String) :
    original (marks expression ids) = expression.toList := by
  rw [marks, original_foldl_mark, original_map_char]
  intro id hid hnil
  have husable := (mem_replacementOrder.mp hid).2
  simp [isUsableId, hnil] at husable

/-- A number that has been put in is not looked at again. If the ids that can stand in an expression
start and end with word characters, and no id has a word of the number that is put in for an id
before it, then replacing one id after the other is replacing all at once: each id where it stands
in the expression as a whole word and outside of what the ids before it have taken. -/
theorem substitute_eq_replaceAtOnce {expression : String} {ids : List String} {data : FormData}
    (hends : ∀ id ∈ ids, isUsableId id → HasWordEnds id.toList)
    (hwords : ∀ v, .name v ∈ marks expression ids → ∀ id ∈ ids, isUsableId id →
      goesBefore (String.ofList v) id → ∀ u ∈ words id.toList, u ∉ words (insertedFor data v)) :
    substitute expression ids data = replaceAtOnce expression ids data := by
  have hchars (v : List Char) : .name v ∉ expression.toList.map Piece.char := by simp
  have hstand : NamesStand none (expression.toList.map .char) := by
    rw [← List.append_nil (expression.toList.map Piece.char), namesStand_map_char_append]
    trivial
  have hends' : ∀ id ∈ replacementOrder ids, HasWordEnds id.toList := by
    intro id hid
    obtain ⟨hmem, husable⟩ := mem_replacementOrder.mp hid
    exact hends id hmem husable
  rw [substitute, replaceAtOnce, marks, ← foldl_substituteId_spell hends'
    (pairwise_replacementOrder ids) hstand (fun v hv => absurd hv (hchars v)) ?_, spell_map_char]
  intro v hv id hid hbefore
  obtain ⟨hmem, husable⟩ := mem_replacementOrder.mp hid
  exact hwords v hv id hmem husable (hbefore.resolve_left (hchars v))

/-- Ids with a hyphen and a digit in them, one of which starts with another one. -/
theorem substitute_eq_replaceAtOnce_price :
    let ids := ["unit", "net_2", "unit-price"]
    let data : FormData :=
      .ofList [("unit", .int 3), ("net_2", .int 2), ("unit-price", .float (-1.5))]
    substitute "unit-price*(unit-net_2)" ids data =
        replaceAtOnce "unit-price*(unit-net_2)" ids data ∧
      replaceAtOnce "unit-price*(unit-net_2)" ids data = "(-1.5)*(3-2)" := by
  intro ids data
  have hnames : ∀ v, .name v ∈ marks "unit-price*(unit-net_2)" ids → v ∈ ids.map String.toList := by
    have hmarks : marks "unit-price*(unit-net_2)" ids = [.name "unit-price".toList, .char '*',
      .char '(', .name "unit".toList, .char '-', .name "net_2".toList, .char ')'] := by decide +kernel
    intro v hv
    rw [hmarks] at hv
    simp only [List.mem_cons, Piece.name.injEq, reduceCtorEq, false_or, List.not_mem_nil,
      or_false] at hv
    rcases hv with rfl | rfl | rfl <;> simp [ids]
  have hwords : ∀ v ∈ ids.map String.toList, ∀ id ∈ ids, isUsableId id →
      goesBefore (String.ofList v) id →
        ∀ u ∈ words id.toList, u ∉ words (insertedFor data v) := by decide +kernel
  refine ⟨substitute_eq_replaceAtOnce ?_ fun v hv => hwords v (hnames v hv), by decide +kernel⟩
  decide +kernel

/-- A number is looked at again if a later id has a word of it, or does not start with a word
character. In the first expression `surcharge` gives way to 2, which makes up the id `rate-2`. In
the second one the end of 1.5 is the id `.5`. -/
theorem substitute_ne_replaceAtOnce :
    let ids := ["rate", "surcharge", "rate-2", "price", ".5"]
    let data : FormData := .ofList
      [("rate", .int 10), ("surcharge", .int 2), ("rate-2", .int 7), ("price", .float 1.5),
        (".5", .int 7)]
    (∀ id ∈ ids, isUsableId id) ∧
      substitute "rate-surcharge" ids data = "7" ∧
      replaceAtOnce "rate-surcharge" ids data = "10-2" ∧
      substitute "price*2" ids data = "17*2" ∧
      replaceAtOnce "price*2" ids data = "1.5*2" := by
  decide +kernel

end LiveForm.Calculation
