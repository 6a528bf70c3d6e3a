import LiveForm.Proofs.Calculation.Grammar
import LiveForm.Proofs.Text.Word
import Mathlib.Data.List.Chain

/-!
# Putting values in for names

A text of the grammar falls into pieces, which are names and single characters. Names stand apart,
so that each is found as a whole word and nothing else is, and putting in the value of one name
leaves the others to be found. So the order of replacement does not matter, and in the end every
name has been replaced by its text.
-/

namespace LiveForm.Calculation

/-- A piece of a text: a name, or a single character. -/
inductive Piece where
  | char (c : Char)
  | name (v : List Char)
  deriving DecidableEq, Repr

/-- The text of some pieces, with a text for each name. -/
def spell (text : List Char → List Char) (ps : List Piece) : List Char :=
  ps.flatMap fun
    | .char c => [c]
    | .name v => text v

section

variable {text : List Char → List Char}

@[simp] theorem spell_nil : spell text [] = [] := rfl

@[simp] theorem spell_char (c : Char) (ps : List Piece) :
    spell text (.char c :: ps) = c :: spell text ps := rfl

@[simp] theorem spell_name (v : List Char) (ps : List Piece) :
    spell text (.name v :: ps) = text v ++ spell text ps := rfl

@[simp] theorem spell_append (ps qs : List Piece) :
    spell text (ps ++ qs) = spell text ps ++ spell text qs := List.flatMap_append

@[simp] theorem spell_map_char (s : List Char) : spell text (s.map .char) = s := by
  induction s with
  | nil => rfl
  | cons c s ih => rw [List.map_cons, spell_char, ih]

end

/-- What pieces spell depends on the texts of their names. -/
theorem spell_congr {text text' : List Char → List Char} {ps : List Piece}
    (h : ∀ v, .name v ∈ ps → text v = text' v) : spell text ps = spell text' ps := by
  refine List.flatMap_congr fun p hp => ?_
  cases p with
  | char c => rfl
  | name v => exact h v hp

/-- A text is a word. -/
structure IsWholeWord (v : List Char) : Prop where
  /-- It has word characters only. -/
  word : v.all Text.isWord
  /-- It has at least one character. -/
  ne_nil : v ≠ []

/-- A name is a word that does not start with a digit. -/
structure IsName (v : List Char) : Prop where
  /-- It has word characters only. -/
  word : v.all Text.isWord
  /-- It has at least one character. -/
  ne_nil : v ≠ []
  /-- It starts with something other than a digit. -/
  start : v.head?.any Decimal.isDigit = false

theorem IsName.isWholeWord {v : List Char} (h : IsName v) : IsWholeWord v := ⟨h.word, h.ne_nil⟩

/-- Whether no name starts with a character. -/
def isPlain (c : Char) : Bool := !Text.isWord c || Decimal.isDigit c

/-- Whether two pieces may stand next to each other: a name has no word characters next to it. -/
def Piece.Apart : Piece → Piece → Prop
  | .char _, .char _ => True
  | .char c, .name _ => Text.isWord c = false
  | .name _, .char c => Text.isWord c = false
  | .name _, .name _ => False

/-- Pieces in which the names can be found. -/
structure WellSpaced (ps : List Piece) : Prop where
  /-- No name starts with one of the single characters. -/
  plain : ∀ c, .char c ∈ ps → isPlain c
  /-- The names are words. -/
  names : ∀ v, .name v ∈ ps → IsWholeWord v
  /-- Names stand apart. -/
  apart : ps.IsChain Piece.Apart

namespace WellSpaced

variable {ps qs : List Piece}

theorem tail {p : Piece} (h : WellSpaced (p :: ps)) : WellSpaced ps where
  plain c hc := h.plain c (List.mem_cons_of_mem p hc)
  names v hv := h.names v (List.mem_cons_of_mem p hv)
  apart := h.apart.tail

theorem nil : WellSpaced [] where
  plain _ hc := nomatch hc
  names _ hv := nomatch hv
  apart := .nil

/-- Pieces may be joined by a character that belongs to no word. -/
theorem join (hps : WellSpaced ps) (hqs : WellSpaced qs) {c : Char} (hc : Text.isWord c = false) :
    WellSpaced (ps ++ .char c :: qs) where
  plain d hd := by
    rcases List.mem_append.mp hd with hd | hd
    · exact hps.plain d hd
    · rcases List.mem_cons.mp hd with heq | hd
      · cases heq
        simp [isPlain, hc]
      · exact hqs.plain d hd
  names v hv := by
    rcases List.mem_append.mp hv with hv | hv
    · exact hps.names v hv
    · rcases List.mem_cons.mp hv with heq | hv
      · cases heq
      · exact hqs.names v hv
  apart := by
    have hleft (p : Piece) : p.Apart (.char c) := by
      cases p with
      | char d => trivial
      | name v => exact hc
    have hright (q : Piece) : Piece.Apart (.char c) q := by
      cases q with
      | char d => trivial
      | name v => exact hc
    rw [List.isChain_append, List.isChain_cons]
    refine ⟨hps.apart, ⟨fun q _ => hright q, hqs.apart⟩, ?_⟩
    rintro p - q hq
    cases hq
    exact hleft p

/-- Characters with which no name starts are pieces by themselves. -/
theorem ofChars {s : List Char} (hs : s.all isPlain) : WellSpaced (s.map .char) where
  plain c hc := by
    obtain ⟨d, hd, hdc⟩ := List.mem_map.mp hc
    rw [Piece.char.injEq] at hdc
    rw [← hdc]
    exact List.all_eq_true.mp hs d hd
  names v hv := by
    obtain ⟨d, hd⟩ := List.mem_map.mp hv
    exact nomatch hd.2
  apart := by
    rw [List.isChain_map]
    exact (List.pairwise_of_forall fun _ _ => trivial).isChain

/-- A word is a piece by itself. -/
theorem ofWord {v : List Char} (hv : IsWholeWord v) : WellSpaced [.name v] where
  plain c hc := by simp at hc
  names u hu := by
    rw [List.mem_singleton] at hu
    cases hu
    exact hv
  apart := .singleton _

/-- A piece stands apart from a name that comes next. -/
theorem apart_head {p : Piece} {v : List Char} (h : WellSpaced (p :: ps))
    (hv : ps.head? = some (.name v)) : p.Apart (.name v) := by
  cases ps with
  | nil => cases hv
  | cons q ps =>
    cases hv
    exact (List.isChain_cons_cons.mp h.apart).1

/-- After a name no word goes on. -/
theorem head_spell {v : List Char} (h : WellSpaced (.name v :: ps))
    (text : List Char → List Char) : (spell text ps).head?.any Text.isWord = false := by
  cases ps with
  | nil => rfl
  | cons p ps =>
    have hapart := (List.isChain_cons_cons.mp h.apart).1
    cases p with
    | char c => exact hapart
    | name u => exact hapart.elim

end WellSpaced

/-- A name is a word character, not a digit, and the rest of the name. -/
theorem IsName.exists_cons {v : List Char} (h : IsName v) :
    ∃ c r, v = c :: r ∧ Text.isWord c ∧ Decimal.isDigit c = false ∧ r.all Text.isWord := by
  obtain ⟨c, r, rfl⟩ := List.exists_cons_of_ne_nil h.ne_nil
  have hword := h.word
  rw [List.all_cons, Bool.and_eq_true] at hword
  exact ⟨c, r, rfl, hword.1, h.start, hword.2⟩

section

variable {w repl : List Char}

/-- No name stands where a plain character is. -/
theorem standsAt_of_isPlain (hw : IsName w) (before : Option Char) {c : Char} (hc : isPlain c)
    (r : List Char) : standsAt w before (c :: r) = false := by
  obtain ⟨d, w, rfl, hword, hdigit, -⟩ := hw.exists_cons
  have hne : (d == c) = false := by
    rw [beq_eq_false_iff_ne]
    rintro rfl
    simp [isPlain, hword, hdigit] at hc
  simp [standsAt, List.isPrefixOf, hne]

/-- No name stands inside a word. -/
theorem standsAt_inside (w : List Char) {b c : Char} (hb : Text.isWord b) (hc : Text.isWord c)
    (r : List Char) : standsAt w (some b) (c :: r) = false := by
  simp [standsAt, Text.isBoundary, hb, hc]

/-- Where a word ends as a whole word there is no word character. -/
theorem not_isWord_of_standsAt (hw : IsName w) {before : Option Char} {s : List Char}
    (h : standsAt w before s) :
    ∃ r, s = w ++ r ∧ r.head?.any Text.isWord = false := by
  simp only [standsAt, Bool.and_eq_true, List.isPrefixOf_iff_prefix] at h
  obtain ⟨⟨⟨r, rfl⟩, -⟩, hend⟩ := h
  refine ⟨r, rfl, ?_⟩
  have hlast : Text.isWord (w.getLast hw.ne_nil) :=
    List.all_eq_true.mp hw.word _ (List.getLast_mem hw.ne_nil)
  rw [List.drop_left, List.getLast?_eq_some_getLast hw.ne_nil] at hend
  simpa [Text.isBoundary, hlast] using hend

/-- A name stands where it is written as a whole word. -/
theorem standsAt_self (hw : IsName w) {before : Option Char}
    (hbefore : before.any Text.isWord = false) {r : List Char}
    (hr : r.head?.any Text.isWord = false) : standsAt w before (w ++ r) := by
  have hlast : Text.isWord (w.getLast hw.ne_nil) :=
    List.all_eq_true.mp hw.word _ (List.getLast_mem hw.ne_nil)
  have hprefix : w.isPrefixOf (w ++ r) = true :=
    List.isPrefixOf_iff_prefix.mpr (List.prefix_append w r)
  have hstart : Text.isBoundary before (w ++ r).head? = true := by
    obtain ⟨c, w, rfl, hc, -, -⟩ := hw.exists_cons
    simp [Text.isBoundary, hbefore, hc]
  have hend : Text.isBoundary (w.getLast? <|> before) ((w ++ r).drop w.length).head? = true := by
    rw [List.drop_left, List.getLast?_eq_some_getLast hw.ne_nil]
    simp [Text.isBoundary, hlast, hr]
  rw [standsAt, hprefix, hstart, hend]
  rfl

/-- A name stands only where just this name is written. -/
theorem standsAt_other (hw : IsName w) (before : Option Char) {v : List Char} (hv : IsWholeWord v)
    (hne : v ≠ w) {r : List Char} (hr : r.head?.any Text.isWord = false) :
    standsAt w before (v ++ r) = false := by
  rw [← Bool.not_eq_true]
  intro hstands
  obtain ⟨t, heq, ht⟩ := not_isWord_of_standsAt hw hstands
  have hword := (takeWhile_run r hv.word hr).1
  rw [heq, (takeWhile_run t hw.word ht).1] at hword
  exact hne hword.symm

variable (repl)

/-- Characters where no name starts are copied. -/
theorem replaceFrom_plain (hw : IsName w) {s : List Char} (hs : s.all isPlain)
    (before : Option Char) (r : List Char) : ∃ before',
      replaceFrom w repl before 0 (s ++ r) = s ++ replaceFrom w repl before' 0 r := by
  induction s generalizing before with
  | nil => exact ⟨before, rfl⟩
  | cons c s ih =>
    rw [List.all_cons, Bool.and_eq_true] at hs
    obtain ⟨before', hrest⟩ := ih hs.2 (some c)
    refine ⟨before', ?_⟩
    simp [replaceFrom, standsAt_of_isPlain hw before hs.1, hrest]

/-- The inside of a word is copied. -/
theorem replaceFrom_inside (w : List Char) {s : List Char} (hs : s.all Text.isWord) {b : Char}
    (hb : Text.isWord b) (r : List Char) : ∃ before',
      replaceFrom w repl (some b) 0 (s ++ r) = s ++ replaceFrom w repl before' 0 r := by
  induction s generalizing b with
  | nil => exact ⟨some b, rfl⟩
  | cons c s ih =>
    rw [List.all_cons, Bool.and_eq_true] at hs
    obtain ⟨before', hrest⟩ := ih hs.2 hs.1
    refine ⟨before', ?_⟩
    simp [replaceFrom, standsAt_inside w hb hs.1, hrest]

/-- The rest of an occurrence is left out. -/
theorem replaceFrom_skip (w s : List Char) (before : Option Char) (r : List Char) : ∃ before',
    replaceFrom w repl before s.length (s ++ r) = replaceFrom w repl before' 0 r := by
  induction s generalizing before with
  | nil => exact ⟨before, rfl⟩
  | cons c s ih =>
    obtain ⟨before', hrest⟩ := ih (some c)
    exact ⟨before', hrest⟩

/-- Another word is copied. -/
theorem replaceFrom_other (hw : IsName w) {v : List Char} (hv : IsWholeWord v) (hne : v ≠ w)
    (before : Option Char) {r : List Char} (hr : r.head?.any Text.isWord = false) : ∃ before',
      replaceFrom w repl before 0 (v ++ r) = v ++ replaceFrom w repl before' 0 r := by
  have hstands := standsAt_other hw before hv hne hr
  obtain ⟨c, v, rfl⟩ := List.exists_cons_of_ne_nil hv.ne_nil
  have hword := hv.word
  rw [List.all_cons, Bool.and_eq_true] at hword
  obtain ⟨before', hrest⟩ := replaceFrom_inside repl w hword.2 hword.1 r
  refine ⟨before', ?_⟩
  rw [List.cons_append] at hstands
  simp [replaceFrom, hstands, hrest]

/-- The name itself is replaced. -/
theorem replaceFrom_self (hw : IsName w) {before : Option Char}
    (hbefore : before.any Text.isWord = false) {r : List Char}
    (hr : r.head?.any Text.isWord = false) : ∃ before',
      replaceFrom w repl before 0 (w ++ r) = repl ++ replaceFrom w repl before' 0 r := by
  have hstands := standsAt_self hw hbefore hr
  obtain ⟨c, w, rfl, -⟩ := hw.exists_cons
  obtain ⟨before', hrest⟩ := replaceFrom_skip repl (c :: w) w (some c) r
  refine ⟨before', ?_⟩
  rw [List.cons_append] at hstands
  simp [replaceFrom, hstands, hrest]

end

/-- The text of a name while some ids have been replaced: its value if it is one of them. -/
def textAfter (value : List Char → List Char) (done : List String) (v : List Char) : List Char :=
  if String.ofList v ∈ done then value v else v

/-- Replacing one more id changes the text of a name just if it is the name of that id. -/
theorem replaceFrom_textAfter {value : List Char → List Char} {done : List String}
    (hvalue : ∀ v, String.ofList v ∈ done → (value v).all isPlain) {id : String}
    (hid : IsName id.toList) {v : List Char} (hv : IsWholeWord v) {before : Option Char}
    (hbefore : before.any Text.isWord = false) {r : List Char}
    (hr : r.head?.any Text.isWord = false) : ∃ before',
      replaceFrom id.toList (value id.toList) before 0 (textAfter value done v ++ r) =
        textAfter value (id :: done) v ++
          replaceFrom id.toList (value id.toList) before' 0 r := by
  by_cases hdone : String.ofList v ∈ done
  · -- a name that has been replaced before
    have htext : textAfter value done v = value v := if_pos hdone
    have htext' : textAfter value (id :: done) v = value v :=
      if_pos (List.mem_cons_of_mem id hdone)
    rw [htext, htext']
    exact replaceFrom_plain (value id.toList) hid (hvalue v hdone) before r
  · have htext : textAfter value done v = v := if_neg hdone
    rw [htext]
    by_cases heq : v = id.toList
    · -- the name that is replaced now
      subst heq
      have htext' : textAfter value (id :: done) id.toList = value id.toList :=
        if_pos (by simp)
      rw [htext']
      exact replaceFrom_self (value id.toList) hid hbefore hr
    · -- a name that is still to be replaced
      have htext' : textAfter value (id :: done) v = v := by
        refine if_neg fun hmem => ?_
        rcases List.mem_cons.mp hmem with hid' | hmem
        · exact heq (by rw [← hid', String.toList_ofList])
        · exact hdone hmem
      rw [htext']
      exact replaceFrom_other (value id.toList) hid hv heq before hr

/-- Replacing one more id changes what the pieces spell just for the name of that id. -/
theorem replaceFrom_spell {value : List Char → List Char} {done : List String}
    (hvalue : ∀ v, String.ofList v ∈ done → (value v).all isPlain) {id : String}
    (hid : IsName id.toList) {ps : List Piece} (hps : WellSpaced ps) (before : Option Char)
    (hbefore : ∀ v, ps.head? = some (.name v) → before.any Text.isWord = false) :
    replaceFrom id.toList (value id.toList) before 0 (spell (textAfter value done) ps) =
      spell (textAfter value (id :: done)) ps := by
  induction ps generalizing before with
  | nil => rfl
  | cons p ps ih =>
    cases p with
    | char c =>
      have hplain := hps.plain c List.mem_cons_self
      have hnext : ∀ v, ps.head? = some (.name v) → (some c).any Text.isWord = false :=
        fun v hv => hps.apart_head hv
      rw [spell_char, spell_char, ← ih hps.tail (some c) hnext]
      simp [replaceFrom, standsAt_of_isPlain hid before hplain]
    | name v =>
      have hv := hps.names v List.mem_cons_self
      rw [spell_name, spell_name]
      obtain ⟨before', hcopy⟩ := replaceFrom_textAfter hvalue hid hv (hbefore v rfl)
        (hps.head_spell (textAfter value done))
      -- no name stands right after a name
      rw [hcopy, ih hps.tail before' fun u hu => (hps.apart_head hu).elim]

/-- The text that is put in for a name. -/
def insertedFor (data : FormData) (v : List Char) : List Char :=
  (insertedText (numberOf data (String.ofList v))).toList

/-- Replacing some ids one after the other puts in the values of all of them. -/
theorem foldl_substituteId {data : FormData} {order : List String}
    (horder : ∀ id ∈ order, IsName id.toList)
    (hplain : ∀ id ∈ order, (insertedFor data id.toList).all isPlain) (done : List String)
    (hdone : ∀ v, String.ofList v ∈ done → (insertedFor data v).all isPlain) {ps : List Piece}
    (hps : WellSpaced ps) :
    order.foldl (substituteId data) (spell (textAfter (insertedFor data) done) ps) =
      spell (textAfter (insertedFor data) (order.reverse ++ done)) ps := by
  induction order generalizing done with
  | nil => rfl
  | cons id order ih =>
    have hid := horder id List.mem_cons_self
    have hstep : substituteId data (spell (textAfter (insertedFor data) done) ps) id =
        spell (textAfter (insertedFor data) (id :: done)) ps := by
      rw [← replaceFrom_spell hdone hid hps none (by simp)]
      simp [substituteId, replaceWord, insertedFor]
    have hdone' : ∀ v, String.ofList v ∈ id :: done → (insertedFor data v).all isPlain := by
      intro v hv
      rcases List.mem_cons.mp hv with rfl | hv
      · have := hplain _ List.mem_cons_self
        rwa [String.toList_ofList] at this
      · exact hdone v hv
    rw [List.foldl_cons, hstep, ih (fun i hi => horder i (List.mem_cons_of_mem id hi))
      (fun i hi => hplain i (List.mem_cons_of_mem id hi)) (id :: done) hdone']
    simp

theorem mem_insertId {id x : String} {l : List String} : x ∈ insertId id l ↔ x = id ∨ x ∈ l := by
  induction l with
  | nil => simp [insertId]
  | cons other l ih =>
    unfold insertId
    split
    case isTrue heq =>
      subst heq
      simp
    case isFalse =>
      split
      · simp
      · simp only [List.mem_cons, ih]
        tauto

/-- The ids that are replaced are those that can stand in an expression. -/
theorem mem_replacementOrder {ids : List String} {id : String} :
    id ∈ replacementOrder ids ↔ id ∈ ids ∧ isUsableId id := by
  have hfold (l : List String) : id ∈ l.foldr insertId [] ↔ id ∈ l := by
    induction l with
    | nil => rfl
    | cons other l ih => rw [List.foldr_cons, mem_insertId, ih, List.mem_cons]
  rw [replacementOrder, hfold, List.mem_filter]

/-- Ids that are names can stand in an expression. -/
theorem isUsableId_of_isName {id : String} (h : IsName id.toList) : isUsableId id := by
  obtain ⟨c, r, hcons, -, hdigit, -⟩ := h.exists_cons
  simp [isUsableId, hcons, hdigit]

/-- Whether an id is a word that does not start with a digit. The empty word is one as well. -/
def isWordId (id : String) : Bool :=
  id.toList.all Text.isWord && !id.toList.head?.any Decimal.isDigit

/-- A word that is not empty and does not start with a digit is a name. -/
theorem isName_of_isWordId {id : String} (h : isWordId id) (hne : id.toList ≠ []) :
    IsName id.toList := by
  rw [isWordId, Bool.and_eq_true, Bool.not_eq_true'] at h
  exact ⟨h.1, hne, h.2⟩

/-- A word that is an id of the form, where ids are words, is one of those that are replaced. -/
theorem mem_replacementOrder_of_isWholeWord {ids : List String}
    (hids : ∀ id ∈ ids, isWordId id) {v : List Char} (hv : IsWholeWord v) :
    String.ofList v ∈ replacementOrder ids ↔ String.ofList v ∈ ids := by
  rw [mem_replacementOrder]
  refine and_iff_left_of_imp fun hmem => isUsableId_of_isName ?_
  refine isName_of_isWordId (hids _ hmem) ?_
  rw [String.toList_ofList]
  exact hv.ne_nil

/-- In a text in pieces every name that is an id of the form gives way to its value, and the other
words stay. -/
theorem substitute_pieces {ids : List String} (hids : ∀ id ∈ ids, isWordId id) {data : FormData}
    (hplain : ∀ id ∈ ids, (insertedFor data id.toList).all isPlain) {ps : List Piece}
    (hps : WellSpaced ps) :
    substitute (String.ofList (spell (fun v => v) ps)) ids data =
      String.ofList (spell (textAfter (insertedFor data) ids) ps) := by
  have horder : ∀ id ∈ replacementOrder ids, IsName id.toList := by
    intro id hid
    rw [mem_replacementOrder] at hid
    refine isName_of_isWordId (hids id hid.1) fun hnil => ?_
    simp [isUsableId, hnil] at hid
  have hfold := foldl_substituteId horder
    (fun id hid => hplain id (mem_replacementOrder.mp hid).1) [] (by simp) hps
  have hstart : textAfter (insertedFor data) [] = fun v => v := by
    funext v
    exact if_neg List.not_mem_nil
  have hend : spell (textAfter (insertedFor data) ((replacementOrder ids).reverse ++ [])) ps =
      spell (textAfter (insertedFor data) ids) ps := by
    refine spell_congr fun v hv => ?_
    have hmem := mem_replacementOrder_of_isWholeWord hids (hps.names v hv)
    simp only [textAfter, List.append_nil, List.mem_reverse, hmem]
  rw [hstart] at hfold
  rw [substitute, String.toList_ofList, hfold, hend]

/-- In a text in pieces whose names are ids of the form, every name gives way to its value. -/
theorem substitute_spell {ids : List String} (hids : ∀ id ∈ ids, isWordId id) {data : FormData}
    (hplain : ∀ id ∈ ids, (insertedFor data id.toList).all isPlain) {ps : List Piece}
    (hps : WellSpaced ps) (hnames : ∀ v, .name v ∈ ps → String.ofList v ∈ ids) :
    substitute (String.ofList (spell (fun v => v) ps)) ids data =
      String.ofList (spell (insertedFor data) ps) := by
  rw [substitute_pieces hids hplain hps]
  congr 1
  exact spell_congr fun v hv => if_pos (hnames v hv)

/-- Some pieces make up a text with names of a kind. -/
structure MakeUp (names : List Char → Float → Prop) (ps : List Piece) (s : List Char) : Prop where
  /-- The names can be found. -/
  wellSpaced : WellSpaced ps
  /-- The pieces spell the text. -/
  spelled : spell (fun v => v) ps = s
  /-- The names are of the kind. -/
  named : ∀ v, .name v ∈ ps → ∃ x, names v x

/-- Texts of pieces may be joined by a character that belongs to no word. -/
theorem MakeUp.join {names : List Char → Float → Prop} {ps qs : List Piece} {s t : List Char}
    (h : MakeUp names ps s) (h' : MakeUp names qs t) {c : Char} (hc : Text.isWord c = false) :
    MakeUp names (ps ++ .char c :: qs) (s ++ c :: t) where
  wellSpaced := h.wellSpaced.join h'.wellSpaced hc
  spelled := by rw [spell_append, spell_char, h.spelled, h'.spelled]
  named v hv := by
    rcases List.mem_append.mp hv with hv | hv
    · exact h.named v hv
    · rcases List.mem_cons.mp hv with heq | hv
      · cases heq
      · exact h'.named v hv

/-- No pieces make up the empty text. -/
theorem MakeUp.nil {names : List Char → Float → Prop} : MakeUp names [] [] :=
  ⟨.nil, rfl, fun _ hv => nomatch hv⟩

/-- A text is made up of pieces that, with a primary of two levels in place of each name, spell
arithmetic of a value, which takes two levels more. -/
def HasPieces (names : List Char → Float → Prop) (part : Part) (n : Nat) (s : List Char)
    (x : Float) : Prop :=
  ∃ ps, MakeUp names ps s ∧
    ∀ text : List Char → List Char, (∀ v y, names v y → Arithmetic .primary 2 (text v) y) →
      Arithmetic part (n + 2) (spell text ps) x

namespace HasPieces

variable {names : List Char → Float → Prop} {p q r : Part} {m n k : Nat} {s t : List Char}
  {x y z : Float} {c : Char}

/-- The same pieces may be arithmetic of another part of the grammar. -/
theorem weaken (h : HasPieces names p n s x)
    (hbuild : ∀ u, Arithmetic p (n + 2) u x → Arithmetic q (n + 2) u x) :
    HasPieces names q n s x := by
  obtain ⟨ps, hps, hput⟩ := h
  exact ⟨ps, hps, fun text h => hbuild _ (hput text h)⟩

/-- Texts with pieces may be joined by a character that belongs to no word. -/
theorem join (h : HasPieces names p m s x) (h' : HasPieces names q n t y)
    (hc : Text.isWord c = false)
    (hbuild : ∀ u v, Arithmetic p (m + 2) u x → Arithmetic q (n + 2) v y →
      Arithmetic r (k + 2) (u ++ c :: v) z) : HasPieces names r k (s ++ c :: t) z := by
  obtain ⟨ps, hps, hput⟩ := h
  obtain ⟨qs, hqs, hput'⟩ := h'
  refine ⟨_, hps.join hqs hc, fun text h => ?_⟩
  rw [spell_append, spell_char]
  exact hbuild _ _ (hput text h) (hput' text h)

/-- A text with pieces may have a character before it that belongs to no word. -/
theorem before (h : HasPieces names p m s x) (hc : Text.isWord c = false)
    (hbuild : ∀ u, Arithmetic p (m + 2) u x → Arithmetic q (n + 2) (c :: u) y) :
    HasPieces names q n (c :: s) y := by
  obtain ⟨ps, hps, hput⟩ := h
  exact ⟨_, MakeUp.nil.join hps hc, fun text h => hbuild _ (hput text h)⟩

/-- A text with pieces may have a character after it that belongs to no word. -/
theorem after (h : HasPieces names p m s x) (hc : Text.isWord c = false)
    (hbuild : ∀ u, Arithmetic p (m + 2) u x → Arithmetic q (n + 2) (u ++ [c]) y) :
    HasPieces names q n (s ++ [c]) y := by
  obtain ⟨ps, hps, hput⟩ := h
  refine ⟨_, hps.join .nil hc, fun text h => ?_⟩
  rw [spell_append]
  exact hbuild _ (hput text h)

/-- The characters of a literal are pieces by themselves. -/
theorem number (h : Literal s x) : HasPieces names .primary n s x := by
  have hplain : s.all isPlain := by
    refine List.all_eq_true.mpr fun c hc => ?_
    have hin := h.inLiteral c hc
    rw [inLiteral, Bool.or_eq_true, beq_iff_eq] at hin
    rcases hin with hdigit | rfl
    · simp [isPlain, hdigit]
    · decide
  refine ⟨s.map .char, ⟨.ofChars hplain, spell_map_char s, ?_⟩, fun text _ => ?_⟩
  · intro v hv
    obtain ⟨c, -, hc⟩ := List.mem_map.mp hv
    cases hc
  · rw [spell_map_char]
    exact .number h

/-- A name is a piece by itself. -/
theorem name (hname : IsName s) (h : names s x) : HasPieces names .primary n s x := by
  refine ⟨[.name s], ⟨.ofWord hname.isWholeWord, by simp, ?_⟩, fun text htext => ?_⟩
  · intro v hv
    rw [List.mem_singleton] at hv
    cases hv
    exact ⟨x, h⟩
  · rw [spell_name, spell_nil, List.append_nil]
    exact (htext s x h).mono (by omega)

end HasPieces

/-- A text of the grammar is made up of pieces. With a primary of two levels in place of each name
it keeps its value and takes two levels more. -/
theorem Phrase.pieces {names : List Char → Float → Prop} (hnames : ∀ v x, names v x → IsName v)
    {part : Part} {n : Nat} {s : List Char} {x : Float} (h : Phrase names part n s x) :
    HasPieces names part n s x := by
  induction h with
  | ofProduct _ ih => exact ih.weaken fun _ => .ofProduct
  | ofFactor _ ih => exact ih.weaken fun _ => .ofFactor
  | ofPower _ ih => exact ih.weaken fun _ => .ofPower
  | ofPrimary _ ih => exact ih.weaken fun _ => .ofPrimary
  | add _ _ ih ih' => exact ih.join ih' (by decide) fun _ _ => .add
  | subtract _ _ ih ih' => exact ih.join ih' (by decide) fun _ _ => .subtract
  | multiply _ _ ih ih' => exact ih.join ih' (by decide) fun _ _ => .multiply
  | divide _ _ ih ih' => exact ih.join ih' (by decide) fun _ _ => .divide
  | plus _ ih => exact ih.before (by decide) fun _ => .plus
  | minus _ ih => exact ih.before (by decide) fun _ => .minus
  | blankBefore hc _ ih =>
    exact ih.before (Text.not_isWord_of_isBlank hc) fun _ => .blankBefore hc
  | blankAfter hc _ ih => exact ih.after (Text.not_isWord_of_isBlank hc) fun _ => .blankAfter hc
  | number h => exact .number h
  | name h => exact .name (hnames _ _ h) h
  -- two characters at once: neither text with only one of them is arithmetic
  | raise _ _ ih ih' =>
    obtain ⟨ps, hps, hput⟩ := ih
    obtain ⟨qs, hqs, hput'⟩ := ih'
    refine ⟨_, hps.join (MakeUp.nil.join hqs (by decide)) (by decide), fun text h => ?_⟩
    rw [spell_append, spell_char, spell_append, spell_char]
    exact .raise (hput text h) (hput' text h)
  | parentheses _ ih =>
    obtain ⟨ps, hps, hput⟩ := ih
    refine ⟨_, MakeUp.nil.join (hps.join .nil (by decide)) (by decide), fun text h => ?_⟩
    rw [List.nil_append, spell_char, spell_append]
    exact .parentheses (hput text h)

end LiveForm.Calculation
