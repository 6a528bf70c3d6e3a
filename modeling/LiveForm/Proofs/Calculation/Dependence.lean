import LiveForm.Proofs.Calculation.Evaluation
import LiveForm.Proofs.Json.Sameness
import Mathlib.Data.Set.Basic

/-!
# What a calculation depends on

A number is put into an expression as text in which no name can be found. So replacing one id makes
no other id occur, and an id that an expression does not mention is never replaced: the value of a
calculation depends on the numbers of the fields that it mentions, and on nothing else.
-/

namespace LiveForm

namespace Decimal

/-- The digits of a number are safe. -/
theorem isSafeChar_of_mem_toDigits {n : Nat} {c : Char} (h : c ∈ Nat.toDigits 10 n) :
    Calculation.isSafeChar c := by
  have hdigit := List.all_eq_true.mp (all_isDigit_toDigits n) c h
  simp [Calculation.isSafeChar, hdigit]

/-- Digits around a point are safe. -/
theorem isSafeChar_positional (d : Digits) : d.positional.all Calculation.isSafeChar := by
  have hzeros : ∀ n, ∀ c ∈ List.replicate n '0', Calculation.isSafeChar c := by
    intro n c hc
    rw [List.eq_of_mem_replicate hc]
    rfl
  refine List.all_eq_true.mpr fun c hc => ?_
  unfold Digits.positional at hc
  dsimp only at hc
  split at hc
  · rcases List.mem_append.mp hc with hc | hc
    · exact isSafeChar_of_mem_toDigits hc
    · exact hzeros _ c hc
  · generalize hpadded : List.replicate _ '0' ++ digitChars d.coefficient = padded at hc
    have hall : ∀ c ∈ padded, Calculation.isSafeChar c := by
      intro c hc
      rw [← hpadded] at hc
      rcases List.mem_append.mp hc with hc | hc
      · exact hzeros _ c hc
      · exact isSafeChar_of_mem_toDigits hc
    rcases List.mem_append.mp hc with hc | hc
    · exact hall c (List.mem_of_mem_take hc)
    · rcases List.mem_cons.mp hc with rfl | hc
      · rfl
      · exact hall c (List.mem_of_mem_drop hc)

end Decimal

namespace Calculation

/-! ### Numbers as text -/

/-- A finite number is written in safe characters. -/
theorem isSafeChar_numberText {x : Float} (h : x.isFinite) :
    (Json.numberText x).toList.all isSafeChar := by
  unfold Json.numberText
  split
  case h_1 n hn =>
    have hdigits (m : Nat) : (Nat.repr m).toList.all isSafeChar := by
      rw [Nat.toList_repr]
      exact List.all_eq_true.mpr fun c hc => Decimal.isSafeChar_of_mem_toDigits hc
    rw [Int.toString_eq_repr, Int.repr_eq_if]
    split
    · exact hdigits _
    · rw [String.toList_append, List.all_append, hdigits]
      rfl
  case h_2 =>
    have hsize : (Decimal.plainLayout.size x).all isSafeChar := by
      unfold Decimal.Layout.size
      simp [Decimal.plainLayout, Decimal.isSafeChar_positional]
    rw [Decimal.Layout.render, Double.isNaN_of_isFinite h, Double.isInf_of_isFinite h]
    simp only [Bool.false_eq_true, if_false, String.toList_ofList]
    rw [List.all_append, hsize]
    split <;> rfl

/-- What is put in for a finite number is safe. -/
theorem isSafeChar_insertedText {x : Float} (h : x.isFinite) :
    (insertedText x).toList.all isSafeChar := by
  have htext := isSafeChar_numberText h
  unfold insertedText
  split
  · rw [String.toList_append, String.toList_append, List.all_append, List.all_append, htext]
    rfl
  · exact htext

/-- What is put in for a finite number has no names in it. -/
theorem isPlain_insertedText {x : Float} (h : x.isFinite) :
    (insertedText x).toList.all isPlain := by
  have hsafe := List.all_eq_true.mp (isSafeChar_insertedText h)
  exact List.all_eq_true.mpr fun c hc => isPlain_of_isSafeChar (hsafe c hc)

/-- Both zeros are put in as the same text. -/
theorem insertedText_readNumber (data : FormData) (id : String) :
    insertedText (readNumber data id) = insertedText (numberOf data id) := by
  unfold readNumber
  split
  case isTrue hzero =>
    rcases Json.eq_or_zeros_of_beq hzero with heq | ⟨heq, -⟩ | ⟨heq, -⟩
    · rw [heq]
    · rw [heq]
    · rw [heq]
      rfl
  case isFalse => rfl

/-- An id stands for the same number in data that has the same value for it. -/
theorem readNumber_of_sameValue {d d' : FormData} {id : String}
    (h : FieldState.sameValue (d.get? id) (d'.get? id)) : readNumber d id = readNumber d' id := by
  have hzero : (if (0.0 : Float) == 0.0 then 0.0 else 0.0 : Float) =
      if (-0.0 : Float) == 0.0 then 0.0 else -0.0 := rfl
  unfold readNumber numberOf
  rcases Json.asNumber_of_sameValue h with heq | ⟨h₁, h₂⟩ | ⟨h₁, h₂⟩
  · rw [heq]
  · rw [h₁, h₂, hzero]
  · rw [h₁, h₂, hzero]

/-! ### Occurrences -/

/-- No name starts with a character of no word. -/
theorem isPlain_of_not_isWord {c : Char} (h : Text.isWord c = false) : isPlain c := by
  simp [isPlain, h]

section

variable {u w repl : List Char}

/-- Where a word is not written, nothing is replaced. -/
theorem replaceFrom_of_not_occursFrom {before : Option Char} {s : List Char}
    (h : occursFrom w before s = false) : replaceFrom w repl before 0 s = s := by
  induction s generalizing before with
  | nil => rfl
  | cons c s ih =>
    rw [occursFrom, Bool.or_eq_false_iff] at h
    simp [replaceFrom, h.1, ih h.2]

/-- An occurrence in the end of a text, whatever comes before it, is an occurrence in the text. -/
theorem occursFrom_append {r : List Char} (h : ∀ before, occursFrom w before r)
    (before : Option Char) (s : List Char) : occursFrom w before (s ++ r) := by
  induction s generalizing before with
  | nil => exact h before
  | cons c s ih => rw [List.cons_append, occursFrom, ih (some c), Bool.or_true]

/-- After plain text a name occurs only in what follows. -/
theorem occursFrom_of_isPlain (hu : IsName u) {s : List Char} (hs : s.all isPlain)
    {before : Option Char} {r : List Char} (h : occursFrom u before (s ++ r)) :
    ∃ before', occursFrom u before' r := by
  induction s generalizing before with
  | nil => exact ⟨before, h⟩
  | cons c s ih =>
    rw [List.all_cons, Bool.and_eq_true] at hs
    rw [List.cons_append, occursFrom, standsAt_of_isPlain hu before hs.1, Bool.false_or] at h
    exact ih hs.2 h

/-- A name occurs in a text that starts with a character of no word just if it occurs after it. -/
theorem occursFrom_of_not_isWord (hu : IsName u) {before : Option Char} {s : List Char}
    (hs : s.head?.any Text.isWord = false) (h : occursFrom u before s) (before' : Option Char) :
    occursFrom u before' s := by
  cases s with
  | nil =>
    obtain ⟨r, hr, -⟩ := not_isWord_of_standsAt hu h
    exact absurd (List.append_eq_nil_iff.mp hr.symm).1 hu.ne_nil
  | cons c s =>
    rw [List.head?_cons, Option.any_some] at hs
    rw [occursFrom, standsAt_of_isPlain hu before (isPlain_of_not_isWord hs), Bool.false_or] at h
    rw [occursFrom, h, Bool.or_true]

/-- A text that starts with a character of no word still does when a name has been replaced. -/
theorem not_isWord_head_replaceFrom (hw : IsName w) {s : List Char}
    (hs : s.head?.any Text.isWord = false) (before : Option Char) :
    (replaceFrom w repl before 0 s).head?.any Text.isWord = false := by
  cases s with
  | nil => rfl
  | cons c s =>
    rw [List.head?_cons, Option.any_some] at hs
    simpa [replaceFrom, standsAt_of_isPlain hw before (isPlain_of_not_isWord hs)] using hs

/-- Before a name that stands as a whole word there is no word character. -/
theorem not_isWord_before (hw : IsName w) {before : Option Char} {s : List Char}
    (h : standsAt w before s) : before.any Text.isWord = false := by
  obtain ⟨r, rfl, -⟩ := not_isWord_of_standsAt hw h
  obtain ⟨c, w, rfl, hc, -⟩ := hw.exists_cons
  cases before with
  | none => rfl
  | some b =>
    rw [Option.any_some, ← Bool.not_eq_true]
    intro hb
    rw [List.cons_append, standsAt_inside _ hb hc] at h
    cases h

/-- A name that stands before a text in which another has been replaced also stands before the text
as it was. -/
theorem standsAt_of_replaceFrom (hu : IsName u) (hw : IsName w) {before before' : Option Char}
    (hbefore : before.any Text.isWord = before'.any Text.isWord) {c : Char} {s : List Char}
    (h : standsAt u before' (c :: replaceFrom w repl (some c) 0 s)) :
    standsAt u before (c :: s) := by
  obtain ⟨r, hr, hend⟩ := not_isWord_of_standsAt hu h
  obtain ⟨c', u, rfl, hc, -, hrest⟩ := hu.exists_cons
  rw [List.cons_append, List.cons.injEq] at hr
  obtain ⟨rfl, hr⟩ := hr
  -- the word that goes on after the first character is copied
  have hword : (s.takeWhile Text.isWord).all Text.isWord :=
    List.all_eq_true.mpr fun d hd => List.mem_takeWhile_imp hd
  have hafter : (s.dropWhile Text.isWord).head?.any Text.isWord = false := by
    cases hdrop : s.dropWhile Text.isWord with
    | nil => rfl
    | cons d t =>
      have hd := List.head?_dropWhile_not Text.isWord s
      rw [hdrop] at hd
      simpa using hd
  obtain ⟨b, hcopy⟩ := replaceFrom_inside repl w hword hc (s.dropWhile Text.isWord)
  rw [List.takeWhile_append_dropWhile] at hcopy
  have hafter' : (replaceFrom w repl b 0 (s.dropWhile Text.isWord)).head?.any Text.isWord = false :=
    not_isWord_head_replaceFrom hw hafter b
  have hsame : s.takeWhile Text.isWord = u := by
    rw [← (takeWhile_run _ hword hafter').1, ← hcopy, hr, (takeWhile_run r hrest hend).1]
  have hs : s = u ++ s.dropWhile Text.isWord := by
    rw [← hsame, List.takeWhile_append_dropWhile]
  rw [hs]
  exact standsAt_self hu (hbefore.trans (not_isWord_before hu h)) hafter

/-- Replacing a name by plain text makes no name occur that did not occur before. -/
theorem occursFrom_of_replaceFrom (hu : IsName u) (hw : IsName w) (hrepl : repl.all isPlain)
    {before before' : Option Char} {s : List Char}
    (hbefore : before.any Text.isWord = before'.any Text.isWord ∨ s.head?.any Text.isWord = false)
    (h : occursFrom u before' (replaceFrom w repl before 0 s)) : occursFrom u before s := by
  -- an occurrence is skipped at once, so the induction is on the length
  induction hlength : s.length using Nat.strong_induction_on generalizing before before' s with
  | h n ih =>
    cases s with
    | nil =>
      obtain ⟨r, hr, -⟩ := not_isWord_of_standsAt hu h
      exact absurd (List.append_eq_nil_iff.mp hr.symm).1 hu.ne_nil
    | cons c s =>
      by_cases hstands : standsAt w before (c :: s)
      · obtain ⟨r, hr, hend⟩ := not_isWord_of_standsAt hw hstands
        have hpositive : 0 < w.length := List.length_pos_iff.mpr hw.ne_nil
        have hshorter : r.length < n := by
          rw [← hlength, hr, List.length_append]
          omega
        obtain ⟨b, hb⟩ := replaceFrom_self repl hw (not_isWord_before hw hstands) hend
        rw [hr, hb] at h
        obtain ⟨b', hoccurs⟩ := occursFrom_of_isPlain hu hrepl h
        have hrest := ih r.length hshorter (.inr hend) hoccurs rfl
        rw [hr]
        exact occursFrom_append (occursFrom_of_not_isWord hu hend hrest) before w
      · rw [Bool.not_eq_true] at hstands
        simp only [replaceFrom, hstands, Bool.false_eq_true, if_false] at h
        rw [occursFrom, Bool.or_eq_true] at h ⊢
        rcases h with h | h
        · rcases hbefore with hbefore | hstart
          · exact .inl (standsAt_of_replaceFrom hu hw hbefore h)
          · rw [List.head?_cons, Option.any_some] at hstart
            rw [standsAt_of_isPlain hu before' (isPlain_of_not_isWord hstart)] at h
            cases h
        · exact .inr (ih s.length (by simp [← hlength]) (.inl rfl) h rfl)

end

/-! ### Values -/

/-- Replacing some names puts in only what stands for those that occur. -/
theorem foldl_substituteId_congr {d d' : FormData} {order : List String}
    (horder : ∀ id ∈ order, IsName id.toList) {s : List Char}
    (h : ∀ id ∈ order, occursFrom id.toList none s → readNumber d id = readNumber d' id) :
    order.foldl (substituteId d) s = order.foldl (substituteId d') s := by
  induction order generalizing s with
  | nil => rw [List.foldl_nil, List.foldl_nil]
  | cons id order ih =>
    have hid := horder id List.mem_cons_self
    have hstep : substituteId d s id = substituteId d' s id := by
      unfold substituteId
      rw [← insertedText_readNumber d, ← insertedText_readNumber d']
      cases hoccurs : occursFrom id.toList none s with
      | false =>
        rw [replaceWord, replaceWord, replaceFrom_of_not_occursFrom hoccurs,
          replaceFrom_of_not_occursFrom hoccurs]
      | true => rw [h id List.mem_cons_self hoccurs]
    rw [List.foldl_cons, List.foldl_cons, ← hstep]
    refine ih (fun i hi => horder i (List.mem_cons_of_mem id hi)) fun i hi hoccurs => ?_
    refine h i (List.mem_cons_of_mem id hi) ?_
    exact occursFrom_of_replaceFrom (horder i (List.mem_cons_of_mem id hi)) hid
      (isPlain_insertedText (isFinite_numberOf d id)) (.inl rfl) hoccurs

/-- Only the values of the ids are put in. -/
theorem substitute_congr {ids : List String} {d d' : FormData}
    (h : ∀ id ∈ ids, d.get? id = d'.get? id) (expression : String) :
    substitute expression ids d = substitute expression ids d' := by
  rw [substitute, substitute]
  congr 1
  refine List.foldl_ext _ _ _ fun s id hid => ?_
  rw [substituteId, substituteId, numberOf, numberOf, h id (mem_replacementOrder.mp hid).1]

/-- An expression reads only the values of the ids that are put in. -/
theorem evaluate_congr {ids : List String} {d d' : FormData}
    (h : ∀ id ∈ ids, d.get? id = d'.get? id) (expression : String) :
    evaluate expression ids d = evaluate expression ids d' := by
  rw [evaluate, evaluate, substitute_congr h]

/-- Whether the value of an expression stays the same whatever numbers some ids stand for. -/
def Ignores (expression : String) (ids : List String) (hidden : Set String) : Prop :=
  ∀ d d' : FormData, (∀ id ∉ hidden, readNumber d id = readNumber d' id) →
    (evaluate expression ids d).value = (evaluate expression ids d').value

/-- An expression that ignores some ids ignores fewer ids as well. -/
theorem Ignores.mono {expression : String} {ids : List String} {hidden hidden' : Set String}
    (h : Ignores expression ids hidden) (hsubset : hidden' ⊆ hidden) :
    Ignores expression ids hidden' :=
  fun d d' hd => h d d' fun id hid => hd id fun hid' => hid (hsubset hid')

/-- Where the ids are words, an expression ignores those that it does not mention. -/
theorem ignores_unmentioned {ids : List String} (hids : ∀ id ∈ ids, isWordId id)
    (expression : String) : Ignores expression ids {id | mentions expression id = false} := by
  intro d d' h
  have hsame : substitute expression ids d = substitute expression ids d' := by
    rw [substitute, substitute]
    congr 1
    refine foldl_substituteId_congr (fun id hid => ?_) fun id _ hoccurs => h id ?_
    · obtain ⟨hmem, husable⟩ := mem_replacementOrder.mp hid
      refine isName_of_isWordId (hids id hmem) fun hnil => ?_
      simp [isUsableId, hnil] at husable
    · simpa [mentions] using hoccurs
  unfold evaluate
  rw [hsame]

end Calculation

end LiveForm
