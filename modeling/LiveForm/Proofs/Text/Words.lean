import LiveForm.Text.Word
import Mathlib.Data.List.Basic

/-!
# The words of a text

A text falls into words where a character belongs to none. Two texts that are equal with something
behind each of them have a common word, the first, if neither goes on with its last word.
-/

namespace LiveForm.Text

/-- The words of a text in order: its longest runs of word characters. -/
def words (s : List Char) : List (List Char) :=
  (s.splitOnP fun c => !isWord c).filter fun w => !w.isEmpty

variable {s t q r : List Char} {c : Char}

/-- A character that belongs to no word separates the words before it from those behind it. -/
theorem words_append_cons (hc : isWord c = false) (s t : List Char) :
    words (s ++ c :: t) = words s ++ words t := by
  rw [words, List.splitOnP_append_cons s t (by simp [hc]), List.filter_append, words, words]

/-- A text with a character that belongs to a word has a word. -/
theorem words_ne_nil (hs : s.any isWord) : words s ≠ [] := by
  induction s with
  | nil => cases hs
  | cons c s ih =>
    cases hc : isWord c with
    | false =>
      rw [List.any_cons, hc, Bool.false_or] at hs
      have hwords : words (c :: s) = words s := words_append_cons hc [] s
      rw [hwords]
      exact ih hs
    | true =>
      obtain ⟨w, ws, hsplit⟩ := List.exists_cons_of_ne_nil
        (List.splitOnP_ne_nil (fun c => !isWord c) s)
      simp [words, List.splitOnP_cons_eq_if_modifyHead, hc, hsplit]

/-- What stands behind a text with a word does not matter for its first word, unless it goes on with
a word. -/
theorem head?_words_append (hs : s.any isWord) (hq : q.head?.any isWord = false) :
    (words (s ++ q)).head? = (words s).head? := by
  cases q with
  | nil => rw [List.append_nil]
  | cons c q =>
    obtain ⟨w, ws, hwords⟩ := List.exists_cons_of_ne_nil (words_ne_nil hs)
    rw [words_append_cons hq, hwords]
    rfl

/-- Texts with words that start one text, and do not end inside a word there, have a common word. -/
theorem exists_common_word (h : s ++ q = t ++ r) (hs : s.any isWord) (ht : t.any isWord)
    (hq : q.head?.any isWord = false) (hr : r.head?.any isWord = false) :
    ∃ w ∈ words s, w ∈ words t := by
  have hfirst := head?_words_append hs hq
  rw [h, head?_words_append ht hr] at hfirst
  obtain ⟨w, ws, hwords⟩ := List.exists_cons_of_ne_nil (words_ne_nil hs)
  rw [hwords, List.head?_cons] at hfirst
  exact ⟨w, by simp [hwords], List.mem_of_mem_head? hfirst⟩

end LiveForm.Text
