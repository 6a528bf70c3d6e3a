import LiveForm.Proofs.Decimal.Reading
import LiveForm.Timestamp.Text

/-!
# Times read back

Every number in the text of a time is padded to the width that the reader takes, or stands before a
character that is no digit. So a time is read back from its text.
-/

namespace LiveForm.Timestamp

open Decimal (isDigit ofDigits)

/-! ### Padded numbers -/

/-- Some digits are how a number is written, with zeros before it or without. -/
structure IsSpelling (digits : List Char) (n : Nat) : Prop where
  /-- They are digits. -/
  all_isDigit : digits.all isDigit
  /-- There is a digit. -/
  ne_nil : digits ≠ []
  /-- They spell the number. -/
  ofDigits_eq : ofDigits digits = n

/-- Putting a character at the end of a text so many times. -/
theorem toList_pushn (s : String) (c : Char) (n : Nat) :
    (s.pushn c n).toList = s.toList ++ List.replicate n c := by
  rw [String.pushn_eq_repeat_push]
  induction n with
  | zero => simp [Nat.repeat]
  | succ n ih =>
    rw [Nat.repeat, String.toList_push, ih, List.append_assoc, List.replicate_succ']

/-- A padded number is its digits after some zeros. -/
theorem toList_padded (width n : Nat) : (padded width n).toList =
    List.replicate (width - (Nat.toDigits 10 n).length) '0' ++ Nat.toDigits 10 n := by
  have hdigits : (toString n).toList = Nat.toDigits 10 n := Nat.toList_repr
  have hlength : (toString n).length = (Nat.toDigits 10 n).length := by
    rw [← hdigits, String.length_toList]
  rw [padded, String.toList_append, toList_pushn, hdigits, hlength]
  rfl

/-- A padded number is written out. -/
theorem isSpelling_padded (width n : Nat) : IsSpelling (padded width n).toList n where
  all_isDigit := by
    rw [toList_padded, List.all_append, Decimal.all_isDigit_toDigits, Bool.and_true,
      List.all_eq_true]
    intro c hc
    rw [List.eq_of_mem_replicate hc]
    decide
  ne_nil := by
    rw [toList_padded]
    exact List.append_ne_nil_of_right_ne_nil _ Nat.toDigits_ne_nil
  ofDigits_eq := by
    rw [toList_padded, Decimal.ofDigits_replicate_append, Decimal.ofDigits_toDigits]

/-- A padded number that fits its width fills it. -/
theorem length_padded {width n : Nat} (hwidth : 0 < width) (hn : n < 10 ^ width) :
    (padded width n).toList.length = width := by
  have hle : (Nat.toDigits 10 n).length ≤ width :=
    (Nat.length_toDigits_le_iff (by decide) hwidth).mpr hn
  rw [toList_padded, List.length_append, List.length_replicate]
  omega

/-- What is written out starts with a digit. -/
theorem IsSpelling.exists_eq_cons {digits : List Char} {n : Nat} (h : IsSpelling digits n) :
    ∃ c r, digits = c :: r ∧ isDigit c := by
  obtain ⟨c, r, rfl⟩ := List.exists_cons_of_ne_nil h.ne_nil
  exact ⟨c, r, rfl, List.all_eq_true.mp h.all_isDigit c List.mem_cons_self⟩

/-- Nothing is trimmed before a character that is not blank. -/
theorem trimStart_cons {c : Char} (h : Text.isBlank c = false) (rest : List Char) :
    Text.trimStart (c :: rest) = c :: rest := by
  simp [Text.trimStart, h]

/-- Nothing is trimmed from what starts with a number. -/
theorem IsSpelling.trimStart_append {digits : List Char} {n : Nat} (h : IsSpelling digits n)
    (rest : List Char) : Text.trimStart (digits ++ rest) = digits ++ rest := by
  obtain ⟨c, r, rfl, hc⟩ := h.exists_eq_cons
  have hblank : Text.isBlank c = false := by
    rw [← Bool.not_eq_true]
    intro hblank
    rw [Decimal.not_isDigit_of_isBlank hblank] at hc
    cases hc
  exact trimStart_cons hblank (r ++ rest)

/-- A number is read up to the end of its digits, if it ends there or the reader takes no more. -/
theorem IsSpelling.number?_append {digits : List Char} {n : Nat} (h : IsSpelling digits n)
    (most : Nat) (rest : List Char) (hlength : digits.length ≤ most)
    (hrest : digits.length = most ∨ rest.head?.any isDigit = false) :
    number? most (digits ++ rest) = some (n, rest) := by
  have hhead : (rest.take (most - digits.length)).head?.any isDigit = false := by
    rw [List.head?_take]
    rcases hrest with hfull | hhead
    · simp [hfull]
    · split
      · rfl
      · exact hhead
  have hdigits : ((digits ++ rest).take most).takeWhile isDigit = digits := by
    rw [List.take_append, List.take_of_length_le hlength]
    exact (takeWhile_run _ h.all_isDigit hhead).1
  have hne : digits.isEmpty = false := List.isEmpty_eq_false_iff.mpr h.ne_nil
  simp [number?, hdigits, hne, h.ofDigits_eq]

/-- A padded number that fits its width is read up to its end, whatever follows it. -/
theorem number?_padded (width n : Nat) (hwidth : 0 < width) (hn : n < 10 ^ width)
    (rest : List Char) : number? width ((padded width n).toList ++ rest) = some (n, rest) := by
  have hlength := length_padded hwidth hn
  exact (isSpelling_padded width n).number?_append width rest hlength.le (.inl hlength)

/-- Two digits are read as the number that they stand for. -/
theorem part?_padded {n : Nat} (hn : n < 100) (rest : List Char) :
    part? ((padded 2 n).toList ++ rest) = some (n, rest) := by
  rw [part?, (isSpelling_padded 2 n).trimStart_append, number?_padded 2 n (by decide) hn]

/-- A sign is read where it stands. -/
theorem after?_self {sign : Char} (h : Text.isBlank sign = false) (rest : List Char) :
    after? sign (sign :: rest) = some rest := by
  simp [after?, trimStart_cons h]

/-! ### Dates and clocks -/

/-- A year is read back from its text, before what is no digit. -/
theorem year?_yearText (year : Int) (rest : List Char) (hrest : rest.head?.any isDigit = false) :
    year? ((yearText year).toList ++ rest) = some (year, rest) := by
  unfold yearText
  split
  case isTrue h =>
    have hspelling := isSpelling_padded 4 year.toNat
    have hnumber := number?_padded 4 year.toNat (by decide) (by omega) rest
    obtain ⟨c, r, hc, hdigit⟩ := hspelling.exists_eq_cons
    have hvalue : (year.toNat : Int) = year := Int.toNat_of_nonneg h.1
    rw [year?, hspelling.trimStart_append]
    -- a digit is no sign
    split
    case h_1 heq | h_2 heq =>
      rw [hc, List.cons_append, List.cons.injEq] at heq
      rw [heq.1] at hdigit
      exact absurd hdigit (by decide)
    case h_3 => simp [hnumber, hvalue]
  case isFalse h =>
    have hspelling := isSpelling_padded 4 year.natAbs
    have hnumber := hspelling.number?_append ((padded 4 year.natAbs).toList ++ rest).length rest
      (by simp) (.inr hrest)
    rw [String.toList_append, List.append_assoc]
    generalize (padded 4 year.natAbs).toList ++ rest = after at hnumber
    split
    case isTrue hneg =>
      have htrim := trimStart_cons (c := '-') (by decide) after
      simp [year?, htrim, hnumber, abs_of_neg hneg]
    case isFalse hneg =>
      have htrim := trimStart_cons (c := '+') (by decide) after
      simp [year?, htrim, hnumber, abs_of_nonneg (not_lt.mp hneg)]

/-- A date is read back from its text, before what is no digit. -/
theorem date?_append (d : Date) (rest : List Char) :
    date? ((yearText d.year).toList ++ '-' :: ((padded 2 d.month).toList ++
      '-' :: ((padded 2 d.day).toList ++ rest))) = some (d, rest) := by
  obtain ⟨-, -, -, hmonth, -, hday⟩ := d.valid
  have hdays : daysIn d.year d.month < 100 := by
    unfold daysIn
    split
    · split <;> decide
    · split <;> decide
  have hdate : Date.of? d.year d.month d.day = some d := dif_pos d.valid
  have hdash : Text.isBlank '-' = false := by decide
  simp only [date?, Option.bind_eq_bind, year?_yearText d.year ('-' :: _) rfl,
    after?_self hdash, part?_padded (show d.month < 100 by omega),
    part?_padded (show d.day < 100 by omega), Option.bind_some, hdate]
  rfl

/-- Digits after a point are read as billionths. -/
theorem fraction?_point {width n : Nat} (hwidth : 0 < width) (hmost : width ≤ 9)
    (hn : n < 10 ^ width) (rest : List Char) :
    fraction? ('.' :: ((padded width n).toList ++ 'Z' :: rest)) =
      some (n * 10 ^ (9 - width), 'Z' :: rest) := by
  have hlength := length_padded hwidth hn
  have hnumber := (isSpelling_padded width n).number?_append 9 ('Z' :: rest) (by omega)
    (.inr rfl)
  have hend : ('Z' :: rest).dropWhile isDigit = 'Z' :: rest := rfl
  simp [fraction?, hnumber, hend, hlength]

/-- A fraction is read back from its text. -/
theorem fraction?_fractionText {nano : Nat} (hnano : nano < 10 ^ 9) (rest : List Char) :
    fraction? ((fractionText nano).toList ++ 'Z' :: rest) = some (nano, 'Z' :: rest) := by
  have hpoint (width n : Nat) (hwidth : 0 < width) (hmost : width ≤ 9) (hn : n < 10 ^ width)
      (hvalue : n * 10 ^ (9 - width) = nano) :
      fraction? (("." ++ padded width n).toList ++ 'Z' :: rest) = some (nano, 'Z' :: rest) := by
    have hdigits := fraction?_point hwidth hmost hn rest
    have hdot : ".".toList = ['.'] := rfl
    rw [String.toList_append, hdot, List.append_assoc, List.singleton_append, hdigits, hvalue]
  unfold fractionText
  split
  case isTrue hzero => simp [fraction?, hzero]
  case isFalse =>
    split
    case isTrue => exact hpoint 3 _ (by decide) (by decide) (by omega) (by omega)
    case isFalse =>
      split
      case isTrue => exact hpoint 6 _ (by decide) (by decide) (by omega) (by omega)
      case isFalse => exact hpoint 9 _ (by decide) (by decide) hnano (by omega)

/-- A clock is read back from its text. -/
theorem clock?_append (c : Clock) (rest : List Char) :
    clock? ((padded 2 c.hour).toList ++ ':' :: ((padded 2 c.minute).toList ++
      ':' :: ((padded 2 c.second).toList ++ ((fractionText c.nano).toList ++ 'Z' :: rest)))) =
        some (c, 'Z' :: rest) := by
  obtain ⟨hhour, hminute, hsecond, hnano⟩ := c.valid
  have hclock : Clock.of? c.hour c.minute c.second c.nano = some c := dif_pos c.valid
  have hcolon : Text.isBlank ':' = false := by decide
  simp only [clock?, Option.bind_eq_bind, after?_self hcolon,
    part?_padded (show c.hour < 100 by omega), part?_padded (show c.minute < 100 by omega),
    part?_padded (show c.second < 100 by omega), fraction?_fractionText hnano, Option.bind_some,
    hclock]
  rfl

/-! ### Times -/

/-- A clock in universal time is that of the same day. -/
theorem ofLocal?_zero (date : Date) (clock : Clock) :
    ofLocal? date clock 0 = some ⟨date, clock⟩ := by
  obtain ⟨hour, minute, second, nano, hvalid⟩ := clock
  have hlow : ¬((60 * hour + minute : Nat) : Int) < 0 := by omega
  have hhigh : ((60 * hour + minute : Nat) : Int) < 1440 := by omega
  have hofDay : (((60 * hour + minute : Nat) : Int) % 1440).toNat = 60 * hour + minute := by omega
  have hhour : (60 * hour + minute) / 60 = hour := by omega
  have hminute : (60 * hour + minute) % 60 = minute := by omega
  simp only [ofLocal?, Int.sub_zero, if_neg hlow, if_pos hhigh, hofDay, hhour, hminute,
    Option.bind_eq_bind, Option.bind_some, Clock.of?, dif_pos hvalid]
  rfl

/-- A time is read back from its text. -/
theorem ofText?_text (t : Timestamp) : ofText? t.text = some t := by
  have htext : t.text.toList = (yearText t.date.year).toList ++ '-' ::
      ((padded 2 t.date.month).toList ++ '-' :: ((padded 2 t.date.day).toList ++ 'T' ::
        ((padded 2 t.clock.hour).toList ++ ':' :: ((padded 2 t.clock.minute).toList ++ ':' ::
          ((padded 2 t.clock.second).toList ++
            ((fractionText t.clock.nano).toList ++ 'Z' :: [])))))) := by
    simp [text]
  have hseparator : "Tt ".toList.contains 'T' = true := by decide
  have htrim : Text.trimStart ['Z'] = ['Z'] := rfl
  have hend : Text.trimStart [] = [] := rfl
  simp only [ofText?, Option.bind_eq_bind, htext, date?_append, Option.bind_some, hseparator,
    if_true, clock?_append, htrim, offset?, hend, List.isEmpty_nil, ofLocal?_zero]
  rfl

end LiveForm.Timestamp
