import LiveForm.Calculation.Substitution
import LiveForm.Calculation.Token
import LiveForm.Proofs.Decimal.Layout

/-!
# The grammar of arithmetic

What an arithmetic text is and which value it has, said without reading: sums of products of
factors, where a factor is a power with any signs before it, a power is a primary with an exponent
that is again a factor, and a primary is a number, a name or a sum in parentheses. It is said once
of texts, and once of the tokens that a text over numbers is made of.
-/

namespace LiveForm.Calculation

/-- The parts of arithmetic texts. -/
inductive Part where
  | sum
  | product
  | factor
  | power
  | primary
  deriving DecidableEq, Repr

/-- A number as it is written, with its value: digits, with at most one point before, between or
after them. -/
inductive Literal : List Char → Float → Prop where
  /-- Digits without a point. -/
  | whole {digits : List Char} (hdigits : digits.all Decimal.isDigit) (hne : digits ≠ []) :
      Literal digits (Decimal.nearest (Decimal.ofDigits digits) 0)
  /-- Digits with a point. -/
  | fraction {digits decimals : List Char} (hdigits : digits.all Decimal.isDigit)
      (hdecimals : decimals.all Decimal.isDigit) (hne : digits ≠ [] ∨ decimals ≠ []) :
      Literal (digits ++ '.' :: decimals)
        (Decimal.nearest (Decimal.ofDigits (digits ++ decimals)) (-decimals.length))

/-- `Phrase names part n s x` says that the text `s` is such a part of an arithmetic text, in which
parentheses, signs and exponents nest at most `n` levels, and that its value is `x`. The names have
given values. Blanks may stand around every part. -/
inductive Phrase (names : List Char → Float → Prop) :
    Part → Nat → List Char → Float → Prop where
  /-- A product is a sum. -/
  | ofProduct {n s x} (h : Phrase names .product n s x) : Phrase names .sum n s x
  /-- A sum and one more product. -/
  | add {n s t x y} (h : Phrase names .sum n s x) (h' : Phrase names .product n t y) :
      Phrase names .sum n (s ++ '+' :: t) (x + y)
  /-- A sum less one more product. -/
  | subtract {n s t x y} (h : Phrase names .sum n s x) (h' : Phrase names .product n t y) :
      Phrase names .sum n (s ++ '-' :: t) (x - y)
  /-- A factor is a product. -/
  | ofFactor {n s x} (h : Phrase names .factor n s x) : Phrase names .product n s x
  /-- A product times one more factor. -/
  | multiply {n s t x y} (h : Phrase names .product n s x) (h' : Phrase names .factor n t y) :
      Phrase names .product n (s ++ '*' :: t) (x * y)
  /-- A product by one more factor. -/
  | divide {n s t x y} (h : Phrase names .product n s x) (h' : Phrase names .factor n t y) :
      Phrase names .product n (s ++ '/' :: t) (x / y)
  /-- A power is a factor. -/
  | ofPower {n s x} (h : Phrase names .power n s x) : Phrase names .factor n s x
  /-- A plus sign changes nothing. -/
  | plus {n s x} (h : Phrase names .factor n s x) : Phrase names .factor (n + 1) ('+' :: s) x
  /-- A minus sign negates. -/
  | minus {n s x} (h : Phrase names .factor n s x) : Phrase names .factor (n + 1) ('-' :: s) (-x)
  /-- A primary is a power. -/
  | ofPrimary {n s x} (h : Phrase names .primary n s x) : Phrase names .power n s x
  /-- A primary and its exponent. -/
  | raise {n s t x y} (h : Phrase names .primary (n + 1) s x) (h' : Phrase names .factor n t y) :
      Phrase names .power (n + 1) (s ++ '*' :: '*' :: t) (x ^ y)
  /-- A number. -/
  | number {n s x} (h : Literal s x) : Phrase names .primary n s x
  /-- A name. -/
  | name {n s x} (h : names s x) : Phrase names .primary n s x
  /-- A sum in parentheses. -/
  | parentheses {n s x} (h : Phrase names .sum n s x) :
      Phrase names .primary (n + 1) ('(' :: s ++ [')']) x
  /-- A blank before a part. -/
  | blankBefore {part n c s x} (hc : Text.isBlank c) (h : Phrase names part n s x) :
      Phrase names part n (c :: s) x
  /-- A blank after a part. -/
  | blankAfter {part n c s x} (hc : Text.isBlank c) (h : Phrase names part n s x) :
      Phrase names part n (s ++ [c]) x

/-- Without names. -/
def noNames (_ : List Char) (_ : Float) : Prop := False

/-- Arithmetic over numbers alone. -/
abbrev Arithmetic : Part → Nat → List Char → Float → Prop := Phrase noNames

/-! ### Tokens -/

/-- The token that a character is by itself, whatever stands next to it. -/
def symbol? : Char → Option Token
  | '+' => some .plus
  | '-' => some .minus
  | '/' => some .slash
  | '(' => some .opening
  | ')' => some .closing
  | _ => none

/-- `Lexes s ts` says that the text `s` is a sequence of literals, operators, parentheses and
blanks, and that `ts` are its tokens. Two stars in a row are always one power sign. -/
inductive Lexes : List Char → List Token → Prop where
  /-- The end. -/
  | nil : Lexes [] []
  /-- A blank is no token. -/
  | blank {c s ts} (hc : Text.isBlank c) (h : Lexes s ts) : Lexes (c :: s) ts
  /-- A literal. -/
  | number {l x s ts} (hl : Literal l x) (h : Lexes s ts) : Lexes (l ++ s) (.number x :: ts)
  /-- An operator or a parenthesis of one character. -/
  | symbol {c t s ts} (hc : symbol? c = some t) (h : Lexes s ts) : Lexes (c :: s) (t :: ts)
  /-- A star with no other after it. -/
  | star {s ts} (hs : s.head? ≠ some '*') (h : Lexes s ts) : Lexes ('*' :: s) (.star :: ts)
  /-- Two stars. -/
  | power {s ts} (h : Lexes s ts) : Lexes ('*' :: '*' :: s) (.power :: ts)

/-- `Derivation part n ts x` says that the tokens `ts` are such a part of an arithmetic text, in
which parentheses, signs and exponents nest at most `n` levels, and that its value is `x`. -/
inductive Derivation : Part → Nat → List Token → Float → Prop where
  /-- A product is a sum. -/
  | ofProduct {n ts x} (h : Derivation .product n ts x) : Derivation .sum n ts x
  /-- A sum and one more product. -/
  | add {n ts us x y} (h : Derivation .sum n ts x) (h' : Derivation .product n us y) :
      Derivation .sum n (ts ++ .plus :: us) (x + y)
  /-- A sum less one more product. -/
  | subtract {n ts us x y} (h : Derivation .sum n ts x) (h' : Derivation .product n us y) :
      Derivation .sum n (ts ++ .minus :: us) (x - y)
  /-- A factor is a product. -/
  | ofFactor {n ts x} (h : Derivation .factor n ts x) : Derivation .product n ts x
  /-- A product times one more factor. -/
  | multiply {n ts us x y} (h : Derivation .product n ts x) (h' : Derivation .factor n us y) :
      Derivation .product n (ts ++ .star :: us) (x * y)
  /-- A product by one more factor. -/
  | divide {n ts us x y} (h : Derivation .product n ts x) (h' : Derivation .factor n us y) :
      Derivation .product n (ts ++ .slash :: us) (x / y)
  /-- A power is a factor. -/
  | ofPower {n ts x} (h : Derivation .power n ts x) : Derivation .factor n ts x
  /-- A plus sign changes nothing. -/
  | plus {n ts x} (h : Derivation .factor n ts x) : Derivation .factor (n + 1) (.plus :: ts) x
  /-- A minus sign negates. -/
  | minus {n ts x} (h : Derivation .factor n ts x) :
      Derivation .factor (n + 1) (.minus :: ts) (-x)
  /-- A primary is a power. -/
  | ofPrimary {n ts x} (h : Derivation .primary n ts x) : Derivation .power n ts x
  /-- A primary and its exponent. -/
  | raise {n ts us x y} (h : Derivation .primary (n + 1) ts x) (h' : Derivation .factor n us y) :
      Derivation .power (n + 1) (ts ++ .power :: us) (x ^ y)
  /-- A number. -/
  | number {n x} : Derivation .primary n [.number x] x
  /-- A sum in parentheses. -/
  | parentheses {n ts x} (h : Derivation .sum n ts x) :
      Derivation .primary (n + 1) (.opening :: ts ++ [.closing]) x

/-! ### Characters of arithmetic -/

/-- Blanks do not belong to literals. -/
theorem not_inLiteral_of_isBlank {c : Char} (h : Text.isBlank c) : inLiteral c = false := by
  rw [inLiteral, Bool.or_eq_false_iff]
  constructor
  · exact Decimal.not_isDigit_of_isBlank h
  · rw [beq_eq_false_iff_ne]
    rintro rfl
    exact absurd h (by decide)

/-- A literal has at least one character. -/
theorem Literal.ne_nil {s : List Char} {x : Float} (h : Literal s x) : s ≠ [] := by
  cases h with
  | whole _ hne => exact hne
  | fraction => simp

/-- The characters of a literal are digits and points. -/
theorem Literal.inLiteral {s : List Char} {x : Float} (h : Literal s x) :
    ∀ c ∈ s, Calculation.inLiteral c := by
  cases h with
  | whole hdigits =>
    intro c hc
    rw [Calculation.inLiteral, List.all_eq_true.mp hdigits c hc]
    rfl
  | fraction hdigits hdecimals =>
    intro c hc
    rcases List.mem_append.mp hc with hc | hc
    · rw [Calculation.inLiteral, List.all_eq_true.mp hdigits c hc]
      rfl
    · rcases List.mem_cons.mp hc with rfl | hc
      · rfl
      · rw [Calculation.inLiteral, List.all_eq_true.mp hdecimals c hc]
        rfl

/-- A literal is read as its value. -/
theorem Literal.literal?_eq {s : List Char} {x : Float} (h : Literal s x) :
    literal? s = some x := by
  cases h with
  | whole hdigits hne =>
    obtain ⟨htake, hdrop⟩ := takeWhile_run [] hdigits rfl
    rw [List.append_nil] at htake hdrop
    simp [literal?, Decimal.parts?, htake, hdrop, hne, Decimal.Parts.toFloat]
  | @fraction digits decimals hdigits hdecimals hne =>
    obtain ⟨htake, hdrop⟩ := takeWhile_run ('.' :: decimals) hdigits rfl
    obtain ⟨htake', hdrop'⟩ := takeWhile_run [] hdecimals rfl
    rw [List.append_nil] at htake' hdrop'
    have hsome : (digits.isEmpty && decimals.isEmpty) = false := by
      rcases hne with hne | hne <;> simp [hne]
    simp [literal?, Decimal.parts?, htake, hdrop, htake', hdrop', hsome, Decimal.Parts.toFloat]

namespace Phrase

variable {names : List Char → Float → Prop} {part : Part} {n : Nat} {s : List Char} {x : Float}

/-- More levels do no harm. -/
theorem mono (h : Phrase names part n s x) {m : Nat} (hm : n ≤ m) : Phrase names part m s x := by
  induction h generalizing m with
  | ofProduct _ ih => exact .ofProduct (ih hm)
  | add _ _ ih ih' => exact .add (ih hm) (ih' hm)
  | subtract _ _ ih ih' => exact .subtract (ih hm) (ih' hm)
  | ofFactor _ ih => exact .ofFactor (ih hm)
  | multiply _ _ ih ih' => exact .multiply (ih hm) (ih' hm)
  | divide _ _ ih ih' => exact .divide (ih hm) (ih' hm)
  | ofPower _ ih => exact .ofPower (ih hm)
  | ofPrimary _ ih => exact .ofPrimary (ih hm)
  | number h => exact .number h
  | name h => exact .name h
  | blankBefore hc _ ih => exact .blankBefore hc (ih hm)
  | blankAfter hc _ ih => exact .blankAfter hc (ih hm)
  | plus _ ih =>
    obtain ⟨m, rfl⟩ : ∃ k, m = k + 1 := ⟨m - 1, by omega⟩
    exact .plus (ih (by omega))
  | minus _ ih =>
    obtain ⟨m, rfl⟩ : ∃ k, m = k + 1 := ⟨m - 1, by omega⟩
    exact .minus (ih (by omega))
  | raise _ _ ih ih' =>
    obtain ⟨m, rfl⟩ : ∃ k, m = k + 1 := ⟨m - 1, by omega⟩
    exact .raise (ih hm) (ih' (by omega))
  | parentheses _ ih =>
    obtain ⟨m, rfl⟩ : ∃ k, m = k + 1 := ⟨m - 1, by omega⟩
    exact .parentheses (ih (by omega))

/-- Arithmetic over numbers has at least one character, and only safe ones. -/
theorem isSafe (h : Arithmetic part n s x) : s ≠ [] ∧ s.all isSafeChar := by
  induction h with
  | ofProduct _ ih | ofFactor _ ih | ofPower _ ih | ofPrimary _ ih => exact ih
  | add _ _ ih ih' | subtract _ _ ih ih' | multiply _ _ ih ih' | divide _ _ ih ih'
  | raise _ _ ih ih' =>
    refine ⟨by simp, ?_⟩
    simp only [List.all_append, List.all_cons, ih.2, ih'.2]
    decide
  | plus _ ih | minus _ ih | parentheses _ ih =>
    refine ⟨by simp, ?_⟩
    simp only [List.cons_append, List.all_append, List.all_cons, ih.2, List.all_nil]
    decide
  | number h =>
    refine ⟨h.ne_nil, List.all_eq_true.mpr fun c hc => ?_⟩
    have hliteral := h.inLiteral c hc
    rw [Calculation.inLiteral, Bool.or_eq_true, beq_iff_eq] at hliteral
    rcases hliteral with hdigit | rfl
    · rw [isSafeChar, hdigit]
      rfl
    · decide
  | name h => cases h
  | blankBefore hc _ ih | blankAfter hc _ ih =>
    refine ⟨by simp, ?_⟩
    simp [isSafeChar, hc, ih.2]

/-- Arithmetic over numbers does not start with a star. -/
theorem start (h : Arithmetic part n s x) : ∃ c t, s = c :: t ∧ c ≠ '*' := by
  induction h with
  | ofProduct _ ih | ofFactor _ ih | ofPower _ ih | ofPrimary _ ih => exact ih
  | add _ _ ih | subtract _ _ ih | multiply _ _ ih | divide _ _ ih | raise _ _ ih
  | blankAfter _ _ ih =>
    obtain ⟨c, t, rfl, hc⟩ := ih
    exact ⟨c, _, rfl, hc⟩
  | plus | minus | parentheses => exact ⟨_, _, rfl, by decide⟩
  | number h =>
    obtain ⟨c, t, rfl⟩ := List.exists_cons_of_ne_nil h.ne_nil
    refine ⟨c, t, rfl, ?_⟩
    rintro rfl
    exact absurd (h.inLiteral '*' List.mem_cons_self) (by decide)
  | name h => cases h
  | blankBefore hc =>
    refine ⟨_, _, rfl, ?_⟩
    rintro rfl
    exact absurd hc (by decide)

end Phrase

end LiveForm.Calculation
