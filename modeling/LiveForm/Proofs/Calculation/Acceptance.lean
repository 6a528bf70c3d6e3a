import LiveForm.Proofs.Calculation.Parsing

/-!
# Which texts are arithmetic

A text has a value exactly if it is a sequence of literals, operators, parentheses and blanks whose
tokens derive as a sum that nests at most 64 levels, and this sum is finite. That derived tokens are
read is known (`Derivation.ofTokens?_eq`). Here is the other direction, that every reader takes
tokens of the grammar off the front, and that a sequence with a derivation has no other tokens.
-/

namespace LiveForm.Calculation

/-! ### Tokens that are read -/

/-- Every text of digits and points starts with digits and goes on with a point, if at all. -/
theorem exists_digits_append {s : List Char} (hs : ∀ c ∈ s, inLiteral c) :
    ∃ digits r, digits.all Decimal.isDigit ∧ s = digits ++ r ∧
      (r = [] ∨ ∃ t, r = '.' :: t ∧ ∀ c ∈ t, inLiteral c) := by
  induction s with
  | nil => exact ⟨[], [], rfl, rfl, .inl rfl⟩
  | cons c s ih =>
    have htail : ∀ d ∈ s, inLiteral d := fun d hd => hs d (List.mem_cons_of_mem c hd)
    have hc := hs c List.mem_cons_self
    rw [inLiteral, Bool.or_eq_true, beq_iff_eq] at hc
    rcases hc with hdigit | rfl
    · obtain ⟨digits, r, hdigits, rfl, hr⟩ := ih htail
      exact ⟨c :: digits, r, by rw [List.all_cons, hdigit, hdigits]; rfl, rfl, hr⟩
    · exact ⟨[], '.' :: s, rfl, rfl, .inr ⟨s, rfl, htail⟩⟩

/-- What is read as a literal is one. -/
theorem literal_of_literal?_eq {s : List Char} {x : Float} (hs : ∀ c ∈ s, inLiteral c)
    (h : literal? s = some x) : Literal s x := by
  obtain ⟨digits, r, hdigits, rfl, rfl | ⟨t, rfl, ht⟩⟩ := exists_digits_append hs
  · have hne : digits ≠ [] := by
      rintro rfl
      cases h
    rw [List.append_nil] at h ⊢
    have hx := (Literal.whole hdigits hne).literal?_eq
    rw [h, Option.some.injEq] at hx
    exact hx ▸ .whole hdigits hne
  · obtain ⟨decimals, r, hdecimals, rfl, hr⟩ := exists_digits_append ht
    rcases hr with rfl | ⟨t, rfl, -⟩
    · rw [List.append_nil] at h ⊢
      have hne : digits ≠ [] ∨ decimals ≠ [] := by
        by_contra hnone
        simp only [ne_eq, not_or, not_not] at hnone
        obtain ⟨rfl, rfl⟩ := hnone
        cases h
      have hx := (Literal.fraction hdigits hdecimals hne).literal?_eq
      rw [h, Option.some.injEq] at hx
      exact hx ▸ .fraction hdigits hdecimals hne
    · -- A second point ends the decimal, and nothing may follow that but an exponent.
      obtain ⟨htake, hdrop⟩ := takeWhile_run ('.' :: (decimals ++ '.' :: t)) hdigits rfl
      obtain ⟨htake', hdrop'⟩ := takeWhile_run ('.' :: t) hdecimals rfl
      simp [literal?, Decimal.parts?, htake, hdrop, htake', hdrop'] at h

/-- A literal that has ended stands before the tokens after it. -/
theorem lexes_of_closeLiteral_eq {pending s : List Char} {after : Option (List Token)}
    {ts : List Token} (hpending : ∀ c ∈ pending, inLiteral c)
    (hafter : ∀ us, after = some us → Lexes s us) (h : closeLiteral pending after = some ts) :
    Lexes (pending.reverse ++ s) ts := by
  rw [closeLiteral] at h
  split at h
  · next hempty =>
    rw [List.isEmpty_iff.mp hempty]
    exact hafter ts h
  · split at h
    · cases h
    · next x hx =>
      obtain ⟨us, hus, rfl⟩ := Option.map_eq_some_iff.mp h
      have hliteral : Literal pending.reverse x :=
        literal_of_literal?_eq (fun c hc => hpending c (List.mem_reverse.mp hc)) hx
      exact .number hliteral (hafter us hus)

/-- What is read as tokens is such a sequence, after a literal that is still open. -/
theorem lexes_of_tokensFrom_eq {pending s : List Char} {ts : List Token}
    (hpending : ∀ c ∈ pending, inLiteral c) (h : tokensFrom pending s = some ts) :
    Lexes (pending.reverse ++ s) ts := by
  have hcons : ∀ {r : List Char} {t : Token} {s' : List Char},
      (∀ us, tokensFrom [] r = some us → Lexes s' (t :: us)) →
      ∀ us, (tokensFrom [] r).map (t :: ·) = some us → Lexes s' us := by
    intro r t s' hs us hus
    obtain ⟨vs, hvs, rfl⟩ := Option.map_eq_some_iff.mp hus
    exact hs vs hvs
  have hrest : ∀ {r : List Char} {us : List Token},
      (∀ {ts}, (∀ c ∈ ([] : List Char), inLiteral c) → tokensFrom [] r = some ts →
        Lexes ([].reverse ++ r) ts) → tokensFrom [] r = some us → Lexes r us :=
    fun ih hus => ih (by simp) hus
  fun_induction tokensFrom pending s generalizing ts with
  | case1 pending => exact lexes_of_closeLiteral_eq hpending (by rintro us ⟨⟩; exact .nil) h
  | case2 pending r ih =>
    exact lexes_of_closeLiteral_eq hpending (hcons fun us hus => .power (hrest ih hus)) h
  | case3 pending r hstar ih =>
    refine lexes_of_closeLiteral_eq hpending (hcons fun us hus => .star ?_ (hrest ih hus)) h
    intro hhead
    obtain ⟨r', rfl⟩ := List.head?_eq_some_iff.mp hhead
    exact hstar r' rfl
  | case4 pending r ih | case5 pending r ih | case6 pending r ih | case7 pending r ih
  | case8 pending r ih =>
    exact lexes_of_closeLiteral_eq hpending (hcons fun us hus => .symbol rfl (hrest ih hus)) h
  | case9 pending c r _ _ _ _ _ _ _ hliteral ih =>
    have hkept := ih (by
      intro d hd
      rcases List.mem_cons.mp hd with rfl | hd
      · exact hliteral
      · exact hpending d hd) h
    rwa [List.reverse_cons, List.append_assoc] at hkept
  | case10 pending c r _ _ _ _ _ _ _ _ hblank ih =>
    exact lexes_of_closeLiteral_eq hpending (fun us hus => .blank hblank (hrest ih hus)) h
  | case11 => cases h

/-! ### The tokens of a sequence -/

/-- Whether two tokens may stand side by side in a derivation: two numbers do not. -/
def Token.MayPrecede : Token → Token → Prop
  | .number _, .number _ => False
  | _, _ => True

/-- In derived tokens, no number stands directly after another. -/
theorem Derivation.isChain {part : Part} {n : Nat} {ts : List Token} {x : Float}
    (h : Derivation part n ts x) : ts.IsChain Token.MayPrecede := by
  have hop : ∀ {t : Token} {us : List Token}, (∀ x, t ≠ .number x) →
      us.IsChain Token.MayPrecede → (t :: us).IsChain Token.MayPrecede := by
    intro t us ht hus
    refine List.isChain_cons.mpr ⟨fun u _ => ?_, hus⟩
    cases t <;> first | trivial | exact absurd rfl (ht _)
  have happend : ∀ {t : Token} {ts us : List Token}, (∀ x, t ≠ .number x) →
      ts.IsChain Token.MayPrecede → us.IsChain Token.MayPrecede →
        (ts ++ t :: us).IsChain Token.MayPrecede := by
    intro t ts us ht hts hus
    refine List.isChain_append.mpr ⟨hts, hop ht hus, ?_⟩
    rintro u - v hv
    obtain rfl : t = v := by simpa using hv
    cases t <;> cases u <;> first | trivial | exact absurd rfl (ht _)
  induction h with
  | ofProduct _ ih | ofFactor _ ih | ofPower _ ih | ofPrimary _ ih => exact ih
  | add _ _ ih ih' | subtract _ _ ih ih' | multiply _ _ ih ih' | divide _ _ ih ih'
  | raise _ _ ih ih' => exact happend nofun ih ih'
  | plus _ ih | minus _ ih => exact hop nofun ih
  | number => exact List.isChain_singleton _
  | parentheses _ ih =>
    exact happend nofun (hop nofun ih) List.isChain_nil

/-- A symbol is its token wherever it stands. -/
theorem tokensFrom_symbol {c : Char} {t : Token} (hc : symbol? c = some t) (r : List Char) :
    tokensFrom [] (c :: r) = (tokensFrom [] r).map (t :: ·) := by
  unfold symbol? at hc
  split at hc <;> cases hc <;> simp [tokensFrom]

/-- A sequence whose first token is no number does not go on with a literal. -/
theorem Lexes.not_inLiteral {s : List Char} {ts : List Token} (h : Lexes s ts)
    (hts : ∀ x, ts.head? ≠ some (.number x)) : s.head?.any inLiteral = false := by
  cases h with
  | nil => rfl
  | blank hc => exact not_inLiteral_of_isBlank hc
  | number => exact absurd rfl (hts _)
  | symbol hc =>
    unfold symbol? at hc
    split at hc <;> first | rfl | cases hc
  | star | power => rfl

/-- A sequence in which no number stands directly after another is read as its tokens. -/
theorem Lexes.tokens?_eq {s : List Char} {ts : List Token} (h : Lexes s ts)
    (hts : ts.IsChain Token.MayPrecede) : tokens? s = some ts := by
  rw [tokens?]
  induction h with
  | nil => rfl
  | blank hc _ ih => rw [tokensFrom_isBlank hc, ih hts]
  | number hl h ih =>
    obtain ⟨hnext, hts⟩ := List.isChain_cons.mp hts
    have hend := h.not_inLiteral fun y hy => hnext _ hy
    rw [Spells.literal hl _ hend, ih hts]
    rfl
  | symbol hc _ ih => rw [tokensFrom_symbol hc, ih (List.isChain_cons.mp hts).2, Option.map_some]
  | @star s ts hs _ ih =>
    have hstar : tokensFrom [] ('*' :: s) = (tokensFrom [] s).map (.star :: ·) := by
      conv => lhs; unfold tokensFrom
      cases s with
      | nil => rfl
      | cons c s =>
        have hc : c ≠ '*' := by simpa using hs
        simp [hc]
    rw [hstar, ih (List.isChain_cons.mp hts).2, Option.map_some]
  | power _ ih => simp [tokensFrom, ih (List.isChain_cons.mp hts).2]

/-! ### What the readers take -/

/-- A reader takes nothing but such a part off the front, and reads it as an expression with its
value. -/
def Derives (part : Part) (n : Nat) (reader : Reader) : Prop :=
  ∀ ⦃ts e rest⦄, reader ts = some (e, rest) →
    ∃ us, ts = us ++ rest ∧ Derivation part n us e.value

section

variable {operation? : Token → Option Operation} {operand : Reader} {part operandPart : Part}
  {n : Nat}

/-- A chain that goes on after a part is again such a part. -/
theorem chain_derives
    (hnext : ∀ {t op ts us x y}, operation? t = some op → Derivation part n ts x →
      Derivation operandPart n us y → Derivation part n (ts ++ t :: us) (op.apply x y))
    (hoperand : Derives operandPart n operand) {fuel : Nat} {e e' : Expression}
    {ts us rest : List Token} (he : Derivation part n us e.value)
    (h : chain operation? operand fuel e ts = some (e', rest)) :
    ∃ vs, us ++ ts = vs ++ rest ∧ Derivation part n vs e'.value := by
  induction fuel generalizing e ts us with
  | zero =>
    cases h
    exact ⟨us, rfl, he⟩
  | succ fuel ih =>
    cases ts with
    | nil =>
      cases h
      exact ⟨us, rfl, he⟩
    | cons t ts =>
      rw [chain] at h
      split at h
      · cases h
        exact ⟨us, rfl, he⟩
      · next op hop =>
        split at h
        · cases h
        · next e₁ ts₁ hread =>
          obtain ⟨us₁, rfl, hus₁⟩ := hoperand hread
          obtain ⟨vs, hvs, hderives⟩ := ih (hnext hop he hus₁) h
          refine ⟨vs, ?_, hderives⟩
          rw [← hvs, List.append_assoc, List.cons_append]

/-- A chain of operands is such a part, if an operand is one and every operator makes one. -/
theorem Derives.chainOf (hfirst : ∀ {ts x}, Derivation operandPart n ts x → Derivation part n ts x)
    (hnext : ∀ {t op ts us x y}, operation? t = some op → Derivation part n ts x →
      Derivation operandPart n us y → Derivation part n (ts ++ t :: us) (op.apply x y))
    (hoperand : Derives operandPart n operand) :
    Derives part n (chainOf operation? operand) := by
  intro ts e rest h
  rw [Calculation.chainOf] at h
  split at h
  · cases h
  · next e₁ ts₁ hread =>
    obtain ⟨us, rfl, hus⟩ := hoperand hread
    exact chain_derives hnext hoperand (hfirst hus) h

end

variable {n : Nat}

/-- A sum of products of factors is read where factors are. -/
theorem Derives.sumOf {reader : Reader} (h : Derives .factor n reader) :
    Derives .sum n (sumOf reader) := by
  refine .chainOf .ofProduct ?_ (.chainOf .ofFactor ?_ h)
  · intro t op ts us x y hop hts hus
    cases t <;> cases hop
    · exact .add hts hus
    · exact .subtract hts hus
  · intro t op ts us x y hop hts hus
    cases t <;> cases hop
    · exact .multiply hts hus
    · exact .divide hts hus

/-- The factors inside parentheses, signs and exponents are read one level deeper. -/
def InnerDerives (n : Nat) : Prop := ∀ ⦃reader⦄, inner n = some reader →
  ∃ m, n = m + 1 ∧ Derives .factor m reader

/-- A primary is read where the factors inside it are. -/
theorem InnerDerives.primaryOf (h : InnerDerives n) : Derives .primary n (primaryOf (inner n)) := by
  intro ts e rest hread
  unfold Calculation.primaryOf at hread
  split at hread
  · cases hread
    exact ⟨[_], rfl, .number⟩
  · split at hread
    · cases hread
    · next reader hinner =>
      obtain ⟨m, rfl, hreader⟩ := h hinner
      split at hread
      · next e₁ ts₁ hsum =>
        cases hread
        obtain ⟨us, rfl, hus⟩ := hreader.sumOf hsum
        exact ⟨.opening :: us ++ [.closing], by simp, .parentheses hus⟩
      · cases hread
  · cases hread

/-- A power is read where the factors inside it are. -/
theorem InnerDerives.powerOf (h : InnerDerives n) : Derives .power n (powerOf (inner n)) := by
  intro ts e rest hread
  rw [Calculation.powerOf] at hread
  split at hread
  · cases hread
  · next base ts₁ hbase =>
    obtain ⟨us, rfl, hus⟩ := h.primaryOf hbase
    split at hread
    · cases hread
    · next reader hinner =>
      obtain ⟨m, rfl, hreader⟩ := h hinner
      obtain ⟨⟨exponent, rest₁⟩, hexponent, hpair⟩ := Option.map_eq_some_iff.mp hread
      cases hpair
      obtain ⟨vs, rfl, hvs⟩ := hreader hexponent
      exact ⟨us ++ .power :: vs, by simp, .raise hus hvs⟩
  · next hbase =>
    cases hread
    obtain ⟨us, hts, hus⟩ := h.primaryOf hbase
    exact ⟨us, hts, .ofPrimary hus⟩

/-- A factor is read where the factors inside it are. -/
theorem InnerDerives.factorOf (h : InnerDerives n) : Derives .factor n (factorOf (inner n)) := by
  intro ts e rest hread
  unfold Calculation.factorOf at hread
  split at hread
  · obtain ⟨reader, hinner, hfactor⟩ := Option.bind_eq_some_iff.mp hread
    obtain ⟨m, rfl, hreader⟩ := h hinner
    obtain ⟨us, rfl, hus⟩ := hreader hfactor
    exact ⟨.plus :: us, rfl, .plus hus⟩
  · obtain ⟨reader, hinner, hnegated⟩ := Option.bind_eq_some_iff.mp hread
    obtain ⟨m, rfl, hreader⟩ := h hinner
    obtain ⟨⟨e₁, rest₁⟩, hfactor, hpair⟩ := Option.map_eq_some_iff.mp hnegated
    cases hpair
    obtain ⟨us, rfl, hus⟩ := hreader hfactor
    exact ⟨.minus :: us, rfl, .minus hus⟩
  · obtain ⟨us, hts, hus⟩ := h.powerOf hread
    exact ⟨us, hts, .ofPower hus⟩

/-- A reader of factors takes factors only. -/
theorem factor_derives (n : Nat) : Derives .factor n (factor n) := by
  induction n with
  | zero =>
    have hinner : InnerDerives 0 := by
      intro reader hreader
      cases hreader
    exact hinner.factorOf
  | succ n ih =>
    have hinner : InnerDerives (n + 1) := by
      rintro reader ⟨⟩
      exact ⟨n, rfl, ih⟩
    exact hinner.factorOf

/-- Tokens that are read as an expression derive as a sum with its value. -/
theorem derivation_of_ofTokens?_eq {ts : List Token} {e : Expression}
    (h : Expression.ofTokens? ts = some e) : Derivation .sum maxLevels ts e.value := by
  rw [Expression.ofTokens?] at h
  split at h
  · next hread =>
    cases h
    obtain ⟨us, rfl, hus⟩ := (factor_derives maxLevels).sumOf hread
    rwa [List.append_nil]
  · cases h

/-- A text has a value exactly if it is a sequence of tokens that derive as a sum with at most 64
parentheses, signs and exponents inside each other, and the value of this sum is finite. -/
theorem arithmetic?_eq_some_iff {s : List Char} {x : Float} :
    arithmetic? s = some x ↔
      x.isFinite ∧ ∃ ts, Lexes s ts ∧ Derivation .sum 64 ts x := by
  constructor
  · intro h
    obtain ⟨e, he, hfinite⟩ := Option.bind_eq_some_iff.mp h
    obtain ⟨ts, hts, hread⟩ := Option.bind_eq_some_iff.mp he
    split at hfinite
    · next hvalue =>
      cases hfinite
      exact ⟨hvalue, ts, lexes_of_tokensFrom_eq (by simp) hts, derivation_of_ofTokens?_eq hread⟩
    · cases hfinite
  · rintro ⟨hfinite, ts, hlexes, hderivation⟩
    obtain ⟨e, rfl, hread⟩ := hderivation.ofTokens?_eq
    simp [arithmetic?, hlexes.tokens?_eq hderivation.isChain, hread, hfinite]

end LiveForm.Calculation
