import LiveForm.Calculation.Evaluation
import LiveForm.Proofs.Calculation.Grammar

/-!
# Reading arithmetic

Every text of the grammar over numbers is read, as an expression with the value that the grammar
gives it. The grammar is followed rule by rule, once for the tokens of a text and once for what the
readers do with these tokens, whatever comes after them.
-/

namespace LiveForm.Calculation

/-- Where no literal is open, none has to be closed. -/
@[simp] theorem closeLiteral_nil (after : Option (List Token)) :
    closeLiteral [] after = after := rfl

/-- Nothing follows a literal that is not followed by tokens. -/
@[simp] theorem closeLiteral_none (pending : List Char) : closeLiteral pending none = none := by
  unfold closeLiteral
  split
  · rfl
  · split <;> rfl

/-- An open literal ends before anything that does not belong to literals. -/
theorem tokensFrom_eq_closeLiteral {r : List Char} (h : r.head?.any inLiteral = false)
    (pending : List Char) : tokensFrom pending r = closeLiteral pending (tokensFrom [] r) := by
  fun_cases tokensFrom pending r with
  | case1 => rfl
  | case2 | case3 | case4 | case5 | case6 | case7 | case8 => simp [tokensFrom]
  | case9 c r h1 h2 h3 h4 h5 h6 h7 hliteral =>
    rw [List.head?_cons, Option.any_some, hliteral] at h
    cases h
  | case10 c r h1 h2 h3 h4 h5 h6 h7 hliteral hblank => simp [tokensFrom, *]
  | case11 => simp [tokensFrom, *]

/-- A character of a literal is kept until the literal ends. -/
theorem tokensFrom_inLiteral {c : Char} (hc : inLiteral c) (pending r : List Char) :
    tokensFrom pending (c :: r) = tokensFrom (c :: pending) r := by
  have hne : c ≠ '*' ∧ c ≠ '+' ∧ c ≠ '-' ∧ c ≠ '/' ∧ c ≠ '(' ∧ c ≠ ')' := by
    refine ⟨?_, ?_, ?_, ?_, ?_, ?_⟩ <;> rintro rfl <;> exact absurd hc (by decide)
  simp [tokensFrom, hne, hc]

/-- A blank ends a literal and is dropped. -/
theorem tokensFrom_isBlank {c : Char} (hc : Text.isBlank c) (r : List Char) :
    tokensFrom [] (c :: r) = tokensFrom [] r := by
  have hne : c ≠ '*' ∧ c ≠ '+' ∧ c ≠ '-' ∧ c ≠ '/' ∧ c ≠ '(' ∧ c ≠ ')' := by
    refine ⟨?_, ?_, ?_, ?_, ?_, ?_⟩ <;> rintro rfl <;> exact absurd hc (by decide)
  simp [tokensFrom, hne, hc, not_inLiteral_of_isBlank hc]

/-- The characters of a literal are all kept until it ends. -/
theorem tokensFrom_literal {s : List Char} (hs : ∀ c ∈ s, inLiteral c) (pending r : List Char) :
    tokensFrom pending (s ++ r) = tokensFrom (s.reverse ++ pending) r := by
  induction s generalizing pending with
  | nil => rfl
  | cons c s ih =>
    have hc := hs c List.mem_cons_self
    have htail := ih (fun d hd => hs d (List.mem_cons_of_mem c hd)) (c :: pending)
    rw [List.cons_append, tokensFrom_inLiteral hc, htail, List.reverse_cons, List.append_assoc]
    rfl

/-- A text spells some tokens, whatever follows that does not go on with a literal. -/
def Spells (s : List Char) (ts : List Token) : Prop :=
  ∀ r : List Char, r.head?.any inLiteral = false →
    tokensFrom [] (s ++ r) = (tokensFrom [] r).map (ts ++ ·)

namespace Spells

variable {s t : List Char} {ts us : List Token}

/-- A literal spells its number. -/
theorem literal {x : Float} (h : Literal s x) : Spells s [.number x] := by
  intro r hr
  have hopen : s.reverse.isEmpty = false := by simp [h.ne_nil]
  rw [tokensFrom_literal h.inLiteral, List.append_nil, tokensFrom_eq_closeLiteral hr, closeLiteral,
    hopen, List.reverse_reverse, h.literal?_eq]
  rfl

/-- A character that always is one token spells it. -/
theorem cons {c : Char} (token : Token)
    (hc : ∀ r, tokensFrom [] (c :: r) = (tokensFrom [] r).map (token :: ·)) (h : Spells t ts) :
    Spells (c :: t) (token :: ts) := by
  intro r hr
  rw [List.cons_append, hc, h r hr, Option.map_map]
  rfl

/-- Texts one after the other spell their tokens, if a literal cannot go on from one to the other.
-/
theorem append {c : Char} (h : Spells s ts) (hc : inLiteral c = false) (h' : Spells (c :: t) us) :
    Spells (s ++ c :: t) (ts ++ us) := by
  intro r hr
  have hjoin : tokensFrom [] (s ++ (c :: t ++ r)) = (tokensFrom [] (c :: t ++ r)).map (ts ++ ·) :=
    h (c :: t ++ r) hc
  rw [List.append_assoc, hjoin, h' r hr, Option.map_map]
  simp [Function.comp_def]

/-- Nothing spells nothing. -/
theorem nil : Spells [] [] := by
  intro r _
  simp

/-- A star is a token unless another follows. -/
theorem star (h : Spells t ts) (ht : ∃ c t', t = c :: t' ∧ c ≠ '*') :
    Spells ('*' :: t) (.star :: ts) := by
  intro r hr
  obtain ⟨c, t', rfl, hc⟩ := ht
  have hstar : tokensFrom [] ('*' :: c :: (t' ++ r)) =
      (tokensFrom [] (c :: (t' ++ r))).map (.star :: ·) := by
    conv => lhs; unfold tokensFrom
    simp [hc]
  rw [List.cons_append, List.cons_append, hstar, ← List.cons_append, h r hr, Option.map_map]
  rfl

/-- Two stars are one token. -/
theorem power (h : Spells t ts) : Spells ('*' :: '*' :: t) (.power :: ts) := by
  intro r hr
  have hpower : tokensFrom [] ('*' :: '*' :: (t ++ r)) =
      (tokensFrom [] (t ++ r)).map (.power :: ·) :=
    by simp [tokensFrom]
  rw [List.cons_append, List.cons_append, hpower, h r hr, Option.map_map]
  rfl

/-- A blank spells nothing. -/
theorem blank {c : Char} (hc : Text.isBlank c) (h : Spells t ts) : Spells (c :: t) ts := by
  intro r hr
  rw [List.cons_append, tokensFrom_isBlank hc, h r hr]

end Spells

/-- What the readers do with the parts inside parentheses, signs and exponents, where so many levels
are left. -/
def inner : Nat → Option Reader
  | 0 => none
  | n + 1 => some (factor n)

theorem factor_eq (n : Nat) : factor n = factorOf (inner n) := by
  cases n <;> rfl

/-- Some tokens start with neither sign. -/
def Unsigned (ts : List Token) : Prop := ∃ t us, ts = t :: us ∧ t ≠ .plus ∧ t ≠ .minus

/-- The readers read some tokens as a part with a value, whatever follows that does not go on with
the part. A sum or product still takes further operands, so that it can grow to the right. -/
def Reads (n : Nat) (ts : List Token) (x : Float) : Part → Prop
  | .primary => Unsigned ts ∧ ∃ e : Expression, e.value = x ∧
      ∀ rest, primaryOf (inner n) (ts ++ rest) = some (e, rest)
  | .power => Unsigned ts ∧ ∃ e : Expression, e.value = x ∧
      ∀ rest, rest.head? ≠ some .power → powerOf (inner n) (ts ++ rest) = some (e, rest)
  | .factor => ∃ e : Expression, e.value = x ∧
      ∀ rest, rest.head? ≠ some .power → factor n (ts ++ rest) = some (e, rest)
  | .product => ∃ e : Expression, e.value = x ∧
      ∀ rest, rest.head? ≠ some .power → ∃ fuel, rest.length ≤ fuel ∧
        chainOf productOperation? (factor n) (ts ++ rest) =
          chain productOperation? (factor n) fuel e rest
  | .sum => ∃ e : Expression, e.value = x ∧
      ∀ rest, rest.head? ≠ some .power → rest.head?.bind productOperation? = none →
        ∃ fuel, rest.length ≤ fuel ∧
          sumOf (factor n) (ts ++ rest) =
            chain sumOperation? (chainOf productOperation? (factor n)) fuel e rest

/-- A chain ends where no operator follows. -/
theorem chain_end {operation? : Token → Option Operation} (operand : Reader) (fuel : Nat)
    (e : Expression) {rest : List Token} (h : rest.head?.bind operation? = none) :
    chain operation? operand fuel e rest = some (e, rest) := by
  cases fuel with
  | zero => rfl
  | succ fuel =>
    cases rest with
    | nil => rfl
    | cons t rest =>
      have ht : operation? t = none := h
      simp [chain, ht]

/-- A chain goes on with an operator and an operand, if there is fuel for them. -/
theorem chain_next {operation? : Token → Option Operation} {operand : Reader} {fuel : Nat}
    (e : Expression) {t : Token} {us rest : List Token} (hfuel : (t :: us).length ≤ fuel)
    {op : Operation} (hop : operation? t = some op) {e' : Expression}
    (hoperand : operand us = some (e', rest)) (hrest : rest.length ≤ us.length) :
    ∃ fuel', rest.length ≤ fuel' ∧ chain operation? operand fuel e (t :: us) =
      chain operation? operand fuel' (.binary op e e') rest := by
  obtain ⟨fuel, rfl⟩ : ∃ k, fuel = k + 1 := by
    rw [List.length_cons] at hfuel
    exact ⟨fuel - 1, by omega⟩
  rw [List.length_cons] at hfuel
  refine ⟨fuel, by omega, ?_⟩
  simp [chain, hop, hoperand]

namespace Reads

variable {n : Nat} {ts us : List Token} {x y : Float}

/-- A product on its own is read to its end. -/
theorem product_end (h : Reads n ts x .product) : ∃ e : Expression, e.value = x ∧
    ∀ rest, rest.head? ≠ some .power → rest.head?.bind productOperation? = none →
      chainOf productOperation? (factor n) (ts ++ rest) = some (e, rest) := by
  obtain ⟨e, he, hread⟩ := h
  refine ⟨e, he, fun rest hpower hrest => ?_⟩
  obtain ⟨fuel, -, hchain⟩ := hread rest hpower
  rw [hchain, chain_end _ _ _ hrest]

/-- A sum on its own is read to its end. -/
theorem sum_end (h : Reads n ts x .sum) : ∃ e : Expression, e.value = x ∧
    ∀ rest, rest.head? ≠ some .power → rest.head?.bind productOperation? = none →
      rest.head?.bind sumOperation? = none → sumOf (factor n) (ts ++ rest) = some (e, rest) := by
  obtain ⟨e, he, hread⟩ := h
  refine ⟨e, he, fun rest hpower hproduct hrest => ?_⟩
  obtain ⟨fuel, -, hchain⟩ := hread rest hpower hproduct
  rw [hchain, chain_end _ _ _ hrest]

/-- A product is a sum. -/
theorem ofProduct (h : Reads n ts x .product) : Reads n ts x .sum := by
  obtain ⟨e, he, hread⟩ := h.product_end
  refine ⟨e, he, fun rest hpower hproduct => ⟨rest.length, Nat.le_refl _, ?_⟩⟩
  conv => lhs; rw [sumOf, chainOf, hread rest hpower hproduct]

/-- A sum grows by an operator and a product. -/
theorem sumNext (t : Token) (op : Operation) (ht : sumOperation? t = some op)
    (hpower : t ≠ .power) (hproduct : productOperation? t = none) (h : Reads n ts x .sum)
    (h' : Reads n us y .product) : Reads n (ts ++ t :: us) (op.apply x y) .sum := by
  obtain ⟨e, rfl, hread⟩ := h
  obtain ⟨e', rfl, hread'⟩ := h'.product_end
  refine ⟨.binary op e e', rfl, fun rest hrest hrest' => ?_⟩
  obtain ⟨fuel, hfuel, hchain⟩ := hread (t :: (us ++ rest)) (by simpa using hpower) hproduct
  obtain ⟨fuel', hfuel', hnext⟩ := chain_next e hfuel ht (hread' rest hrest hrest') (by simp)
  refine ⟨fuel', hfuel', ?_⟩
  rw [List.append_assoc, List.cons_append, hchain, hnext]

/-- A factor is a product. -/
theorem ofFactor (h : Reads n ts x .factor) : Reads n ts x .product := by
  obtain ⟨e, he, hread⟩ := h
  refine ⟨e, he, fun rest hpower => ⟨rest.length, Nat.le_refl _, ?_⟩⟩
  simp [chainOf, hread rest hpower]

/-- A product grows by an operator and a factor. -/
theorem productNext (t : Token) (op : Operation) (ht : productOperation? t = some op)
    (hpower : t ≠ .power) (h : Reads n ts x .product) (h' : Reads n us y .factor) :
    Reads n (ts ++ t :: us) (op.apply x y) .product := by
  obtain ⟨e, rfl, hread⟩ := h
  obtain ⟨e', rfl, hread'⟩ := h'
  refine ⟨.binary op e e', rfl, fun rest hrest => ?_⟩
  obtain ⟨fuel, hfuel, hchain⟩ := hread (t :: (us ++ rest)) (by simpa using hpower)
  obtain ⟨fuel', hfuel', hnext⟩ := chain_next e hfuel ht (hread' rest hrest) (by simp)
  refine ⟨fuel', hfuel', ?_⟩
  rw [List.append_assoc, List.cons_append, hchain, hnext]

/-- A power is a factor. -/
theorem ofPower (h : Reads n ts x .power) : Reads n ts x .factor := by
  obtain ⟨⟨t, us, rfl, hplus, hminus⟩, e, he, hread⟩ := h
  refine ⟨e, he, fun rest hrest => ?_⟩
  rw [factor_eq, ← hread rest hrest, List.cons_append]
  simp [factorOf, hplus, hminus]

/-- A plus sign is skipped. -/
theorem plus (h : Reads n ts x .factor) : Reads (n + 1) (.plus :: ts) x .factor := by
  obtain ⟨e, he, hread⟩ := h
  refine ⟨e, he, fun rest hrest => ?_⟩
  rw [← hread rest hrest]
  rfl

/-- A minus sign negates. -/
theorem minus (h : Reads n ts x .factor) : Reads (n + 1) (.minus :: ts) (-x) .factor := by
  obtain ⟨e, rfl, hread⟩ := h
  refine ⟨.negate e, rfl, fun rest hrest => ?_⟩
  rw [factor_eq, List.cons_append, factorOf, inner, Option.bind_some, hread rest hrest]
  rfl

/-- A primary is a power. -/
theorem ofPrimary (h : Reads n ts x .primary) : Reads n ts x .power := by
  obtain ⟨hunsigned, e, he, hread⟩ := h
  refine ⟨hunsigned, e, he, fun rest hrest => ?_⟩
  rw [powerOf, hread rest]
  cases rest with
  | nil => rfl
  | cons t rest =>
    have ht : t ≠ .power := by simpa using hrest
    simp [ht]

/-- A primary is raised to a factor. -/
theorem raise (h : Reads (n + 1) ts x .primary) (h' : Reads n us y .factor) :
    Reads (n + 1) (ts ++ .power :: us) (x ^ y) .power := by
  obtain ⟨⟨t, ts, rfl, hsigns⟩, e, rfl, hread⟩ := h
  obtain ⟨e', rfl, hread'⟩ := h'
  refine ⟨⟨t, _, rfl, hsigns⟩, .binary .raise e e', rfl, fun rest hrest => ?_⟩
  rw [List.append_assoc, powerOf, hread, List.cons_append]
  simp [inner, hread' rest hrest]

/-- A number is a primary. -/
theorem number (n : Nat) (x : Float) : Reads n [.number x] x .primary :=
  ⟨⟨_, _, rfl, nofun, nofun⟩, .number x, rfl, fun _ => rfl⟩

/-- A sum in parentheses is a primary. -/
theorem parentheses (h : Reads n ts x .sum) :
    Reads (n + 1) (.opening :: ts ++ [.closing]) x .primary := by
  obtain ⟨e, he, hread⟩ := h.sum_end
  refine ⟨⟨_, _, rfl, by decide, by decide⟩, e, he, fun rest => ?_⟩
  have hsum := hread (.closing :: rest) (by simp) rfl rfl
  rw [List.append_assoc, List.cons_append, List.singleton_append]
  simp [primaryOf, inner, hsum]

end Reads

/-- Tokens that derive as a part are read as this part with its value. -/
theorem Derivation.reads {part : Part} {n : Nat} {ts : List Token} {x : Float}
    (h : Derivation part n ts x) : Reads n ts x part := by
  induction h with
  | ofProduct _ ih => exact ih.ofProduct
  | add _ _ ih ih' => exact ih.sumNext .plus .add rfl nofun rfl ih'
  | subtract _ _ ih ih' => exact ih.sumNext .minus .subtract rfl nofun rfl ih'
  | ofFactor _ ih => exact ih.ofFactor
  | multiply _ _ ih ih' => exact ih.productNext .star .multiply rfl nofun ih'
  | divide _ _ ih ih' => exact ih.productNext .slash .divide rfl nofun ih'
  | ofPower _ ih => exact ih.ofPower
  | plus _ ih => exact ih.plus
  | minus _ ih => exact ih.minus
  | ofPrimary _ ih => exact ih.ofPrimary
  | raise _ _ ih ih' => exact ih.raise ih'
  | number => exact .number _ _
  | parentheses _ ih => exact ih.parentheses

/-- Tokens that derive as a sum are read as an expression with its value. -/
theorem Derivation.ofTokens?_eq {ts : List Token} {x : Float}
    (h : Derivation .sum maxLevels ts x) :
    ∃ e : Expression, e.value = x ∧ Expression.ofTokens? ts = some e := by
  obtain ⟨e, he, hread⟩ := h.reads.sum_end
  have hsum := hread [] nofun rfl rfl
  rw [List.append_nil] at hsum
  exact ⟨e, he, by rw [Expression.ofTokens?, hsum]⟩

/-- Every part of arithmetic spells tokens that derive as this part with its value. -/
theorem Phrase.derivation {part : Part} {n : Nat} {s : List Char} {x : Float}
    (h : Arithmetic part n s x) : ∃ ts, Spells s ts ∧ Derivation part n ts x := by
  induction h with
  | ofProduct _ ih =>
    obtain ⟨ts, hs, hts⟩ := ih
    exact ⟨ts, hs, .ofProduct hts⟩
  | add _ _ ih ih' =>
    obtain ⟨ts, hs, hts⟩ := ih
    obtain ⟨us, ht, hus⟩ := ih'
    exact ⟨_, hs.append rfl (ht.cons .plus fun r => by simp [tokensFrom]), .add hts hus⟩
  | subtract _ _ ih ih' =>
    obtain ⟨ts, hs, hts⟩ := ih
    obtain ⟨us, ht, hus⟩ := ih'
    exact ⟨_, hs.append rfl (ht.cons .minus fun r => by simp [tokensFrom]), .subtract hts hus⟩
  | ofFactor _ ih =>
    obtain ⟨ts, hs, hts⟩ := ih
    exact ⟨ts, hs, .ofFactor hts⟩
  | multiply _ h' ih ih' =>
    obtain ⟨ts, hs, hts⟩ := ih
    obtain ⟨us, ht, hus⟩ := ih'
    exact ⟨_, hs.append rfl (ht.star h'.start), .multiply hts hus⟩
  | divide _ _ ih ih' =>
    obtain ⟨ts, hs, hts⟩ := ih
    obtain ⟨us, ht, hus⟩ := ih'
    exact ⟨_, hs.append rfl (ht.cons .slash fun r => by simp [tokensFrom]), .divide hts hus⟩
  | ofPower _ ih =>
    obtain ⟨ts, hs, hts⟩ := ih
    exact ⟨ts, hs, .ofPower hts⟩
  | plus _ ih =>
    obtain ⟨ts, hs, hts⟩ := ih
    exact ⟨_, hs.cons .plus fun r => by simp [tokensFrom], .plus hts⟩
  | minus _ ih =>
    obtain ⟨ts, hs, hts⟩ := ih
    exact ⟨_, hs.cons .minus fun r => by simp [tokensFrom], .minus hts⟩
  | ofPrimary _ ih =>
    obtain ⟨ts, hs, hts⟩ := ih
    exact ⟨ts, hs, .ofPrimary hts⟩
  | raise _ _ ih ih' =>
    obtain ⟨ts, hs, hts⟩ := ih
    obtain ⟨us, ht, hus⟩ := ih'
    exact ⟨_, hs.append rfl ht.power, .raise hts hus⟩
  | number h => exact ⟨_, .literal h, .number⟩
  | name h => cases h
  | parentheses _ ih =>
    obtain ⟨ts, hs, hts⟩ := ih
    have hclosing : Spells [')'] [.closing] := Spells.nil.cons .closing fun r => by
      simp [tokensFrom]
    exact ⟨_, (hs.append rfl hclosing).cons .opening fun r => by simp [tokensFrom],
      .parentheses hts⟩
  | blankBefore hc _ ih =>
    obtain ⟨ts, hs, hts⟩ := ih
    exact ⟨ts, hs.blank hc, hts⟩
  | blankAfter hc _ ih =>
    obtain ⟨ts, hs, hts⟩ := ih
    refine ⟨ts, ?_, hts⟩
    simpa using hs.append (not_inLiteral_of_isBlank hc) (Spells.nil.blank hc)

/-- A sum over numbers has the value that the grammar gives it, if that is finite. -/
theorem arithmetic?_eq {s : List Char} {x : Float} (h : Arithmetic .sum maxLevels s x) :
    arithmetic? s = if x.isFinite then some x else none := by
  obtain ⟨ts, hs, hts⟩ := h.derivation
  obtain ⟨e, rfl, hread⟩ := hts.ofTokens?_eq
  have htokens : tokens? s = some ts := by
    have hspelled := hs [] rfl
    simpa [tokens?, tokensFrom] using hspelled
  simp [arithmetic?, htokens, hread]

end LiveForm.Calculation
