import LiveForm.Trace
import Mathlib.Algebra.Group.Nat.Defs

/-!
# Bytes of texts and numbers

The bytes of a text determine it, and so do the eight bytes of a number below `2 ^ 64`. An ASCII
byte within the bytes of a text is a character of its own, so the text can be cut there.
-/

namespace LiveForm

/-- The bytes of characters determine them. -/
theorem flatMap_utf8EncodeChar_inj {cs ds : List Char}
    (h : cs.flatMap String.utf8EncodeChar = ds.flatMap String.utf8EncodeChar) : cs = ds := by
  apply String.ofList_injective
  apply String.toByteArray_inj.mp
  rw [String.toByteArray_ofList, String.toByteArray_ofList, List.utf8Encode, List.utf8Encode, h]

/-- The bytes of a text determine it. -/
theorem utf8_inj {s t : String} (h : utf8 s = utf8 t) : s = t :=
  String.toList_injective (flatMap_utf8EncodeChar_inj h)

/-- The bytes of a text that is made of characters are those of the characters. -/
theorem utf8_ofList (cs : List Char) :
    utf8 (String.ofList cs) = cs.flatMap String.utf8EncodeChar := by
  rw [utf8, String.toList_ofList]

/-- A character below 128 is written as one byte, its code point. -/
theorem utf8EncodeChar_of_lt {c : Char} (h : c.toNat < 128) :
    String.utf8EncodeChar c = [UInt8.ofNat c.toNat] := by
  simp [String.utf8EncodeChar, Nat.le_of_lt_succ h]

/-- The bytes of a character from 128 on all have their top bit. -/
theorem le_of_mem_utf8EncodeChar {c : Char} (hc : 128 ≤ c.toNat) {b : UInt8}
    (hb : b ∈ String.utf8EncodeChar c) : 128 ≤ b.toNat := by
  have hval : ¬c.val.toNat ≤ 127 := Nat.not_le.mpr hc
  simp only [String.utf8EncodeChar, if_neg hval] at hb
  split at hb
  · simp only [List.mem_cons, List.not_mem_nil, or_false] at hb
    rcases hb with rfl | rfl <;> simp <;> omega
  · split at hb <;> simp only [List.mem_cons, List.not_mem_nil, or_false] at hb
    · rcases hb with rfl | rfl | rfl <;> simp <;> omega
    · rcases hb with rfl | rfl | rfl | rfl <;> simp <;> omega

/-- A byte below 128 is written for a character of its own. -/
theorem utf8EncodeChar_of_mem {c : Char} {b : UInt8} (hb : b ∈ String.utf8EncodeChar c)
    (hlow : b.toNat < 128) : String.utf8EncodeChar c = [b] := by
  have hc : c.toNat < 128 := by
    apply Nat.lt_of_not_le
    intro hge
    have := le_of_mem_utf8EncodeChar hge hb
    omega
  rw [utf8EncodeChar_of_lt hc, List.mem_singleton] at hb
  rw [utf8EncodeChar_of_lt hc, hb]

/-- Characters can be cut at an ASCII byte of theirs. -/
theorem flatMap_utf8EncodeChar_cut {cs : List Char} {before after : List UInt8} {b : UInt8}
    (hlow : b.toNat < 128) (h : cs.flatMap String.utf8EncodeChar = before ++ b :: after) :
    ∃ cs₁ c cs₂, cs = cs₁ ++ c :: cs₂ ∧ String.utf8EncodeChar c = [b] ∧
      cs₂.flatMap String.utf8EncodeChar = after := by
  induction cs generalizing before with
  | nil => simp at h
  | cons c cs ih =>
    rw [List.flatMap_cons, List.append_eq_append_iff] at h
    rcases h with ⟨rest, -, hrest⟩ | ⟨rest, hc, hrest⟩
    · obtain ⟨cs₁, c', cs₂, rfl, hc', hafter⟩ := ih hrest
      exact ⟨c :: cs₁, c', cs₂, rfl, hc', hafter⟩
    · cases rest with
      | nil =>
        obtain ⟨cs₁, c', cs₂, rfl, hc', hafter⟩ := @ih [] hrest.symm
        exact ⟨c :: cs₁, c', cs₂, rfl, hc', hafter⟩
      | cons b' rest =>
        obtain ⟨rfl, rfl⟩ := List.cons.inj hrest
        have hsingle := utf8EncodeChar_of_mem (c := c) (by rw [hc]; simp) hlow
        have hnil : rest = [] := by
          rw [hsingle] at hc
          have := congrArg List.length hc
          simp at this
          exact List.eq_nil_of_length_eq_zero (by omega)
        subst hnil
        exact ⟨[], c, cs, rfl, hsingle, rfl⟩

/-- A number takes as many bytes as it is given. -/
@[simp] theorem length_littleEndian (count n : Nat) : (littleEndian count n).length = count := by
  induction count generalizing n with
  | zero => rfl
  | succ count ih => rw [littleEndian, List.length_cons, ih]

/-- Numbers that fit their bytes are told apart by them. -/
theorem littleEndian_inj {count m n : Nat} (hm : m < 256 ^ count) (hn : n < 256 ^ count)
    (h : littleEndian count m = littleEndian count n) : m = n := by
  induction count generalizing m n with
  | zero =>
    rw [Nat.pow_zero] at hm hn
    omega
  | succ count ih =>
    obtain ⟨hlow, hhigh⟩ := List.cons.inj h
    have hrest : m / 256 = n / 256 := by
      rw [Nat.pow_succ] at hm hn
      exact ih (by omega) (by omega) hhigh
    have hdigit : m % 256 = n % 256 := by
      simpa using congrArg UInt8.toNat hlow
    omega

end LiveForm
