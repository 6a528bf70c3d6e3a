import LiveForm.Digest.Sha256

/-!
# Digests

The hash of any message is written with 64 lower-case hexadecimal digits.
-/

namespace LiveForm.Sha256

open Json (hexDigit)

/-- A text is 64 lower-case hexadecimal digits. -/
structure IsDigest (s : String) : Prop where
  /-- It is as long as a hash. -/
  length : s.toList.length = 64
  /-- It has only hexadecimal digits. -/
  digits : ∀ c ∈ s.toList, ∃ n < 16, c = hexDigit n

/-- A number has as many bytes as are asked for. -/
theorem length_bytesOf (count n : Nat) : (bytesOf count n).length = count := by
  induction count with
  | zero => rfl
  | succ count ih => rw [bytesOf, List.length_cons, ih]

/-- A word has eight digits. -/
theorem length_wordText (w : UInt32) : (wordText w).length = 8 := by
  rw [wordText, List.length_flatMap]
  simp [List.map_const', length_bytesOf]

/-- The characters of a word are hexadecimal digits. -/
theorem digits_wordText {w : UInt32} {c : Char} (h : c ∈ wordText w) :
    ∃ n < 16, c = hexDigit n := by
  obtain ⟨b, -, hc⟩ := List.mem_flatMap.mp h
  have hb : b.toNat < 256 := b.toNat_lt
  simp only [List.mem_cons, List.not_mem_nil, or_false] at hc
  rcases hc with rfl | rfl
  · exact ⟨b.toNat / 16, by omega, rfl⟩
  · exact ⟨b.toNat % 16, by omega, rfl⟩

/-- Every hash is a digest. -/
theorem isDigest_hex (message : List UInt8) : IsDigest (hex message) where
  length := by
    rw [hex, String.toList_ofList, List.length_flatMap]
    simp [length_wordText, hash]
  digits c hc := by
    rw [hex, String.toList_ofList] at hc
    obtain ⟨w, -, hc⟩ := List.mem_flatMap.mp hc
    exact digits_wordText hc

end LiveForm.Sha256
