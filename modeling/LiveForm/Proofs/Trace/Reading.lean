import LiveForm.Proofs.Pass.Reading
import LiveForm.Proofs.Trace.Commitment

/-!
# Saved traces read back

The hash of an entry covers the written form of its pass, which is the same without nulls. So a
saved trace of readable passes is read back without nulls, and its chain is as whole as before.
-/

namespace LiveForm

namespace Entry

/-- The entry of the pass without nulls. -/
def withoutNulls (e : Entry) : Entry := { e with pass := e.pass.withoutNulls }

/-- An entry is written like that without nulls. -/
@[simp] theorem toJson_withoutNulls (e : Entry) : e.withoutNulls.toJson = e.toJson := by
  simp [toJson, withoutNulls]

/-- An entry without nulls belongs where the entry does. -/
@[simp] theorem isIntact_withoutNulls (hash : Hash) (place : Nat) (previous : String) (e : Entry) :
    e.withoutNulls.isIntact hash place previous = e.isIntact hash place previous := by
  simp [isIntact, properHash, covered, withoutNulls]

/-- A chain without nulls breaks where the chain does. -/
theorem brokenFrom?_map_withoutNulls (hash : Hash) (place : Nat) (previous : String)
    (entries : List Entry) :
    brokenFrom? hash place previous (entries.map withoutNulls) =
      brokenFrom? hash place previous entries := by
  induction entries generalizing place previous with
  | nil => rfl
  | cons e entries ih =>
    rw [List.map_cons, brokenFrom?, brokenFrom?, isIntact_withoutNulls, ih]
    rfl

/-- A chain without nulls is whole if the chain is. -/
theorem isChain_map_withoutNulls (hash : Hash) (entries : List Entry) :
    isChain hash (entries.map withoutNulls) = isChain hash entries := by
  rw [isChain, firstBroken?, brokenFrom?_map_withoutNulls]
  rfl

variable {e : Entry}

/-- An entry of a readable pass is read back without nulls. -/
theorem ofJson?_toJson_of_isReadable (hsequence : e.sequence < 2 ^ 64) (hpass : e.pass.IsReadable) :
    ofJson? e.toJson = some e.withoutNulls := by
  rw [← toJson_withoutNulls]
  refine ofJson?_toJson hsequence ?_
  rw [withoutNulls, Pass.toJson_withoutNulls]
  exact hpass.ofJson?_toJson

end Entry

namespace SavedTrace

/-- The saved trace of the passes without nulls. -/
def withoutNulls (t : SavedTrace) : SavedTrace :=
  { t with entries := t.entries.map Entry.withoutNulls }

/-- All entries of a saved trace can be read. -/
def IsReadable (t : SavedTrace) : Prop := ∀ e ∈ t.entries, e.sequence < 2 ^ 64 ∧ e.pass.IsReadable

variable {t : SavedTrace}

/-- A readable saved trace is read back without nulls. -/
theorem IsReadable.ofJson?_toJson (h : t.IsReadable) : ofJson? t.toJson = some t.withoutNulls := by
  have hentries : Json.listOf? Entry.ofJson? (.list (t.entries.map Entry.toJson)) =
      some (t.entries.map Entry.withoutNulls) :=
    Json.listOf?_map fun e he => Entry.ofJson?_toJson_of_isReadable (h e he).1 (h e he).2
  have hsession : Json.optional? Json.text? (Json.ofOption .text t.finalizedSession) =
      some t.finalizedSession := by
    cases t.finalizedSession <;> rfl
  simp [ofJson?, toJson, Json.record?, Json.isRecord, Json.part?, Json.text?, hsession, hentries,
    Timestamp.ofJson?_text, withoutNulls]

/-- The written form of a readable saved trace is finite. -/
theorem IsReadable.isFinite (h : t.IsReadable) : t.toJson.isFinite := by
  have hentries : ∀ e ∈ t.entries, e.toJson.isFinite := fun e he => by
    simp [Entry.toJson, (h e he).2.isFinite]
  have hsession : (Json.ofOption .text t.finalizedSession).isFinite := by
    cases t.finalizedSession <;> rfl
  simpa [toJson, hsession] using hentries

/-- The integers in a readable saved trace are short. -/
theorem IsReadable.shortIntegers (h : t.IsReadable) : t.toJson.HasShortIntegers := by
  have hentries : ∀ e ∈ t.entries, e.toJson.HasShortIntegers := fun e he => by
    have hsequence : (e.sequence : Int) < 18446744073709551616 := by exact_mod_cast (h e he).1
    simp [Entry.toJson, (h e he).2.shortIntegers, hsequence]
  have hsession : (Json.ofOption .text t.finalizedSession).HasShortIntegers := by
    cases t.finalizedSession <;> simp [Json.ofOption]
  simpa [toJson, hsession] using hentries

/-- A saved trace in the text that a file holds is read back without nulls, if it is readable, the
text of each float in it is read back, and it nests no deeper than the reader goes. -/
theorem IsReadable.ofJson?_read? (h : t.IsReadable)
    (hfloats : ∀ x ∈ t.toJson.floats, Json.read? (Json.float x).compact = some (.float x))
    (hdepth : t.toJson.depth ≤ Json.maxLevels) :
    (Json.read? t.toJson.compact).bind ofJson? = some t.withoutNulls := by
  rw [Json.read?_compact_of_floats h.isFinite h.shortIntegers hfloats hdepth, Option.bind_some,
    h.ofJson?_toJson]

end SavedTrace

end LiveForm
