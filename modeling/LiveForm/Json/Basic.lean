import LiveForm.SortedMap

/-!
# Data values

The values that answers, documents and records are made of: the JSON data model, with integers told
from floats. An object is a list of entries, so that one type serves both for the order in which a
record is written and for free data, whose objects are in canonical form: keys in increasing order,
each once.
-/

namespace LiveForm

/-- A JSON value. Integers and floats are different numbers even if equal in size. -/
inductive Json where
  | null
  | bool (b : Bool)
  | int (n : Int)
  | float (x : Float)
  | text (s : String)
  | list (items : List Json)
  | object (entries : List (String × Json))
  deriving Inhabited, Repr

namespace Json

mutual

/-- Decides whether two values are equal in every detail, bits of floats included. -/
def decEq : (a b : Json) → Decidable (a = b)
  | .null, .null => isTrue rfl
  | .bool a, .bool b => if h : a = b then isTrue (h ▸ rfl) else isFalse (by simpa using h)
  | .int a, .int b => if h : a = b then isTrue (h ▸ rfl) else isFalse (by simpa using h)
  | .float a, .float b => if h : a = b then isTrue (h ▸ rfl) else isFalse (by simpa using h)
  | .text a, .text b => if h : a = b then isTrue (h ▸ rfl) else isFalse (by simpa using h)
  | .list a, .list b =>
    match decEqItems a b with
    | isTrue h => isTrue (h ▸ rfl)
    | isFalse h => isFalse (by simpa using h)
  | .object a, .object b =>
    match decEqEntries a b with
    | isTrue h => isTrue (h ▸ rfl)
    | isFalse h => isFalse (by simpa using h)
  | .null, .bool _ | .null, .int _ | .null, .float _ | .null, .text _ | .null, .list _
  | .null, .object _ | .bool _, .null | .bool _, .int _ | .bool _, .float _ | .bool _, .text _
  | .bool _, .list _ | .bool _, .object _ | .int _, .null | .int _, .bool _ | .int _, .float _
  | .int _, .text _ | .int _, .list _ | .int _, .object _ | .float _, .null | .float _, .bool _
  | .float _, .int _ | .float _, .text _ | .float _, .list _ | .float _, .object _
  | .text _, .null | .text _, .bool _ | .text _, .int _ | .text _, .float _ | .text _, .list _
  | .text _, .object _ | .list _, .null | .list _, .bool _ | .list _, .int _ | .list _, .float _
  | .list _, .text _ | .list _, .object _ | .object _, .null | .object _, .bool _
  | .object _, .int _ | .object _, .float _ | .object _, .text _ | .object _, .list _ =>
    isFalse (by simp)

/-- Decides whether two lists of values are equal. -/
def decEqItems : (a b : List Json) → Decidable (a = b)
  | [], [] => isTrue rfl
  | [], _ :: _ | _ :: _, [] => isFalse (by simp)
  | a :: r, b :: t =>
    match decEq a b, decEqItems r t with
    | isTrue h, isTrue h' => isTrue (h ▸ h' ▸ rfl)
    | isFalse h, _ => isFalse (by simp [h])
    | _, isFalse h => isFalse (by simp [h])

/-- Decides whether two lists of entries are equal. -/
def decEqEntries : (a b : List (String × Json)) → Decidable (a = b)
  | [], [] => isTrue rfl
  | [], _ :: _ | _ :: _, [] => isFalse (by simp)
  | (k, a) :: r, (l, b) :: t =>
    if hk : k = l then
      match decEq a b, decEqEntries r t with
      | isTrue h, isTrue h' => isTrue (hk ▸ h ▸ h' ▸ rfl)
      | isFalse h, _ => isFalse (by simp [h])
      | _, isFalse h => isFalse (by simp [h])
    else isFalse (by simp [hk])

end

instance : DecidableEq Json := decEq

mutual

/-- Whether two values are the same: equal shape, texts and integers, and floats equal as numbers,
so that the two zeros are the same. An integer is never the same as a float. -/
def same : Json → Json → Bool
  | .null, .null => true
  | .bool a, .bool b => a == b
  | .int m, .int n => m == n
  | .float x, .float y => x == y
  | .text s, .text t => s == t
  | .list a, .list b => sameItems a b
  | .object a, .object b => sameEntries a b
  | _, _ => false

/-- Whether two lists have the same values in the same places. -/
def sameItems : List Json → List Json → Bool
  | [], [] => true
  | a :: r, b :: t => same a b && sameItems r t
  | _, _ => false

/-- Whether two lists of entries have the same keys and values in the same places. -/
def sameEntries : List (String × Json) → List (String × Json) → Bool
  | [], [] => true
  | (k, a) :: r, (l, b) :: t => k == l && same a b && sameEntries r t
  | _, _ => false

end

mutual

/-- The value with the entries of all its objects in key order, as free data is kept. Of several
entries with one key the last counts, and a float that is not finite becomes null. -/
def canonical : Json → Json
  | .float x => if x.isFinite then .float x else .null
  | .list items => .list (canonicalItems items)
  | .object entries => .object (canonicalEntries [] entries)
  | v => v

/-- The canonical forms of a list of values. -/
def canonicalItems : List Json → List Json
  | [] => []
  | v :: r => v.canonical :: canonicalItems r

/-- Lays the canonical forms of some entries over entries in key order. -/
def canonicalEntries (done : List (String × Json)) : List (String × Json) → List (String × Json)
  | [] => done
  | (k, v) :: r => canonicalEntries (SortedMap.place k v.canonical done) r

end

/-- A value as the entries of a map, if it is an object. -/
def entries? : Json → Option (List (String × Json))
  | .object entries => some entries
  | _ => none

/-- The first entry of an object under a key. -/
def field? (v : Json) (key : String) : Option Json := v.entries?.bind (SortedMap.find? key)

/-- The object of a map, its entries in key order. -/
def ofMap {α : Type} (f : α → Json) (m : SortedMap α) : Json :=
  .object (m.toList.map fun e => (e.1, f e.2))

/-- A list of texts. -/
def ofTexts (texts : List String) : Json := .list (texts.map .text)

/-- A value, or null where there is none. -/
def ofOption {α : Type} (f : α → Json) : Option α → Json
  | none => .null
  | some a => f a

end Json

end LiveForm
