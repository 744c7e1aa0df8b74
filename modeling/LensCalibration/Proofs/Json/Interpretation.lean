import LensCalibration.Json.Document
import LensCalibration.Json.Schema

/-!
# Interpreting a document by a schema

`Schema.ofDocument?` is the value that a document has for a schema.  It is said on trees, without
texts, positions or an order of reading: the members of an object are looked up by their keys, and
a field whose key occurs twice or not at all makes the object void.
-/

namespace LensCalibration.Json

open Binary Decimal

/-! ## Arrays and objects as collections -/

def Elements.toList : Elements → List Document
  | .nil => []
  | .cons element rest => element :: rest.toList

def Members.ofList : List (String × Document) → Members
  | [] => .nil
  | (key, value) :: rest => .cons key value (ofList rest)

/-- The values of the members with this key, in the order of the text. -/
def Members.valuesOf (key : String) : Members → List Document
  | .nil => []
  | .cons k value rest => if k = key then value :: rest.valuesOf key else rest.valuesOf key

/-- The members with other keys. -/
def Members.without (key : String) : Members → Members
  | .nil => .nil
  | .cons k value rest =>
      if k = key then rest.without key else .cons k value (rest.without key)

def vectorOf? {α : Type} (size : Nat) (values : List α) : Option (Vector α size) :=
  if h : values.length = size then some ⟨values.toArray, by simpa using h⟩ else none

@[simp] theorem vectorOf?_toList {α : Type} {size : Nat} (values : Vector α size) :
    vectorOf? size values.toList = some values := by
  rw [vectorOf?, dif_pos values.length_toList]
  rfl

theorem vectorOf?_eq_none {α : Type} {size : Nat} {values : List α} (h : values.length ≠ size) :
    vectorOf? size values = none := by
  simp [vectorOf?, h]

/-! ## Numbers -/

/-- The number of a literal, unless it is too large to have one. -/
def Document.number? : Document → Option Number
  | .number n => n.value.toOption
  | _ => none

def Document.single? (d : Document) : Option Single :=
  d.number?.map Number.toSingle

def integerWithin? (low high : Int) : Number → Option Int
  | .integer i => if low ≤ i ∧ i ≤ high then some i else none
  | .double _ _ => none

/-- An integer literal from `low` to `high`. -/
def Document.integer? (low high : Int) (d : Document) : Option Int :=
  d.number?.bind (integerWithin? low high)

def Document.int32? (d : Document) : Option Int :=
  d.integer? (-0x80000000) 0x7fffffff

def Document.nat32? (d : Document) : Option Int :=
  d.integer? 0 0xffffffff

/-! ## Values of a schema -/

def Document.array? {α : Type} (elements? : List Document → Option α) : Document → Option α
  | .array elements => elements? elements.toList
  | _ => none

/-- A record has two forms: its fields in order, or with their keys. -/
def Document.record? {α : Type} (inOrder? : List Document → Option α)
    (byKey? : Members → Option α) : Document → Option α
  | .array elements => inOrder? elements.toList
  | .object members => byKey? members
  | _ => none

def first? {α : Type} : List α → Option (α × List α)
  | [] => none
  | x :: xs => some (x, xs)

def only? {α : Type} : List α → Option α
  | [x] => some x
  | _ => none

mutual

def Schema.ofDocument? : (schema : Schema) → Document → Option schema.Value
  | .single, d => d.single?
  | .int32, d => d.int32?.map Int32.ofInt
  | .nat32, d => d.nat32?.map UInt32.ofInt
  | .code vocabulary, d => d.int32?.bind vocabulary.ofCode?
  | .array size element, d =>
      d.array? fun ds => (ds.mapM element.ofDocument?).bind (vectorOf? size)
  | .list element, d => d.array? fun ds => ds.mapM element.ofDocument?
  | .record _ fields, d => d.record? fields.ofElements? fields.ofMembers?

/-- The fields in order, one for each element. -/
def Fields.ofElements? : (fields : Fields) → List Document → Option fields.Values
  | .nil, ds => if ds.isEmpty then some () else none
  | .cons _ schema rest, ds =>
      (first? ds).bind fun (d, ds) => (schema.ofDocument? d).bind fun value =>
        (rest.ofElements? ds).map fun values => (value, values)

/-- The fields by their keys, each of which has to occur exactly once. -/
def Fields.ofMembers? : (fields : Fields) → Members → Option fields.Values
  | .nil, _ => some ()
  | .cons key schema rest, members =>
      ((only? (members.valuesOf key)).bind schema.ofDocument?).bind fun value =>
        (rest.ofMembers? (members.without key)).map fun values => (value, values)

end

theorem Fields.ofElements?_cons (key : String) (schema : Schema) (rest : Fields) (d : Document)
    (ds : List Document) :
    (Fields.cons key schema rest).ofElements? (d :: ds) =
      (schema.ofDocument? d).bind fun value =>
        (rest.ofElements? ds).map fun values => (value, values) := by
  rw [ofElements?]
  rfl

end LensCalibration.Json
