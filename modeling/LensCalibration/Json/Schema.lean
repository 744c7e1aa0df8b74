import LensCalibration.Decimal.Shortest
import LensCalibration.Vocabulary.Basic

/-!
# Schemas

A schema says what a record looks like in JSON.  Reading and writing are each defined once, by
recursion on the schema.
-/

namespace LensCalibration.Json

open Binary

mutual

inductive Schema where
  | single
  | int32
  | nat32
  | code (vocabulary : Vocabulary)
  | array (size : Nat) (element : Schema)
  | list (element : Schema)
  | record (name : String) (fields : Fields)
  deriving DecidableEq, Repr

/-- The fields of a record, in the order in which they are written. -/
inductive Fields where
  | nil
  | cons (key : String) (schema : Schema) (rest : Fields)
  deriving DecidableEq, Repr

end

mutual

def Schema.Value : Schema → Type
  | .single => Single
  | .int32 => Int32
  | .nat32 => UInt32
  | .code vocabulary => vocabulary.Entry
  | .array size element => Vector element.Value size
  | .list element => List element.Value
  | .record _ fields => fields.Values

def Fields.Values : Fields → Type
  | .nil => Unit
  | .cons _ schema rest => schema.Value × rest.Values

end

/-- The values of the fields met so far, while the members of an object are read. -/
def Fields.Slots : Fields → Type
  | .nil => Unit
  | .cons _ schema rest => Option schema.Value × rest.Slots

namespace Fields

def size : Fields → Nat
  | .nil => 0
  | .cons _ _ rest => rest.size + 1

def keys : Fields → List String
  | .nil => []
  | .cons key _ rest => key :: rest.keys

def noSlots : (fields : Fields) → fields.Slots
  | .nil => ()
  | .cons _ _ rest => (none, rest.noSlots)

/-- The values once every slot is filled; the error is the first field that is missing. -/
def filled : (fields : Fields) → fields.Slots → Except String fields.Values
  | .nil, () => .ok ()
  | .cons key _ rest, (slot, slots) =>
      match slot with
      | none => .error key
      | some value => (rest.filled slots).map fun values => (value, values)

end Fields

/-! ## Comparison -/

mutual

/-- Equality with floating-point numbers compared as numbers. -/
def Schema.equals : (schema : Schema) → schema.Value → schema.Value → Bool
  | .single, x, y => Single.equals x y
  | .int32, x, y => Int32.toInt x = Int32.toInt y
  | .nat32, x, y => UInt32.toNat x = UInt32.toNat y
  | .code vocabulary, x, y => vocabulary.code x = vocabulary.code y
  | .array _ element, xs, ys =>
      (List.zipWith element.equals (Vector.toList xs) (Vector.toList ys)).all id
  | .list element, xs, ys =>
      List.length xs = List.length ys ∧ (List.zipWith element.equals xs ys).all id
  | .record _ fields, xs, ys => fields.equals xs ys

def Fields.equals : (fields : Fields) → fields.Values → fields.Values → Bool
  | .nil, (), () => true
  | .cons _ schema rest, (x, xs), (y, ys) => schema.equals x y && rest.equals xs ys

end

/-! ## Types with a schema -/

/-- A type whose values are those of a schema. -/
class Coded (α : Type) where
  schema : Schema
  toValue : α → schema.Value
  ofValue : schema.Value → α
  ofValue_toValue : ∀ x, ofValue (toValue x) = x
  toValue_ofValue : ∀ value, toValue (ofValue value) = value

attribute [simp] Coded.ofValue_toValue Coded.toValue_ofValue

@[simp] theorem Coded.ofValue_comp_toValue {α : Type} [Coded α] :
    (Coded.ofValue : _ → α) ∘ Coded.toValue = id :=
  funext Coded.ofValue_toValue

@[simp] theorem Coded.toValue_comp_ofValue {α : Type} [Coded α] :
    (Coded.toValue : α → _) ∘ Coded.ofValue = id :=
  funext Coded.toValue_ofValue

instance {α : Type} [Coded α] (n : Nat) : Coded (Vector α n) where
  schema := .array n (Coded.schema α)
  toValue xs := Vector.map Coded.toValue xs
  ofValue values := Vector.map Coded.ofValue values
  ofValue_toValue xs := by simp
  toValue_ofValue values := by
    change Vector (Coded.schema α).Value n at values
    change Vector.map Coded.toValue (Vector.map Coded.ofValue values) = values
    simp

instance {α : Type} [Coded α] : Coded (List α) where
  schema := .list (Coded.schema α)
  toValue xs := List.map Coded.toValue xs
  ofValue values := List.map Coded.ofValue values
  ofValue_toValue xs := by simp
  toValue_ofValue values := by
    change List (Coded.schema α).Value at values
    change List.map Coded.toValue (List.map Coded.ofValue values) = values
    simp

instance : Coded LensModel := ⟨.code .model, id, id, fun _ => rfl, fun _ => rfl⟩

instance : Coded DepthMode := ⟨.code .depthMode, id, id, fun _ => rfl, fun _ => rfl⟩

instance : Coded ColorResolution :=
  ⟨.code .colorResolution, id, id, fun _ => rfl, fun _ => rfl⟩

instance : Coded Sensor := ⟨.code .sensor, id, id, fun _ => rfl, fun _ => rfl⟩

end LensCalibration.Json
