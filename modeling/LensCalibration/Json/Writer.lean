import LensCalibration.Json.Document
import LensCalibration.Json.Schema

/-!
# Writing by a schema

A record becomes an object with its fields in order, a code the integer that it is, and a number
that is not finite becomes `null`.
-/

namespace LensCalibration.Json

open Binary Decimal

def ofSingle (x : Single) : Document :=
  match numeral? x with
  | some numeral => .number numeral
  | none => .null

def ofInt (n : Int) : Document :=
  .number (Numeral.ofInt n)

mutual

def Schema.toDocument : (schema : Schema) → schema.Value → Document
  | .single, x => ofSingle x
  | .int32, n => ofInt (Int32.toInt n)
  | .nat32, n => ofInt (UInt32.toNat n)
  | .code vocabulary, entry => ofInt (vocabulary.code entry)
  | .array _ element, xs =>
      .array (Elements.ofList (List.map element.toDocument (Vector.toList xs)))
  | .list element, xs => .array (Elements.ofList (List.map element.toDocument xs))
  | .record _ fields, values => .object (fields.toMembers values)

def Fields.toMembers : (fields : Fields) → fields.Values → Members
  | .nil, () => .nil
  | .cons key schema rest, (value, values) =>
      .cons key (schema.toDocument value) (rest.toMembers values)

end

def toDocument {α : Type} [Coded α] (x : α) : Document :=
  (Coded.schema α).toDocument (Coded.toValue x)

def encode {α : Type} [Coded α] (form : Form) (x : α) : String :=
  (toDocument x).toString form

end LensCalibration.Json
