import LensCalibration.Proofs.Json.Exchange

/-!
# Every integer as a code

A schema is loosened by taking every integer for a code.  The values of the schema are then still
there, with the same documents and the same singles, next to others of which a code stands for
nothing.
-/

namespace LensCalibration.Json

open Binary

/-! ## Loosened schemas -/

mutual

def Schema.loosened : Schema → Schema
  | .single => .single
  | .int32 => .int32
  | .nat32 => .nat32
  | .code _ => .int32
  | .array size element => .array size element.loosened
  | .list element => .list element.loosened
  | .record name fields => .record name fields.loosened

def Fields.loosened : Fields → Fields
  | .nil => .nil
  | .cons key schema rest => .cons key schema.loosened rest.loosened

end

mutual

def Schema.loosen : (schema : Schema) → schema.Value → schema.loosened.Value
  | .single, x => x
  | .int32, n => n
  | .nat32, n => n
  | .code vocabulary, entry => Int32.ofNat (vocabulary.code entry)
  | .array _ element, xs => Vector.map element.loosen xs
  | .list element, xs => List.map element.loosen xs
  | .record _ fields, values => fields.loosen values

def Fields.loosen : (fields : Fields) → fields.Values → fields.loosened.Values
  | .nil, () => ()
  | .cons _ schema rest, (value, values) => (schema.loosen value, rest.loosen values)

end

/-- What there is to say against a code. -/
def strayCode (vocabulary : Vocabulary) (code : Int) : List Cause :=
  match vocabulary.ofCode? code with
  | some _ => []
  | none => [.unrecognizedCode vocabulary code]

mutual

/-- What there is to say against the codes of a value. -/
def Schema.strayCodes : (schema : Schema) → schema.loosened.Value → List Cause
  | .single, _ => []
  | .int32, _ => []
  | .nat32, _ => []
  | .code vocabulary, n => strayCode vocabulary (Int32.toInt n)
  | .array _ element, xs => (Vector.toList xs).flatMap element.strayCodes
  | .list element, xs => List.flatMap element.strayCodes xs
  | .record _ fields, values => fields.strayCodes values

def Fields.strayCodes : (fields : Fields) → fields.loosened.Values → List Cause
  | .nil, () => []
  | .cons _ schema rest, (value, values) => schema.strayCodes value ++ rest.strayCodes values

end

/-! ## Loosened values -/

theorem toInt_code (vocabulary : Vocabulary) (entry : vocabulary.Entry) :
    (Int32.ofNat (vocabulary.code entry)).toInt = vocabulary.code entry := by
  cases vocabulary <;> cases entry <;> rfl

theorem strayCode_code (vocabulary : Vocabulary) (entry : vocabulary.Entry) :
    strayCode vocabulary (Int32.ofNat (vocabulary.code entry)).toInt = [] := by
  rw [toInt_code, strayCode, Vocabulary.ofCode?_code]

section

variable {α β γ : Type} {f : α → β}

theorem map_toList_map {g : β → γ} {h : α → γ} (hcomp : ∀ x, g (f x) = h x) {n : Nat}
    (xs : Vector α n) : (Vector.map f xs).toList.map g = xs.toList.map h := by
  rw [Vector.toList_map, List.map_map]
  exact List.map_congr_left fun x _ => hcomp x

theorem flatMap_map {g : β → List γ} {h : α → List γ} (hcomp : ∀ x, g (f x) = h x)
    (xs : List α) : (xs.map f).flatMap g = xs.flatMap h := by
  rw [List.flatMap_map]
  exact congrArg (List.flatMap · xs) (funext hcomp)

theorem flatMap_map_eq_nil {g : β → List γ} (hcomp : ∀ x, g (f x) = []) (xs : List α) :
    (xs.map f).flatMap g = [] := by
  rw [flatMap_map hcomp]
  exact List.flatMap_eq_nil_iff.2 fun _ _ => rfl

end

mutual

theorem Schema.toDocument_loosen : ∀ (schema : Schema) (value : schema.Value),
    schema.loosened.toDocument (schema.loosen value) = schema.toDocument value
  | .single, _ => rfl
  | .int32, _ => rfl
  | .nat32, _ => rfl
  | .code vocabulary, entry => congrArg ofInt (toInt_code vocabulary entry)
  | .array _ element, xs => congrArg (fun ds => Document.array (Elements.ofList ds))
      (map_toList_map element.toDocument_loosen xs)
  | .list element, _ => congrArg (fun ds => Document.array (Elements.ofList ds))
      ((List.map_map ..).trans (List.map_congr_left fun x _ => element.toDocument_loosen x))
  | .record _ fields, values => congrArg Document.object (fields.toMembers_loosen values)

theorem Fields.toMembers_loosen : ∀ (fields : Fields) (values : fields.Values),
    fields.loosened.toMembers (fields.loosen values) = fields.toMembers values
  | .nil, () => rfl
  | .cons key schema rest, (value, values) =>
      congrArg₂ (Members.cons key) (schema.toDocument_loosen value) (rest.toMembers_loosen values)

end

mutual

theorem Schema.singles_loosen : ∀ (schema : Schema) (value : schema.Value),
    schema.loosened.singles (schema.loosen value) = schema.singles value
  | .single, _ => rfl
  | .int32, _ => rfl
  | .nat32, _ => rfl
  | .code _, _ => rfl
  | .array _ element, xs => (congrArg (List.flatMap _) Vector.toList_map).trans
      (flatMap_map element.singles_loosen (Vector.toList xs))
  | .list element, xs => flatMap_map element.singles_loosen xs
  | .record _ fields, values => fields.singles_loosen values

theorem Fields.singles_loosen : ∀ (fields : Fields) (values : fields.Values),
    fields.loosened.singles (fields.loosen values) = fields.singles values
  | .nil, () => rfl
  | .cons _ schema rest, (value, values) =>
      congrArg₂ (· ++ ·) (schema.singles_loosen value) (rest.singles_loosen values)

end

mutual

theorem Schema.strayCodes_loosen : ∀ (schema : Schema) (value : schema.Value),
    schema.strayCodes (schema.loosen value) = []
  | .single, _ => rfl
  | .int32, _ => rfl
  | .nat32, _ => rfl
  | .code vocabulary, entry => strayCode_code vocabulary entry
  | .array _ element, xs => (congrArg (List.flatMap _) Vector.toList_map).trans
      (flatMap_map_eq_nil element.strayCodes_loosen (Vector.toList xs))
  | .list element, xs => flatMap_map_eq_nil element.strayCodes_loosen xs
  | .record _ fields, values => fields.strayCodes_loosen values

theorem Fields.strayCodes_loosen : ∀ (fields : Fields) (values : fields.Values),
    fields.strayCodes (fields.loosen values) = []
  | .nil, () => rfl
  | .cons _ schema rest, (value, values) =>
      List.append_eq_nil_iff.2 ⟨schema.strayCodes_loosen value, rest.strayCodes_loosen values⟩

end

/-- Another first value among values that nothing is to be said against. -/
theorem Fields.strayCodes_first {key : String} {schema : Schema} {rest : Fields}
    {value value' : schema.loosened.Value} {values : rest.loosened.Values}
    (h : (Fields.cons key schema rest).strayCodes (value, values) = []) :
    (Fields.cons key schema rest).strayCodes (value', values) = schema.strayCodes value' := by
  have hrest : rest.strayCodes values = [] := (List.append_eq_nil_iff.1 h).2
  exact (congrArg (_ ++ ·) hrest).trans (List.append_nil _)

theorem Fields.strayCodes_rest {key : String} {schema : Schema} {rest : Fields}
    {value : schema.loosened.Value} {values values' : rest.loosened.Values}
    (h : (Fields.cons key schema rest).strayCodes (value, values) = []) :
    (Fields.cons key schema rest).strayCodes (value, values') = rest.strayCodes values' := by
  have hvalue : schema.strayCodes value = [] := (List.append_eq_nil_iff.1 h).1
  exact congrArg (· ++ _) hvalue

end LensCalibration.Json
