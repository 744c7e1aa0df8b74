import LensCalibration.Proofs.Cameras.Intrinsics
import LensCalibration.Proofs.Vocabulary.Codes

/-!
# Intrinsics from raw values

Three limits are looked at one after the other: the code, the number of values and the count.  The
values fill the slots from the first one on, so that all of them give a record back, and the valid
ones give back what is valid of it.
-/

namespace LensCalibration

open Binary

/-! ## Padding -/

section

variable {α : Type} {a : α} {n k : Nat} {xs ys : List α}

theorem take_rightpad (h : k ≤ n) :
    (xs.rightpad n a).take k = xs.take k ++ List.replicate (k - xs.length) a := by
  rw [List.rightpad, List.take_append, List.take_replicate]
  congr 2
  omega

theorem getElem_of_eq_rightpad (h : ys = xs.rightpad n a) (hk : k < ys.length)
    (hle : xs.length ≤ k) : ys[k] = a := by
  simp only [h, List.rightpad]
  rw [List.getElem_append_right hle, List.getElem_replicate]

end

namespace IntrinsicParameters

variable {values : List Single}

theorem ofList_of_lt (h : 15 < values.length) :
    ofList values = .error (.tooManyParameters values.length) :=
  dif_neg (Nat.not_le_of_lt h)

theorem exists_ofList (h : values.length ≤ 15) :
    ∃ parameters, ofList values = .ok parameters ∧
      parameters.toVector.toList = values.rightpad 15 .zero := by
  refine ⟨_, dif_pos h, ?_⟩
  rw [toVector_ofVector]
  rfl

end IntrinsicParameters

/-! ## Acceptance -/

namespace Intrinsics

variable {code : Int} {count : UInt32} {model : LensModel} {values : List Single}

theorem ofRaw_of_lt_length (hcode : Vocabulary.model.ofCode? code = some model)
    (h : 15 < values.length) :
    ofRaw code count values = .error (.tooManyParameters values.length) := by
  rw [ofRaw_of_code hcode, IntrinsicParameters.ofList_of_lt h]
  rfl

theorem exists_ofRaw (hcode : Vocabulary.model.ofCode? code = some model)
    (hlength : values.length ≤ 15) (count : UInt32) :
    ∃ parameters, parameters.toVector.toList = values.rightpad 15 .zero ∧
      ofRaw code count values =
        (validate ⟨model, count, parameters⟩).map fun _ => ⟨model, count, parameters⟩ := by
  obtain ⟨parameters, hparameters, hslots⟩ := IntrinsicParameters.exists_ofList hlength
  refine ⟨parameters, hslots, ?_⟩
  rw [ofRaw_of_code hcode, hparameters]
  rfl

/-- Zeros stand in for the values that are missing. -/
theorem validParameters_of_rightpad {i : Intrinsics} (hcount : i.parameterCount.toNat ≤ 15)
    (hslots : i.parameters.toVector.toList = values.rightpad 15 .zero) :
    i.validParameters = values.take i.parameterCount.toNat ++
      List.replicate (i.parameterCount.toNat - values.length) .zero := by
  rw [validParameters_eq, hslots, take_rightpad hcount]

/-- A value beyond the count is kept in its slot, but is not a valid one. -/
theorem ofRaw_cases (code : Int) (count : UInt32) (values : List Single) :
    if code < 0 ∨ 4 < code then
      ofRaw code count values = .error (.unrecognizedCode .model code)
    else if 15 < values.length then
      ofRaw code count values = .error (.tooManyParameters values.length)
    else if 15 < count.toNat then
      ofRaw code count values = .error (.invalidParameterCount count)
    else
      ∃ i, ofRaw code count values = .ok i ∧ (i.model.code : Int) = code ∧
        i.parameterCount = count ∧
        i.parameters.toVector.toList = values.rightpad 15 .zero ∧
        i.validParameters = (values.rightpad 15 .zero).take count.toNat ∧
        i.validParameters =
          values.take count.toNat ++ List.replicate (count.toNat - values.length) .zero := by
  have hmodels : Vocabulary.model.entries.length = 5 := rfl
  split
  · next hstray => exact ofRaw_of_stray (Vocabulary.ofCode?_eq_none.2 (by omega)) count values
  · next hknown =>
      obtain ⟨model, hcode⟩ := (Vocabulary.model.exists_ofCode? code).2 (by omega)
      split
      · next hlength => exact ofRaw_of_lt_length hcode hlength
      · next hlength =>
          obtain ⟨parameters, hslots, hraw⟩ := exists_ofRaw hcode (Nat.le_of_not_lt hlength) count
          rw [hraw, validate_eq]
          split
          · rfl
          · next hcount =>
              refine ⟨⟨model, count, parameters⟩, rfl, Vocabulary.ofCode?_eq_some.1 hcode, rfl,
                hslots, ?_, validParameters_of_rightpad (Nat.le_of_not_lt hcount) hslots⟩
              rw [validParameters_eq, hslots]

/-! ## There and back -/

variable {x : Intrinsics}

theorem ofRaw_slots (x : Intrinsics) :
    ofRaw x.model.code x.parameterCount x.parameters.toVector.toList =
      x.validate.map fun _ => x :=
  ofRaw_toList (Vocabulary.model.ofCode?_code x.model) x.parameterCount x.parameters.toVector

theorem validParameters_of_validate_eq_error {error : CalibrationError}
    (h : x.validate = .error error) : x.validParameters = x.parameters.toVector.toList := by
  have hcount : ¬x.parameterCount.toNat ≤ 15 := by
    rw [← validate_eq_ok, h]
    exact nofun
  rw [validParameters_eq]
  apply List.take_of_length_le
  rw [Vector.length_toList]
  omega

/-- The valid values alone give a record that has zeros in its other slots. -/
theorem exists_ofRaw_validParameters (h : x.validate = .ok ()) :
    ∃ y, ofRaw x.model.code x.parameterCount x.validParameters = .ok y ∧ y.model = x.model ∧
      y.parameterCount = x.parameterCount ∧
      y.parameters.toVector.toList = x.validParameters.rightpad 15 .zero := by
  have hlength : x.validParameters.length ≤ 15 := by
    rw [length_validParameters h]
    exact validate_eq_ok.1 h
  obtain ⟨parameters, hslots, hraw⟩ :=
    exists_ofRaw (Vocabulary.model.ofCode?_code x.model) hlength x.parameterCount
  have hvalid : validate ⟨x.model, x.parameterCount, parameters⟩ = .ok () := h
  refine ⟨⟨x.model, x.parameterCount, parameters⟩, ?_, rfl, rfl, hslots⟩
  exact hraw.trans (by rw [hvalid]; rfl)

/-- All slots give back the record itself, the valid ones a record that is then kept. -/
theorem ofRaw_self_cases (x : Intrinsics) :
    (x.validCount : Nat) = min x.parameterCount.toNat 15 ∧
    x.validParameters.length = x.validCount ∧
    match x.validate with
    | .ok () =>
        ofRaw x.model.code x.parameterCount x.parameters.toVector.toList = .ok x ∧
        ∃ y, ofRaw x.model.code x.parameterCount x.validParameters = .ok y ∧
          y.model = x.model ∧ y.parameterCount = x.parameterCount ∧
          y.validParameters = x.validParameters ∧
          (∀ k (hk : k < 15), x.parameterCount.toNat ≤ k → y.parameters.toVector[k] = .zero) ∧
          ofRaw y.model.code y.parameterCount y.validParameters = .ok y
    | .error error =>
        error = .invalidParameterCount x.parameterCount ∧
        ofRaw x.model.code x.parameterCount x.parameters.toVector.toList = .error error ∧
        x.validParameters = x.parameters.toVector.toList := by
  refine ⟨rfl, length_validParameters_eq, ?_⟩
  have hraw := ofRaw_slots x
  cases hvalid : x.validate with
  | error error =>
      rw [hvalid] at hraw
      refine ⟨?_, hraw, validParameters_of_validate_eq_error hvalid⟩
      rw [validate_eq] at hvalid
      split at hvalid
      · cases hvalid
        rfl
      · cases hvalid
  | ok =>
      rw [hvalid] at hraw
      have hlength := length_validParameters hvalid
      obtain ⟨y, hy, hmodel, hcount, hslots⟩ := exists_ofRaw_validParameters hvalid
      have hprefix : y.validParameters = x.validParameters := by
        have hfits : y.parameterCount.toNat ≤ 15 := by
          rw [hcount]
          exact validate_eq_ok.1 hvalid
        rw [validParameters_of_rightpad hfits hslots, hcount, ← hlength, List.take_length,
          Nat.sub_self, List.replicate_zero, List.append_nil]
      refine ⟨hraw, y, hy, hmodel, hcount, hprefix, ?_, ?_⟩
      · intro k hk hle
        rw [← Vector.getElem_toList (by rwa [Vector.length_toList])]
        exact getElem_of_eq_rightpad hslots _ (by rwa [hlength])
      · -- nothing that the second pass is given differs from what the first was given
        rw [hmodel, hcount, hprefix]
        exact hy

end Intrinsics

end LensCalibration
