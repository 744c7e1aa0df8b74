import LensCalibration.Proofs.Blob.Decoding

/-!
# Intrinsics of the two cameras

A valid count is what every check of a calibration comes down to.  What native values give has one,
and so does what a lens model gives.
-/

namespace LensCalibration

open Binary Json

/-! ## Valid counts -/

namespace IntrinsicParameters

variable {values : Vector Single 15}

@[simp] theorem toVector_ofVector : (ofVector values).toVector = values := by
  ext i hi
  match i, hi with
  | 0, _ | 1, _ | 2, _ | 3, _ | 4, _ | 5, _ | 6, _ | 7, _ | 8, _ | 9, _ | 10, _ | 11, _ | 12, _
  | 13, _ | 14, _ => rfl

theorem ofList_toList : ofList values.toList = .ok (ofVector values) := by
  have hlength : values.toList.length = 15 := values.length_toList
  have hpadded : values.toList ++ List.replicate (15 - values.toList.length) Single.zero =
      values.toList := by
    rw [hlength, Nat.sub_self, List.replicate_zero, List.append_nil]
  rw [ofList, dif_pos (Nat.le_of_eq hlength)]
  apply congrArg (fun v => Except.ok (ofVector v))
  exact Vector.toArray_inj.1 (congrArg List.toArray hpadded)

end IntrinsicParameters

namespace Intrinsics

variable {i : Intrinsics}

theorem validate_eq_ok : i.validate = .ok () ↔ i.parameterCount.toNat ≤ 15 := by
  rw [validate_eq]
  split
  · next h => exact ⟨nofun, fun hcount => absurd h (by omega)⟩
  · next h => exact ⟨fun _ => by omega, fun _ => rfl⟩

theorem validParameters_eq :
    i.validParameters = i.parameters.toVector.toList.take i.parameterCount.toNat := by
  rw [List.take_eq_take_min, Vector.length_toList]
  rfl

/-- The valid slots are never more than there are. -/
theorem length_validParameters_eq : i.validParameters.length = i.validCount := by
  rw [validParameters, List.length_take, Vector.length_toList]
  exact Nat.min_eq_left (Nat.le_of_lt_succ i.validCount.isLt)

theorem length_validParameters (h : i.validate = .ok ()) :
    i.validParameters.length = i.parameterCount.toNat :=
  length_validParameters_eq.trans (Nat.min_eq_left (validate_eq_ok.1 h))

theorem validParameters_isPrefixOf : i.validParameters <+: i.parameters.toVector.toList :=
  ⟨_, List.take_append_drop _ _⟩

theorem validate_ofModel (model : LensModel) (parameters : IntrinsicParameters) :
    (ofModel model parameters).validate = .ok () := by
  cases model <;> rfl

theorem validate_default : (default : Intrinsics).validate = .ok () :=
  rfl

theorem ofRaw_eq_ok {code : Int} {count : UInt32} {values : List Single} :
    ofRaw code count values = .ok i ↔
      LensModel.ofCode code = .ok i.model ∧ i.parameterCount = count ∧
        IntrinsicParameters.ofList values = .ok i.parameters ∧ i.validate = .ok () := by
  constructor
  · intro h
    obtain ⟨model, hmodel, h⟩ := bind_eq_ok.1 h
    obtain ⟨parameters, hparameters, h⟩ := bind_eq_ok.1 h
    obtain ⟨⟨⟩, hvalid, h⟩ := bind_eq_ok.1 h
    cases h
    exact ⟨hmodel, rfl, hparameters, hvalid⟩
  · rintro ⟨hmodel, rfl, hparameters, hvalid⟩
    exact bind_eq_ok.2 ⟨_, hmodel, bind_eq_ok.2 ⟨_, hparameters, bind_eq_ok.2 ⟨_, hvalid, rfl⟩⟩⟩

/-- The code is looked at before the count. -/
theorem ofRaw_of_stray {code : Int} (h : Vocabulary.model.ofCode? code = none) (count : UInt32)
    (values : List Single) :
    ofRaw code count values = .error (.unrecognizedCode .model code) := by
  rw [ofRaw, LensModel.ofCode, Vocabulary.ofCode, h]
  rfl

/-- The values are looked at next, and the count last. -/
theorem ofRaw_of_code {code : Int} {model : LensModel}
    (h : Vocabulary.model.ofCode? code = some model) (count : UInt32) (values : List Single) :
    ofRaw code count values =
      (IntrinsicParameters.ofList values).bind fun parameters =>
        (validate ⟨model, count, parameters⟩).map fun _ => ⟨model, count, parameters⟩ := by
  rw [ofRaw, LensModel.ofCode, Vocabulary.ofCode, h]
  cases IntrinsicParameters.ofList values with
  | error error => rfl
  | ok parameters =>
      let found : Intrinsics := ⟨model, count, parameters⟩
      change (found.validate.bind fun _ => .ok found) = found.validate.map fun _ => found
      cases found.validate <;> rfl

theorem ofRaw_toList {code : Int} {model : LensModel}
    (h : Vocabulary.model.ofCode? code = some model) (count : UInt32) (values : Vector Single 15) :
    ofRaw code count values.toList =
      (validate ⟨model, count, .ofVector values⟩).map fun _ =>
        ⟨model, count, .ofVector values⟩ := by
  rw [ofRaw_of_code h, IntrinsicParameters.ofList_toList]
  rfl

theorem ofRaw_toList_ne_unrecognizedCode {code : Int} {model : LensModel}
    (h : Vocabulary.model.ofCode? code = some model) (count : UInt32) (values : Vector Single 15) :
    ofRaw code count values.toList ≠ .error (.unrecognizedCode .model code) := by
  rw [ofRaw_toList h, validate_eq]
  split
  · rintro ⟨⟩
  · rintro ⟨⟩

end Intrinsics

/-! ## The two cameras -/

inductive CameraRole where
  | depth
  | color
  deriving DecidableEq, Repr

namespace Calibration

variable {c : Calibration} {role : CameraRole}

def camera (c : Calibration) : CameraRole → Camera
  | .depth => c.depthCamera
  | .color => c.colorCamera

def change (c : Calibration) (role : CameraRole) (f : Camera → Camera) : Calibration :=
  match role with
  | .depth => { c with depthCamera := f c.depthCamera }
  | .color => { c with colorCamera := f c.colorCamera }

@[simp] theorem camera_change (f : Camera → Camera) :
    (c.change role f).camera role = f (c.camera role) := by
  cases role <;> rfl

theorem camera_change_of_ne {found : CameraRole} (h : found ≠ role) (f : Camera → Camera) :
    (c.change role f).camera found = c.camera found := by
  cases role <;> cases found <;> first | rfl | exact absurd rfl h

theorem validate_iff_forall_role :
    c.validate = .ok () ↔ ∀ role, (c.camera role).intrinsics.validate = .ok () := by
  simp only [validate_eq_ok, Intrinsics.validate_eq_ok]
  constructor
  · rintro ⟨hdepth, hcolor⟩ (_ | _)
    · exact hdepth
    · exact hcolor
  · exact fun h => ⟨h .depth, h .color⟩

theorem validate_change {f : Camera → Camera} (h : c.validate = .ok ())
    (hf : (f (c.camera role)).intrinsics.validate = .ok ()) :
    (c.change role f).validate = .ok () := by
  rw [validate_iff_forall_role] at h ⊢
  intro found
  by_cases hfound : found = role
  · rw [hfound, camera_change]
    exact hf
  · rw [camera_change_of_ne hfound]
    exact h found

end Calibration

end LensCalibration
