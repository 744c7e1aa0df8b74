import LensCalibration.Calibration
import LensCalibration.Proofs.Json.Reading

/-!
# Decoding and validating a blob

A blob is accepted where its text is decoded and both parameter counts are valid.  The first
failure is the one that is reported.
-/

namespace LensCalibration

open Binary Json

/-! ## Validation -/

theorem Intrinsics.validate_eq (i : Intrinsics) :
    i.validate =
      if 15 < i.parameterCount.toNat then .error (.invalidParameterCount i.parameterCount)
      else .ok () := by
  have hslots : parameterSlots = 15 := rfl
  unfold validate
  rw [hslots]
  split
  · rw [if_neg (by omega)]
  · rw [if_pos (by omega)]

namespace Calibration

def depthCount (c : Calibration) : UInt32 :=
  c.depthCamera.intrinsics.parameterCount

def colorCount (c : Calibration) : UInt32 :=
  c.colorCamera.intrinsics.parameterCount

theorem validate_eq (c : Calibration) :
    c.validate =
      if 15 < c.depthCount.toNat then .error (.invalidParameterCount c.depthCount)
      else if 15 < c.colorCount.toNat then .error (.invalidParameterCount c.colorCount)
      else .ok () := by
  change (c.depthCamera.intrinsics.validate >>= fun _ => c.colorCamera.intrinsics.validate) = _
  rw [Intrinsics.validate_eq, Intrinsics.validate_eq]
  unfold depthCount
  split
  · rfl
  · rfl

theorem validate_eq_ok {c : Calibration} :
    c.validate = .ok () ↔ c.depthCount.toNat ≤ 15 ∧ c.colorCount.toNat ≤ 15 := by
  rw [validate_eq]
  constructor
  · intro h
    split at h
    · cases h
    · split at h
      · cases h
      · omega
  · rintro ⟨hdepth, hcolor⟩
    rw [if_neg (by omega), if_neg (by omega)]

theorem ofBlob_of_decode {text : String} {c : Calibration}
    (h : (decode Calibration text).toOption = some c) :
    ofBlob text = c.validate.map fun _ => c := by
  rw [ofBlob, toOption_eq_some.1 h]
  change (c.validate >>= fun _ => pure c) = _
  cases c.validate <;> rfl

theorem ofBlob_of_not_decode {text : String} (h : (decode Calibration text).toOption = none) :
    ∃ e, ofBlob text = .error (.json e) := by
  obtain ⟨e, he⟩ := toOption_eq_none.1 h
  refine ⟨e, ?_⟩
  rw [ofBlob, he]
  rfl

theorem ofBlob_eq_ok {text : String} {c : Calibration} :
    ofBlob text = .ok c ↔ (decode Calibration text).toOption = some c ∧ c.validate = .ok () := by
  cases hdecode : (decode Calibration text).toOption with
  | none =>
      obtain ⟨e, he⟩ := ofBlob_of_not_decode hdecode
      simp [he]
  | some decoded =>
      rw [ofBlob_of_decode hdecode, Option.some.injEq]
      cases hvalidate : decoded.validate with
      | error e =>
          constructor
          · rintro ⟨⟩
          · rintro ⟨rfl, h⟩
            rw [hvalidate] at h
            cases h
      | ok u =>
          constructor
          · rintro ⟨⟩
            exact ⟨rfl, hvalidate⟩
          · rintro ⟨rfl, -⟩
            rfl

theorem ofBlob_eq_ok_of_isContentOf {d : Document} {text : String} (h : d.IsContentOf text)
    {c : Calibration} :
    ofBlob text = .ok c ↔
      (schema.ofDocument? d).map Coded.ofValue = some c ∧ c.validate = .ok () := by
  rw [ofBlob_eq_ok, toOption_decode Calibration h]
  rfl

end Calibration

end LensCalibration
