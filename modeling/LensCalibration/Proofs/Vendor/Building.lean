import LensCalibration.Proofs.Blob.Decoding
import LensCalibration.Vendor.Build

/-!
# What is built from an entry

Building fails only where the size of a camera that is on has an empty side; otherwise the result
is written out here field by field.
-/

namespace LensCalibration.Vendor

open Binary

variable {e : Entry} {depth : DepthMode} {color : ColorResolution} {r : Resolution}
  {c : Calibration}

/-- No side of the size is empty. -/
def Pinhole.IsSized (p : Pinhole) : Prop :=
  p.width ≠ 0 ∧ p.height ≠ 0

instance : DecidablePred Pinhole.IsSized := fun p =>
  inferInstanceAs (Decidable (p.width ≠ 0 ∧ p.height ≠ 0))

/-! ## Cameras -/

/-- What turns widths of the vendor's image into widths of the nominal one. -/
def Pinhole.factor (p : Pinhole) (r : Resolution) : Single :=
  Single.ofInt r.width / Single.ofInt p.width.toNat

def rescaledParameters (p : Pinhole) (d : Distortion) (factor : Single) : IntrinsicParameters :=
  { cx := p.cx * factor, cy := p.cy * factor, fx := p.fx * factor, fy := p.fy * factor
    k1 := d.k1, k2 := d.k2, k3 := d.k3, k4 := .zero, k5 := .zero, k6 := .zero
    codx := .zero, cody := .zero, p2 := d.p2, p1 := d.p1, metricRadius := .zero }

def rescaledCamera (p : Pinhole) (d : Distortion) (r : Resolution) (extrinsics : Extrinsics) :
    Camera :=
  { extrinsics
    intrinsics := ⟨.brownConrady, 14, rescaledParameters p d (p.factor r)⟩
    width := Int32.ofNat r.width
    height := Int32.ofNat r.height
    metricRadius := .zero }

theorem scaledCamera_of_isSized {p : Pinhole} (h : p.IsSized) (d : Distortion) (r : Resolution)
    (extrinsics : Extrinsics) :
    scaledCamera p d r extrinsics = .ok (rescaledCamera p d r extrinsics) :=
  if_neg (not_or.2 h)

theorem scaledCamera_of_not_isSized {p : Pinhole} (h : ¬ p.IsSized) (d : Distortion)
    (r : Resolution) (extrinsics : Extrinsics) :
    scaledCamera p d r extrinsics = .error (.invalidVendorResolution p.width p.height) :=
  if_pos (Decidable.not_and_iff_not_or_not.1 h |>.imp Decidable.not_not.1 Decidable.not_not.1)

/-! ## Calibrations -/

/-- A color camera that is off is all zeros. -/
def Entry.colorCamera (e : Entry) (color : ColorResolution) : Camera :=
  match color.resolution? with
  | none => default
  | some r => rescaledCamera e.colorPinhole e.colorDistortion r e.transform.toExtrinsics

def Entry.toCalibration (e : Entry) (r : Resolution) (depth : DepthMode)
    (color : ColorResolution) : Calibration :=
  { depthCamera := rescaledCamera e.depthPinhole e.depthDistortion r .identity
    colorCamera := e.colorCamera color
    table := Vector.replicate 4 (Vector.replicate 4 e.transform.toExtrinsics)
    depthMode := depth
    colorResolution := color }

theorem validate_toCalibration (e : Entry) (r : Resolution) (depth : DepthMode)
    (color : ColorResolution) : (e.toCalibration r depth color).validate = .ok () := by
  have hcount : (14 : UInt32).toNat ≤ 15 ∧ (0 : UInt32).toNat ≤ 15 := by decide
  have hcolor : (e.colorCamera color).intrinsics.parameterCount.toNat ≤ 15 := by
    unfold Entry.colorCamera
    split
    · exact hcount.2
    · exact hcount.1
  exact Calibration.validate_eq_ok.2 ⟨hcount.1, hcolor⟩

/-- The size of the depth camera is looked at first.  Only a calibration is told of. -/
theorem build_eq (h : calibratedResolution? depth = some r) (e : Entry) (color : ColorResolution) :
    build e depth color =
      if e.depthPinhole.IsSized then
        if ∀ r ∈ color.resolution?, e.colorPinhole.IsSized then
          ⟨.ok (e.toCalibration r depth color), [.built depth color]⟩
        else ⟨.error (.invalidVendorResolution e.colorPinhole.width e.colorPinhole.height), []⟩
      else ⟨.error (.invalidVendorResolution e.depthPinhole.width e.depthPinhole.height), []⟩ := by
  rw [build, calibratedResolution, h, Logged.pure_bind]
  by_cases hdepth : e.depthPinhole.IsSized
  · rw [if_pos hdepth, scaledCamera_of_isSized hdepth]
    cases hcolor : color.resolution? with
    | none =>
        have hcamera : e.colorCamera color = default := by rw [Entry.colorCamera, hcolor]
        rw [if_pos (by simp), Entry.toCalibration, hcamera]
        rfl
    | some nominal =>
        have hcamera : e.colorCamera color = rescaledCamera e.colorPinhole e.colorDistortion
            nominal e.transform.toExtrinsics := by
          rw [Entry.colorCamera, hcolor]
        rw [Entry.toCalibration, hcamera]
        by_cases hsized : e.colorPinhole.IsSized
        · simp only [scaledCamera_of_isSized hsized]
          rw [if_pos fun _ _ => hsized]
          rfl
        · simp only [scaledCamera_of_not_isSized hsized]
          rw [if_neg fun h => hsized (h nominal rfl)]
          rfl
  · rw [if_neg hdepth, scaledCamera_of_not_isSized hdepth]
    rfl

theorem result_build (h : calibratedResolution? depth = some r) :
    (build e depth color).result =
      if e.depthPinhole.IsSized then
        if ∀ r ∈ color.resolution?, e.colorPinhole.IsSized then .ok (e.toCalibration r depth color)
        else .error (.invalidVendorResolution e.colorPinhole.width e.colorPinhole.height)
      else .error (.invalidVendorResolution e.depthPinhole.width e.depthPinhole.height) := by
  rw [build_eq h, apply_ite Logged.result, apply_ite Logged.result]

theorem result_build_eq_ok (h : calibratedResolution? depth = some r) :
    (build e depth color).result = .ok c ↔
      e.depthPinhole.IsSized ∧ (∀ r ∈ color.resolution?, e.colorPinhole.IsSized) ∧
        e.toCalibration r depth color = c := by
  rw [result_build h]
  split
  · next hdepth =>
      split
      · next hcolor =>
          constructor
          · rintro ⟨⟩
            exact ⟨hdepth, hcolor, rfl⟩
          · rintro ⟨-, -, rfl⟩
            rfl
      · next hcolor => exact ⟨nofun, fun h => absurd h.2.1 hcolor⟩
  · next hdepth => exact ⟨nofun, fun h => absurd h.1 hdepth⟩

end LensCalibration.Vendor
