import LensCalibration.Calibration
import LensCalibration.Vendor.Selection

/-!
# Calibrations from vendor entries

The cameras of the selected entry are rescaled to the nominal resolutions of the requested modes.
-/

namespace LensCalibration.Vendor

open Binary

/--
A Brown-Conrady camera at a nominal resolution.  The vendor's model has three radial terms, so the
rational ones stay zero.
-/
def scaledCamera (p : Pinhole) (d : Distortion) (nominal : Resolution) (extrinsics : Extrinsics) :
    Except CalibrationError Camera :=
  if p.width = 0 ∨ p.height = 0 then .error (.invalidVendorResolution p.width p.height)
  else
    let factor := Single.ofInt nominal.width / Single.ofInt p.width.toNat
    let parameters : IntrinsicParameters :=
      { (default : IntrinsicParameters) with
        fx := p.fx * factor
        fy := p.fy * factor
        cx := p.cx * factor
        cy := p.cy * factor
        k1 := d.k1
        k2 := d.k2
        k3 := d.k3
        p1 := d.p1
        p2 := d.p2 }
    .ok
      { extrinsics
        intrinsics := Intrinsics.ofModel .brownConrady parameters
        width := Int32.ofNat nominal.width
        height := Int32.ofNat nominal.height
        metricRadius := .zero }

/-- A color camera that is off stays zero; every transform of the table is the vendor's. -/
def build (e : Entry) (depth : DepthMode) (color : ColorResolution) : Logged Calibration := do
  let resolution ← calibratedResolution depth
  let transform := e.transform.toExtrinsics
  let depthCamera ←
    Logged.ofExcept (scaledCamera e.depthPinhole e.depthDistortion resolution .identity)
  let colorCamera ←
    match color.resolution? with
    | none => pure default
    | some resolution =>
        Logged.ofExcept (scaledCamera e.colorPinhole e.colorDistortion resolution transform)
  Logged.log (.built depth color)
  return {
    depthCamera
    colorCamera
    table := Vector.replicate 4 (Vector.replicate 4 transform)
    depthMode := depth
    colorResolution := color }

def calibrate (entries : List Entry) (depth : DepthMode) (color : ColorResolution) :
    Logged Calibration := do
  let (entry, _) ← select entries depth color
  build entry depth color

end LensCalibration.Vendor
