import LensCalibration.Log
import LensCalibration.Vendor.Entry

/-!
# Selection

The first entry whose aspect ratios are those of the requested modes is taken.  Only the four
field-of-view modes have a depth calibration.
-/

namespace LensCalibration.Vendor

/-- Equality of ratios, as that of cross products; an empty size has every ratio. -/
def Pinhole.hasAspectOf (p : Pinhole) (r : Resolution) : Bool :=
  p.width.toNat * r.height = r.width * p.height.toNat

/-- The depth sensor's aspect counts always, that of the color camera where it is on. -/
def Entry.suits (e : Entry) (depth : Resolution) (color : Option Resolution) : Bool :=
  e.depthPinhole.hasAspectOf depth && color.all e.colorPinhole.hasAspectOf

/-- The resolution for which a mode has a depth calibration. -/
def calibratedResolution? (mode : DepthMode) : Option Resolution :=
  match mode with
  | .off | .passiveInfrared => none
  | mode => mode.resolution?

def calibratedResolution (mode : DepthMode) : Logged Resolution :=
  match calibratedResolution? mode with
  | some resolution => return resolution
  | none => do
      Logged.log (.noDepthCalibration mode)
      Logged.fail (.unsupportedDepthMode mode)

def select (entries : List Entry) (depth : DepthMode) (color : ColorResolution) :
    Logged (Entry × Nat) := do
  let resolution ← calibratedResolution depth
  match entries.zipIdx.find? (fun (e, _) => e.suits resolution color.resolution?) with
  | some (entry, index) =>
      Logged.log (.selected index entries.length depth color)
      return (entry, index)
  | none =>
      Logged.log (.noMatch entries.length depth color)
      Logged.fail (.noMatchingCamera depth color)

end LensCalibration.Vendor
