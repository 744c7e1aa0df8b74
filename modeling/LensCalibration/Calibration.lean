import LensCalibration.Extrinsics
import LensCalibration.Intrinsics

/-!
# Calibrations

A calibration holds its depth and its color camera, and the transforms between all sensors.
-/

namespace LensCalibration

open Binary Json

/-! ## Cameras -/

structure Camera where
  extrinsics : Extrinsics
  intrinsics : Intrinsics
  width : Int32
  height : Int32
  metricRadius : Single
  deriving DecidableEq, Repr, Inhabited

namespace Camera

def model (c : Camera) : LensModel :=
  c.intrinsics.model

def schema : Schema :=
  .record "CameraCalibration" <|
    .cons "extrinsics" Extrinsics.schema <| .cons "intrinsics" Intrinsics.schema <|
    .cons "resolution_width" .int32 <| .cons "resolution_height" .int32 <|
    .cons "metric_radius" .single .nil

instance : Coded Camera where
  schema := schema
  toValue c := (Coded.toValue c.extrinsics, Coded.toValue c.intrinsics, c.width, c.height,
    c.metricRadius, ())
  ofValue := fun (extrinsics, intrinsics, width, height, metricRadius, ()) =>
    ⟨Coded.ofValue extrinsics, Coded.ofValue intrinsics, width, height, metricRadius⟩
  ofValue_toValue _ := rfl
  toValue_ofValue _ := rfl

end Camera

/-! ## Calibrations -/

structure Calibration where
  depthCamera : Camera
  colorCamera : Camera
  /-- The transforms by source and target sensor. -/
  table : Vector (Vector Extrinsics 4) 4
  depthMode : DepthMode
  colorResolution : ColorResolution
  deriving DecidableEq, Repr, Inhabited

namespace Calibration

def camera? (c : Calibration) : Sensor → Option Camera
  | .depth => some c.depthCamera
  | .color => some c.colorCamera
  | .gyro | .accel => none

def model? (c : Calibration) (sensor : Sensor) : Option LensModel :=
  (c.camera? sensor).map Camera.model

def extrinsics (c : Calibration) (source target : Sensor) : Extrinsics :=
  c.table[source.index][target.index]

def setExtrinsics (c : Calibration) (source target : Sensor) (e : Extrinsics) : Calibration :=
  { c with table := c.table.set source.index (c.table[source.index].set target.index e) }

/-- The depth camera is checked first. -/
def validate (c : Calibration) : Except CalibrationError Unit := do
  c.depthCamera.intrinsics.validate
  c.colorCamera.intrinsics.validate

def schema : Schema :=
  .record "Calibration" <|
    .cons "depth_camera_calibration" Camera.schema <|
    .cons "color_camera_calibration" Camera.schema <|
    .cons "extrinsics" (.array 4 (.array 4 Extrinsics.schema)) <|
    .cons "depth_mode" (.code .depthMode) <|
    .cons "color_resolution" (.code .colorResolution) .nil

instance : Coded Calibration where
  schema := schema
  toValue c := (Coded.toValue c.depthCamera, Coded.toValue c.colorCamera,
    Coded.toValue c.table, c.depthMode, c.colorResolution, ())
  ofValue := fun (depthCamera, colorCamera, table, depthMode, colorResolution, ()) =>
    ⟨Coded.ofValue depthCamera, Coded.ofValue colorCamera, Coded.ofValue table, depthMode,
      colorResolution⟩
  ofValue_toValue c := by simp
  toValue_ofValue := fun (depthCamera, colorCamera, table, depthMode, colorResolution, ()) =>
    congrArg (fun t => (depthCamera, colorCamera, t, depthMode, colorResolution, ()))
      (Coded.toValue_ofValue (α := Vector (Vector Extrinsics 4) 4) table)

def equals (x y : Calibration) : Bool :=
  schema.equals (Coded.toValue x) (Coded.toValue y)

/-! ## Blobs -/

/-- A blob is the JSON text of a calibration; one that declares too many parameters is refused. -/
def ofBlob (text : String) : Except CalibrationError Calibration := do
  let c ← (decode Calibration text).mapError .json
  c.validate
  return c

def toBlob (c : Calibration) : String :=
  encode .pretty c

end Calibration

end LensCalibration
