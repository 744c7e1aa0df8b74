import LensCalibration.Extrinsics

/-!
# Vendor entries

What the vendor reports for one pair of a depth and a color resolution.
-/

namespace LensCalibration.Vendor

open Binary Json

/-- Pinhole intrinsics, measured at a resolution of `width` by `height`. -/
structure Pinhole where
  fx : Single
  fy : Single
  cx : Single
  cy : Single
  width : UInt32
  height : UInt32
  deriving DecidableEq, Repr, Inhabited

def Pinhole.schema : Schema :=
  .record "VendorIntrinsic" <|
    .cons "fx" .single <| .cons "fy" .single <| .cons "cx" .single <| .cons "cy" .single <|
    .cons "width" .nat32 <| .cons "height" .nat32 .nil

instance : Coded Pinhole where
  schema := Pinhole.schema
  toValue p := (p.fx, p.fy, p.cx, p.cy, p.width, p.height, ())
  ofValue := fun (fx, fy, cx, cy, width, height, ()) => ⟨fx, fy, cx, cy, width, height⟩
  ofValue_toValue _ := rfl
  toValue_ofValue _ := rfl

structure Distortion where
  k1 : Single
  k2 : Single
  k3 : Single
  k4 : Single
  k5 : Single
  k6 : Single
  p1 : Single
  p2 : Single
  deriving DecidableEq, Repr, Inhabited

def Distortion.schema : Schema :=
  .record "VendorDistortion" <|
    .cons "k1" .single <| .cons "k2" .single <| .cons "k3" .single <| .cons "k4" .single <|
    .cons "k5" .single <| .cons "k6" .single <| .cons "p1" .single <| .cons "p2" .single .nil

instance : Coded Distortion where
  schema := Distortion.schema
  toValue d := (d.k1, d.k2, d.k3, d.k4, d.k5, d.k6, d.p1, d.p2, ())
  ofValue := fun (k1, k2, k3, k4, k5, k6, p1, p2, ()) => ⟨k1, k2, k3, k4, k5, k6, p1, p2⟩
  ofValue_toValue _ := rfl
  toValue_ofValue _ := rfl

/-- The transform from the depth to the color camera. -/
structure Transform where
  rotation : Vector Single 9
  translation : Vector Single 3
  deriving DecidableEq, Repr

instance : Inhabited Transform :=
  ⟨⟨Vector.replicate 9 .zero, Vector.replicate 3 .zero⟩⟩

def Transform.schema : Schema :=
  .record "VendorTransform"
    (.cons "rot" (.array 9 .single) (.cons "trans" (.array 3 .single) .nil))

instance : Coded Transform where
  schema := Transform.schema
  toValue t := (t.rotation, t.translation, ())
  ofValue := fun (rotation, translation, ()) => ⟨rotation, translation⟩
  ofValue_toValue _ := rfl
  toValue_ofValue _ := rfl

def Transform.toExtrinsics (t : Transform) : Extrinsics :=
  ⟨t.rotation, t.translation⟩

structure Entry where
  depthPinhole : Pinhole
  colorPinhole : Pinhole
  depthDistortion : Distortion
  colorDistortion : Distortion
  transform : Transform
  deriving DecidableEq, Repr, Inhabited

def Entry.schema : Schema :=
  .record "VendorCameraParam" <|
    .cons "depth_intrinsic" Pinhole.schema <| .cons "rgb_intrinsic" Pinhole.schema <|
    .cons "depth_distortion" Distortion.schema <| .cons "rgb_distortion" Distortion.schema <|
    .cons "transform" Transform.schema .nil

instance : Coded Entry where
  schema := Entry.schema
  toValue e := (Coded.toValue e.depthPinhole, Coded.toValue e.colorPinhole,
    Coded.toValue e.depthDistortion, Coded.toValue e.colorDistortion, Coded.toValue e.transform, ())
  ofValue := fun (depthPinhole, colorPinhole, depthDistortion, colorDistortion, transform, ()) =>
    ⟨Coded.ofValue depthPinhole, Coded.ofValue colorPinhole, Coded.ofValue depthDistortion,
      Coded.ofValue colorDistortion, Coded.ofValue transform⟩
  ofValue_toValue _ := rfl
  toValue_ofValue _ := rfl

end LensCalibration.Vendor
