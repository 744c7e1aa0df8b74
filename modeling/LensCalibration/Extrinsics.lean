import LensCalibration.Json.Reader
import LensCalibration.Json.Writer

/-!
# Extrinsics

The rigid transform from one sensor to another: a rotation, row by row, and a translation in
millimeters.
-/

namespace LensCalibration

open Binary Json

structure Extrinsics where
  rotation : Vector Single 9
  translation : Vector Single 3
  deriving DecidableEq, Repr

namespace Extrinsics

/-- All zeros, which is not the identity. -/
def zero : Extrinsics :=
  ⟨Vector.replicate 9 .zero, Vector.replicate 3 .zero⟩

instance : Inhabited Extrinsics := ⟨zero⟩

def identity : Extrinsics where
  rotation := #v[.one, .zero, .zero, .zero, .one, .zero, .zero, .zero, .one]
  translation := Vector.replicate 3 .zero

def schema : Schema :=
  .record "CalibrationExtrinsics"
    (.cons "rotation" (.array 9 .single) (.cons "translation" (.array 3 .single) .nil))

instance : Coded Extrinsics where
  schema := schema
  toValue e := (e.rotation, e.translation, ())
  ofValue := fun (rotation, translation, ()) => ⟨rotation, translation⟩
  ofValue_toValue _ := rfl
  toValue_ofValue _ := rfl

def equals (x y : Extrinsics) : Bool :=
  schema.equals (Coded.toValue x) (Coded.toValue y)

def isIdentity (e : Extrinsics) : Bool :=
  e.equals identity

def matrix (e : Extrinsics) : List (List Single) :=
  let r := e.rotation
  [[r[0], r[1], r[2]], [r[3], r[4], r[5]], [r[6], r[7], r[8]]]

end Extrinsics

end LensCalibration
