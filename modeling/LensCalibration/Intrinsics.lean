import LensCalibration.Error
import LensCalibration.Json.Reader
import LensCalibration.Json.Writer

/-!
# Intrinsics

The lens model of a camera and the values of its parameters.  The record has a fixed number of
slots, of which the first `parameterCount` are valid.
-/

namespace LensCalibration

open Binary Json

/-! ## Parameters -/

/-- The slots in native order. -/
structure IntrinsicParameters where
  cx : Single
  cy : Single
  fx : Single
  fy : Single
  k1 : Single
  k2 : Single
  k3 : Single
  k4 : Single
  k5 : Single
  k6 : Single
  codx : Single
  cody : Single
  p2 : Single
  p1 : Single
  metricRadius : Single
  deriving DecidableEq, Repr, Inhabited

namespace IntrinsicParameters

def toVector (p : IntrinsicParameters) : Vector Single 15 :=
  #v[p.cx, p.cy, p.fx, p.fy, p.k1, p.k2, p.k3, p.k4, p.k5, p.k6, p.codx, p.cody, p.p2, p.p1,
    p.metricRadius]

def ofVector (v : Vector Single 15) : IntrinsicParameters where
  cx := v[0]
  cy := v[1]
  fx := v[2]
  fy := v[3]
  k1 := v[4]
  k2 := v[5]
  k3 := v[6]
  k4 := v[7]
  k5 := v[8]
  k6 := v[9]
  codx := v[10]
  cody := v[11]
  p2 := v[12]
  p1 := v[13]
  metricRadius := v[14]

/-- Parameters from the values of the first slots; the others are zero. -/
def ofList (values : List Single) : Except CalibrationError IntrinsicParameters :=
  if h : values.length ≤ 15 then
    let padded := values ++ List.replicate (15 - values.length) Single.zero
    .ok (ofVector ⟨padded.toArray, by simp [padded]; omega⟩)
  else .error (.tooManyParameters values.length)

def schema : Schema :=
  .record "IntrinsicParameters" <|
    .cons "cx" .single <| .cons "cy" .single <| .cons "fx" .single <| .cons "fy" .single <|
    .cons "k1" .single <| .cons "k2" .single <| .cons "k3" .single <| .cons "k4" .single <|
    .cons "k5" .single <| .cons "k6" .single <| .cons "codx" .single <| .cons "cody" .single <|
    .cons "p2" .single <| .cons "p1" .single <| .cons "metric_radius" .single .nil

instance : Coded IntrinsicParameters where
  schema := schema
  toValue p := (p.cx, p.cy, p.fx, p.fy, p.k1, p.k2, p.k3, p.k4, p.k5, p.k6, p.codx, p.cody, p.p2,
    p.p1, p.metricRadius, ())
  ofValue := fun (cx, cy, fx, fy, k1, k2, k3, k4, k5, k6, codx, cody, p2, p1, metricRadius, ()) =>
    ⟨cx, cy, fx, fy, k1, k2, k3, k4, k5, k6, codx, cody, p2, p1, metricRadius⟩
  ofValue_toValue _ := rfl
  toValue_ofValue _ := rfl

end IntrinsicParameters

/-! ## Intrinsics -/

structure Intrinsics where
  model : LensModel
  parameterCount : UInt32
  parameters : IntrinsicParameters
  deriving DecidableEq, Repr, Inhabited

namespace Intrinsics

/-- Valid slots of a Brown-Conrady camera, whose metric radius is not one of its parameters. -/
def brownConradyCount : UInt32 := 14

def countOf : LensModel → UInt32
  | .brownConrady => brownConradyCount
  | _ => 15

def ofModel (model : LensModel) (parameters : IntrinsicParameters) : Intrinsics :=
  ⟨model, countOf model, parameters⟩

def validate (i : Intrinsics) : Except CalibrationError Unit :=
  if i.parameterCount.toNat ≤ parameterSlots then .ok ()
  else .error (.invalidParameterCount i.parameterCount)

/--
Intrinsics from what a native record holds: a code, a count and the values of the first slots.
-/
def ofRaw (code : Int) (count : UInt32) (values : List Single) :
    Except CalibrationError Intrinsics := do
  let model ← LensModel.ofCode code
  let parameters ← IntrinsicParameters.ofList values
  let intrinsics : Intrinsics := ⟨model, count, parameters⟩
  intrinsics.validate
  return intrinsics

/-- How many slots are valid; a count beyond the slots means all of them. -/
def validCount (i : Intrinsics) : Fin (parameterSlots + 1) :=
  ⟨min i.parameterCount.toNat parameterSlots, Nat.lt_succ_of_le (Nat.min_le_right _ _)⟩

/-- The values of the valid slots. -/
def validParameters (i : Intrinsics) : List Single :=
  i.parameters.toVector.toList.take i.validCount

def schema : Schema :=
  .record "CalibrationIntrinsics" <|
    .cons "type" (.code .model) <| .cons "parameter_count" .nat32 <|
    .cons "parameters" IntrinsicParameters.schema .nil

instance : Coded Intrinsics where
  schema := schema
  toValue i := (i.model, i.parameterCount, Coded.toValue i.parameters, ())
  ofValue := fun (model, count, parameters, ()) => ⟨model, count, Coded.ofValue parameters⟩
  ofValue_toValue _ := rfl
  toValue_ofValue _ := rfl

def equals (x y : Intrinsics) : Bool :=
  schema.equals (Coded.toValue x) (Coded.toValue y)

end Intrinsics

end LensCalibration
