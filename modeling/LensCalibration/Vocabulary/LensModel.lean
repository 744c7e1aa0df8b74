/-!
# Lens distortion models

The codes and the native names are shared with the device library and never change.
-/

namespace LensCalibration

inductive LensModel where
  | unknown
  | theta
  | polynomial3K
  | rational6KT
  | brownConrady
  deriving DecidableEq, Repr, Inhabited

namespace LensModel

/-- Every model, in the order of the codes. -/
def all : List LensModel :=
  [unknown, theta, polynomial3K, rational6KT, brownConrady]

def code : LensModel → Nat
  | unknown => 0
  | theta => 1
  | polynomial3K => 2
  | rational6KT => 3
  | brownConrady => 4

def name : LensModel → String
  | unknown => "unknown"
  | theta => "theta"
  | polynomial3K => "polynomial_3k"
  | rational6KT => "rational_6kt"
  | brownConrady => "brown_conrady"

def nativeTypeName : String := "k4a_calibration_model_type_t"

def nativeName : LensModel → String
  | unknown => "K4A_CALIBRATION_LENS_DISTORTION_MODEL_UNKNOWN"
  | theta => "K4A_CALIBRATION_LENS_DISTORTION_MODEL_THETA"
  | polynomial3K => "K4A_CALIBRATION_LENS_DISTORTION_MODEL_POLYNOMIAL_3K"
  | rational6KT => "K4A_CALIBRATION_LENS_DISTORTION_MODEL_RATIONAL_6KT"
  | brownConrady => "K4A_CALIBRATION_LENS_DISTORTION_MODEL_BROWN_CONRADY"

/-! ## Names -/

/-- Equality up to the case of ASCII letters; all other characters count as they are. -/
def sameLetters (s t : String) : Bool :=
  s.toList.map Char.toLower = t.toList.map Char.toLower

/-- A text names a model by its short name, in any case, or by its native name exactly. -/
def isNamedBy (model : LensModel) (text : String) : Bool :=
  sameLetters model.name text || model.nativeName = text

def ofName? (text : String) : Option LensModel :=
  all.find? (isNamedBy · text)

def ofNativeName? (text : String) : Option LensModel :=
  all.find? (nativeName · = text)

end LensModel

end LensCalibration
