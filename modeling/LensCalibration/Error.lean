import LensCalibration.Files.Fault
import LensCalibration.Json.Failure

/-!
# Calibration errors

Every way in which an operation on calibrations fails.  `message` is the text for users,
`diagnostic` shows the error with its parts.
-/

namespace LensCalibration

def parameterSlots : Nat := 15

inductive CalibrationError where
  | unrecognizedCode (vocabulary : Vocabulary) (code : Int)
  | unrecognizedModelName (name : String)
  | unsupportedDepthMode (mode : DepthMode)
  | invalidParameterCount (count : UInt32)
  | tooManyParameters (count : Nat)
  | noMatchingCamera (depth : DepthMode) (color : ColorResolution)
  | invalidVendorResolution (width height : UInt32)
  | fileDoesNotExist (path : String)
  | io (fault : Files.Fault)
  | json (error : Json.Error)
  deriving DecidableEq, Repr

namespace CalibrationError

def message : CalibrationError → String
  | unrecognizedCode vocabulary code => vocabulary.unrecognizedMessage code
  | unrecognizedModelName name => s!"Unrecognized calibration model name: {name}"
  | unsupportedDepthMode mode => s!"Unsupported depth mode for calibration: {mode.name}"
  | invalidParameterCount count =>
      s!"Invalid intrinsic parameter count: {count} (max {parameterSlots})"
  | tooManyParameters count =>
      s!"Too many intrinsic parameter values: {count} (max {parameterSlots})"
  | noMatchingCamera depth color =>
      s!"No camera parameter matches depth mode {depth.name} and color resolution {color.name}"
  | invalidVendorResolution width height =>
      s!"Invalid vendor camera resolution: {width}x{height}"
  | fileDoesNotExist path => s!"File does not exist: {path}"
  | io fault => s!"Failed to manipulate the file. {fault.message}"
  | json error => s!"Failed to (de)serialize the calibration. {error.message}"

/-! ## Diagnostics -/

def codeKind : Vocabulary → String
  | .model => "UnrecognizedModelCode"
  | .depthMode => "UnrecognizedDepthMode"
  | .colorResolution => "UnrecognizedColorResolution"
  | .sensor => "UnrecognizedCalibrationType"

def kind : CalibrationError → String
  | unrecognizedCode vocabulary _ => codeKind vocabulary
  | unrecognizedModelName _ => "UnrecognizedModelName"
  | unsupportedDepthMode _ => "UnsupportedDepthMode"
  | invalidParameterCount _ => "InvalidParameterCount"
  | tooManyParameters _ => "TooManyParameters"
  | noMatchingCamera .. => "NoMatchingCameraParam"
  | invalidVendorResolution .. => "InvalidVendorResolution"
  | fileDoesNotExist _ => "FileDoesNotExist"
  | io _ => "Io"
  | json _ => "Json"

def jsonDiagnostic (error : Json.Error) : String :=
  let position := error.position.getD ⟨0, 0⟩
  let text := Text.quoted error.cause.message
  s!"Error({text}, line: {position.line}, column: {position.column})"

def diagnostic (error : CalibrationError) : String :=
  error.kind ++
    match error with
    | unrecognizedCode _ code => s!"({code})"
    | unrecognizedModelName name => s!"({Text.quoted name})"
    | unsupportedDepthMode mode => s!"({mode.name})"
    | invalidParameterCount count => s!"({count})"
    | tooManyParameters count => s!"({count})"
    | noMatchingCamera depth color =>
        s!" \x7b depth_mode: {depth.name}, color_resolution: {color.name} \x7d"
    | invalidVendorResolution width height => s!"({width}, {height})"
    | fileDoesNotExist path => s!"({Text.quoted path})"
    | io fault => s!"({fault.diagnostic})"
    | json error => s!"({jsonDiagnostic error})"

end CalibrationError

/-! ## Codes and names that may be unknown -/

def Vocabulary.ofCode (v : Vocabulary) (n : Int) : Except CalibrationError v.Entry :=
  match v.ofCode? n with
  | some entry => .ok entry
  | none => .error (.unrecognizedCode v n)

namespace LensModel

def ofCode (n : Int) : Except CalibrationError LensModel :=
  Vocabulary.model.ofCode n

def ofInt32 (n : Int32) : Except CalibrationError LensModel :=
  ofCode n.toInt

/-- Other words are narrowed first; what does not fit is no code. -/
def ofUInt32 (n : UInt32) : Except CalibrationError LensModel :=
  if n.toNat ≤ 0x7fffffff then ofInt32 n.toInt32
  else .error (.unrecognizedCode .model n.toNat)

def ofInt64 (n : Int64) : Except CalibrationError LensModel :=
  if -0x80000000 ≤ n.toInt ∧ n.toInt ≤ 0x7fffffff then ofInt32 n.toInt32
  else .error (.unrecognizedCode .model n.toInt)

def ofName (text : String) : Except CalibrationError LensModel :=
  match ofName? text with
  | some model => .ok model
  | none => .error (.unrecognizedModelName text)

def ofNativeName (text : String) : Except CalibrationError LensModel :=
  match ofNativeName? text with
  | some model => .ok model
  | none => .error (.unrecognizedModelName text)

end LensModel

def DepthMode.ofCode (n : Int) : Except CalibrationError DepthMode :=
  Vocabulary.depthMode.ofCode n

def ColorResolution.ofCode (n : Int) : Except CalibrationError ColorResolution :=
  Vocabulary.colorResolution.ofCode n

def Sensor.ofCode (n : Int) : Except CalibrationError Sensor :=
  Vocabulary.sensor.ofCode n

end LensCalibration
