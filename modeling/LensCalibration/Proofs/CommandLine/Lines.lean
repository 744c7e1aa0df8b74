import LensCalibration.CommandLine.Program

/-!
# The lines of the output

What stands in a line is given here letter by letter for every model and every mode, so that only
sizes and counts are left to be printed as numbers.  The sections of the program show these lines.
-/

namespace LensCalibration

/-! ## Lines -/

/-- The code, the short name and the native name of a model in their columns. -/
def LensModel.line : LensModel → String
  | unknown => " 0  unknown        K4A_CALIBRATION_LENS_DISTORTION_MODEL_UNKNOWN"
  | theta => " 1  theta          K4A_CALIBRATION_LENS_DISTORTION_MODEL_THETA"
  | polynomial3K => " 2  polynomial_3k  K4A_CALIBRATION_LENS_DISTORTION_MODEL_POLYNOMIAL_3K"
  | rational6KT => " 3  rational_6kt   K4A_CALIBRATION_LENS_DISTORTION_MODEL_RATIONAL_6KT"
  | brownConrady => " 4  brown_conrady  K4A_CALIBRATION_LENS_DISTORTION_MODEL_BROWN_CONRADY"

/-- The name of the native type, and below it a line for each model. -/
def LensModel.tableLines : List String :=
  ["k4a_calibration_model_type_t", line unknown, line theta, line polynomial3K, line rational6KT,
    line brownConrady]

def LensModel.bothNames : LensModel → String
  | unknown => "unknown (K4A_CALIBRATION_LENS_DISTORTION_MODEL_UNKNOWN)"
  | theta => "theta (K4A_CALIBRATION_LENS_DISTORTION_MODEL_THETA)"
  | polynomial3K => "polynomial_3k (K4A_CALIBRATION_LENS_DISTORTION_MODEL_POLYNOMIAL_3K)"
  | rational6KT => "rational_6kt (K4A_CALIBRATION_LENS_DISTORTION_MODEL_RATIONAL_6KT)"
  | brownConrady => "brown_conrady (K4A_CALIBRATION_LENS_DISTORTION_MODEL_BROWN_CONRADY)"

def DepthMode.phrase : DepthMode → String
  | off => "depth mode: Off"
  | narrowBinned => "depth mode: Nfov2x2Binned"
  | narrowUnbinned => "depth mode: NfovUnbinned"
  | wideBinned => "depth mode: Wfov2x2Binned"
  | wideUnbinned => "depth mode: WfovUnbinned"
  | passiveInfrared => "depth mode: PassiveIr"

def ColorResolution.phrase : ColorResolution → String
  | off => "color resolution: Off"
  | r720p => "color resolution: R720p"
  | r1080p => "color resolution: R1080p"
  | r1440p => "color resolution: R1440p"
  | r1536p => "color resolution: R1536p"
  | r2160p => "color resolution: R2160p"
  | r3072p => "color resolution: R3072p"

/-- Width, height and count are decimal numbers, the first two with a sign where it is needed. -/
def Camera.line (label : String) (c : Camera) : String :=
  label ++ ": " ++ c.width.toInt.repr ++ "x" ++ c.height.toInt.repr ++ " model " ++
    c.intrinsics.model.bothNames ++ ", " ++ c.intrinsics.parameterCount.toNat.repr ++ " parameters"

/-- The modes, then the depth camera, then the color camera. -/
def Calibration.lines (c : Calibration) : List String :=
  [c.depthMode.phrase ++ ", " ++ c.colorResolution.phrase, c.depthCamera.line "Depth",
    c.colorCamera.line "Color"]

/-- A warning for each camera without a model. -/
def Calibration.warnings (c : Calibration) : List Event :=
  (if c.depthCamera.intrinsics.model = .unknown then [.noDistortionModel .depth] else []) ++
    if c.colorCamera.intrinsics.model = .unknown then [.noDistortionModel .color] else []

namespace CommandLine

open Files

/-! ## Sections -/

end CommandLine

end LensCalibration
