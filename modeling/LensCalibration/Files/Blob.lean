import LensCalibration.Calibration
import LensCalibration.Files.Tree
import LensCalibration.Log

/-!
# Calibration files

A blob in a file is the UTF-8 text of a calibration.  Reading takes a function that looks a path
up, so that it does not matter where the files are.
-/

namespace LensCalibration.Files

/-- What a path holds, or why that cannot be said. -/
abbrev Lookup := String → Except Fault ByteArray

/-- The text of a file.  What cannot be reached does not exist. -/
def readText (lookup : Lookup) (path : String) : Except CalibrationError String :=
  match lookup path with
  | .error .isDirectory => .error (.io .isDirectory)
  | .error _ => .error (.fileDoesNotExist path)
  | .ok bytes =>
      match String.fromUTF8? bytes with
      | some text => .ok text
      | none => .error (.io .notText)

def readBlob (lookup : Lookup) (path : String) : Logged Calibration := do
  let text ← Logged.ofExcept (readText lookup path)
  let calibration ← Logged.ofExcept (Calibration.ofBlob text)
  Logged.log (.hasRead path calibration.depthCamera.model calibration.colorCamera.model)
  return calibration

def writeBlob (tree : Tree) (path : String) (calibration : Calibration) :
    Except CalibrationError Tree :=
  (tree.write path calibration.toBlob.toUTF8).mapError .io

end LensCalibration.Files
