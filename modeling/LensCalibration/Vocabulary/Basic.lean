import LensCalibration.Vocabulary.ColorResolution
import LensCalibration.Vocabulary.LensModel
import LensCalibration.Vocabulary.Sensor

/-!
# Vocabularies

The four enumerations that cross the native boundary, and the blob, as integer codes.
-/

namespace LensCalibration

inductive Vocabulary where
  | model
  | depthMode
  | colorResolution
  | sensor
  deriving DecidableEq, Repr

namespace Vocabulary

/-- What the codes of a vocabulary stand for. -/
abbrev Entry : Vocabulary → Type
  | model => LensModel
  | depthMode => DepthMode
  | colorResolution => ColorResolution
  | sensor => Sensor

def entries : (v : Vocabulary) → List v.Entry
  | model => LensModel.all
  | depthMode => DepthMode.all
  | colorResolution => ColorResolution.all
  | sensor => Sensor.all

def code : (v : Vocabulary) → v.Entry → Nat
  | model => LensModel.code
  | depthMode => DepthMode.code
  | colorResolution => ColorResolution.code
  | sensor => Sensor.code

/-- A code is the place of its entry in the list. -/
def ofCode? (v : Vocabulary) (n : Int) : Option v.Entry :=
  n.toNat?.bind fun place => v.entries[place]?

def noun : Vocabulary → String
  | model => "calibration model"
  | depthMode => "depth mode"
  | colorResolution => "color resolution"
  | sensor => "calibration type"

def unrecognizedMessage (v : Vocabulary) (n : Int) : String :=
  s!"Unrecognized {v.noun} code: {n}"

end Vocabulary

end LensCalibration
