/-!
# Sensors

The parts of a device that a calibration relates to each other.  Their order is that of the rows and
columns of the table of extrinsics.
-/

namespace LensCalibration

inductive Sensor where
  | depth
  | color
  | gyro
  | accel
  deriving DecidableEq, Repr, Inhabited

namespace Sensor

def all : List Sensor :=
  [depth, color, gyro, accel]

def code : Sensor → Nat
  | depth => 0
  | color => 1
  | gyro => 2
  | accel => 3

def name : Sensor → String
  | depth => "Depth"
  | color => "Color"
  | gyro => "Gyro"
  | accel => "Accel"

/-- The place in the table of extrinsics. -/
def index : Sensor → Fin 4
  | depth => 0
  | color => 1
  | gyro => 2
  | accel => 3

end Sensor

end LensCalibration
