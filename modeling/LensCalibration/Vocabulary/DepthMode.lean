/-!
# Depth modes

A mode that is on has a nominal resolution; the narrow and the wide field of view come binned and
unbinned.
-/

namespace LensCalibration

structure Resolution where
  width : Nat
  height : Nat
  deriving DecidableEq, Repr

inductive DepthMode where
  | off
  | narrowBinned
  | narrowUnbinned
  | wideBinned
  | wideUnbinned
  | passiveInfrared
  deriving DecidableEq, Repr, Inhabited

namespace DepthMode

def all : List DepthMode :=
  [off, narrowBinned, narrowUnbinned, wideBinned, wideUnbinned, passiveInfrared]

def code : DepthMode → Nat
  | off => 0
  | narrowBinned => 1
  | narrowUnbinned => 2
  | wideBinned => 3
  | wideUnbinned => 4
  | passiveInfrared => 5

def name : DepthMode → String
  | off => "Off"
  | narrowBinned => "Nfov2x2Binned"
  | narrowUnbinned => "NfovUnbinned"
  | wideBinned => "Wfov2x2Binned"
  | wideUnbinned => "WfovUnbinned"
  | passiveInfrared => "PassiveIr"

def resolution? : DepthMode → Option Resolution
  | off => none
  | narrowBinned => some ⟨320, 288⟩
  | narrowUnbinned => some ⟨640, 576⟩
  | wideBinned => some ⟨512, 512⟩
  | wideUnbinned => some ⟨1024, 1024⟩
  | passiveInfrared => some ⟨1024, 1024⟩

end DepthMode

end LensCalibration
