import LensCalibration.Vocabulary.DepthMode

/-!
# Color resolutions
-/

namespace LensCalibration

inductive ColorResolution where
  | off
  | r720p
  | r1080p
  | r1440p
  | r1536p
  | r2160p
  | r3072p
  deriving DecidableEq, Repr, Inhabited

namespace ColorResolution

def all : List ColorResolution :=
  [off, r720p, r1080p, r1440p, r1536p, r2160p, r3072p]

def code : ColorResolution → Nat
  | off => 0
  | r720p => 1
  | r1080p => 2
  | r1440p => 3
  | r1536p => 4
  | r2160p => 5
  | r3072p => 6

def name : ColorResolution → String
  | off => "Off"
  | r720p => "R720p"
  | r1080p => "R1080p"
  | r1440p => "R1440p"
  | r1536p => "R1536p"
  | r2160p => "R2160p"
  | r3072p => "R3072p"

def resolution? : ColorResolution → Option Resolution
  | off => none
  | r720p => some ⟨1280, 720⟩
  | r1080p => some ⟨1920, 1080⟩
  | r1440p => some ⟨2560, 1440⟩
  | r1536p => some ⟨2048, 1536⟩
  | r2160p => some ⟨3840, 2160⟩
  | r3072p => some ⟨4096, 3072⟩

end ColorResolution

end LensCalibration
