/-!
# Faults of a file system
-/

namespace LensCalibration.Files

inductive Fault where
  | containsNul
  | isDirectory
  | missing
  | nameTooLong
  | notDirectory
  | notText
  deriving DecidableEq, Repr

namespace Fault

def message : Fault → String
  | containsNul => "file name contained an unexpected NUL byte"
  | isDirectory => "Is a directory (os error 21)"
  | missing => "No such file or directory (os error 2)"
  | nameTooLong => "File name too long (os error 36)"
  | notDirectory => "Not a directory (os error 20)"
  | notText => "stream did not contain valid UTF-8"

private def systemDiagnostic (code : Nat) (kind message : String) : String :=
  s!"Os \x7b code: {code}, kind: {kind}, message: \"{message}\" \x7d"

private def libraryDiagnostic (kind message : String) : String :=
  s!"Error \x7b kind: {kind}, message: \"{message}\" \x7d"

def diagnostic : Fault → String
  | containsNul => libraryDiagnostic "InvalidInput" containsNul.message
  | isDirectory => systemDiagnostic 21 "IsADirectory" "Is a directory"
  | missing => systemDiagnostic 2 "NotFound" "No such file or directory"
  | nameTooLong => systemDiagnostic 36 "InvalidFilename" "File name too long"
  | notDirectory => systemDiagnostic 20 "NotADirectory" "Not a directory"
  | notText => libraryDiagnostic "InvalidData" notText.message

end Fault

end LensCalibration.Files
