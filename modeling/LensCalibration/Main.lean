import LensCalibration.CommandLine.Program

/-!
# The command line

The outer layer: arguments, environment and file come in, and the output of a run goes out.
-/

open LensCalibration LensCalibration.CommandLine LensCalibration.Files

def readPath (path : String) : IO (Except Fault ByteArray) := do
  try
    return .ok (← IO.FS.readBinFile path)
  catch error =>
    match error with
    | .inappropriateType _ 21 _ => return .error .isDirectory
    | .inappropriateType _ _ _ => return .error .notDirectory
    | _ => return .error .missing

def main (arguments : List String) : IO UInt32 := do
  let spec := (← IO.getEnv "RUST_LOG").getD ""
  let contents ←
    match pathOf? arguments with
    | some path => readPath path
    | none => pure (.error .missing)
  let output := run spec (fun _ => contents) arguments
  for line in output.log do
    IO.eprintln line
  IO.print output.stdout
  IO.eprint output.stderr
  return output.code.toUInt32
