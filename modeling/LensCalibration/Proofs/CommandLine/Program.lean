import LensCalibration.Proofs.CommandLine.Lines
import LensCalibration.Proofs.CommandLine.Options
import LensCalibration.Proofs.Blob.Reload
import LensCalibration.Proofs.Files.Blob

/-!
# What a run tells

The sections of a request come in their order up to the first that fails, whatever the order of the
options was.
-/

namespace LensCalibration.CommandLine

open Files

/-! ## The error stream -/

section

variable {part : Logged (List String)} {lines : List String} {error : CalibrationError}

end

/--
What a request has to show: the table, the row of the model, the summary of the blob, without what
comes after the first failure.
-/
def Request.report (lookup : Lookup) (r : Request) : Report :=
  let table := if r.listing then LensModel.tableLines else []
  match r.code.mapM LensModel.ofCode with
  | .error error => ⟨table, [], some error⟩
  | .ok model =>
      let rows := table ++ model.toList.map LensModel.line
      match r.path with
      | none => ⟨rows, [], none⟩
      | some path =>
          let read := readBlob lookup path
          match read.result with
          | .error error => ⟨rows, .reading path :: read.events, some error⟩
          | .ok c => ⟨rows ++ c.lines, .reading path :: read.events ++ c.warnings, none⟩

section

variable {r : Request} {n : Int} {model : LensModel} {path : String} {lookup : Lookup}

end

/-! ## Runs -/

end LensCalibration.CommandLine
