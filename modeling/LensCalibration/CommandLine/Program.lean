import LensCalibration.CommandLine.Arguments
import LensCalibration.CommandLine.LogFilter
import LensCalibration.Files.Blob
import LensCalibration.Text.Terminal

/-!
# The program

The sections of the output come in a fixed order: the table of models, the row of one model, the
summary of a blob.  A section that fails ends the run, and what came before it stays.
-/

namespace LensCalibration.CommandLine

open Files Text

/-! ## Sections -/

def padRight (width : Nat) (text : String) : String :=
  text ++ String.ofList (List.replicate (width - text.length) ' ')

def padLeft (width : Nat) (text : String) : String :=
  String.ofList (List.replicate (width - text.length) ' ') ++ text

def modelRow (model : LensModel) : String :=
  s!"{padLeft 2 (toString model.code)}  {padRight 14 model.name} {model.nativeName}"

def modelTable : List String :=
  LensModel.nativeTypeName :: LensModel.all.map modelRow

def cameraRow (sensor : Sensor) (camera : Camera) : String :=
  let model := camera.model
  s!"{sensor.name}: {camera.width}x{camera.height} model {model.name} ({model.nativeName}), " ++
    s!"{camera.intrinsics.parameterCount} parameters"

def summary (c : Calibration) : List String :=
  [s!"depth mode: {c.depthMode.name}, color resolution: {c.colorResolution.name}",
    cameraRow .depth c.depthCamera, cameraRow .color c.colorCamera]

/-- A camera without a model is worth a warning. -/
def warnOfModel (sensor : Sensor) (camera : Camera) : Logged Unit :=
  if camera.model = .unknown then Logged.log (.noDistortionModel sensor) else pure ()

def codeSection (code : Int) : Logged (List String) := do
  let model ← Logged.ofExcept (LensModel.ofCode code)
  return [modelRow model]

def blobSection (lookup : Lookup) (path : String) : Logged (List String) := do
  Logged.log (.reading path)
  let c ← readBlob lookup path
  warnOfModel .depth c.depthCamera
  warnOfModel .color c.colorCamera
  return summary c

def sections (lookup : Lookup) (request : Request) : List (Logged (List String)) :=
  (if request.listing then [pure modelTable] else []) ++
    (request.code.map codeSection).toList ++
    (request.path.map (blobSection lookup)).toList

/-! ## Runs -/

structure Report where
  lines : List String
  events : List Event
  error : Option CalibrationError
  deriving DecidableEq, Repr

def runSections : List (Logged (List String)) → Report
  | [] => ⟨[], [], none⟩
  | part :: rest =>
      match part.result with
      | .ok lines =>
          let report := runSections rest
          ⟨lines ++ report.lines, part.events ++ report.events, report.error⟩
      | .error error => ⟨[], part.events, some error⟩

structure Output where
  code : Nat
  stdout : String
  stderr : String
  log : List String
  deriving DecidableEq, Repr

def programName : String := "calibration_info"

def helpLines : List String :=
  [s!"Usage: {programName} [-c <code>] [-f <calibration>] [-l]",
    "",
    "Inspect lens distortion models and calibration blobs",
    "",
    "Options:",
    "  -c, --code        native model code to decode",
    "  -f, --calibration path to a calibration blob in JSON format",
    "  -l, --list        print the table of known models",
    "  --help, help      display usage information",
    ""]

def unlines (lines : List String) : String :=
  String.join (lines.map (· ++ "\n"))

/-! ## The error stream -/

/-- A character of the error stream, and whether it belongs to the heading of a log record. -/
abbrev Stream := List (Char × Bool)

def Stream.ofString (text : String) : Stream :=
  text.toList.map fun c => (c, false)

def indentFurther (text : String) : String :=
  String.ofList (text.toList.flatMap fun c => if c = '\n' then "\n    ".toList else [c])

/-- A record of the log; it goes through a terminal of its own. -/
def record (event : Event) : Stream :=
  let heading := s!"[{padRight 5 event.level.name} {event.target}] "
  let text := visible (heading ++ indentFurther event.message ++ "\n")
  text.toList.zipIdx.map fun (c, index) => (c, index < heading.length)

def Stream.lines : Stream → List Stream
  | [] => []
  | (c, heading) :: rest =>
      match Stream.lines rest with
      | [] => [[(c, heading)]]
      | line :: lines =>
          if c = '\n' then [(c, heading)] :: line :: lines
          else ((c, heading) :: line) :: lines

def Stream.text (stream : Stream) : String :=
  String.ofList (stream.map Prod.fst)

/-- A line that begins with a heading belongs to the log. -/
def isLogLine (line : Stream) : Bool :=
  line.head?.any Prod.snd

def withoutBreak (line : Stream) : Stream :=
  line.filter (·.1 ≠ '\n')

/-- The output of a run, with the lines of the log kept apart from the rest of the error stream. -/
def Output.ofStreams (code : Nat) (stdout : String) (stream : Stream) : Output where
  code := code
  stdout := stdout
  stderr := String.join ((stream.lines.filter (!isLogLine ·)).map Stream.text)
  log := (stream.lines.filter isLogLine).map fun line => (withoutBreak line).text

def Report.stream (report : Report) (filter : LogFilter) : Stream :=
  (report.events.filter filter.shows).flatMap record ++
    .ofString (report.error.elim "" fun error => s!"Error: {error.diagnostic}\n")

def run (spec : String) (lookup : Lookup) (arguments : List String) : Output :=
  let (filter, complaints) := LogFilter.read spec
  let warnings := unlines (complaints.map fun complaint => s!"warning: {complaint}, ignoring it")
  let warned := Stream.ofString warnings
  match readArguments false .empty arguments with
  | .error fault =>
      let hint := s!"Run {programName} --help for more information."
      .ofStreams 1 "" (warned ++ .ofString (unlines [fault.message, hint]))
  | .ok .help => .ofStreams 0 (unlines helpLines) warned
  | .ok (.request request) =>
      let report := runSections (sections lookup request)
      let code := if report.error.isSome then 1 else 0
      .ofStreams code (unlines report.lines) (warned ++ report.stream filter)

def pathOf? (arguments : List String) : Option String :=
  match readArguments false .empty arguments with
  | .ok (.request request) => request.path
  | _ => none

end LensCalibration.CommandLine
