import LensCalibration.Files.Blob
import LensCalibration.Vendor.Build

/-!
# Sessions

A session edits one calibration, keeps copies of it, and works in a file tree of its own.  A step
that is refused changes nothing.  Codes and names in a step are as they were given, and may stand
for nothing.
-/

namespace LensCalibration.Session

open Binary Files

inductive Refusal where
  | error (error : CalibrationError)
  | notACamera
  | noFile
  | noCopy
  deriving DecidableEq, Repr

def orRefuse {α : Type} (result : Except CalibrationError α) : Except Refusal α :=
  result.mapError .error

/-! ## Edits -/

/-- A change of a part of the calibration; cameras are given by their codes. -/
inductive Edit where
  | model (code camera : Int)
  /-- Sets the count without a check. -/
  | count (camera : Int) (count : UInt32)
  | parameters (values : List Single) (camera : Int)
  | raw (code : Int) (count : UInt32) (values : List Single) (camera : Int)
  /-- Gives the camera's parameters another model, and the count of that model. -/
  | remodel (name : String) (camera : Int)
  | resolution (width height : Int32) (camera : Int)
  | radius (camera : Int) (value : Single)
  | extrinsics (extrinsics : Extrinsics) (camera : Int)
  | cell (extrinsics : Extrinsics) (source target : Int)
  | modes (depth color : Int)
  deriving DecidableEq, Repr

def changeCamera (c : Calibration) (code : Int) (change : Camera → Camera) :
    Except Refusal Calibration := do
  match ← orRefuse (Sensor.ofCode code) with
  | .depth => return { c with depthCamera := change c.depthCamera }
  | .color => return { c with colorCamera := change c.colorCamera }
  | .gyro | .accel => .error .notACamera

def Edit.apply (c : Calibration) : Edit → Except Refusal Calibration
  | .model code camera => do
      let lens ← orRefuse (LensModel.ofCode code)
      changeCamera c camera fun c => { c with intrinsics.model := lens }
  | .count camera valid =>
      changeCamera c camera fun c => { c with intrinsics.parameterCount := valid }
  | .parameters values camera => do
      let slots ← orRefuse (IntrinsicParameters.ofList values)
      changeCamera c camera fun c => { c with intrinsics.parameters := slots }
  | .raw code valid values camera => do
      let intrinsics ← orRefuse (Intrinsics.ofRaw code valid values)
      changeCamera c camera fun c => { c with intrinsics }
  | .remodel name camera => do
      let lens ← orRefuse (LensModel.ofName name)
      changeCamera c camera fun c =>
        { c with intrinsics := Intrinsics.ofModel lens c.intrinsics.parameters }
  | .resolution width height camera =>
      changeCamera c camera fun c => { c with width, height }
  | .radius camera value =>
      changeCamera c camera fun c => { c with metricRadius := value }
  | .extrinsics transform camera =>
      changeCamera c camera fun c => { c with extrinsics := transform }
  | .cell transform source target => do
      let source ← orRefuse (Sensor.ofCode source)
      let target ← orRefuse (Sensor.ofCode target)
      return c.setExtrinsics source target transform
  | .modes depth color => do
      let depth ← orRefuse (DepthMode.ofCode depth)
      let color ← orRefuse (ColorResolution.ofCode color)
      return { c with depthMode := depth, colorResolution := color }

/-! ## Queries -/

inductive Query where
  | validate
  | model (camera : Int)
  | camera (camera : Int)
  | validParameters (camera : Int)
  | extrinsics (source target : Int)
  | calibration
  | blob
  /-- Whether reading the blob of the calibration gives it back. -/
  | roundTrip
  deriving DecidableEq, Repr

inductive Answer where
  | done
  | model (model : Option LensModel)
  | camera (camera : Option Camera)
  | parameters (values : List Single)
  | extrinsics (extrinsics : Extrinsics)
  | calibration (calibration : Calibration)
  | text (text : String)
  | truth (value : Bool)
  | count (count : Nat)
  deriving DecidableEq, Repr

def Query.answer (c : Calibration) : Query → Except Refusal Answer
  | .validate => do
      orRefuse c.validate
      return .done
  | .model code => do
      let sensor ← orRefuse (Sensor.ofCode code)
      return .model (c.model? sensor)
  | .camera code => do
      let sensor ← orRefuse (Sensor.ofCode code)
      return .camera (c.camera? sensor)
  | .validParameters code => do
      let sensor ← orRefuse (Sensor.ofCode code)
      match c.camera? sensor with
      | some found => return .parameters found.intrinsics.validParameters
      | none => .error .notACamera
  | .extrinsics source target => do
      let source ← orRefuse (Sensor.ofCode source)
      let target ← orRefuse (Sensor.ofCode target)
      return .extrinsics (c.extrinsics source target)
  | .calibration => return .calibration c
  | .blob => return .text c.toBlob
  | .roundTrip => do
      let again ← orRefuse (Calibration.ofBlob c.toBlob)
      return .truth (again.equals c)

/-! ## Steps -/

inductive Step where
  | reset
  | load (text : String)
  | vendor (entries : String) (depth color : Int)
  | read (path : String)
  | edit (edit : Edit)
  | ask (query : Query)
  | save
  | restore (index : Nat)
  | compare (index : Nat)
  | put (path : String) (bytes : ByteArray)
  | get (path : String)
  | write (path : String)

structure State where
  calibration : Calibration
  saved : List Calibration
  files : Tree

def State.initial : State := ⟨default, [], Tree.empty⟩

structure Outcome where
  result : Except Refusal Answer
  state : State
  events : List Event

namespace State

def answered (s : State) (result : Except Refusal Answer) : Outcome :=
  ⟨result, s, []⟩

/-- A step that puts another calibration in the place of the present one, if there is one. -/
def replaced (s : State) (events : List Event) : Except Refusal Calibration → Outcome
  | .ok calibration => ⟨.ok .done, { s with calibration }, events⟩
  | .error refusal => ⟨.error refusal, s, events⟩

def replacedBy (s : State) (next : Logged Calibration) : Outcome :=
  s.replaced next.events (orRefuse next.result)

def filed (s : State) : Except CalibrationError Tree → Outcome
  | .ok files => ⟨.ok .done, { s with files }, []⟩
  | .error error => ⟨.error (.error error), s, []⟩

def copy (s : State) (index : Nat) : Except Refusal Calibration :=
  match s.saved[index]? with
  | some calibration => .ok calibration
  | none => .error .noCopy

end State

/-- What the vendor's entries give; their text is read first, then the codes. -/
def fromVendor (entries : String) (depth color : Int) : Logged Calibration := do
  let entries ← Logged.ofExcept ((Json.decode (List Vendor.Entry) entries).mapError .json)
  let depth ← Logged.ofExcept (DepthMode.ofCode depth)
  let color ← Logged.ofExcept (ColorResolution.ofCode color)
  Vendor.calibrate entries depth color

/-- The text of a file, whatever the reason if there is none. -/
def textOf (files : Tree) (path : String) : Except Refusal Answer :=
  match readText files.read path with
  | .ok text => .ok (.text text)
  | .error _ => .error .noFile

def State.run (s : State) : Step → Outcome
  | .reset => s.replaced [] (.ok default)
  | .load text => s.replaced [] (orRefuse (Calibration.ofBlob text))
  | .vendor entries depth color => s.replacedBy (fromVendor entries depth color)
  | .read path => s.replacedBy (readBlob s.files.read path)
  | .edit edit => s.replaced [] (edit.apply s.calibration)
  | .ask query => s.answered (query.answer s.calibration)
  | .save =>
      let saved := s.saved ++ [s.calibration]
      ⟨.ok (.count saved.length), { s with saved }, []⟩
  | .restore index => s.replaced [] (s.copy index)
  | .compare index => s.answered ((s.copy index).map fun c => .truth (c.equals s.calibration))
  | .put path bytes => s.filed ((s.files.place path bytes).mapError .io)
  | .get path => s.answered (textOf s.files path)
  | .write path => s.filed (writeBlob s.files path s.calibration)

def State.runAll (s : State) : List Step → List Outcome
  | [] => []
  | step :: steps =>
      let outcome := s.run step
      outcome :: outcome.state.runAll steps

end LensCalibration.Session
