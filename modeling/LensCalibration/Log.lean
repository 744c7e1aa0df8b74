import LensCalibration.Error

/-!
# Log

What an operation logs is part of its result: `Logged` is a result together with the events on the
way to it, in order.
-/

namespace LensCalibration

inductive Level where
  | error
  | warn
  | info
  | debug
  | trace
  deriving DecidableEq, Repr

namespace Level

def name : Level → String
  | error => "ERROR"
  | warn => "WARN"
  | info => "INFO"
  | debug => "DEBUG"
  | trace => "TRACE"

/-- The more is told, the higher. -/
def rank : Level → Nat
  | error => 1
  | warn => 2
  | info => 3
  | debug => 4
  | trace => 5

end Level

inductive Event where
  | noDepthCalibration (mode : DepthMode)
  /-- The entry at `index` out of `count` is taken. -/
  | selected (index count : Nat) (depth : DepthMode) (color : ColorResolution)
  | noMatch (count : Nat) (depth : DepthMode) (color : ColorResolution)
  | built (depth : DepthMode) (color : ColorResolution)
  | reading (path : String)
  | hasRead (path : String) (depth color : LensModel)
  | noDistortionModel (sensor : Sensor)
  deriving DecidableEq, Repr

namespace Event

def level : Event → Level
  | noDepthCalibration _ | noMatch .. | noDistortionModel _ => .warn
  | selected .. | built .. | hasRead .. => .debug
  | reading _ => .info

def target : Event → String
  | noDepthCalibration _ | selected .. | noMatch .. | built .. => "k4a_calibration::vendor"
  | hasRead .. => "k4a_calibration::io"
  | reading _ | noDistortionModel _ => "calibration_info"

def message : Event → String
  | noDepthCalibration mode => s!"no depth calibration for {mode.name}"
  | selected index count depth color =>
      s!"selected camera param {index}/{count} for {depth.name}, {color.name}"
  | noMatch count depth color =>
      s!"no camera param matches {depth.name}, {color.name} among {count} candidates"
  | built depth color => s!"built calibration for {depth.name}, {color.name}"
  | reading path => s!"reading calibration from {path}"
  | hasRead path depth color =>
      s!"read calibration from {path}: depth {depth.name}, color {color.name}"
  | noDistortionModel sensor => s!"{sensor.name} camera has no distortion model"

end Event

/-! ## Results with events -/

structure Logged (α : Type) where
  result : Except CalibrationError α
  events : List Event

namespace Logged

def ofExcept {α : Type} (result : Except CalibrationError α) : Logged α :=
  ⟨result, []⟩

def log (event : Event) : Logged Unit :=
  ⟨.ok (), [event]⟩

def fail {α : Type} (error : CalibrationError) : Logged α :=
  ⟨.error error, []⟩

/-- After a failure nothing more happens. -/
def bind {α β : Type} (x : Logged α) (f : α → Logged β) : Logged β :=
  match x.result with
  | .ok a => ⟨(f a).result, x.events ++ (f a).events⟩
  | .error error => ⟨.error error, x.events⟩

instance : Monad Logged where
  pure a := ⟨.ok a, []⟩
  bind := bind

theorem pure_bind {α β : Type} (a : α) (f : α → Logged β) : (pure a >>= f : Logged β) = f a := rfl

@[simp] theorem result_pure {α : Type} (a : α) : (pure a : Logged α).result = .ok a := rfl

@[simp] theorem result_ofExcept {α : Type} (result : Except CalibrationError α) :
    (ofExcept result).result = result := rfl

@[simp] theorem result_log (event : Event) : (log event).result = .ok () := rfl

@[simp] theorem result_fail {α : Type} (error : CalibrationError) :
    (fail error : Logged α).result = .error error := rfl

@[simp] theorem result_bind {α β : Type} (x : Logged α) (f : α → Logged β) :
    (x >>= f).result = x.result.bind fun a => (f a).result := by
  change (bind x f).result = _
  unfold bind
  cases x.result <;> rfl

end Logged

end LensCalibration
