/-!
# Arguments

Arguments are read from left to right before anything else happens.  An option takes the next
argument as its value, whatever that looks like.
-/

namespace LensCalibration.CommandLine

structure Request where
  listing : Bool
  code : Option Int
  path : Option String
  deriving DecidableEq, Repr

def Request.empty : Request := ⟨false, none, none⟩

/-! ## Integers -/

inductive IntegerFault where
  | empty
  | invalidDigit
  | tooLarge
  | tooSmall
  deriving DecidableEq, Repr

def IntegerFault.message : IntegerFault → String
  | empty => "cannot parse integer from empty string"
  | invalidDigit => "invalid digit found in string"
  | tooLarge => "number too large to fit in target type"
  | tooSmall => "number too small to fit in target type"

/--
Digits that follow the number `n`; the first that is none, or goes beyond `limit`, is at fault.
-/
def readDigits (limit : Nat) (beyond : IntegerFault) : (n : Nat) → List Char →
    Except IntegerFault Nat
  | n, [] => .ok n
  | n, c :: rest =>
      if '0' ≤ c ∧ c ≤ '9' then
        let next := n * 10 + (c.toNat - '0'.toNat)
        if next ≤ limit then readDigits limit beyond next rest else .error beyond
      else .error .invalidDigit

def readPositive : List Char → Except IntegerFault Int
  | [] => .error .invalidDigit
  | digits => (readDigits 0x7fffffff .tooLarge 0 digits).map fun n => n

def readNegative : List Char → Except IntegerFault Int
  | [] => .error .invalidDigit
  | digits => (readDigits 0x80000000 .tooSmall 0 digits).map fun n => -n

def readInteger (text : String) : Except IntegerFault Int :=
  match text.toList with
  | [] => .error .empty
  | '+' :: rest => readPositive rest
  | '-' :: rest => readNegative rest
  | digits => readPositive digits

/-! ## Options -/

inductive ValueFault where
  | duplicate
  | integer (fault : IntegerFault)
  deriving DecidableEq, Repr

def ValueFault.message : ValueFault → String
  | duplicate => "duplicate values provided"
  | integer fault => fault.message

inductive ArgumentFault where
  | unrecognized (argument : String)
  | noValue (option : String)
  | badValue (option value : String) (fault : ValueFault)
  | trailingHelp
  deriving DecidableEq, Repr

def ArgumentFault.message : ArgumentFault → String
  | unrecognized argument => s!"Unrecognized argument: {argument}\n"
  | noValue option => s!"No value provided for option '{option}'.\n"
  | badValue option value fault =>
      s!"Error parsing option '{option}' with value '{value}': {fault.message}\n"
  | trailingHelp => "Trailing arguments are not allowed after `help`."

inductive ValueOption where
  | code
  | path
  deriving DecidableEq, Repr

def ValueOption.ofString? : String → Option ValueOption
  | "-c" | "--code" => some .code
  | "-f" | "--calibration" => some .path
  | _ => none

def isListing (argument : String) : Bool :=
  argument = "-l" || argument = "--list"

def isHelp (argument : String) : Bool :=
  argument = "--help" || argument = "help"

namespace Request

def setCode (r : Request) (value : String) : Except ValueFault Request :=
  if r.code.isSome then .error .duplicate
  else
    match readInteger value with
    | .ok code => .ok { r with code := some code }
    | .error fault => .error (.integer fault)

def setPath (r : Request) (value : String) : Except ValueFault Request :=
  if r.path.isSome then .error .duplicate else .ok { r with path := some value }

def set (r : Request) (option : ValueOption) (value : String) : Except ValueFault Request :=
  match option with
  | .code => r.setCode value
  | .path => r.setPath value

end Request

inductive Parsed where
  | help
  | request (request : Request)
  deriving DecidableEq, Repr

def Request.parsed (r : Request) (helping : Bool) : Parsed :=
  if helping then .help else .request r

/-- Read arguments; after a call for help no further option is allowed. -/
def readArguments (helping : Bool) (r : Request) : List String → Except ArgumentFault Parsed
  | [] => .ok (r.parsed helping)
  | argument :: rest =>
      if isHelp argument then readArguments true r rest
      else if argument = "--" then
        match rest with
        | [] => .ok (r.parsed helping)
        | positional :: _ => .error (.unrecognized positional)
      else if argument.toList.head? = some '-' then
        if helping then .error .trailingHelp
        else if isListing argument then readArguments helping { r with listing := true } rest
        else
          match ValueOption.ofString? argument, rest with
          | none, _ => .error (.unrecognized argument)
          | some _, [] => .error (.noValue argument)
          | some option, value :: rest =>
              match r.set option value with
              | .ok r => readArguments helping r rest
              | .error fault => .error (.badValue argument value fault)
      else .error (.unrecognized argument)

end LensCalibration.CommandLine
