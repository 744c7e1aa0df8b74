import LensCalibration.Json.Schema
import LensCalibration.Text.Quoted

/-!
# Failures

What a JSON text can be refused for, where that is, and how it is said.
-/

namespace LensCalibration.Json

open Binary Decimal Text

/-! ## Causes -/

inductive Found where
  | null
  | boolean (value : Bool)
  | number (value : Number)
  | string (text : String)
  | sequence
  | map
  deriving DecidableEq, Repr

inductive Wanted where
  | single
  | int32
  | nat32
  | array (size : Nat)
  | list
  | record (name : String) (size : Nat)
  deriving DecidableEq, Repr

def Schema.wanted : Schema → Wanted
  | .single => .single
  | .int32 => .int32
  | .nat32 => .nat32
  | .code _ => .int32
  | .array size _ => .array size
  | .list _ => .list
  | .record name fields => .record name fields.size

inductive Cause where
  | endInValue
  | endInList
  | endInObject
  | endInString
  | expectedValue
  | expectedWord
  | expectedColon
  | expectedListCommaOrEnd
  | expectedObjectCommaOrEnd
  | keyNotString
  | trailingComma
  | trailingCharacters
  | invalidNumber
  | numberOutOfRange
  | invalidEscape
  | loneSurrogate
  | unfinishedSurrogate
  | controlCharacter
  | wrongType (found : Found) (wanted : Wanted)
  | wrongInteger (value : Int) (wanted : Wanted)
  /-- Too few elements, and how many there are. -/
  | wrongLength (size : Nat) (wanted : Wanted)
  | missingField (key : String)
  | duplicateField (key : String)
  | unrecognizedCode (vocabulary : Vocabulary) (code : Int)
  deriving DecidableEq, Repr

/-! ## Positions -/

/-- Lines count from one; the column counts the bytes since the last line break. -/
structure Position where
  line : Nat
  column : Nat
  deriving DecidableEq, Repr

def byteCount (text : List Char) : Nat :=
  text.foldl (fun bytes c => bytes + c.utf8Size) 0

def Position.start : Position := ⟨1, 0⟩

/-- The position after so many more bytes of a text, which may be inside of a character. -/
def Position.advance : Position → (bytes : Nat) → List Char → Position
  | p, _, [] => p
  | p, bytes, c :: rest =>
      if bytes < c.utf8Size then ⟨p.line, p.column + bytes⟩
      else
        let next : Position :=
          if c = '\n' then ⟨p.line + 1, 0⟩ else ⟨p.line, p.column + c.utf8Size⟩
        next.advance (bytes - c.utf8Size) rest

/-- The position in a text with so many bytes to come. -/
def Position.before (text : List Char) (left : Nat) : Position :=
  start.advance (byteCount text - left) text

/-! ## Failures while reading -/

inductive Failure where
  /-- A failure at a place, which is given by the number of bytes after it. -/
  | placed (cause : Cause) (left : Nat)
  /-- A failure without a place of its own, and the text that was still to be read. -/
  | pending (cause : Cause) (rest : List Char)
  deriving DecidableEq, Repr

/-- What comes of reading; a reader of values returns the value and what follows it in the text. -/
abbrev Reading := Except Failure

def failAt {α : Type} (cause : Cause) (text : List Char) : Reading α :=
  .error (.placed cause (byteCount text))

/-- A failure that is about the next byte, and lies behind it where there is one. -/
def failAtNext {α : Type} (cause : Cause) (text : List Char) : Reading α :=
  .error (.placed cause (byteCount text - 1))

def failPending {α : Type} (cause : Cause) (text : List Char) : Reading α :=
  .error (.pending cause text)

/-! ## Messages -/

/-- Why a text was refused; what is refused as a whole has no position. -/
structure Error where
  cause : Cause
  position : Option Position
  deriving DecidableEq, Repr

def Failure.toError (text : List Char) : Failure → Error
  | .placed cause left => ⟨cause, some (Position.before text left)⟩
  | .pending cause _ => ⟨cause, none⟩

def Found.phrase : Found → String
  | .null => "null"
  | .boolean value => s!"boolean `{value}`"
  | .number (.integer value) => s!"integer `{value}`"
  | .number (.double negative x) =>
      let numeral := (doubleLayout.ofMagnitude Format.double negative x).toString
      s!"floating point `{numeral}`"
  | .string text => s!"string {quoted text}"
  | .sequence => "sequence"
  | .map => "map"

def Wanted.phrase : Wanted → String
  | .single => "f32"
  | .int32 => "i32"
  | .nat32 => "u32"
  | .array size => s!"an array of length {size}"
  | .list => "a sequence"
  | .record name _ => s!"struct {name}"

def Wanted.phraseOfLength : Wanted → String
  | .record name size => s!"struct {name} with {size} element" ++ if size = 1 then "" else "s"
  | wanted => wanted.phrase

def Cause.message : Cause → String
  | .endInValue => "EOF while parsing a value"
  | .endInList => "EOF while parsing a list"
  | .endInObject => "EOF while parsing an object"
  | .endInString => "EOF while parsing a string"
  | .expectedValue => "expected value"
  | .expectedWord => "expected ident"
  | .expectedColon => "expected `:`"
  | .expectedListCommaOrEnd => "expected `,` or `]`"
  | .expectedObjectCommaOrEnd => "expected `,` or `\x7d`"
  | .keyNotString => "key must be a string"
  | .trailingComma => "trailing comma"
  | .trailingCharacters => "trailing characters"
  | .invalidNumber => "invalid number"
  | .numberOutOfRange => "number out of range"
  | .invalidEscape => "invalid escape"
  | .loneSurrogate => "lone leading surrogate in hex escape"
  | .unfinishedSurrogate => "unexpected end of hex escape"
  | .controlCharacter =>
      "control character (\\u0000-\\u001F) found while parsing a string"
  | .wrongType found wanted => s!"invalid type: {found.phrase}, expected {wanted.phrase}"
  | .wrongInteger value wanted => s!"invalid value: integer `{value}`, expected {wanted.phrase}"
  | .wrongLength size wanted => s!"invalid length {size}, expected {wanted.phraseOfLength}"
  | .missingField key => s!"missing field `{key}`"
  | .duplicateField key => s!"duplicate field `{key}`"
  | .unrecognizedCode vocabulary code => vocabulary.unrecognizedMessage code

def Error.message (e : Error) : String :=
  match e.position with
  | some p => s!"{e.cause.message} at line {p.line} column {p.column}"
  | none => e.cause.message

end LensCalibration.Json
