import LensCalibration.Pattern.Fault
import LensCalibration.Pattern.Syntax

/-!
# Escapes

What a backslash begins: a literal, a set of characters or an assertion.  Every reader here takes a
cursor and returns one behind what it has read.
-/

namespace LensCalibration.Pattern

/-! ## Numbers -/

def isDigit (c : Char) : Bool := '0' ≤ c && c ≤ '9'

def isHexDigit (c : Char) : Bool :=
  isDigit c || ('a' ≤ c && c ≤ 'f') || ('A' ≤ c && c ≤ 'F')

def digitValue (c : Char) : Nat :=
  if isDigit c then c.toNat - '0'.toNat
  else if 'a' ≤ c then c.toNat - 'a'.toNat + 10
  else c.toNat - 'A'.toNat + 10

def numberOf (base : Nat) (digits : List Char) : Nat :=
  digits.foldl (fun n c => n * base + digitValue c) 0

def characterOf (code : Nat) (span : Span) : Except Fault Char :=
  if code.isValidChar then .ok (Char.ofNat code) else failWith .hexInvalid span

def readHexDigits (spaced : Bool) : (count : Nat) → Cursor → Except Fault (List Char × Cursor)
  | 0, cursor => .ok ([], cursor)
  | count + 1, cursor =>
      match cursor.rest with
      | [] => failWith .escapeUnfinished cursor.here
      | c :: _ =>
          if isHexDigit c then do
            let (digits, behind) ← readHexDigits spaced count (cursor.next spaced)
            return (c :: digits, behind)
          else failWith .hexInvalidDigit cursor.character

/-- A code of hexadecimal digits: of a fixed number of them, or between braces. -/
def readHex (spaced : Bool) (first : Position) (count : Nat) (cursor : Cursor) :
    Except Fault (Tree × Cursor) :=
  match cursor.rest with
  | [] => failWith .escapeUnfinished cursor.here
  | '{' :: _ =>
      let (digits, close) := (cursor.next spaced).readWhile spaced isHexDigit
      match close.rest with
      | [] => failWith .escapeUnfinished (close.since cursor.position)
      | '}' :: _ => do
          let behind := close.next spaced
          if digits.isEmpty then failWith .hexEmpty (behind.since cursor.position)
          else
            let c ← characterOf (numberOf 16 digits) (close.since cursor.tail.position)
            return (.literal ⟨behind.since first, c, false⟩, behind)
      | _ => failWith .hexInvalidDigit close.character
  | _ => do
      let (digits, behind) ← readHexDigits spaced count cursor
      let c ← characterOf (numberOf 16 digits) (behind.since cursor.position)
      return (.literal ⟨behind.since first, c, count = 2⟩, behind)

/-! ## Properties -/

/-- The name of a property, unless a value is asked for as well. -/
def propertyName? (text : List Char) : Option String :=
  if text.contains ':' || text.contains '=' then none else some (String.ofList text)

def readProperty (spaced : Bool) (first : Position) (cursor : Cursor) :
    Except Fault (Tree × Cursor) :=
  match cursor.rest with
  | [] => failWith .escapeUnfinished cursor.here
  | '{' :: _ =>
      let (name, close) := (cursor.next spaced).readWhile spaced (· ≠ '}')
      match close.rest with
      | [] => failWith .escapeUnfinished close.here
      | _ :: _ =>
          let behind := close.tail
          .ok (.set (.property (behind.since first) (propertyName? name)), behind)
  | '\\' :: _ => failWith .propertyInvalid cursor.character
  | c :: _ =>
      let behind := cursor.next spaced
      .ok (.set (.property (behind.since first) (some (String.singleton c))), behind)

/-! ## Assertions on words -/

def wordEdges : List (String × WordEdge) :=
  [("start", .start), ("end", .finish), ("start-half", .startHalf), ("end-half", .finishHalf)]

def isWordEdgeChar (c : Char) : Bool :=
  ('A' ≤ c && c ≤ 'Z') || ('a' ≤ c && c ≤ 'z') || c = '-'

/--
What stands between braces behind `\b`, if it begins with a letter; else the braces are a
repetition, and the cursor stays where it is.
-/
def readWordEdge (spaced : Bool) (first : Position) (cursor : Cursor) :
    Except Fault (WordEdge × Cursor) :=
  if cursor.rest.head? = some '{' then
    let inside := cursor.next spaced
    match inside.rest with
    | [] => failWith .wordEdgeUnfinished (inside.since first)
    | c :: _ =>
        if isWordEdgeChar c then
          let (name, close) := inside.readWhile spaced isWordEdgeChar
          if close.rest.head? = some '}' then
            match wordEdges.find? (·.1.toList = name) with
            | some (_, edge) => .ok (edge, close.tail)
            | none => failWith .wordEdgeUnrecognized (close.since inside.position)
          else failWith .wordEdgeUnclosed (close.since cursor.position)
        else .ok (.boundary, cursor)
  else .ok (.boundary, cursor)

/-! ## Single characters -/

def metaCharacters : List Char :=
  ['\\', '.', '+', '*', '?', '(', ')', '|', '[', ']', '{', '}', '^', '$', '#', '&', '-', '~']

/-- A character that stands for itself behind a backslash: no letter, digit or angle bracket. -/
def isEscapable (c : Char) : Bool :=
  metaCharacters.contains c ||
    (c.toNat < 0x80 && !c.isAlphanum && c ≠ '<' && c ≠ '>')

def controlOf? : Char → Option Char
  | 'a' => some '\x07'
  | 'f' => some '\x0c'
  | 't' => some '\t'
  | 'n' => some '\n'
  | 'r' => some '\r'
  | 'v' => some '\x0b'
  | _ => none

def assertionOf? : Char → Option AssertionKind
  | 'A' => some .textStart
  | 'z' => some .textEnd
  | 'B' => some (.word .noBoundary)
  | '<' => some (.word .start)
  | '>' => some (.word .finish)
  | _ => none

def shorthandOf? : Char → Option (Bool × NamedSet)
  | 'd' => some (false, .digit)
  | 'D' => some (true, .digit)
  | 's' => some (false, .space)
  | 'S' => some (true, .space)
  | 'w' => some (false, .word)
  | 'W' => some (true, .word)
  | _ => none

def readLetter (spaced : Bool) (first : Position) (c : Char) (cursor : Cursor) :
    Except Fault (Tree × Cursor) :=
  let behind := cursor.tail
  let span := behind.since first
  if isEscapable c then .ok (.literal ⟨span, c, false⟩, behind)
  else if c = 'b' then do
    let (edge, close) ← readWordEdge spaced first behind
    return (.assertion (close.since first) (.word edge), close)
  else
    match controlOf? c, assertionOf? c, shorthandOf? c with
    | some control, _, _ => .ok (.literal ⟨span, control, false⟩, behind)
    | _, some kind, _ => .ok (.assertion span kind, behind)
    | _, _, some (negated, name) => .ok (.set (.shorthand span negated name), behind)
    | _, _, _ => failWith .escapeUnrecognized span

def readEscape (spaced : Bool) (cursor : Cursor) : Except Fault (Tree × Cursor) :=
  let first := cursor.position
  let letter := cursor.tail
  match letter.rest with
  | [] => failWith .escapeUnfinished (letter.since first)
  | 'x' :: _ => readHex spaced first 2 (letter.next spaced)
  | 'u' :: _ => readHex spaced first 4 (letter.next spaced)
  | 'U' :: _ => readHex spaced first 8 (letter.next spaced)
  | 'p' :: _ | 'P' :: _ => readProperty spaced first (letter.next spaced)
  | c :: _ =>
      if isDigit c then failWith .backreference (letter.tail.since first)
      else readLetter spaced first c letter

end LensCalibration.Pattern
