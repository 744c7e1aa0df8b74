import LensCalibration.Json.Failure

/-!
# The leaves of a JSON text

Blanks, words, numerals and strings.  Every reader takes what is left of the text and returns what
it leaves.
-/

namespace LensCalibration.Json

open Binary Decimal

/-! ## Blanks and words -/

def isBlank (c : Char) : Bool :=
  c = ' ' || c = '\n' || c = '\t' || c = '\r'

def skipBlanks (text : List Char) : List Char :=
  text.dropWhile isBlank

/-- The rest of a word of which the first letter has been read. -/
def readWord : (letters : List Char) → List Char → Reading (List Char)
  | [], text => .ok text
  | _ :: _, [] => failAtNext .endInValue []
  | letter :: letters, c :: rest =>
      if c = letter then readWord letters rest else failAtNext .expectedWord (c :: rest)

/-! ## Numerals -/

def startsNumeral (c : Char) : Bool :=
  c = '-' || (Digit.ofChar? c).isSome

/--
A failure for want of a digit.  At the end of the text it is `atEnd`, which is where a value that is
read and one that is passed over differ.
-/
def failForDigit {α : Type} (atEnd : Cause) (text : List Char) : Reading α :=
  failAtNext (if text.isEmpty then atEnd else .invalidNumber) text

/-- One zero, or digits that start with another one. -/
def readWhole (atEnd : Cause) (text : List Char) : Reading (List Digit × List Char) :=
  match takeDigits text with
  | ([], _) => failForDigit atEnd text
  | (0 :: _ :: _, _) => failAtNext .invalidNumber (text.drop 1)
  | (digits, rest) => .ok (digits, rest)

def readFraction (atEnd : Cause) (text : List Char) : Reading (List Digit × List Char) :=
  match text with
  | '.' :: rest =>
      match takeDigits rest with
      | ([], _) => failForDigit atEnd rest
      | (digits, rest) => .ok (digits, rest)
  | text => .ok ([], text)

def readSign : List Char → Bool × List Char
  | '-' :: rest => (true, rest)
  | '+' :: rest => (false, rest)
  | text => (false, text)

def readExponent (atEnd : Cause) (text : List Char) : Reading (Option Exponent × List Char) :=
  match text with
  | 'e' :: rest | 'E' :: rest =>
      let (negative, rest) := readSign rest
      match takeDigits rest with
      | ([], _) => failForDigit atEnd rest
      | (digits, rest) => .ok (some ⟨negative, digits⟩, rest)
  | text => .ok (none, text)

def readMinus : List Char → Bool × List Char
  | '-' :: rest => (true, rest)
  | text => (false, text)

def readNumeral (atEnd : Cause) (text : List Char) : Reading (Numeral × List Char) := do
  let (negative, text) := readMinus text
  let (whole, text) ← readWhole atEnd text
  let (fraction, text) ← readFraction atEnd text
  let (exponent, text) ← readExponent atEnd text
  return (⟨negative, whole, fraction, exponent⟩, text)

def readNumber (text : List Char) : Reading (Number × List Char) := do
  let (numeral, rest) ← readNumeral .endInValue text
  match numeral.value with
  | .ok number => return (number, rest)
  | .error unread => .error (.placed .numberOutOfRange (byteCount rest + unread))

/-! ## Strings -/

def hexDigit? (c : Char) : Option Nat :=
  if '0' ≤ c ∧ c ≤ '9' then some (c.toNat - '0'.toNat)
  else if 'a' ≤ c ∧ c ≤ 'f' then some (c.toNat - 'a'.toNat + 10)
  else if 'A' ≤ c ∧ c ≤ 'F' then some (c.toNat - 'A'.toNat + 10)
  else none

def hexUnit? : List Char → Option (Nat × List Char)
  | a :: b :: c :: d :: rest => do
      let a ← hexDigit? a
      let b ← hexDigit? b
      let c ← hexDigit? c
      let d ← hexDigit? d
      return (((a * 16 + b) * 16 + c) * 16 + d, rest)
  | _ => none

/-- A failure lies behind the four bytes that should have been digits, whatever they are. -/
def readHexUnit (text : List Char) : Reading (Nat × List Char) :=
  match hexUnit? text with
  | some (unit, rest) => .ok (unit, rest)
  | none =>
      if byteCount text < 4 then failAt .endInString []
      else .error (.placed .invalidEscape (byteCount text - 4))

def isLeading (unit : Nat) : Bool :=
  0xd800 ≤ unit && unit ≤ 0xdbff

def isTrailing (unit : Nat) : Bool :=
  0xdc00 ≤ unit && unit ≤ 0xdfff

def joinSurrogates (leading trailing : Nat) : Char :=
  Char.ofNat (0x10000 + (leading - 0xd800) * 0x400 + (trailing - 0xdc00))

def failForTrailing {α : Type} (text : List Char) : Reading α :=
  failAtNext (if text.isEmpty then .endInString else .unfinishedSurrogate) text

/-- The character given by an escape after its `\u`; surrogates have to come in pairs. -/
def readUnicodeEscape (text : List Char) : Reading (Char × List Char) := do
  let (unit, rest) ← readHexUnit text
  if isTrailing unit then failAt .loneSurrogate rest
  else if !isLeading unit then return (Char.ofNat unit, rest)
  else
    match rest with
    | '\\' :: 'u' :: rest => do
        let (second, rest) ← readHexUnit rest
        if isTrailing second then return (joinSurrogates unit second, rest)
        else failAt .loneSurrogate rest
    | '\\' :: rest => failForTrailing rest
    | rest => failForTrailing rest

def escapedChar? : Char → Option Char
  | '"' => some '"'
  | '\\' => some '\\'
  | '/' => some '/'
  | 'b' => some '\x08'
  | 'f' => some '\x0c'
  | 'n' => some '\n'
  | 'r' => some '\r'
  | 't' => some '\t'
  | _ => none

def readEscape (text : List Char) : Reading (Char × List Char) :=
  match text with
  | [] => failAt .endInString []
  | 'u' :: rest => readUnicodeEscape rest
  | c :: rest =>
      match escapedChar? c with
      | some c => .ok (c, rest)
      | none => failAtNext .invalidEscape (c :: rest)

/-- Codes below that of the space have to be escaped. -/
def isControl (c : Char) : Bool :=
  c.toNat < 0x20

def readStringFrom : (fuel : Nat) → List Char → Reading (List Char × List Char)
  | 0, _ => failAt .endInString []
  | fuel + 1, text =>
      match text with
      | [] => failAt .endInString []
      | '"' :: rest => .ok ([], rest)
      | '\\' :: rest => do
          let (c, rest) ← readEscape rest
          let (cs, rest) ← readStringFrom fuel rest
          return (c :: cs, rest)
      | c :: rest =>
          if isControl c then failAt .controlCharacter rest
          else do
            let (cs, rest) ← readStringFrom fuel rest
            return (c :: cs, rest)

/-- A string after its opening quote; each character of it takes at least one of the text. -/
def readString (text : List Char) : Reading (String × List Char) := do
  let (cs, rest) ← readStringFrom (text.length + 1) text
  return (String.ofList cs, rest)

end LensCalibration.Json
