/-!
# Terminal controls

A text for a terminal may hold more than what is to be seen: control characters, and sequences that
an escape character opens.  `visible` is what is left of a text without them.
-/

namespace LensCalibration.Text

namespace Terminal

inductive Mode where
  | ground
  | escape
  | escapeIntermediate
  /-- A sequence of parameters, which a letter ends. -/
  | control
  /-- The head of a device string, whose first part may hold private parameters. -/
  | deviceEntry
  | deviceParameters
  | deviceIntermediate
  /-- A string that only a string terminator ends. -/
  | string
  /-- A command to the terminal, which also the bell ends. -/
  | command
  deriving DecidableEq, Repr

def endsString (c : Char) : Bool :=
  (String.singleton c).toByteArray.toList.contains 0x9c

def isControlSpace (c : Char) : Bool :=
  c = '\t' || c = '\n' || c = '\x0c' || c = '\r'

/-- Outside of a sequence everything but control characters is seen. -/
def isText (c : Char) : Bool :=
  (' ' ≤ c && c ≠ '\x7f') || isControlSpace c

/-- The mode that the character after an escape character leads to. -/
def Mode.ofEscape (c : Char) : Mode :=
  match c with
  | '[' => .control
  | ']' => .command
  | 'P' => .deviceEntry
  | 'X' | '^' | '_' => .string
  | c =>
      if ' ' ≤ c ∧ c ≤ '/' then .escapeIntermediate
      else if '0' ≤ c ∧ c ≤ '~' then .ground
      else .escape

/-- The mode after a character.  Cancel, substitute and escape put an end to whatever is open. -/
def Mode.next (mode : Mode) (c : Char) : Mode :=
  if c = '\x18' ∨ c = '\x1a' then .ground
  else if c = '\x1b' then .escape
  else
    match mode with
    | .ground => .ground
    | .escape => .ofEscape c
    | .escapeIntermediate => if '0' ≤ c ∧ c ≤ '~' then .ground else mode
    | .control => if '@' ≤ c ∧ c ≤ '~' then .ground else mode
    | .deviceEntry =>
        if '@' ≤ c ∧ c ≤ '~' then .string
        else if '0' ≤ c ∧ c ≤ '?' then .deviceParameters
        else if ' ' ≤ c ∧ c ≤ '/' then .deviceIntermediate
        else mode
    | .deviceParameters =>
        if '<' ≤ c ∧ c ≤ '~' then .string
        else if ' ' ≤ c ∧ c ≤ '/' then .deviceIntermediate
        else mode
    | .deviceIntermediate => if '0' ≤ c ∧ c ≤ '~' then .string else mode
    | .string => if endsString c then .ground else mode
    | .command => if c = '\x07' then .ground else mode

/-- Line breaks and tabs are seen also where they stand in a sequence, unless it is a string. -/
def Mode.shows (mode : Mode) (c : Char) : Bool :=
  match mode with
  | .ground => isText c
  | .escape | .escapeIntermediate | .control => isControlSpace c
  | _ => false

/--
What is seen of a text from a mode on.  Once a character is seen, even in the middle of a sequence,
what follows is seen as well, up to the next control character; there the sequence goes on.
-/
def visibleFrom : Mode → (shown : Bool) → List Char → List Char
  | _, _, [] => []
  | mode, true, c :: rest =>
      if isText c then c :: visibleFrom (if c.toNat < 0x80 then mode else .ground) true rest
      else visibleFrom (mode.next c) false rest
  | mode, false, c :: rest =>
      if mode.shows c then c :: visibleFrom (mode.next c) true rest
      else visibleFrom (mode.next c) false rest

end Terminal

/-- A text without terminal controls. -/
def visible (text : String) : String :=
  String.ofList (Terminal.visibleFrom .ground false text.toList)

end LensCalibration.Text
