import LensCalibration.Decimal.Numeral

/-!
# Documents

The tree of a JSON text, and its compact and its pretty form.
-/

namespace LensCalibration.Json

open Decimal

mutual

inductive Document where
  | null
  | boolean (value : Bool)
  | number (numeral : Numeral)
  | string (text : String)
  | array (elements : Elements)
  | object (members : Members)
  deriving DecidableEq, Repr

inductive Elements where
  | nil
  | cons (element : Document) (rest : Elements)
  deriving DecidableEq, Repr

/-- Members in the order of the text; a key may occur more than once. -/
inductive Members where
  | nil
  | cons (key : String) (value : Document) (rest : Members)
  deriving DecidableEq, Repr

end

def Elements.ofList : List Document → Elements
  | [] => .nil
  | element :: rest => .cons element (ofList rest)

/-! ## Text -/

/-- A compact text holds no blanks; a pretty one has a line for each element and member. -/
inductive Form where
  | compact
  | pretty
  deriving DecidableEq, Repr

def Form.lineBreak : Form → (depth : Nat) → List Char
  | .compact, _ => []
  | .pretty, depth => '\n' :: List.replicate (2 * depth) ' '

def Form.colon : Form → List Char
  | .compact => [':']
  | .pretty => [':', ' ']

def hexChar (n : Nat) : Char :=
  if n < 10 then Char.ofNat ('0'.toNat + n) else Char.ofNat ('a'.toNat + (n - 10))

def escapeChar (c : Char) : List Char :=
  match c with
  | '"' => ['\\', '"']
  | '\\' => ['\\', '\\']
  | '\x08' => ['\\', 'b']
  | '\x0c' => ['\\', 'f']
  | '\n' => ['\\', 'n']
  | '\r' => ['\\', 'r']
  | '\t' => ['\\', 't']
  | c =>
      if c.toNat < 0x20 then ['\\', 'u', '0', '0', hexChar (c.toNat / 16), hexChar (c.toNat % 16)]
      else [c]

def writeString (text : String) : List Char :=
  '"' :: text.toList.flatMap escapeChar ++ ['"']

mutual

def Document.write (form : Form) (depth : Nat) : Document → List Char
  | .null => ['n', 'u', 'l', 'l']
  | .boolean true => ['t', 'r', 'u', 'e']
  | .boolean false => ['f', 'a', 'l', 's', 'e']
  | .number numeral => numeral.toChars
  | .string text => writeString text
  | .array .nil => ['[', ']']
  | .array (.cons element rest) =>
      '[' :: form.lineBreak (depth + 1) ++ element.write form (depth + 1) ++
        rest.writeRest form (depth + 1) ++ form.lineBreak depth ++ [']']
  | .object .nil => ['{', '}']
  | .object (.cons key value rest) =>
      '{' :: form.lineBreak (depth + 1) ++ writeString key ++ form.colon ++
        value.write form (depth + 1) ++ rest.writeRest form (depth + 1) ++
        form.lineBreak depth ++ ['}']

/-- The elements after the first, each after a comma. -/
def Elements.writeRest (form : Form) (depth : Nat) : Elements → List Char
  | .nil => []
  | .cons element rest =>
      ',' :: form.lineBreak depth ++ element.write form depth ++ rest.writeRest form depth

def Members.writeRest (form : Form) (depth : Nat) : Members → List Char
  | .nil => []
  | .cons key value rest =>
      ',' :: form.lineBreak depth ++ writeString key ++ form.colon ++ value.write form depth ++
        rest.writeRest form depth

end

def Document.toString (form : Form) (document : Document) : String :=
  String.ofList (document.write form 0)

end LensCalibration.Json
