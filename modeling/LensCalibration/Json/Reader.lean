import LensCalibration.Json.Ignored

/-!
# Reading by a schema

`Schema.read` takes a value of a schema from the front of a text, and `Schema.decode` a whole
text. A record is read from an object, in any order of its members, or from an array of its fields
in order.
-/

namespace LensCalibration.Json

open Binary Decimal

/-! ## Numbers -/

def mismatch {α : Type} (wanted : Wanted) (text : List Char) : Reading α :=
  match text with
  | [] => failAtNext .endInValue []
  | 'n' :: rest => do failAt (.wrongType .null wanted) (← readWord ['u', 'l', 'l'] rest)
  | 't' :: rest => do failAt (.wrongType (.boolean true) wanted) (← readWord ['r', 'u', 'e'] rest)
  | 'f' :: rest => do
      failAt (.wrongType (.boolean false) wanted) (← readWord ['a', 'l', 's', 'e'] rest)
  | '"' :: rest => do
      let (found, rest) ← readString rest
      failAt (.wrongType (.string found) wanted) rest
  | '[' :: rest => failAt (.wrongType .sequence wanted) ('[' :: rest)
  | '{' :: rest => failAt (.wrongType .map wanted) ('{' :: rest)
  | c :: rest =>
      if startsNumeral c then do
        let (found, rest) ← readNumber (c :: rest)
        failAt (.wrongType (.number found) wanted) rest
      else failAtNext .expectedValue (c :: rest)

/-- A number that `accept` takes; what it says against one lies behind the numeral. -/
def readAs {α : Type} (wanted : Wanted) (accept : Number → Except Cause α) (text : List Char) :
    Reading (α × List Char) :=
  match skipBlanks text with
  | [] => mismatch wanted []
  | c :: rest =>
      if startsNumeral c then do
        let (number, rest) ← readNumber (c :: rest)
        match accept number with
        | .ok value => return (value, rest)
        | .error cause => failAt cause rest
      else mismatch wanted (c :: rest)

def acceptInteger (wanted : Wanted) (low high : Int) : Number → Except Cause Int
  | .integer n => if low ≤ n ∧ n ≤ high then .ok n else .error (.wrongInteger n wanted)
  | .double negative x => .error (.wrongType (.number (.double negative x)) wanted)

def readSingle (text : List Char) : Reading (Single × List Char) :=
  readAs .single (fun number => .ok number.toSingle) text

def readInt32 (text : List Char) : Reading (Int × List Char) :=
  readAs .int32 (acceptInteger .int32 (-0x80000000) 0x7fffffff) text

def readNat32 (text : List Char) : Reading (Int × List Char) :=
  readAs .nat32 (acceptInteger .nat32 0 0xffffffff) text

/-- A code that stands for nothing has no place of its own. -/
def readCode (vocabulary : Vocabulary) (text : List Char) :
    Reading (vocabulary.Entry × List Char) := do
  let (code, rest) ← readInt32 text
  match vocabulary.ofCode? code with
  | some entry => return (entry, rest)
  | none => failPending (.unrecognizedCode vocabulary code) rest

/-! ## Arrays and objects -/

inductive Bracket where
  | square
  | curly
  deriving DecidableEq, Repr

/-- The end of an array or object of which everything wanted has been read. -/
def Bracket.close (bracket : Bracket) (text : List Char) : Reading (List Char) :=
  match bracket, skipBlanks text with
  | .square, [] => failAtNext .endInList []
  | .square, ']' :: rest => .ok rest
  | .square, ',' :: rest =>
      match skipBlanks rest with
      | ']' :: rest => failAtNext .trailingComma (']' :: rest)
      | rest => failAtNext .trailingCharacters rest
  | .curly, [] => failAtNext .endInObject []
  | .curly, '}' :: rest => .ok rest
  | .curly, ',' :: rest => failAtNext .trailingComma (',' :: rest)
  | _, rest => failAtNext .trailingCharacters rest

/-- How far the closing step gets, whether it succeeds or not. -/
def Bracket.afterClose (bracket : Bracket) (text : List Char) : List Char :=
  match bracket, skipBlanks text with
  | .square, ']' :: rest => rest
  | .square, ',' :: rest => skipBlanks rest
  | .curly, '}' :: rest => rest
  | _, rest => rest

/--
The inside of an array or object and its end.  The closing step is taken also where the inside
fails, and a failure without a place is put there.
-/
def Bracket.enclose {α : Type} (bracket : Bracket) (inside : Reading (α × List Char)) :
    Reading (α × List Char) :=
  match inside with
  | .ok (value, rest) => (bracket.close rest).map fun rest => (value, rest)
  | .error (.placed cause left) => .error (.placed cause left)
  | .error (.pending cause rest) => failAt cause (bracket.afterClose rest)

/-- The text from the next element of an array on, and nothing where the array ends. -/
def nextElement? (first : Bool) (text : List Char) : Reading (Option (List Char)) :=
  match skipBlanks text with
  | [] => failAtNext .endInList []
  | ']' :: _ => .ok none
  | c :: rest =>
      if first then .ok (some (c :: rest))
      else if c = ',' then
        match skipBlanks rest with
        | [] => failAtNext .endInValue []
        | ']' :: rest => failAtNext .trailingComma (']' :: rest)
        | rest => .ok (some rest)
      else failAtNext .expectedListCommaOrEnd (c :: rest)

/-- The text behind the opening quote of the next key, and nothing where the object ends. -/
def nextKey? (first : Bool) (text : List Char) : Reading (Option (List Char)) :=
  match skipBlanks text with
  | [] => failAtNext .endInObject []
  | '}' :: _ => .ok none
  | c :: rest =>
      if first then
        if c = '"' then .ok (some rest) else failAtNext .keyNotString (c :: rest)
      else if c = ',' then
        match skipBlanks rest with
        | [] => failAtNext .endInValue []
        | '"' :: rest => .ok (some rest)
        | '}' :: rest => failAtNext .trailingComma ('}' :: rest)
        | rest => failAtNext .keyNotString rest
      else failAtNext .expectedObjectCommaOrEnd (c :: rest)

def readElements {α : Type} (wanted : Wanted) (element : List Char → Reading (α × List Char)) :
    (n : Nat) → List Char → Reading (Vector α n × List Char)
  | 0, text => .ok (#v[], text)
  | n + 1, text => do
      let (values, text) ← readElements wanted element n text
      match ← nextElement? (n = 0) text with
      | none => failPending (.wrongLength n wanted) text
      | some rest =>
          let (value, rest) ← element rest
          return (values.push value, rest)

/-- The elements up to the end of an array; each takes at least one character. -/
def readRest {α : Type} (element : List Char → Reading (α × List Char)) :
    (fuel : Nat) → (first : Bool) → List Char → Reading (List α × List Char)
  | 0, _, text => .ok ([], text)
  | fuel + 1, first, text => do
      match ← nextElement? first text with
      | none => return ([], text)
      | some rest =>
          let (value, rest) ← element rest
          let (values, rest) ← readRest element fuel false rest
          return (value :: values, rest)

/-- The members up to the end of an object; `member` takes what follows the key. -/
def readMembers {σ : Type} (member : σ → String → List Char → Reading (σ × List Char)) :
    (fuel : Nat) → (first : Bool) → σ → List Char → Reading (σ × List Char)
  | 0, _, slots, text => .ok (slots, text)
  | fuel + 1, first, slots, text => do
      match ← nextKey? first text with
      | none => return (slots, text)
      | some rest =>
          let (key, rest) ← readString rest
          let (slots, rest) ← member slots key rest
          readMembers member fuel false slots rest

/-! ## Values of a schema -/

mutual

def Schema.read : (schema : Schema) → List Char → Reading (schema.Value × List Char)
  | .single, text => readSingle text
  | .int32, text => do
      let (n, rest) ← readInt32 text
      return (Int32.ofInt n, rest)
  | .nat32, text => do
      let (n, rest) ← readNat32 text
      return (UInt32.ofInt n, rest)
  | .code vocabulary, text => readCode vocabulary text
  | .array size element, text =>
      match skipBlanks text with
      | '[' :: rest => Bracket.square.enclose (readElements (.array size) element.read size rest)
      | rest => mismatch (.array size) rest
  | .list element, text =>
      match skipBlanks text with
      | '[' :: rest => Bracket.square.enclose (readRest element.read (rest.length + 1) true rest)
      | rest => mismatch .list rest
  | .record name fields, text =>
      match skipBlanks text with
      | '[' :: rest =>
          Bracket.square.enclose (fields.readInOrder (.record name fields.size) 0 rest)
      | '{' :: rest =>
          Bracket.curly.enclose do
            let (slots, rest) ←
              readMembers fields.readMember (rest.length + 1) true fields.noSlots rest
            match fields.filled slots with
            | .ok values => return (values, rest)
            | .error key => failPending (.missingField key) rest
      | rest => mismatch (.record name fields.size) rest

/-- The fields as elements of an array of which `index` have been read. -/
def Fields.readInOrder : (fields : Fields) → (wanted : Wanted) → (index : Nat) → List Char →
    Reading (fields.Values × List Char)
  | .nil, _, _, text => .ok ((), text)
  | .cons _ schema rest, wanted, index, text => do
      match ← nextElement? (index = 0) text with
      | none => failPending (.wrongLength index wanted) text
      | some text =>
          let (value, text) ← schema.read text
          let (values, text) ← rest.readInOrder wanted (index + 1) text
          return ((value, values), text)

/-- The rest of a member with this key; one that is no field is passed over. -/
def Fields.readMember : (fields : Fields) → fields.Slots → (key : String) → List Char →
    Reading (fields.Slots × List Char)
  | .nil, (), _, text => do
      let rest ← passValue (← passColon text)
      return ((), rest)
  | .cons field schema rest, (slot, slots), key, text =>
      if field = key then
        match slot with
        | some _ => failPending (.duplicateField key) text
        | none => do
            let (value, text) ← schema.read (← passColon text)
            return ((some value, slots), text)
      else do
        let (slots, text) ← rest.readMember slots key text
        return ((slot, slots), text)

end

/-! ## Whole texts -/

/-- After the value only blanks may follow. -/
def Schema.decodeChars (schema : Schema) (text : List Char) : Reading schema.Value := do
  let (value, rest) ← schema.read text
  match skipBlanks rest with
  | [] => return value
  | rest => failAtNext .trailingCharacters rest

def Schema.decode (schema : Schema) (text : String) : Except Error schema.Value :=
  (schema.decodeChars text.toList).mapError (Failure.toError text.toList)

def decode (α : Type) [Coded α] (text : String) : Except Error α :=
  ((Coded.schema α).decode text).map Coded.ofValue

end LensCalibration.Json
