import LensCalibration.Json.Ignored
import LensCalibration.Json.Schema
import LensCalibration.Json.Document

/-!
# The grammar of documents

`Document.WrittenAs` relates a document to each of its texts: blanks may stand between any two
tokens, a string may be escaped in several ways, and an exponent has several spellings.  A string
with a surrogate that has no partner is syntactically a string, but it stands for no Unicode text;
it is a text of every string, so that no document is left out.
-/

namespace LensCalibration.Decimal

/-! ## Numerals -/

/-- One zero, or digits that start with another one. -/
def IsWhole (digits : List Digit) : Prop :=
  digits = [.zero] ∨ ∃ d rest, digits = d :: rest ∧ d ≠ .zero

def Exponent.WrittenAs (e : Exponent) (text : List Char) : Prop :=
  e.digits ≠ [] ∧ ∃ letter sign, (letter = 'e' ∨ letter = 'E') ∧
    (if e.negative then sign = ['-'] else sign = [] ∨ sign = ['+']) ∧
    text = letter :: (sign ++ e.digits.map Digit.toChar)

def exponentWrittenAs : Option Exponent → List Char → Prop
  | none, text => text = []
  | some e, text => e.WrittenAs text

def fractionText (digits : List Digit) : List Char :=
  if digits.isEmpty then [] else '.' :: digits.map Digit.toChar

def Numeral.WrittenAs (n : Numeral) (text : List Char) : Prop :=
  IsWhole n.whole ∧ ∃ e, exponentWrittenAs n.exponent e ∧
    text = (if n.negative then ['-'] else []) ++ n.whole.map Digit.toChar ++
      fractionText n.fraction ++ e

end LensCalibration.Decimal

namespace LensCalibration.Json

open Decimal

/-! ## Blanks and strings -/

def Blanks (text : List Char) : Prop :=
  ∀ c ∈ text, isBlank c = true

/-- What stands before an element or a member: blanks, and a comma unless it is the first. -/
def Separates (first : Bool) (text : List Char) : Prop :=
  if first then Blanks text
  else ∃ before after, Blanks before ∧ Blanks after ∧ text = before ++ ',' :: after

/-- A character that stands for itself in a string. -/
def isPlain (c : Char) : Bool :=
  c ≠ '"' ∧ c ≠ '\\' ∧ isControl c = false

/-- The inside of a string. -/
inductive StringBody : List Char → Prop where
  | nil : StringBody []
  | plain {c : Char} {text : List Char} :
      isPlain c → StringBody text → StringBody (c :: text)
  | escape {letter : Char} {text : List Char} :
      (escapedChar? letter).isSome → StringBody text → StringBody ('\\' :: letter :: text)
  | unit {a b c d : Char} {text : List Char} :
      (hexUnit? [a, b, c, d]).isSome → StringBody text →
        StringBody ('\\' :: 'u' :: a :: b :: c :: d :: text)

/-- The characters that the inside of a string stands for; surrogates come in pairs. -/
inductive Spells : List Char → List Char → Prop where
  | nil : Spells [] []
  | plain {c : Char} {cs text : List Char} :
      isPlain c → Spells cs text → Spells (c :: cs) (c :: text)
  | escape {letter c : Char} {cs text : List Char} :
      escapedChar? letter = some c → Spells cs text → Spells (c :: cs) ('\\' :: letter :: text)
  | unit {a b c d : Char} {n : Nat} {cs text : List Char} :
      hexUnit? [a, b, c, d] = some (n, []) → isLeading n = false → isTrailing n = false →
        Spells cs text → Spells (Char.ofNat n :: cs) ('\\' :: 'u' :: a :: b :: c :: d :: text)
  | pair {a b c d a' b' c' d' : Char} {n n' : Nat} {cs text : List Char} :
      hexUnit? [a, b, c, d] = some (n, []) → isLeading n →
        hexUnit? [a', b', c', d'] = some (n', []) → isTrailing n' → Spells cs text →
        Spells (joinSurrogates n n' :: cs)
          ('\\' :: 'u' :: a :: b :: c :: d :: '\\' :: 'u' :: a' :: b' :: c' :: d' :: text)

def StringWrittenAs (s : String) (text : List Char) : Prop :=
  StringBody text ∧ (Spells s.toList text ∨ ∀ cs, ¬ Spells cs text)

/-! ## Documents -/

mutual

def Document.WrittenAs : Document → List Char → Prop
  | .null, text => text = ['n', 'u', 'l', 'l']
  | .boolean true, text => text = ['t', 'r', 'u', 'e']
  | .boolean false, text => text = ['f', 'a', 'l', 's', 'e']
  | .number n, text => n.WrittenAs text
  | .string s, text => ∃ body, StringWrittenAs s body ∧ text = '"' :: (body ++ ['"'])
  | .array elements, text =>
      ∃ inside, elements.WrittenAs true inside ∧ text = '[' :: (inside ++ [']'])
  | .object members, text =>
      ∃ inside, members.WrittenAs true inside ∧ text = '{' :: (inside ++ ['}'])

/-- Elements and the blanks after them. -/
def Elements.WrittenAs : (first : Bool) → Elements → List Char → Prop
  | _, .nil, text => Blanks text
  | first, .cons element rest, text =>
      ∃ separator value others, Separates first separator ∧ element.WrittenAs value ∧
        rest.WrittenAs false others ∧ text = separator ++ value ++ others

/-- Members and the blanks after them; a key is Unicode text. -/
def Members.WrittenAs : (first : Bool) → Members → List Char → Prop
  | _, .nil, text => Blanks text
  | first, .cons key value rest, text =>
      ∃ separator body before after content others, Separates first separator ∧
        Spells key.toList body ∧ Blanks before ∧ Blanks after ∧ value.WrittenAs content ∧
        rest.WrittenAs false others ∧
        text = separator ++ '"' :: (body ++ '"' :: (before ++ ':' :: (after ++ content ++ others)))

end

/-- A whole text holds one document, and may have blanks around it. -/
def Document.IsContentOf (d : Document) (text : String) : Prop :=
  ∃ before inside after, Blanks before ∧ d.WrittenAs inside ∧ Blanks after ∧
    text.toList = before ++ inside ++ after

end LensCalibration.Json
