import LensCalibration.Json.Scalar

/-!
# Values that are passed over

The value of a member that no field asks for is checked, but more loosely than one that is read:
numerals have no range, and surrogates in strings need no partner.
-/

namespace LensCalibration.Json

open Decimal

/-! ## Strings -/

def passEscape (text : List Char) : Reading (List Char) :=
  match text with
  | [] => failAt .endInString []
  | 'u' :: rest => (readHexUnit rest).map Prod.snd
  | c :: rest =>
      if (escapedChar? c).isSome then .ok rest else failAtNext .invalidEscape (c :: rest)

def passStringFrom : (fuel : Nat) → List Char → Reading (List Char)
  | 0, _ => failAt .endInString []
  | fuel + 1, text =>
      match text with
      | [] => failAt .endInString []
      | '"' :: rest => .ok rest
      | '\\' :: rest => do passStringFrom fuel (← passEscape rest)
      | c :: rest =>
          if isControl c then failAt .controlCharacter (c :: rest)
          else passStringFrom fuel rest

def passString (text : List Char) : Reading (List Char) :=
  passStringFrom (text.length + 1) text

/-! ## Values -/

def passColon (text : List Char) : Reading (List Char) :=
  match skipBlanks text with
  | [] => failAtNext .endInObject []
  | ':' :: rest => .ok rest
  | rest => failAtNext .expectedColon rest

def passKey (text : List Char) : Reading (List Char) :=
  match skipBlanks text with
  | [] => failAtNext .endInObject []
  | '"' :: rest => do passColon (← passString rest)
  | rest => failAtNext .keyNotString rest

mutual

def passValueFrom : (fuel : Nat) → List Char → Reading (List Char)
  | 0, _ => failAt .endInValue []
  | fuel + 1, text =>
      match skipBlanks text with
      | [] => failAtNext .endInValue []
      | 'n' :: rest => readWord ['u', 'l', 'l'] rest
      | 't' :: rest => readWord ['r', 'u', 'e'] rest
      | 'f' :: rest => readWord ['a', 'l', 's', 'e'] rest
      | '"' :: rest => passString rest
      | '[' :: rest =>
          match skipBlanks rest with
          | [] => failAtNext .endInList []
          | ']' :: rest => .ok rest
          | rest => do passElementsFrom fuel (← passValueFrom fuel rest)
      | '{' :: rest =>
          match skipBlanks rest with
          | [] => failAtNext .endInObject []
          | '}' :: rest => .ok rest
          | rest => do passMembersFrom fuel (← passValueFrom fuel (← passKey rest))
      | c :: rest =>
          if startsNumeral c then (readNumeral .invalidNumber (c :: rest)).map Prod.snd
          else failAtNext .expectedValue (c :: rest)

def passElementsFrom : (fuel : Nat) → List Char → Reading (List Char)
  | 0, _ => failAt .endInList []
  | fuel + 1, text =>
      match skipBlanks text with
      | [] => failAtNext .endInList []
      | ']' :: rest => .ok rest
      | ',' :: rest => do passElementsFrom fuel (← passValueFrom fuel rest)
      | rest => failAtNext .expectedListCommaOrEnd rest

def passMembersFrom : (fuel : Nat) → List Char → Reading (List Char)
  | 0, _ => failAt .endInObject []
  | fuel + 1, text =>
      match skipBlanks text with
      | [] => failAtNext .endInObject []
      | '}' :: rest => .ok rest
      | ',' :: rest => do passMembersFrom fuel (← passValueFrom fuel (← passKey rest))
      | rest => failAtNext .expectedObjectCommaOrEnd rest

end

/-- Pass over a value of any kind and depth; each part of it takes at least one character. -/
def passValue (text : List Char) : Reading (List Char) :=
  passValueFrom (text.length + 1) text

end LensCalibration.Json
