import LensCalibration.Text.Invisible

/-!
# Quoted text

The form in which a text is shown inside a message: between double quotes, with quotes,
backslashes and everything that does not show by itself escaped.
-/

namespace LensCalibration.Text

def byCode (c : Char) : List Char :=
  ['\\', 'u', '{'] ++ Nat.toDigits 16 c.toNat ++ ['}']

def quotedChar (c : Char) : List Char :=
  match c with
  | '"' => ['\\', '"']
  | '\\' => ['\\', '\\']
  | '\n' => ['\\', 'n']
  | '\r' => ['\\', 'r']
  | '\t' => ['\\', 't']
  | c =>
      if c.toNat = 0 then ['\\', '0']
      else if ' ' ≤ c ∧ c ≤ '~' then [c]
      else if isInvisible c then byCode c
      else [c]

def quoted (text : String) : String :=
  String.ofList ('"' :: text.toList.flatMap quotedChar ++ ['"'])

end LensCalibration.Text
