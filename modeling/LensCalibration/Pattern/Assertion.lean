import LensCalibration.Pattern.Syntax

/-!
# Places and assertions

An assertion takes no characters.  Whether it holds at a place of a text depends on the characters
on the two sides of that place alone.
-/

namespace LensCalibration.Pattern

/-- A place in a text: the character before it, if there is one, and all that is behind it. -/
structure Place where
  before : Option Char
  rest : List Char
  deriving DecidableEq, Repr

namespace Place

def after (place : Place) : Option Char := place.rest.head?

def placesFrom (before : Option Char) : List Char → List Place
  | [] => [⟨before, []⟩]
  | c :: rest => ⟨before, c :: rest⟩ :: placesFrom (some c) rest

def placesOf (text : String) : List Place := placesFrom none text.toList

end Place

inductive Assertion where
  | textStart
  | textEnd
  /-- Whether also a carriage return ends a line. -/
  | lineStart (crlf : Bool)
  | lineEnd (crlf : Bool)
  /-- Whether the words are those of any script. -/
  | word (edge : WordEdge) (anyScript : Bool)
  deriving DecidableEq, Repr

def isWordChar (c : Char) : Bool :=
  NamedSet.word.set.contains c.toNat

def WordEdge.holds (edge : WordEdge) (place : Place) : Bool :=
  let before := place.before.any isWordChar
  let after := place.after.any isWordChar
  match edge with
  | .boundary => before != after
  | .noBoundary => before == after
  | .start => !before && after
  | .finish => before && !after
  | .startHalf => !before
  | .finishHalf => !after

/-- A carriage return and a line feed behind it are one line break. -/
def Assertion.holds (assertion : Assertion) (place : Place) : Bool :=
  match assertion with
  | .textStart => place.before.isNone
  | .textEnd => place.after.isNone
  | .lineStart false => place.before.all (· = '\n')
  | .lineEnd false => place.after.all (· = '\n')
  | .lineStart true =>
      place.before.all fun c => c = '\n' || (c = '\r' && place.after ≠ some '\n')
  | .lineEnd true =>
      place.after.all fun c => c = '\r' || (c = '\n' && place.before ≠ some '\r')
  | .word edge _ => edge.holds place

end LensCalibration.Pattern
