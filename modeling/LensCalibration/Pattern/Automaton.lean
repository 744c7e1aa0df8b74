import LensCalibration.Pattern.Draft
import LensCalibration.Pattern.Expression

/-!
# Automata of expressions

An expression is refused where an automaton for it would be too heavy.  There are two: one reads a
text forward and keeps track of the groups that can be referred to, and one reads it backward and
does not.  What is repeated a number of times is in them as often.
-/

namespace LensCalibration.Pattern

namespace Expression

/-! ## Lengths -/

mutual

/-- No match has fewer bytes; there is no such bound where a part matches nothing at all. -/
def leastLength : Expression → Option Nat
  | empty | assertion _ => some 0
  | literal text => some text.length
  | set x _ => if x.isEmpty then none else some 1
  | capture _ part => part.leastLength
  | repetition part quantifier => part.leastLength.map (quantifier.least * ·)
  | sequence parts => leastLengths? parts |>.map List.sum
  | either branches => leastLengths? branches |>.bind List.min?

def leastLengths? : List Expression → Option (List Nat)
  | [] => some []
  | part :: rest => do return (← part.leastLength) :: (← leastLengths? rest)

end

/-! ## Anchors -/

/--
Whether one of some parts is anchored, of which each is given as whether it is and whether it has no
width.  Those behind one that takes characters do not count.
-/
def anchorBefore : List (Bool × Bool) → Bool
  | [] => false
  | (anchored, widthless) :: rest => anchored || (widthless && anchorBefore rest)

mutual

/-- Whether a match has to begin where reading does, at the start or at the end of the text. -/
def isAnchored (direction : Direction) : Expression → Bool
  | empty | literal _ | set .. => false
  | assertion x =>
      match direction with
      | .forward => x = .textStart
      | .backward => x = .textEnd
  | capture _ part => part.isAnchored direction
  | repetition part quantifier => 0 < quantifier.least && part.isAnchored direction
  | sequence parts =>
      anchorBefore (direction.order ((anchors direction parts).zip (parts.map isWidthless)))
  | either branches => (anchors direction branches).all (· = true)

def anchors (direction : Direction) : List Expression → List Bool
  | [] => []
  | part :: rest => part.isAnchored direction :: anchors direction rest

end

/-! ## Growth -/

open Growth

def copies (quantifier : Quantifier) (takesText : Bool) (part : Growth Unit) : Growth Unit :=
  let branch := add 1 (2 * branchWeight)
  match quantifier.least, quantifier.most with
  | 0, some 1 => inOrder [branch, part, add 1 0]
  | 0, none => if takesText then inOrder [branch, part] else inOrder [part, branch, branch, add 1 0]
  | least, none => inOrder [times part least, branch]
  | least, some most =>
      if least = most then times part least
      else
        let first := if least = 0 then add 1 0 else times part least
        inOrder [first, add 1 0, times (inOrder [branch, part]) (most - least)]

def word? : Expression → Option (List UInt8)
  | literal text => some (text.flatMap bytesOf)
  | _ => none

mutual

def growth (direction : Direction) : Expression → Growth Unit
  | empty | assertion _ => add 1 0
  | literal text => add (text.flatMap bytesOf).length 0
  | set x _ => Growth.set direction x
  | capture _ part =>
      match direction with
      | .forward => inOrder [add 1 0, part.growth direction, add 1 0]
      | .backward => part.growth direction
  | repetition part quantifier =>
      copies quantifier (part.leastLength.any (0 < ·)) (part.growth direction)
  | sequence parts => inOrder (direction.order (growths direction parts))
  | either branches =>
      match branches.mapM word? with
      | some list =>
          let list := list.map direction.order
          inOrder [add 1 0, words ((list.map List.length).foldl max 0) list]
      | none =>
          let fork := add 2 (branches.length * branchWeight)
          match growths direction branches with
          | first :: second :: rest => inOrder (first :: second :: fork :: rest)
          | parts => inOrder parts

def growths (direction : Direction) : List Expression → List (Growth Unit)
  | [] => []
  | part :: rest => part.growth direction :: growths direction rest

end

/--
An automaton that finds an expression.  Unless a match has to begin where reading does, what stands
in front of it is skipped.
-/
def automaton (direction : Direction) (expression : Expression) : Growth Unit :=
  let skip :=
    if expression.isAnchored direction then add 1 0
    else add 3 (2 * branchWeight + stepWeight)
  inOrder [skip, (capture 0 expression).growth direction, add 1 0]

def isTooHeavy (direction : Direction) (expression : Expression) : Bool :=
  (expression.automaton direction .init).isNone

end Expression

end LensCalibration.Pattern
