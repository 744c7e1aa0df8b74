import LensCalibration.Pattern.Expression

/-!
# The stretches that an expression matches

An expression relates places of a text: where a stretch begins that it matches, and where that
stretch ends.  Sequences are relations that follow each other, choices are unions, and repetitions
are powers, of which no more are needed than the text has places.
-/

namespace LensCalibration.Pattern

/-- Places of a text, each as the bit of its number. -/
abbrev PlaceSet := Nat

/-- For each place of a text, in order, the places where a stretch that begins there may end. -/
abbrev Stretches := List PlaceSet

namespace Stretches

def idle (size : Nat) : Stretches := (List.range size).map (1 <<< ·)

def union (a b : Stretches) : Stretches := a.zipWith (· ||| ·) b

/-- The ends of the stretches that begin at some places. -/
def endsFrom : PlaceSet → Stretches → PlaceSet
  | _, [] => 0
  | starts, ends :: rest =>
      if starts = 0 then 0
      else (if starts % 2 = 1 then ends else 0) ||| endsFrom (starts / 2) rest

def followedBy (a b : Stretches) : Stretches := a.map (endsFrom · b)

/-- So many stretches, one behind the other.  Where two are no more than one, neither are others. -/
def power (one : Stretches) (count : Nat) : Stretches :=
  if count = 0 then idle one.length
  else
    let two := one.followedBy one
    if two = one then one
    else
      let pairs := two.power (count / 2)
      if count % 2 = 1 then one.followedBy pairs else pairs
termination_by count

/--
As many stretches as a quantifier allows.  Of more than there are places one is empty, and so there
may as well be any greater number of them; and what may be left out may be left out where it is
empty.
-/
def repeated (one : Stretches) (quantifier : Quantifier) : Stretches :=
  let size := one.length
  let further := quantifier.most.elim size fun most => min (most - quantifier.least) size
  (one.power (min quantifier.least size)).followedBy ((one.union (idle size)).power further)

end Stretches

namespace Expression

mutual

/-- The stretches of a text with the given places that an expression matches. -/
def stretches (places : List Place) : Expression → Stretches
  | empty => .idle places.length
  | literal text =>
      places.mapIdx fun i place =>
        if text.isPrefixOf place.rest then 1 <<< (i + text.length) else 0
  | set x _ =>
      places.mapIdx fun i place =>
        if place.after.any fun c => x.contains c.toNat then 1 <<< (i + 1) else 0
  | assertion x => places.mapIdx fun i place => if x.holds place then 1 <<< i else 0
  | capture _ part => part.stretches places
  | repetition part quantifier => (part.stretches places).repeated quantifier
  | sequence parts => sequenceStretches places parts
  | either branches => choiceStretches places branches

def sequenceStretches (places : List Place) : List Expression → Stretches
  | [] => .idle places.length
  | part :: rest => (part.stretches places).followedBy (sequenceStretches places rest)

def choiceStretches (places : List Place) : List Expression → Stretches
  | [] => places.map fun _ => 0
  | branch :: rest => (branch.stretches places).union (choiceStretches places rest)

end

def occursIn (expression : Expression) (text : String) : Bool :=
  (expression.stretches (Place.placesOf text)).any (· ≠ 0)

end Expression

end LensCalibration.Pattern
