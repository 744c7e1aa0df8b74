import LensCalibration.Pattern.Assertion

/-!
# Regular expressions

What a pattern means.  `ofSet`, `ofSequence`, `ofBranches` and `repeated` make expressions that are
as simple as can be seen at once: a sequence holds no sequences and no neighbouring literals, a
choice holds no choices, and what all its branches begin with stands once in front of it.
-/

namespace LensCalibration.Pattern

inductive Expression where
  | empty
  /-- At least one character. -/
  | literal (text : List Char)
  /-- Sets of bytes are told from sets of characters, though both hold whole characters. -/
  | set (set : CharSet) (ofBytes : Bool)
  | assertion (assertion : Assertion)
  /-- A group that can be referred to by its number. -/
  | capture (number : Nat) (part : Expression)
  | repetition (part : Expression) (quantifier : Quantifier)
  | sequence (parts : List Expression)
  | either (branches : List Expression)
  deriving BEq, Repr

namespace Expression

def never : Expression := .set .empty true

def ofSet (set : CharSet) (ofBytes : Bool) : Expression :=
  match set.ranges with
  | [] => never
  | [(low, high)] => if low = high then .literal [Char.ofNat low] else .set set ofBytes
  | _ => .set set ofBytes

/-! ## Sequences -/

def parts : Expression → List Expression
  | empty => []
  | sequence parts => parts
  | part => [part]

/-- Put a part in front of others; two literals become one. -/
def consPart : Expression → List Expression → List Expression
  | literal first, literal second :: rest => .literal (first ++ second) :: rest
  | part, rest => part :: rest

def ofSequence (expressions : List Expression) : Expression :=
  match (expressions.flatMap parts).foldr consPart [] with
  | [] => .empty
  | [part] => part
  | parts => .sequence parts

/-! ## Choices -/

def branches : Expression → List Expression
  | either branches => branches
  | branch => [branch]

def char? : Expression → Option Char
  | literal [c] => some c
  | _ => none

def set? : Expression → Option CharSet
  | set x _ => some x
  | _ => none

def sequence? : Expression → Option (List Expression)
  | sequence parts => some parts
  | _ => none

/-- The set of all that branches match, if they are all characters, or all sets. -/
def setOfBranches? (branches : List Expression) : Option CharSet :=
  let chars := branches.mapM char?
  (chars.map fun chars => CharSet.ofRanges (chars.map fun c => (c.toNat, c.toNat))).or
    ((branches.mapM set?).map fun sets => sets.foldl CharSet.union .empty)

/-- A choice between branches, none of which is one itself. -/
def choice (branches : List Expression) : Expression :=
  match branches with
  | [] => never
  | [branch] => branch
  | branches =>
      match setOfBranches? branches with
      | some all => ofSet all false
      | none => .either branches

def commonParts : List Expression → List Expression → List Expression
  | first :: rest, first' :: rest' =>
      if first == first' then first :: commonParts rest rest' else []
  | _, _ => []

/-- The parts that all branches begin with, where they are sequences. -/
def sharedParts (branches : List Expression) : List Expression :=
  match branches.mapM sequence? with
  | none | some [] | some [_] => []
  | some (first :: rest) => rest.foldl commonParts first

def ofBranches (expressions : List Expression) : Expression :=
  let branches := expressions.flatMap branches
  match sharedParts branches with
  | [] => choice branches
  | shared =>
      let rests := branches.map fun branch => ofSequence (branch.parts.drop shared.length)
      ofSequence (shared ++ [choice (rests.flatMap Expression.branches)])

/-! ## Repetitions -/

mutual

def isWidthless : Expression → Bool
  | empty | assertion _ => true
  | literal _ => false
  | set .. => false
  | capture _ part | repetition part _ => part.isWidthless
  | sequence parts => areWidthless parts
  | either branches => areWidthless branches

def areWidthless : List Expression → Bool
  | [] => true
  | part :: rest => part.isWidthless && areWidthless rest

end

/-- What takes no characters need not be repeated more than once. -/
def repeated (part : Expression) (quantifier : Quantifier) : Expression :=
  let quantifier :=
    if part.isWidthless then
      { quantifier with
        least := min quantifier.least 1
        most := some (min (quantifier.most.getD 1) 1) }
    else quantifier
  if quantifier.most = some 0 then .empty
  else if quantifier.least = 1 ∧ quantifier.most = some 1 then part
  else .repetition part quantifier

end Expression

end LensCalibration.Pattern
