import LensCalibration.Pattern.Expression
import LensCalibration.Pattern.Fault

/-!
# The meaning of patterns

Flags hold for what follows them in their group.  Unless `unicode` is taken back, sets are made of
all characters; there are no tables for the properties and the letter cases of all characters, so
that what needs them is refused.  Without `unicode`, sets are made of the first 128 characters, and
what goes beyond them is refused, as it would match a part of a character.
-/

namespace LensCalibration.Pattern

structure Flags where
  ignoreCase : Bool
  multiLine : Bool
  dotAll : Bool
  swapGreed : Bool
  unicode : Bool
  crlf : Bool
  deriving DecidableEq, Repr

namespace Flags

def initial : Flags := ⟨false, false, false, false, true, false⟩

/-- White space and comments are passed over when a pattern is read. -/
def set (flags : Flags) (settings : Settings) : Flags :=
  settings.foldl (fun flags (flag, value) =>
    match flag with
    | .ignoreCase => { flags with ignoreCase := value }
    | .multiLine => { flags with multiLine := value }
    | .dotAll => { flags with dotAll := value }
    | .swapGreed => { flags with swapGreed := value }
    | .unicode => { flags with unicode := value }
    | .crlf => { flags with crlf := value }
    | .spaced => flags) flags

end Flags

def lastCode : Nat := 0x10ffff

/-! ## Sets -/

/-- A set without regard to case if the flags say so; `span` is where it is written. -/
def CharSet.folded (flags : Flags) (span : Span) (set : CharSet) : Except Fault CharSet :=
  if !flags.ignoreCase then .ok set
  else if !flags.unicode then .ok set.withBothCases
  else if set.isEmpty then .ok set
  else failWith .caseUnavailable span

def CharSet.negated (flags : Flags) (span : Span) (negated : Bool) (set : CharSet) :
    Except Fault CharSet :=
  if flags.unicode then .ok (if negated then set.complement lastCode else set)
  else
    let set := if negated then set.complement 0xff else set
    if set.isAscii then .ok set else failWith .invalidText span

def Literal.code (flags : Flags) (x : Literal) : Except Fault Nat :=
  let code := x.char.toNat
  if flags.unicode || code < 0x80 then .ok code
  else failWith (if x.asByte then .invalidText else .unicodeNotAllowed) x.span

def SetOperation.apply (kind : SetOperation) (a b : CharSet) : CharSet :=
  let without (a b : CharSet) := a.inter (b.complement lastCode)
  match kind with
  | .intersection => a.inter b
  | .difference => without a b
  | .symmetricDifference => without (a.union b) (a.inter b)

/-- A name as names are compared: without `is` at the front, separators and capitals. -/
def looseName (name : String) : String :=
  let text := name.toList
  let text := if (text.take 2).map Char.toLower = ['i', 's'] then text.drop 2 else text
  String.ofList ((text.filter fun c => c.toNat < 0x80 && !" _-".contains c).map Char.toLower)

/-- Abbreviations that are known to be general categories, though not of what. -/
def knownCategories : List String := ["cf", "sc", "lc"]

def propertyFault (name : Option String) : FaultKind :=
  if name.any fun name => knownCategories.contains (looseName name) then .propertyValueNotFound
  else .propertyNotFound

mutual

def SetTree.meaning (flags : Flags) : SetTree → Except Fault CharSet
  | .literal x => do
      let code ← x.code flags
      return ⟨[(code, code)]⟩
  | .range first last => do
      return ⟨[(← first.code flags, ← last.code flags)]⟩
  | .named span negated name => do
      (← name.set.folded flags span).negated flags span negated
  | .shorthand span negated name =>
      if flags.unicode then failWith .shorthandNotFound span
      else name.set.negated flags span negated
  | .property span name =>
      failWith (if flags.unicode then propertyFault name else .unicodeNotAllowed) span
  | .union _ parts => SetTree.unionOf flags parts
  | .bracket span negated inner => do
      (← (← inner.meaning flags).folded flags span).negated flags span negated
  | .operation kind left right => do
      let a ← left.meaning flags
      let b ← right.meaning flags
      let b ← b.folded flags right.span
      let a ← a.folded flags left.span
      return kind.apply a b

def SetTree.unionOf (flags : Flags) : List SetTree → Except Fault CharSet
  | [] => .ok .empty
  | part :: rest => do
      let set ← part.meaning flags
      return (← SetTree.unionOf flags rest).union set

end

/-! ## Patterns -/

def Literal.meaning (flags : Flags) (x : Literal) : Except Fault Expression := do
  if !flags.unicode ∧ x.asByte ∧ 0x80 ≤ x.char.toNat then failWith .invalidText x.span
  else return .ofSet (← (CharSet.ofChar x.char).folded flags x.span) !flags.unicode

/-- What a dot leaves out. -/
def lineEnds (flags : Flags) : CharSet :=
  if flags.dotAll then .empty
  else if flags.crlf then .ofRanges [('\n'.toNat, '\n'.toNat), ('\r'.toNat, '\r'.toNat)]
  else .ofChar '\n'

def dotMeaning (flags : Flags) (span : Span) : Except Fault Expression :=
  if flags.unicode then .ok (.ofSet ((lineEnds flags).complement lastCode) false)
  else failWith .invalidText span

def AssertionKind.meaning (flags : Flags) : AssertionKind → Assertion
  | .lineStart => if flags.multiLine then .lineStart flags.crlf else .textStart
  | .lineEnd => if flags.multiLine then .lineEnd flags.crlf else .textEnd
  | .textStart => .textStart
  | .textEnd => .textEnd
  | .word edge => .word edge flags.unicode

mutual

def Tree.meaning : Flags → Tree → Except Fault (Expression × Flags)
  | now, .empty _ => .ok (.empty, now)
  | now, .flags _ settings => .ok (.empty, now.set settings)
  | now, .literal x => do return (← x.meaning now, now)
  | now, .dot span => do return (← dotMeaning now span, now)
  | now, .assertion _ kind => .ok (.assertion (kind.meaning now), now)
  | now, .set x => do return (.ofSet (← x.meaning now) !now.unicode, now)
  | now, .repetition _ part quantifier => do
      let (part, later) ← part.meaning now
      let greedy := quantifier.greedy != later.swapGreed
      return (part.repeated { quantifier with greedy := greedy }, later)
  | now, .group _ number settings part => do
      let (part, _) ← part.meaning (now.set settings)
      return (number.elim part (.capture · part), now)
  | now, .alternation _ branches => do
      let (branches, later) ← Tree.meanings now branches
      return (.ofBranches branches, later)
  | now, .concatenation _ parts => do
      let (parts, later) ← Tree.meanings now parts
      return (.ofSequence parts, later)

def Tree.meanings : Flags → List Tree → Except Fault (List Expression × Flags)
  | now, [] => .ok ([], now)
  | now, part :: rest => do
      let (part, later) ← part.meaning now
      let (rest, last) ← Tree.meanings later rest
      return (part :: rest, last)

end

end LensCalibration.Pattern
