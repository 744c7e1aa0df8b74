import LensCalibration.Pattern.Fault
import LensCalibration.Pattern.Syntax
import LensCalibration.Text.Letter

/-!
# Groups

Parentheses around a part of a pattern, with a name or flags in front of it.
-/

namespace LensCalibration.Pattern

open Text

/-! ## Open groups -/

structure OpenGroup where
  /-- The opening parenthesis; the whole has none. -/
  opening : Option Span
  /-- Its number, if it can be referred to. -/
  number : Option Nat
  settings : Settings
  /-- Whether white space means nothing in what is around. -/
  spacedAround : Bool
  /-- Where the first branch begins, and where the present one does. -/
  contentStart : Position
  branchStart : Position
  /-- The branches and the parts of the present one up to here, the last one first. -/
  branches : List Tree
  parts : List Tree

namespace OpenGroup

def init (opening : Option Span) (number : Option Nat) (settings : Settings) (spaced : Bool)
    (position : Position) : OpenGroup :=
  ⟨opening, number, settings, spaced, position, position, [], []⟩

def add (group : OpenGroup) (part : Tree) : OpenGroup :=
  { group with parts := part :: group.parts }

def branch (group : OpenGroup) (last : Position) : Tree :=
  .ofParts ⟨group.branchStart, last⟩ group.parts.reverse

def alternate (group : OpenGroup) (last next : Position) : OpenGroup :=
  { group with branches := group.branch last :: group.branches, branchStart := next, parts := [] }

def content (group : OpenGroup) (last : Position) : Tree :=
  .ofBranches ⟨group.contentStart, last⟩ (group.branch last :: group.branches).reverse

def close (group : OpenGroup) (opening : Span) (last next : Position) : Tree :=
  .group ⟨opening.first, next⟩ group.number group.settings (group.content last)

end OpenGroup

/-! ## Names and flags -/

abbrev Names := List (String × Span)

def startsName (c : Char) : Bool := c = '_' || isLetter c

def continuesName (c : Char) : Bool :=
  ['_', '.', '[', ']'].contains c || isLetter c || isNumeral c

/-- A name and the bracket behind it; no other group has that name. -/
def readName (names : Names) (cursor : Cursor) : Except Fault (Names × Cursor) :=
  match cursor.rest with
  | [] => failWith .nameUnfinished cursor.here
  | '>' :: _ => failWith .nameEmpty cursor.here
  | c :: _ =>
      if startsName c then
        let (rest, close) := cursor.tail.readWhile false continuesName
        let name := String.ofList (c :: rest)
        let span := close.since cursor.position
        match close.rest with
        | [] => failWith .nameUnfinished close.here
        | '>' :: _ =>
            match names.find? (·.1 = name) with
            | some (_, earlier) => .error ⟨.nameDuplicate, span, some earlier⟩
            | none => .ok ((name, span) :: names, close.tail)
        | _ => failWith .nameInvalid close.character
      else failWith .nameInvalid cursor.character

/-- Flags up to a position, the last one first; after a dash they are taken back. -/
structure FlagProgress where
  flags : List (Flag × Bool × Span)
  dash : Option Span

/-- Flags and the character behind them, a colon or a closing parenthesis. -/
def readFlags (found : FlagProgress) (cursor : Cursor) : Except Fault (Settings × Cursor) :=
  match h : cursor.rest with
  | [] => failWith .flagUnfinished cursor.here
  | ':' :: _ | ')' :: _ =>
      match found.dash, found.flags with
      | some dash, [] => failWith .flagDanglingNegation dash
      | some dash, (_, true, _) :: _ => failWith .flagDanglingNegation dash
      | _, flags => .ok (flags.reverse.map fun (flag, value, _) => (flag, value), cursor)
  | c :: _ =>
      have := Cursor.length_next_lt h false
      let span := cursor.character
      if c = '-' then
        match found.dash with
        | some dash => .error ⟨.flagRepeatedNegation, span, some dash⟩
        | none => readFlags { found with dash := some span } (cursor.next false)
      else
        match Flag.ofChar? c with
        | none => failWith .flagUnrecognized span
        | some flag =>
            match found.flags.find? (·.1 = flag) with
            | some (_, _, earlier) => .error ⟨.flagDuplicate, span, some earlier⟩
            | none =>
                let flags := (flag, found.dash.isNone, span) :: found.flags
                readFlags { found with flags := flags } (cursor.next false)
termination_by cursor.rest.length

def lookArounds : List (List Char) :=
  [['?', '='], ['?', '!'], ['?', '<', '='], ['?', '<', '!']]

end LensCalibration.Pattern
