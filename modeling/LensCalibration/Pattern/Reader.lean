import LensCalibration.Pattern.Bracket
import LensCalibration.Pattern.Group
import LensCalibration.Pattern.Repetition

/-!
# Reading patterns

`Tree.read` makes the tree of a pattern.  Groups that are still open are kept with what stands
before them, so that reading goes through the text once, from the left to the right.
-/

namespace LensCalibration.Pattern

structure Progress where
  spaced : Bool
  /-- How many groups have a number, and which of them a name. -/
  numbered : Nat
  names : Names
  /-- The groups around the present one, the innermost first. -/
  outer : List OpenGroup
  group : OpenGroup
  cursor : Cursor

namespace Progress

def init (pattern : String) : Progress :=
  ⟨false, 0, [], [], .init none none [] false .start, .ofString pattern⟩

def add (p : Progress) (part : Tree) (cursor : Cursor) : Progress :=
  { p with group := p.group.add part, cursor := cursor }

def enterNumbered (p : Progress) (opening : Span) (names : Names) (cursor : Cursor) : Progress where
  spaced := p.spaced
  numbered := p.numbered + 1
  names := names
  outer := p.group :: p.outer
  group := .init (some opening) (some (p.numbered + 1)) [] p.spaced cursor.position
  cursor := cursor

def enter (p : Progress) (opening : Span) (settings : Settings) (cursor : Cursor) : Progress where
  spaced := (settings.lookup Flag.spaced).getD p.spaced
  numbered := p.numbered
  names := p.names
  outer := p.group :: p.outer
  group := .init (some opening) none settings p.spaced cursor.position
  cursor := cursor

/-- An opening parenthesis: a group, or flags for what follows. -/
def openGroup (p : Progress) : Except Fault Progress :=
  let opening := p.cursor.character
  let inside := p.cursor.next p.spaced
  match lookArounds.findSome? inside.skipWord? with
  | some behind => failWith .lookAround (behind.since opening.first)
  | none =>
      match [['?', 'P', '<'], ['?', '<']].findSome? inside.skipWord? with
      | some name => do
          let (names, behind) ← readName p.names name
          return p.enterNumbered opening names behind
      | none =>
          match inside.skipWord? ['?'] with
          | none => .ok (p.enterNumbered opening p.names inside)
          | some flags =>
              if flags.rest.isEmpty then failWith .groupUnclosed opening
              else do
                let (settings, close) ← readFlags ⟨[], none⟩ flags
                let behind := close.tail
                if close.rest.head? = some ')' then
                  if settings.isEmpty then failWith .repetitionMissing inside.here
                  else
                    let tree := Tree.flags (behind.since opening.first) settings
                    let spaced := (settings.lookup Flag.spaced).getD p.spaced
                    return { p.add tree behind with spaced := spaced }
                else return p.enter opening settings behind

def closeGroup (p : Progress) : Except Fault Progress :=
  match p.group.opening, p.outer with
  | some opening, around :: outer =>
      let behind := p.cursor.tail
      let tree := p.group.close opening p.cursor.position behind.position
      .ok ⟨p.group.spacedAround, p.numbered, p.names, outer, around.add tree, behind⟩
  | _, _ => failWith .groupUnopened p.cursor.character

def repeatLast (p : Progress) (operator : Char) : Except Fault Progress :=
  match p.group.parts with
  | [] => failWith .repetitionMissing p.cursor.here
  | last :: parts =>
      if last.isRepeatable then do
        let (quantifier, behind) ← readRepetition p.spaced operator p.cursor
        let tree := Tree.repetition (behind.since last.span.first) last quantifier
        return { p with group := { p.group with parts := tree :: parts }, cursor := behind }
      else failWith .repetitionMissing p.cursor.here

def step (p : Progress) (c : Char) : Except Fault Progress :=
  match c with
  | '(' => p.openGroup
  | ')' => p.closeGroup
  | '|' =>
      let behind := p.cursor.tail
      let group := p.group.alternate p.cursor.position behind.position
      .ok { p with group := group, cursor := behind }
  | '[' => do
      let (set, behind) ← readBracket p.spaced p.cursor
      return p.add (.set set) behind
  | '?' | '*' | '+' | '{' => p.repeatLast c
  | '\\' => do
      let (tree, behind) ← readEscape p.spaced p.cursor
      return p.add tree behind
  | '.' => .ok (p.add (.dot p.cursor.character) p.cursor.tail)
  | '^' => .ok (p.add (.assertion p.cursor.character .lineStart) p.cursor.tail)
  | '$' => .ok (p.add (.assertion p.cursor.character .lineEnd) p.cursor.tail)
  | c => .ok (p.add (.literal (verbatim p.cursor c)) p.cursor.tail)

def finish (p : Progress) : Except Fault Tree :=
  match p.group.opening with
  | some opening => failWith .groupUnclosed opening
  | none => .ok (p.group.content p.cursor.position)

/-- Read to the end; every step takes a character, so that their number bounds the steps. -/
def run : (fuel : Nat) → Progress → Except Fault Tree
  | 0, p => p.finish
  | fuel + 1, p => do
      let p := { p with cursor := p.cursor.skip p.spaced }
      match p.cursor.rest with
      | [] => p.finish
      | c :: _ => run fuel (← p.step c)

end Progress

/-- The tree of a pattern, of which no part lies too deep. -/
def Tree.read (pattern : String) : Except Fault Tree := do
  let tree ← (Progress.init pattern).run (pattern.length + 1)
  match tree.tooDeep? nestLimit with
  | some span => failWith .nestLimitExceeded span
  | none => return tree

end LensCalibration.Pattern
