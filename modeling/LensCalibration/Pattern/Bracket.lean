import LensCalibration.Pattern.Escape

/-!
# Sets between brackets

Literals, ranges and escapes stand side by side, and other sets between brackets of their own.
Operations on sets bind weaker than that, and are done from left to right.
-/

namespace LensCalibration.Pattern

structure OpenBracket where
  /-- What is shown where the closing bracket is missing. -/
  span : Span
  negated : Bool
  /-- The operation that is under way, with its left side. -/
  pending : Option (SetOperation × SetTree)
  /-- Where the parts begin. -/
  position : Position
  /-- The parts up to here, the last one first. -/
  parts : List SetTree

namespace OpenBracket

def add (bracket : OpenBracket) (part : SetTree) : OpenBracket :=
  { bracket with parts := part :: bracket.parts }

def content (bracket : OpenBracket) : SetTree :=
  let parts := SetTree.ofParts bracket.position bracket.parts.reverse
  match bracket.pending with
  | none => parts
  | some (kind, left) => .operation kind left parts

/-- Go on with the right side of an operation, which begins at a position. -/
def operate (bracket : OpenBracket) (kind : SetOperation) (position : Position) : OpenBracket :=
  { bracket with pending := some (kind, bracket.content), position := position, parts := [] }

def close (bracket : OpenBracket) (last : Position) : SetTree :=
  .bracket ⟨bracket.span.first, last⟩ bracket.negated bracket.content

end OpenBracket

/-! ## Parts -/

def asLiteral : Tree → Except Fault Literal
  | .literal x => .ok x
  | tree => failWith .rangeNotLiteral tree.span

def asPart : Tree → Except Fault SetTree
  | .literal x => .ok (.literal x)
  | .set x => .ok x
  | tree => failWith .setEscapeInvalid tree.span

def verbatim (cursor : Cursor) (c : Char) : Literal := ⟨cursor.character, c, false⟩

def readSetItem (spaced : Bool) (c : Char) (cursor : Cursor) : Except Fault (Tree × Cursor) :=
  if c = '\\' then readEscape spaced cursor
  else .ok (.literal (verbatim cursor c), cursor.tail)

def readSetPart (spaced : Bool) (bracket : Span) (c : Char) (cursor : Cursor) :
    Except Fault (SetTree × Cursor) := do
  let (item, behind) ← readSetItem spaced c cursor
  let dash := behind.skip spaced
  match dash.rest with
  | [] => failWith .setUnclosed bracket
  | d :: _ =>
      let following := dash.peek? spaced
      if d ≠ '-' ∨ following = some ']' ∨ following = some '-' then
        return (← asPart item, dash)
      else
        let second := dash.next spaced
        match second.rest with
        | [] => failWith .setUnclosed bracket
        | e :: _ =>
            let (last, behind) ← readSetItem spaced e second
            let first ← asLiteral item
            let last ← asLiteral last
            let range := SetTree.range first last
            if first.char ≤ last.char then return (range, behind)
            else failWith .rangeInvalid range.span

def readNamedSet? (cursor : Cursor) : Option (SetTree × Cursor) := do
  let inside ← cursor.skipWord? ['[', ':']
  let negated := inside.rest.head? = some '^'
  let (name, colon) := (if negated then inside.tail else inside).readWhile false (· ≠ ':')
  let close ← colon.skipWord? [':', ']']
  let name ← NamedSet.ofName? (String.ofList name)
  return (.named (close.since cursor.position) negated name, close)

/-! ## Brackets -/

/-- Dashes at the front of a set stand for themselves. -/
def readDashes (spaced : Bool) (cursor : Cursor) : List SetTree × Cursor :=
  match h : cursor.rest with
  | '-' :: _ =>
      have := Cursor.length_next_lt h spaced
      let (dashes, behind) := readDashes spaced (cursor.next spaced)
      (.literal (verbatim cursor '-') :: dashes, behind)
  | _ => ([], cursor)
termination_by cursor.rest.length

/-- The front of a set: whether it is negated, dashes, and a closing bracket that is a part. -/
def readOpening (spaced : Bool) (cursor : Cursor) : Except Fault (OpenBracket × Cursor) := do
  let first := cursor.position
  let inside := cursor.next spaced
  let negated := inside.rest.head? = some '^'
  let front := if negated then inside.next spaced else inside
  if front.rest.isEmpty then failWith .setUnclosed (front.since first)
  else
    let (dashes, behind) := readDashes spaced front
    if behind.rest.isEmpty then failWith .setUnclosed ⟨first, first⟩
    else if dashes.isEmpty ∧ behind.rest.head? = some ']' then
      let after := behind.next spaced
      let part := SetTree.literal (verbatim behind ']')
      if after.rest.isEmpty then failWith .setUnclosed (after.since first)
      else return (⟨after.since first, negated, none, front.position, [part]⟩, after)
    else return (⟨behind.since first, negated, none, front.position, dashes.reverse⟩, behind)

def operationAt? (cursor : Cursor) : Option (SetOperation × Cursor) :=
  [(['&', '&'], SetOperation.intersection), (['-', '-'], .difference),
    (['~', '~'], .symmetricDifference)].findSome? fun (word, kind) =>
      (cursor.skipWord? word).map fun behind => (kind, behind)

/--
Read up to the bracket that closes the outermost set; `outer` holds the sets around the one that is
being read.  Every step takes a character, so that their number bounds the steps.
-/
def readInside (spaced : Bool) : (fuel : Nat) → (outer : List OpenBracket) → OpenBracket →
    Cursor → Except Fault (SetTree × Cursor)
  | 0, _, bracket, _ => failWith .setUnclosed bracket.span
  | fuel + 1, outer, bracket, cursor => do
      let cursor := cursor.skip spaced
      match cursor.rest with
      | [] => failWith .setUnclosed bracket.span
      | '[' :: _ =>
          match readNamedSet? cursor with
          | some (part, behind) => readInside spaced fuel outer (bracket.add part) behind
          | none =>
              let (inner, behind) ← readOpening spaced cursor
              readInside spaced fuel (bracket :: outer) inner behind
      | ']' :: _ =>
          let behind := cursor.tail
          let set := bracket.close behind.position
          match outer with
          | [] => return (set, behind)
          | around :: outer => readInside spaced fuel outer (around.add set) behind
      | c :: _ =>
          match operationAt? cursor with
          | some (kind, behind) =>
              readInside spaced fuel outer (bracket.operate kind behind.position) behind
          | none =>
              let (part, behind) ← readSetPart spaced bracket.span c cursor
              readInside spaced fuel outer (bracket.add part) behind

def readBracket (spaced : Bool) (cursor : Cursor) : Except Fault (SetTree × Cursor) := do
  let (bracket, behind) ← readOpening spaced cursor
  readInside spaced (behind.rest.length + 1) [] bracket behind

end LensCalibration.Pattern
