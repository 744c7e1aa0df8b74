import LensCalibration.Pattern.Escape

/-!
# Repetitions

The operators that say how often a part of a pattern may occur: least and greatest count, of which
the latter may be missing.
-/

namespace LensCalibration.Pattern

open Text

def countLimit : Nat := 0xffffffff

/-- A count with white space around it, and what is wrong with it. -/
def readCount (spaced : Bool) (cursor : Cursor) : Except Fault Nat × Cursor :=
  let (_, front) := cursor.readWhile false isWhiteSpace
  let (digits, back) := front.readWhile spaced isDigit
  let (_, behind) := back.readWhile spaced isWhiteSpace
  let span := back.since front.position
  let count := numberOf 10 digits
  if digits.isEmpty then (failWith .countEmpty span, behind)
  else if count ≤ countLimit then (.ok count, behind)
  else (failWith .decimalInvalid span, behind)

/-- Whether the most are tried first: not, if a question mark stands behind a repetition. -/
def readGreed (cursor : Cursor) : Bool × Cursor :=
  if cursor.rest.head? = some '?' then (false, cursor.tail) else (true, cursor)

/-- Least and greatest count between braces, at the opening brace. -/
def readCounts (spaced : Bool) (cursor : Cursor) :
    Except Fault (Nat × Option Nat × Cursor) := do
  let first := cursor.position
  let unclosed (last : Cursor) : Except Fault (Nat × Option Nat × Cursor) :=
    failWith .countUnclosed (last.since first)
  let inside := cursor.next spaced
  if inside.rest.isEmpty then unclosed inside
  else
    let (least, behind) := readCount spaced inside
    match behind.rest with
    | [] => unclosed behind
    | ',' :: _ =>
        let second := behind.next spaced
        match second.rest with
        | [] => unclosed second
        | '}' :: _ => return (← least, none, second)
        | _ =>
            let least ← least
            let (most, behind) := readCount spaced second
            return (least, some (← most), behind)
    | _ =>
        let least ← least
        return (least, some least, behind)

def readBraces (spaced : Bool) (cursor : Cursor) : Except Fault (Quantifier × Cursor) := do
  let (least, most, close) ← readCounts spaced cursor
  if close.rest.head? = some '}' then
    let (greedy, behind) := readGreed (close.next spaced)
    if most.all (least ≤ ·) then return (⟨least, most, greedy⟩, behind)
    else failWith .countInvalid (behind.since cursor.position)
  else failWith .countUnclosed (close.since cursor.position)

def readRepetition (spaced : Bool) (operator : Char) (cursor : Cursor) :
    Except Fault (Quantifier × Cursor) :=
  let (greedy, behind) := readGreed cursor.tail
  match operator with
  | '?' => .ok (⟨0, some 1, greedy⟩, behind)
  | '*' => .ok (⟨0, none, greedy⟩, behind)
  | '+' => .ok (⟨1, none, greedy⟩, behind)
  | _ => readBraces spaced cursor

end LensCalibration.Pattern
