import LensCalibration.Text.WhiteSpace

/-!
# Cursors

A cursor is a place in a text, and the text from there on.  Patterns may be spaced out: then white
space and comments between their characters mean nothing, and `Cursor.next` passes over them.
-/

namespace LensCalibration.Pattern

open Text

/-- Lines and columns count from one; a column is a character. -/
structure Position where
  line : Nat
  column : Nat
  deriving DecidableEq, Repr

def Position.start : Position := ⟨1, 1⟩

def Position.after (position : Position) (c : Char) : Position :=
  if c = '\n' then ⟨position.line + 1, 1⟩ else ⟨position.line, position.column + 1⟩

/-- A stretch of a text, from its first position to the one behind it. -/
structure Span where
  first : Position
  last : Position
  deriving DecidableEq, Repr

structure Cursor where
  position : Position
  rest : List Char
  deriving DecidableEq, Repr

namespace Cursor

def ofString (text : String) : Cursor := ⟨.start, text.toList⟩

def here (cursor : Cursor) : Span := ⟨cursor.position, cursor.position⟩

def since (cursor : Cursor) (first : Position) : Span := ⟨first, cursor.position⟩

def tail (cursor : Cursor) : Cursor :=
  match cursor.rest with
  | [] => cursor
  | c :: rest => ⟨cursor.position.after c, rest⟩

def character (cursor : Cursor) : Span := cursor.tail.since cursor.position

/-- Pass over white space and comments, which go from `#` to the end of the line. -/
def skipFrom : (inComment : Bool) → Position → List Char → Cursor
  | _, position, [] => ⟨position, []⟩
  | true, position, c :: rest => skipFrom (c ≠ '\n') (position.after c) rest
  | false, position, c :: rest =>
      if c = '#' then skipFrom true (position.after c) rest
      else if isWhiteSpace c then skipFrom false (position.after c) rest
      else ⟨position, c :: rest⟩

def skip (spaced : Bool) (cursor : Cursor) : Cursor :=
  if spaced then skipFrom false cursor.position cursor.rest else cursor

/-- At the next character that means something. -/
def next (spaced : Bool) (cursor : Cursor) : Cursor := cursor.tail.skip spaced

/-- The cursor behind a word, where the text goes on with that. -/
def skipWord? : Cursor → List Char → Option Cursor
  | cursor, [] => some cursor
  | cursor, c :: word =>
      if cursor.rest.head? = some c then cursor.tail.skipWord? word else none

theorem length_skipFrom_le (inComment : Bool) (position : Position) (text : List Char) :
    (skipFrom inComment position text).rest.length ≤ text.length := by
  induction text generalizing inComment position with
  | nil => cases inComment <;> simp [skipFrom]
  | cons c rest ih =>
      cases inComment with
      | true => exact Nat.le_succ_of_le (ih _ _)
      | false =>
          simp only [skipFrom]
          split
          · exact Nat.le_succ_of_le (ih _ _)
          · split
            · exact Nat.le_succ_of_le (ih _ _)
            · exact Nat.le_refl _

theorem length_next_lt {cursor : Cursor} {c : Char} {rest : List Char}
    (h : cursor.rest = c :: rest) (spaced : Bool) :
    (cursor.next spaced).rest.length < cursor.rest.length := by
  have hskip := length_skipFrom_le false (cursor.position.after c) rest
  cases spaced with
  | false => simp [next, tail, skip, h]
  | true => simpa [next, tail, skip, h] using Nat.lt_succ_of_le hskip

def readWhile (spaced : Bool) (kind : Char → Bool) (cursor : Cursor) : List Char × Cursor :=
  match h : cursor.rest with
  | [] => ([], cursor)
  | c :: _ =>
      if kind c then
        have := length_next_lt h spaced
        let (found, behind) := (cursor.next spaced).readWhile spaced kind
        (c :: found, behind)
      else ([], cursor)
termination_by cursor.rest.length

/--
The first character of a text that means something.  Of a comment only the sign that opens it is
passed over, and white space.
-/
def peekFrom? : (inComment : Bool) → List Char → Option Char
  | _, [] => none
  | inComment, c :: rest =>
      if isWhiteSpace c then peekFrom? inComment rest
      else if c = '#' ∧ !inComment then peekFrom? true rest
      else some c

def peek? (spaced : Bool) (cursor : Cursor) : Option Char :=
  let rest := cursor.rest.drop 1
  if spaced then (peekFrom? false rest).or rest.head? else rest.head?

end Cursor

end LensCalibration.Pattern
