import LensCalibration.Pattern.CharSet

/-!
# Encodings of ranges

A character is written as one to four bytes.  A range of characters is cut into pieces of which
each is written with the bytes of one range, followed by those of another, and so on.
-/

namespace LensCalibration.Pattern

/-- The first and the last of some bytes. -/
abbrev ByteRange := UInt8 × UInt8

/-- A range for each byte of a character, the first byte first. -/
abbrev Encoding := List ByteRange

def bytesOf (c : Char) : List UInt8 := String.utf8EncodeChar c

/-- A range in two, the second of which begins at a code point, if it is in the midst of it. -/
def cutAt (start : Nat) (range : Nat × Nat) : List (Nat × Nat) :=
  if range.1 < start ∧ start ≤ range.2 then [(range.1, start - 1), (start, range.2)]
  else [range]

/-- Surrogates are no characters. -/
def withoutSurrogates (range : Nat × Nat) : List (Nat × Nat) :=
  [(range.1, min range.2 0xd7ff), (max range.1 0xe000, range.2)].filter fun piece =>
    piece.1 ≤ piece.2

/-- Cut off what does not fill a block of so many code points, at either end of a range. -/
def cutBlocks (size : Nat) (range : Nat × Nat) : List (Nat × Nat) :=
  let pieces :=
    if range.1 % size = 0 then [range] else cutAt ((range.1 / size + 1) * size) range
  pieces.flatMap fun piece =>
    if (piece.2 + 1) % size = 0 then [piece] else cutAt (piece.2 / size * size) piece

/-- The pieces of a range of characters with as many bytes, more than one. -/
def alignedPieces (range : Nat × Nat) : List (Nat × Nat) :=
  [0x40, 0x1000, 0x40000].foldl (fun pieces size => pieces.flatMap (cutBlocks size)) [range]

def encodingsOf (range : Nat × Nat) : List Encoding :=
  let lengths := [0x80, 0x800, 0x10000].foldl
    (fun pieces start => pieces.flatMap (cutAt start)) (withoutSurrogates range)
  let pieces := lengths.flatMap fun piece =>
    if piece.2 < 0x80 then [piece] else alignedPieces piece
  pieces.map fun piece => (bytesOf (Char.ofNat piece.1)).zip (bytesOf (Char.ofNat piece.2))

def CharSet.encodings (set : CharSet) : List Encoding :=
  set.ranges.flatMap encodingsOf

/-- Encodings without their first bytes, together with their neighbours of the same first bytes. -/
def byLead : List Encoding → List (ByteRange × List Encoding)
  | [] => []
  | [] :: rest => byLead rest
  | (lead :: tail) :: rest =>
      match byLead rest with
      | (lead', tails) :: groups =>
          if lead = lead' then (lead, tail :: tails) :: groups
          else (lead, [tail]) :: (lead', tails) :: groups
      | [] => [(lead, [tail])]

end LensCalibration.Pattern
