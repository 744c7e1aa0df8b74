/-!
# Sets of characters

A set is kept as ranges of code points, in increasing order and with something missing between two
of them.
-/

namespace LensCalibration.Pattern

structure CharSet where
  /-- First and last code point of each range. -/
  ranges : List (Nat × Nat)
  deriving DecidableEq, Repr

namespace CharSet

def empty : CharSet := ⟨[]⟩

def contains (set : CharSet) (code : Nat) : Bool :=
  set.ranges.any fun range => range.1 ≤ code && code ≤ range.2

/-- Put a range among others; those that it touches become one with it. -/
def insertRange (low high : Nat) : List (Nat × Nat) → List (Nat × Nat)
  | [] => [(low, high)]
  | (low', high') :: rest =>
      if high + 1 < low' then (low, high) :: (low', high') :: rest
      else if high' + 1 < low then (low', high') :: insertRange low high rest
      else insertRange (min low low') (max high high') rest

def insert (set : CharSet) (low high : Nat) : CharSet :=
  ⟨insertRange low high set.ranges⟩

def ofRanges (ranges : List (Nat × Nat)) : CharSet :=
  ranges.foldl (fun set range => set.insert range.1 range.2) empty

def ofChar (c : Char) : CharSet := ⟨[(c.toNat, c.toNat)]⟩

def union (a b : CharSet) : CharSet :=
  b.ranges.foldl (fun set range => set.insert range.1 range.2) a

/-- The next code point; surrogates are no characters. -/
def next (code : Nat) : Nat := if code = 0xd7ff then 0xe000 else code + 1

def previous (code : Nat) : Nat := if code = 0xe000 then 0xd7ff else code - 1

/-- The ranges between others, from a code point on and up to the last one. -/
def gaps (last : Nat) : (first : Nat) → List (Nat × Nat) → List (Nat × Nat)
  | first, [] => if first ≤ last then [(first, last)] else []
  | first, (low, high) :: rest =>
      if first < low then (first, previous low) :: gaps last (next high) rest
      else gaps last (next high) rest

/-- Everything up to the last code point that is not in a set. -/
def complement (last : Nat) (set : CharSet) : CharSet :=
  ⟨gaps last 0 set.ranges⟩

def overlap? (a b : Nat × Nat) : Option (Nat × Nat) :=
  if max a.1 b.1 ≤ min a.2 b.2 then some (max a.1 b.1, min a.2 b.2) else none

def inter (a b : CharSet) : CharSet :=
  ⟨a.ranges.flatMap fun range => b.ranges.filterMap (overlap? range)⟩

def isEmpty (set : CharSet) : Bool := set.ranges.isEmpty

def isAscii (set : CharSet) : Bool := set.ranges.all (·.2 < 0x80)

/-- With each of the 26 letters, small or capital, also the other one. -/
def withBothCases (set : CharSet) : CharSet :=
  (List.range 26).foldl (fun both letter =>
    let capital := 'A'.toNat + letter
    let small := 'a'.toNat + letter
    if set.contains capital || set.contains small then
      (both.insert capital capital).insert small small
    else both) set

end CharSet

/-! ## Sets with a name -/

inductive NamedSet where
  | alnum
  | alpha
  | ascii
  | blank
  | cntrl
  | digit
  | graph
  | lower
  | print
  | punct
  | space
  | upper
  | word
  | xdigit
  deriving DecidableEq, Repr

namespace NamedSet

def names : List (String × NamedSet) :=
  [("alnum", alnum), ("alpha", alpha), ("ascii", ascii), ("blank", blank), ("cntrl", cntrl),
    ("digit", digit), ("graph", graph), ("lower", lower), ("print", print), ("punct", punct),
    ("space", space), ("upper", upper), ("word", word), ("xdigit", xdigit)]

def ofName? (name : String) : Option NamedSet :=
  (names.find? (·.1 = name)).map Prod.snd

def ranges : NamedSet → List (Char × Char)
  | alnum => [('0', '9'), ('A', 'Z'), ('a', 'z')]
  | alpha => [('A', 'Z'), ('a', 'z')]
  | ascii => [('\x00', '\x7f')]
  | blank => [('\t', '\t'), (' ', ' ')]
  | cntrl => [('\x00', '\x1f'), ('\x7f', '\x7f')]
  | digit => [('0', '9')]
  | graph => [('!', '~')]
  | lower => [('a', 'z')]
  | print => [(' ', '~')]
  | punct => [('!', '/'), (':', '@'), ('[', '\x60'), ('{', '~')]
  | space => [('\t', '\r'), (' ', ' ')]
  | upper => [('A', 'Z')]
  | word => [('0', '9'), ('A', 'Z'), ('_', '_'), ('a', 'z')]
  | xdigit => [('0', '9'), ('A', 'F'), ('a', 'f')]

def set (name : NamedSet) : CharSet :=
  CharSet.ofRanges (name.ranges.map fun range => (range.1.toNat, range.2.toNat))

end NamedSet

end LensCalibration.Pattern
