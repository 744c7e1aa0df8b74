/-!
# White space

The characters that separate words in any script, and texts without them at their ends.
-/

namespace LensCalibration.Text

/-- First and last code point of each range of white space, in increasing order. -/
def whiteSpaceRanges : List (Nat × Nat) :=
  [(0x9, 0xd), (0x20, 0x20), (0x85, 0x85), (0xa0, 0xa0), (0x1680, 0x1680), (0x2000, 0x200a),
    (0x2028, 0x2029), (0x202f, 0x202f), (0x205f, 0x205f), (0x3000, 0x3000)]

def isWhiteSpace (c : Char) : Bool :=
  whiteSpaceRanges.any fun range => range.1 ≤ c.toNat && c.toNat ≤ range.2

def trim (text : String) : String :=
  let kept := text.toList.dropWhile isWhiteSpace
  String.ofList (kept.reverse.dropWhile isWhiteSpace).reverse

end LensCalibration.Text
