import FenceCheck.Text.CodePoint

/-!
Blank code points: the white space of Unicode together with the four information separators.
-/

namespace FenceCheck

namespace CodePoint

def blankRanges : List (Nat × Nat) :=
  [(0x9, 0xD), (0x1C, 0x20), (0x85, 0x85), (0xA0, 0xA0), (0x1680, 0x1680), (0x2000, 0x200A),
   (0x2028, 0x2029), (0x202F, 0x202F), (0x205F, 0x205F), (0x3000, 0x3000)]

def inRanges (ranges : List (Nat × Nat)) (n : Nat) : Bool :=
  ranges.any fun range => range.1 ≤ n && n ≤ range.2

def isBlank (c : CodePoint) : Bool := inRanges blankRanges c.val

end CodePoint

namespace Text

def stripStart (t : Text) : Text := t.dropWhile CodePoint.isBlank

def dropEndWhile (p : CodePoint → Bool) (t : Text) : Text := (t.reverse.dropWhile p).reverse

def stripEnd (t : Text) : Text := dropEndWhile CodePoint.isBlank t

def strip (t : Text) : Text := stripEnd (stripStart t)

end Text

end FenceCheck
