import FenceCheck.Text.CodePoint

/-!
Lines of a text. `newlineSplit` cuts at line feeds alone and keeps the empty last piece;
`lines` cuts at every boundary that Unicode knows and has no piece after a final boundary;
`universalNewlines` writes the three usual line ends as line feeds.
-/

namespace FenceCheck

namespace Text

/-- The pieces between line feeds: one more than there are line feeds. -/
def newlineSplit (t : Text) : List Text := splitAt (.char '\n') t

/-- `\r\n` and `\r` become `\n`. -/
def universalNewlines : Text → Text
  | [] => []
  | .char '\r' :: .char '\n' :: rest => .char '\n' :: universalNewlines rest
  | c :: rest => (if c = .char '\r' then .char '\n' else c) :: universalNewlines rest

def isLineEnd (c : CodePoint) : Bool :=
  let n := c.val
  (0xA ≤ n && n ≤ 0xD) || (0x1C ≤ n && n ≤ 0x1E) || n == 0x85 || n == 0x2028 || n == 0x2029

def addToFirst (c : CodePoint) : List Text → List Text
  | [] => [[c]]
  | line :: more => (c :: line) :: more

/-- The lines of a text without their ends; `\r\n` is one end. -/
def lines : Text → List Text
  | [] => []
  | .char '\r' :: .char '\n' :: rest => [] :: lines rest
  | c :: rest => if isLineEnd c then [] :: lines rest else addToFirst c (lines rest)

end Text

end FenceCheck
