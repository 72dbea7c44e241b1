import FenceCheck.Path

/-!
The unit of checking: a fenced block of code with the place it was found at.
-/

namespace FenceCheck

structure Block where
  language : Text
  source : Text
  origin : Path
  /-- The line of the opening fence, counted from one. -/
  line : Int
  info : Text
  deriving DecidableEq, Repr, Inhabited

structure OpenFence where
  origin : Path
  line : Int
  info : Text
  deriving DecidableEq, Repr, Inhabited

structure Extraction where
  blocks : List Block
  unclosed : List OpenFence
  deriving DecidableEq, Repr, Inhabited

namespace Extraction

def empty : Extraction := ⟨[], []⟩

def append (a b : Extraction) : Extraction := ⟨a.blocks ++ b.blocks, a.unclosed ++ b.unclosed⟩

instance : Append Extraction := ⟨append⟩

end Extraction

/-- A place in a document, as `name:line`. The lines of a document are counted, so their numbers are
always short enough to be written. -/
def placeText (name : Text) (line : Int) : Text := name ++ .char ':' :: Text.ofInt line

namespace OpenFence

def message (fence : OpenFence) : Text :=
  Text.ofString "unterminated code fence at " ++ placeText fence.origin.toText fence.line

end OpenFence

end FenceCheck
