import FenceCheck.Document.Block
import FenceCheck.Text.LowerCase
import FenceCheck.Text.Pattern

/-!
Which blocks are checked: those in one of the languages asked for whose info does not hold the
opt-out marker as a word of its own. A hyphen belongs to a word here.
-/

namespace FenceCheck

namespace Selection

def defaultLanguages : List Text := ["typescript", "ts", "javascript", "js"]

def defaultMarker : Text := "nocheck"

def isMarkerChar (c : CodePoint) : Bool := c.isWord || c = .char '-'

def standing (marker : Text) : Pattern :=
  .sequence [.notAfter isMarkerChar, .literal marker, .notBefore isMarkerChar]

/-- Whether the marker stands in an info with no word character or hyphen next to it. -/
def optedOut (info marker : Text) : Bool := (standing marker).occursIn info

def admits (languages : List Text) (marker : Text) (block : Block) : Bool :=
  (languages.map Text.lower).contains (Text.lower block.language) && !optedOut block.info marker

def select (languages : List Text) (marker : Text) (blocks : List Block) : List Block :=
  blocks.filter (admits languages marker)

end Selection

end FenceCheck
