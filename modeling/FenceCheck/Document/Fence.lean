import FenceCheck.Document.Block
import FenceCheck.Text.Line
import FenceCheck.Text.LowerCase
import FenceCheck.Text.Word

/-!
Fences in a document. Every line that starts with three backticks is a fence; fences open and close
in turn, and the lines between an opening fence and the next one are a block. Indented fences and
fences of other characters are prose.
-/

namespace FenceCheck

namespace Fence

def mark : Text := List.replicate 3 (.char '\x60')

def isFence (line : Text) : Bool := mark.isPrefixOf line

/-- The language of an opening fence: the word behind the backticks, in lower case. -/
def language (line : Text) : Text :=
  match (line.drop 3).takeWhile CodePoint.isAsciiWord with
  | [] => "text"
  | word => Text.lower word

def info (line : Text) : Text :=
  Text.strip ((line.drop 3).dropWhile CodePoint.isAsciiWord)

/-- The lines of a block, each with a line feed. -/
def sourceOf (body : List Text) : Text := body.flatMap (· ++ [.char '\n'])

def trimmed (line : Text) : Text := Text.dropEndWhile (· = .char '\r') line

structure Opening where
  line : Nat
  text : Text
  body : List Text
  deriving DecidableEq, Repr

def Opening.toBlock (opening : Opening) (origin : Path) : Block :=
  { language := language opening.text, source := sourceOf opening.body, origin
    line := opening.line, info := info opening.text }

def Opening.toOpenFence (opening : Opening) (origin : Path) : OpenFence :=
  { origin, line := opening.line, info := info opening.text }

/-- The blocks of lines that are numbered from `number`. -/
def extractLines (origin : Path) (number : Nat) : Option Opening → List Text → Extraction
  | none, [] => .empty
  | some opening, [] => ⟨[], [opening.toOpenFence origin]⟩
  | none, line :: rest =>
      if isFence line then extractLines origin (number + 1) (some ⟨number, trimmed line, []⟩) rest
      else extractLines origin (number + 1) none rest
  | some opening, line :: rest =>
      if isFence line then
        ⟨[opening.toBlock origin], []⟩ ++ extractLines origin (number + 1) none rest
      else
        extractLines origin (number + 1) (some { opening with body := opening.body ++ [line] }) rest

end Fence

def Extraction.ofText (origin : Path) (t : Text) : Extraction :=
  Fence.extractLines origin 1 none (Text.newlineSplit t)

end FenceCheck
