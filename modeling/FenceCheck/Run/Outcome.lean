import FenceCheck.Document.Block

/-!
What a run works on and what comes of it: numbered items, and for each the outcome of its block.
-/

namespace FenceCheck

/-- A block to check, with the name it is shown by and its place among the outcomes. -/
structure Item where
  block : Block
  label : Text
  index : Int
  deriving DecidableEq, Repr, Inhabited

structure Outcome where
  block : Block
  passed : Bool
  output : Text
  error : Option Text
  /-- Milliseconds. -/
  duration : Int
  timedOut : Bool
  deriving DecidableEq, Repr, Inhabited

namespace Outcome

def pass (block : Block) (output : Text) (duration : Int) : Outcome :=
  { block, passed := true, output, error := none, duration, timedOut := false }

def fail (block : Block) (error : Text) (duration : Int) (timedOut : Bool) : Outcome :=
  { block, passed := false, output := [], error := some error, duration, timedOut }

def status (outcome : Outcome) : Text := if outcome.passed then "pass" else "fail"

end Outcome

end FenceCheck
