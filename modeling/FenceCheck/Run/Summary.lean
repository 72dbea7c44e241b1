import FenceCheck.Number.Amount
import FenceCheck.Run.Outcome

/-!
The figures of a run.
-/

namespace FenceCheck

structure Summary where
  total : Int
  passed : Int
  failed : Int
  outcomes : List Outcome
  items : List Item
  documents : Int
  duration : Int
  target : Option Path
  error : Option Text
  concurrency : Amount
  deriving DecidableEq, Repr

namespace Summary

def isOk (summary : Summary) : Bool := summary.failed = 0

def ofOutcomes (items : List Item) (outcomes : List Outcome) (documents duration : Int)
    (target : Option Path) (concurrency : Amount) : Summary :=
  let passed := outcomes.countP (·.passed)
  { total := outcomes.length, passed, failed := outcomes.length - passed, outcomes, items
    documents, duration, target, error := none, concurrency }

/-- The figures of a run that was given up before it began. It counts as one failure. -/
def aborted (target : Option Path) (error : Text) : Summary :=
  { total := 0, passed := 0, failed := 1, outcomes := [], items := [], documents := 0
    duration := 0, target, error := some error, concurrency := 1 }

def rows (summary : Summary) : List (Item × Outcome) := summary.items.zip summary.outcomes

end Summary

end FenceCheck
