import FenceCheck.Failure

/-!
What a run does that can be seen from outside: the programs it starts and the text it prints, in the
order in which they happen. What happened stays on record when work fails.
-/

namespace FenceCheck

inductive Stream where
  | output
  | errors
  deriving DecidableEq, Repr

inductive Event where
  | launched (launch : Launch)
  | printed (stream : Stream) (text : Text)
  deriving DecidableEq, Repr

abbrev Transcript := List Event

namespace Transcript

/-- All that was printed to a stream. -/
def textOn (stream : Stream) (transcript : Transcript) : Text :=
  transcript.flatMap fun
    | .printed s text => if s = stream then text else []
    | .launched _ => []

def launches (transcript : Transcript) : List Launch :=
  transcript.filterMap fun
    | .launched launch => some launch
    | .printed .. => none

end Transcript

/-- Work that is on record and can fail. -/
abbrev Work := ExceptT Failure (StateM Transcript)

namespace Work

def record (events : Transcript) : Work Unit := modify (· ++ events)

def print (stream : Stream) (text : Text) : Work Unit := record [.printed stream text]

/-- Work that does nothing that could be seen. -/
def ofExcept (result : Except Failure α) : Work α := ExceptT.mk (pure result)

/-- The result of work that starts with an empty record, and what it did. -/
def perform (work : Work α) : Except Failure α × Transcript := work.run.run []

end Work

end FenceCheck
