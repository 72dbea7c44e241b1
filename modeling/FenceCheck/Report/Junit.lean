import FenceCheck.Failure
import FenceCheck.Run.Summary
import FenceCheck.Xml.Element

/-!
The report of a run in the XML form that build services read: one suite with a case for each item.
-/

namespace FenceCheck

namespace Report

def suiteName : Text := "scribectl"

def seconds (duration : Int) : Except Failure Text :=
  match (Amount.whole duration).thousandth with
  | some x => .ok x.sixPlaces
  | none => .error .numberTooLarge

/-- What a case says beside its name and time: the error of a failure, or what a block printed. -/
def caseDetail (outcome : Outcome) : List Xml.Element :=
  if outcome.passed then
    if outcome.output.isEmpty then []
    else [.mk "system-out" [] outcome.output []]
  else
    let message := match outcome.error with
      | none | some [] => Text.ofString "failed"
      | some error => error
    [.mk "failure" [("message", message)] message []]

def testCase (entry : Item × Outcome) : Except Failure Xml.Element := do
  let (item, outcome) := entry
  return .mk "testcase"
    [("classname", suiteName ++ .char '.' :: item.block.origin.stem), ("name", item.label),
     ("time", ← seconds outcome.duration)]
    [] (caseDetail outcome)

def count (n : Int) : Except Failure Text :=
  Failure.showing (Integer.isShort n) (Text.ofInt n)

/-- The failures that are counted. A run that was given up has an error instead. -/
def failures (summary : Summary) : Int := if summary.error.isNone then summary.failed else 0

/-- The suite of a run. -/
def suite (summary : Summary) : Except Failure Xml.Element := do
  let tests ← count summary.total
  let failed ← count (failures summary)
  let time ← seconds summary.duration
  let cases ← summary.rows.mapM testCase
  let errors := (summary.error.map fun error => Xml.Element.mk "error" [("message", error)] error
    []).toList
  return .mk "testsuite"
    [("name", suiteName), ("tests", tests), ("failures", failed),
     ("errors", Text.ofNat errors.length), ("time", time)]
    [] (cases ++ errors)

end Report

end FenceCheck
