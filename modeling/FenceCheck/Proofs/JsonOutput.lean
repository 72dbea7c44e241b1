import FenceCheck.Proofs.CommandStart
import FenceCheck.Proofs.ConfigFailure
import FenceCheck.Proofs.ErrorStream
import FenceCheck.Proofs.JsonLine
import FenceCheck.Proofs.RunAgreement
import FenceCheck.Proofs.SuiteReading
import FenceCheck.Proofs.SwitchReading

/-!
Output for programs. A command that is asked for JSON prints one line as output or nothing: the report of
a run that ended, or the list of blocks. All else that there is to say goes to the stream of errors, and
a command that fails says all of it there, even where the failure comes after the run.
-/

namespace FenceCheck

namespace Cli

variable {machine : Machine} {screen : Bool} {arguments : Arguments} {context : Context}
  {config : Config} {summary : Summary} {desk last : Desk} {failure : Failure}

/-! The steps of a command. -/

def Desk.output (desk : Desk) : Text := desk.transcript.textOn .output

namespace Command

variable {α β : Type} {command : Command α} {next : α → Command β} {result : Except Failure β}

end Command

/-! What becomes of a request for JSON. -/

/-- How a command that was asked for JSON ends, and what it has printed as output by then. -/
inductive Answers (machine : Machine) (screen : Bool) (arguments : Arguments) (context : Context) :
    Except Failure Int → Text → Prop where
  | failed {failure : Failure} (present : arguments.list = false → ¬ failure.IsMissing) :
      Answers machine screen arguments context (.error failure) []
  | listed {config : Config} {discovery : Discovery} {output : Text} (lists : arguments.list = true)
      (configured : loadConfig machine context arguments = .ok config)
      (found : (Discovery.ofTarget machine config (some context) false
        (Path.ofText arguments.path)).perform.1 = .ok discovery)
      (line : Report.IsLine (listingJson context discovery) output) :
      Answers machine screen arguments context (.ok 0) output
  | reported {summary : Summary} {report : Json} {output : Text} (runs : arguments.list = false)
      (finishes : Finishes machine screen arguments context summary)
      (made : Report.payload context summary = .ok report) (line : Report.IsLine report output) :
      Answers machine screen arguments context (.ok (if summary.isOk then 0 else 1)) output

def page : Machine := Run.hosting HostReport.shortReport

def reader : Context := ⟨"r-1", Sandbox.rootPath, .json, false, false, false, false⟩

def asked : Summary := { Run.hosted HostReport.shortReport with concurrency := .whole 1 }

end Cli

end FenceCheck
