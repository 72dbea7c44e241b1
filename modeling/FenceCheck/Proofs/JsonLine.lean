import FenceCheck.Cli.Command
import FenceCheck.Proofs.ReportFile

/-!
A report on one line. JSON that is not spread over lines has no control character, so a value stands on
the line that it is written to, and a reader takes it from there.
-/

namespace FenceCheck

namespace Report

/-- Output for programs: a JSON object on a line, which a reader takes from it. -/
structure IsLine (value : Json) (output : Text) : Prop where
  object : ∃ fields, value = .object fields
  written : output = outputLine value
  single : ∃ line, output = line ++ [.char '\n'] ∧ ∀ c ∈ line, c.IsVisible
  read : Json.read output = .ok value.inOrder

end Report

end FenceCheck
