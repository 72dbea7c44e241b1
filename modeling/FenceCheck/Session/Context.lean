import FenceCheck.Failure

/-!
What identifies a run and how it speaks. The identifier is given, set by a variable, or made of the
time and the revision that is checked out.
-/

namespace FenceCheck

inductive OutputFormat where
  | text
  | json
  deriving DecidableEq, Repr

structure Context where
  runId : Text
  directory : Path
  format : OutputFormat
  verbose : Bool
  quiet : Bool
  /-- Whether log lines are JSON objects. -/
  jsonLog : Bool
  inBuildService : Bool
  deriving DecidableEq, Repr

structure Finished where
  code : Int
  output : Text
  errors : Text
  timedOut : Bool
  deriving DecidableEq, Repr

namespace Finished

/-- The exit code that stands for the end of the time. -/
def timeoutCode : Int := 124

/-- What is known of a program once it ended: one that was stopped says so after its own errors. -/
def ofEnding (limit : Amount) : Ending → Except StartFault Finished
  | .exited code output errors => .ok ⟨code, output, errors, false⟩
  | .stopped output errors =>
      .ok { code := timeoutCode, output, timedOut := true
            errors := Text.strip (errors ++ Text.ofString "\ncommand timed out after " ++
              limit.toText ++ Text.ofString "s") }
  | .unstarted fault => .error fault

/-- All that a program printed. -/
def combined (finished : Finished) : Text := Text.strip (finished.output ++ finished.errors)

end Finished

namespace Clock

def twoDigits (n : Nat) : Text := Text.zeroPadded 2 (Text.ofNat n)

/-- Date and time without separators but for one hyphen between them. -/
def stamp (clock : Clock) : Text :=
  Text.ofNat clock.year ++ twoDigits clock.month ++ twoDigits clock.day ++ .char '-' ::
    twoDigits clock.hour ++ twoDigits clock.minute ++ twoDigits clock.second

/-- The time to the millisecond, with its offset from universal time. -/
def toText (clock : Clock) : Text :=
  Text.zeroPadded 4 (Text.ofNat clock.year) ++ .char '-' :: twoDigits clock.month ++
    .char '-' :: twoDigits clock.day ++ .char 'T' :: twoDigits clock.hour ++
    .char ':' :: twoDigits clock.minute ++ .char ':' :: twoDigits clock.second ++
    .char '.' :: Text.zeroPadded 3 (Text.ofNat (clock.microsecond / 1000)) ++
    Text.ofString "+00:00"

end Clock

namespace Context

/-- The revision that is checked out in a directory. -/
def revision (machine : Machine) (directory : Path) : Text :=
  let limit : Amount := 5
  let words : List Text := ["git", "rev-parse", "--short", "HEAD"]
  match Finished.ofEnding limit (machine.launch ⟨words, directory, limit, []⟩) with
  | .ok ⟨0, output, _, _⟩ =>
      match Text.strip output with
      | [] => "unknown"
      | name => name
  | _ => "unknown"

def newRunId (machine : Machine) (directory : Path) (start : Text) : Text :=
  start ++ .char '-' :: machine.clock.stamp ++ .char '-' :: revision machine directory

/-- The context of a run in a directory. An empty identifier counts as none. -/
def make (machine : Machine) (runId : Option Text) (directory : Path) (format : OutputFormat)
    (verbose quiet jsonLog : Bool) : Except Failure Context :=
  match machine.files.resolve? directory with
  | .error error => .error (.file error)
  | .ok directory =>
      let given := (runId.filter (!·.isEmpty)).or (machine.environment.nonEmpty? "RUN_ID")
      .ok
        { runId := given.getD (newRunId machine directory "scribe")
          directory, format, verbose, quiet, jsonLog
          inBuildService := machine.environment.inBuildService }

end Context

end FenceCheck
