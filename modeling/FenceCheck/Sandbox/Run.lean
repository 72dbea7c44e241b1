import FenceCheck.Bundle.Basic
import FenceCheck.Run.Outcome
import FenceCheck.Sandbox.HostLine
import FenceCheck.Source.PageGlobal

/-!
Running a block in a sandbox of its own: a fresh program hosts it, reads the code from its input and
reports in one line. Whatever goes wrong with the bundler or the host is a failing outcome of the
block.
-/

namespace FenceCheck

namespace Sandbox

/-- Milliseconds that the host may take beyond the block's own time. -/
def grace : Int := 2000

def payload (machine : Machine) (config : Config) (block : Block) (runnable : Runnable) :
    Except Failure Json := do
  let directory ← Bundler.directoryOf machine block
  return .object
    [("code", .str runnable.code), ("filename", .str runnable.filename),
     ("timeoutMs", config.timeout.toJson), ("resolveDir", .str directory.toText),
     ("dom", .bool (Source.usesPage block.source)),
     ("allowedModules", .list (config.allowedModules.map .str))]

def launch (machine : Machine) (config : Config) (block : Block) (runnable : Runnable) :
    Except Failure Launch := do
  let directory ← Bundler.directoryOf machine block
  match (config.timeout.addWhole grace).bind Amount.thousandth with
  | none => throw .numberTooLarge
  | some limit =>
      let told ← payload machine config block runnable
      let input ← Failure.showing told.isShowable (Json.write .log told)
      return {
        words := [config.node, machine.hostScript], directory, limit := .real limit, input }

/-- A field of a report as text, empty if it is absent or counts as nothing. -/
def textField (fields : Json.Fields) (name : Text) : Text :=
  match fields.get? name with
  | some value => if value.truthy then (Datum.ofJson value).plain else []
  | none => []

/-- The first text if it is not empty, otherwise the second. -/
def orElse (message fallback : Text) : Text := if message.isEmpty then fallback else message

def ofReport (machine : Machine) (block : Block) (fields : Json.Fields) : Outcome :=
  match fields.get? "success" with
  | some (.bool true) => .pass block (textField fields "output") machine.elapsed
  | _ =>
      .fail block (orElse (Diagnostic.clean (textField fields "error")) "Unknown error")
        machine.elapsed ((fields.get? "timedOut").any Json.truthy)

/-- What a host that has ended says of a block. Numbers in its report were read, and a limit that it was
stopped at has a floating-point form, so all of them are short enough to be told. -/
def ofFinished (machine : Machine) (config : Config) (block : Block) (finished : Finished) :
    Except Failure Outcome :=
  if finished.timedOut then
    .ok (.fail block (Text.ofString "Timed out after " ++ config.timeout.toText ++
      Text.ofString "ms") machine.elapsed true)
  else
    match HostLine.ofOutput finished.output with
    | .error fault => .error (.unreadable [] fault)
    -- A host that reports nothing has died; the best that is known is what it complained of.
    | .ok none =>
        .ok (.fail block
          (orElse (Diagnostic.clean finished.errors)
            (Text.ofString "node exited with code " ++ Text.ofInt finished.code))
          machine.elapsed false)
    | .ok (some fields) => .ok (ofReport machine block fields)

def attempt (machine : Machine) (config : Config) (context : Option Context) (block : Block) :
    Work Outcome := do
  let runnable ← Bundler.prepare machine config context block
  let launch ← Work.ofExcept (launch machine config block runnable)
  let finished ← launch.perform machine context
  Work.ofExcept (ofFinished machine config block finished)

/-- The outcome of a block that could not be bundled or that the operating system would not run. Other
failures are not about the block. -/
def ofFailure (machine : Machine) (block : Block) : Failure → Option Outcome
  | .bundling message => some (.fail block (Diagnostic.clean message) machine.elapsed false)
  | failure =>
      if failure.isRefusal then
        some (.fail block (Text.ofString "node runtime not available: " ++ failure.message)
          machine.elapsed false)
      else none

def logEntry (block : Block) (outcome : Outcome) : Log.Entry :=
  { level := "info", component := "sandbox", action := "run-block"
    fields :=
      [("file", .str block.origin.toText), ("line", .int block.line),
       ("status", .str outcome.status), ("duration_ms", Log.word outcome.duration),
       ("timed_out", .bool outcome.timedOut)] }

def check (machine : Machine) (config : Config) (context : Option Context) (block : Block) :
    Work Outcome := do
  let outcome ← tryCatch (attempt machine config context block) fun failure =>
    match ofFailure machine block failure with
    | some outcome => pure outcome
    | none => throw failure
  Log.event machine context (logEntry block outcome)
  return outcome

end Sandbox

end FenceCheck
