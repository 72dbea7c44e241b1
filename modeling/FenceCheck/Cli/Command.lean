import FenceCheck.Cli.Usage
import FenceCheck.Config.Load
import FenceCheck.Report.Junit
import FenceCheck.Report.Payload
import FenceCheck.Run.Basic

/-!
The command: it lists the blocks of a target or runs them, writes the reports that were asked for and
ends with an exit code. Zero says that all blocks passed; other codes tell a failed run from a wrong
command line, a wrong configuration, a report that does not fit its schema and an internal error.
-/

namespace FenceCheck

namespace Cli

/-- What a command works with: the record so far and the files as they are now. -/
structure Desk where
  transcript : Transcript
  files : Files

abbrev Command := ExceptT Failure (StateM Desk)

namespace Command

def ofWork (work : Work α) : Command α := ExceptT.mk do
  let desk ← get
  let (result, transcript) := work.run.run desk.transcript
  set { desk with transcript }
  return result

def ofExcept (result : Except Failure α) : Command α := ofWork (Work.ofExcept result)

def print (stream : Stream) (text : Text) : Command Unit := ofWork (Work.print stream text)

def store (path : Path) (text : Text) : Command Unit := ExceptT.mk do
  let desk ← get
  let (files, result) := desk.files.store path text
  set { desk with files }
  return result

end Command

/-- A field of the configuration that a switch sets. Without a value it is set to an empty list. -/
def fieldOf (name : Text) : Setting Int → Config.Layer
  | .absent => []
  | .void => [(.text name, .list [])]
  | .given n => [(.text name, .int n)]

def overrides (arguments : Arguments) : Config.Layer :=
  fieldOf "timeout_ms" arguments.timeout ++
    fieldOf "concurrency" (if arguments.inBand then .given 1 else arguments.parallel)

def pathOf (argument : Setting Text) : Option Path :=
  (argument.value?.filter (!·.isEmpty)).map Path.ofText

def loadConfig (machine : Machine) (context : Context) (arguments : Arguments) :
    Except Failure Config :=
  Config.load machine.files context.directory (pathOf arguments.config) machine.environment
    (overrides arguments)

def listingJson (context : Context) (discovery : Discovery) : Json :=
  .object
    [("schema_version", .int 1), ("tool", .str "scribectl"), ("kind", .str "block-list"),
     ("run_id", .str context.runId), ("documents", .int discovery.documents.length),
     ("blocks", .list (discovery.items.map fun item => .object
       [("label", .str item.label), ("language", .str item.block.language),
        ("info", .str item.block.info)]))]

def listing (context : Context) (arguments : Arguments) (discovery : Discovery) :
    Except Failure Text :=
  if arguments.json then Report.told Report.outputLine (listingJson context discovery)
  else
    .ok <| discovery.items.flatMap fun item =>
      item.label ++ .char '\t' :: item.block.language ++ [.char '\n']

/-- The console of a command: beside output for programs it speaks on the stream of errors. -/
def console (machine : Machine) (arguments : Arguments) (screen : Bool) : Console :=
  let destination : Console.Destination := if screen && !arguments.json then .screen else .pipe
  .new
    { stream := if arguments.json then .errors else .output
      quiet := arguments.quiet, color := machine.environment.allowColor
      interactive :=
        Console.isInteractive destination machine.environment.inBuildService arguments.verbose }

def writeReports (context : Context) (arguments : Arguments) (summary : Summary) :
    Command Unit := do
  let report := pathOf arguments.report
  let junit := pathOf arguments.junit
  if arguments.json || report.isSome || junit.isSome then
    let payload ← Command.ofExcept (Report.payload context summary)
    if let some path := report then
      let text ← Command.ofExcept (Report.told Report.fileText payload)
      Command.store path text
    if let some path := junit then
      let suite ← Command.ofExcept (Report.suite summary)
      Command.store path suite.write
    if arguments.json then
      let line ← Command.ofExcept (Report.told Report.outputLine payload)
      Command.print .output line

def startEntry (arguments : Arguments) (config : Config) (workers : Amount) : Log.Entry :=
  { level := "info", component := "cli", action := "start"
    fields :=
      [("target", .str (Path.ofText arguments.path).toText), ("config", .str config.source),
       ("concurrency", workers.toJson), ("timeout_ms", config.timeout.toJson)] }

def finishEntry (summary : Summary) : Log.Entry :=
  { level := "info", component := "cli", action := "finish"
    fields :=
      [("total", Log.word summary.total), ("passed", Log.word summary.passed),
       ("failed", Log.word summary.failed), ("duration_ms", Log.word summary.duration)] }

def perform (machine : Machine) (screen : Bool) (arguments : Arguments) (context : Context) :
    Command Int := do
  let log (entry : Log.Entry) : Command Unit :=
    Command.ofWork (Log.event machine (some context) entry)
  let config ← Command.ofExcept (loadConfig machine context arguments)
  let workers := config.workers machine.processors
  let target := Path.ofText arguments.path
  log (startEntry arguments config workers)
  -- Blocks that are only listed are not run, so no report is made of them.
  if arguments.list then
    let discovery ←
      Command.ofWork (Discovery.ofTarget machine config (some context) false target)
    let text ← Command.ofExcept (listing context arguments discovery)
    Command.print .output text
    return 0
  let run := Run.perform machine config (some context)
    (Run.inSandbox machine config (some context)) target workers
  let (summary, _) ← Command.ofWork (run.run (console machine arguments screen))
  writeReports context arguments summary
  log (finishEntry summary)
  return if summary.isOk then 0 else 1

/-- The exit code of a failure and what is said about it. -/
def verdict (failure : Failure) : Int × Text :=
  match failure.userCode? with
  | some code =>
      match failure with
      | .noPath _ => (code, Text.ofString "Error: " ++ failure.message)
      | _ => (code, failure.message)
  | none => (99, Text.ofString "internal error: " ++ failure.message)

structure Completion where
  exitCode : Int
  transcript : Transcript
  files : Files

def complete (machine : Machine) (screen : Bool) (arguments : Arguments) (context : Context) :
    Completion :=
  let (result, desk) := (perform machine screen arguments context).run.run ⟨[], machine.files⟩
  match result with
  | .ok exitCode => ⟨exitCode, desk.transcript, desk.files⟩
  | .error failure =>
      let (code, message) := verdict failure
      let line := Report.errorText arguments.json message code ++ [.char '\n']
      ⟨code, desk.transcript ++ [.printed .errors line], desk.files⟩

def contextOf (machine : Machine) (arguments : Arguments) : Except Failure Context :=
  Context.make machine arguments.runId.value? .here (if arguments.json then .json else .text)
    arguments.verbose arguments.quiet arguments.jsonLog

/-- The command with these words. `screen` says whether its output is a terminal. -/
def run (machine : Machine) (screen : Bool) (words : List Text) : Completion :=
  match parse words with
  | .error halt =>
      ⟨halt.exitCode, [.printed .output halt.output, .printed .errors halt.errors], machine.files⟩
  | .ok arguments =>
      match contextOf machine arguments with
      | .error failure => ⟨1, [.printed .errors (failure.message ++ [.char '\n'])], machine.files⟩
      | .ok context => complete machine screen arguments context

end Cli

end FenceCheck
