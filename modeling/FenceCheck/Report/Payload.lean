import FenceCheck.Files.Content
import FenceCheck.Run.Summary
import FenceCheck.Session.Context

/-!
The report of a run for programs: a JSON value that fits the schema of run reports.
-/

namespace FenceCheck

namespace Report

def status (summary : Summary) : Text :=
  if summary.error.isSome then "error" else if summary.isOk then "pass" else "fail"

def row (entry : Item × Outcome) : Json :=
  let (item, outcome) := entry
  .object
    [("index", .int item.index), ("label", .str item.label),
     ("file", .str item.block.origin.toText), ("line", .int item.block.line),
     ("language", .str item.block.language), ("status", .str outcome.status),
     ("duration_ms", .int outcome.duration), ("timed_out", .bool outcome.timedOut),
     ("output", .str outcome.output), ("error", .ofOption .str outcome.error)]

def totals (summary : Summary) : Json :=
  .object
    [("total", .int summary.total), ("passed", .int summary.passed),
     ("failed", .int summary.failed), ("documents", .int summary.documents),
     ("duration_ms", .int summary.duration)]

/-- The number of workers, at least one. -/
def workers (concurrency : Amount) : Amount := if concurrency.isAbove 1 then concurrency else 1

def content (context : Context) (summary : Summary) : Json :=
  .object
    ([(Text.ofString "schema_name", .str Contract.runReport.name), ("schema_version", .int 1),
      ("tool", .str "scribectl"), ("kind", .str "run-report"), ("run_id", .str context.runId),
      ("status", .str (status summary)),
      ("target", .str ((summary.target.map Path.toText).getD [])),
      ("concurrency", (workers summary.concurrency).toJson), ("summary", totals summary),
      ("results", .list (summary.rows.map row))] ++
      (summary.error.map fun error => (Text.ofString "error", Json.str error)).toList)

/-- The report of a run, which has to fit its schema. -/
def payload (context : Context) (summary : Summary) : Except Failure Json :=
  let report := content context summary
  match Contract.runReport.check (.ofJson report) with
  | .ok () => .ok report
  | .error error => .error (.ofContract error)

def fileText (report : Json) : Text := Json.write .spread report ++ [.char '\n']

def outputLine (report : Json) : Text := Json.write .compact report ++ [.char '\n']

/-- A text made of a report, whose numbers must have few enough digits to be written. -/
def told (text : Json → Text) (report : Json) : Except Failure Text :=
  Failure.showing report.isShowable (text report)

/-- What a command says about a failure: a message, or an object where output is for programs. -/
def errorText (asJson : Bool) (message : Text) (code : Int) : Text :=
  if asJson then
    Json.write .compact
      (.object
        [("schema_name", .str "scribe.error.v1"), ("schema_version", .int 1),
         ("tool", .str "scribectl"), ("status", .str "error"),
         ("errors", .list [.object [("code", .int code), ("message", .str message)]])])
  else message

end Report

end FenceCheck
