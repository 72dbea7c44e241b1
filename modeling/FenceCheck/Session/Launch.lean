import FenceCheck.Session.Log

/-!
Running other programs on record.
-/

namespace FenceCheck

/-- Runs another program and logs that it ended. -/
def Launch.perform (machine : Machine) (context : Option Context) (launch : Launch) :
    Work Finished := do
  Work.record [.launched launch]
  match Finished.ofEnding launch.limit (machine.launch launch) with
  | .error fault => throw (.unstarted fault)
  | .ok finished =>
      Log.event machine context
        { level := "info", component := "process", action := "run-command"
          fields :=
            [("command", .str (launch.words.headD [])), ("cwd", .str launch.directory.toText),
             ("code", Log.word finished.code), ("duration_ms", Log.word machine.elapsed),
             ("timed_out", .bool finished.timedOut)] }
      return finished

end FenceCheck
