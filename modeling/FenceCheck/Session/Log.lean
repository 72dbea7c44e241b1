import FenceCheck.Datum.Shown
import FenceCheck.Session.Context
import FenceCheck.Session.Transcript

/-!
The structured log: one line an event, either `key=value` pairs or a JSON object. The fields of an
event follow its base keys in the order of their names; in JSON they replace base keys of their name.
-/

namespace FenceCheck

namespace Log

/-- An event that is logged. -/
structure Entry where
  level : Text
  component : Text
  action : Text
  fields : Json.Fields

/-- Whether the values of an event's fields can be written. -/
def Entry.isTold (entry : Entry) : Bool := entry.fields.all (·.2.isShowable)

/-- A number that the program has counted or measured itself, which is a machine word. -/
def word (n : Int) : Json := .int (Int64.ofInt n).toInt

/-- The keys that every event has. -/
def baseFields (context : Context) (clock : Clock) (entry : Entry) : Json.Fields :=
  [("ts", .str clock.toText), ("level", .str entry.level), ("run_id", .str context.runId),
   ("component", .str entry.component), ("action", .str entry.action)]

def pair (field : Text × Json) : Text :=
  field.1 ++ .char '=' :: (Datum.ofJson field.2).plain

/-- The event as pairs. A field may set the time. -/
def pairsLine (context : Context) (clock : Clock) (entry : Entry) : Text :=
  let base := baseFields context clock entry
  let time := entry.fields.filter fun field => field.1 = Text.ofString "ts"
  let extra := (Json.sortedByName entry.fields).map pair
  Text.join " " (((time ++ base).take 1 ++ base.drop 1).map pair ++ extra)

/-- The event as a JSON object. -/
def jsonLine (context : Context) (clock : Clock) (entry : Entry) : Text :=
  Json.write .log
    (.object (Json.Fields.ofMembers (baseFields context clock entry ++ entry.fields)))

def line (context : Context) (clock : Clock) (entry : Entry) : Text :=
  (if context.jsonLog then jsonLine context clock entry else pairsLine context clock entry) ++
    [.char '\n']

/-- What is written of an event: its line, unless a number in it has too many digits. How deep a value
may be nested depends on the stack of a run and has no limit here. -/
def written (context : Context) (clock : Clock) (entry : Entry) : Except Failure Text :=
  Failure.showing entry.isTold (line context clock entry)

/-- Logs an event, where a run asks for it. -/
def event (machine : Machine) (context : Option Context) (entry : Entry) : Work Unit :=
  match context with
  | some context =>
      if context.verbose then do
        let line ← Work.ofExcept (written context machine.clock entry)
        Work.print .errors line
      else pure ()
  | none => pure ()

end Log

end FenceCheck
