import FenceCheck.Console.Basic
import FenceCheck.Diagnostic

/-!
What a console is told in the course of a run, and what it does then. A call that does not fit the
run's or an item's course is refused.
-/

namespace FenceCheck

namespace Console

inductive Call where
  | scanning (directory : Bool)
  | found (documents : Int) (workers : Amount)
  | warning (message : Text)
  | error (message : Text)
  | noBlocks
  | start (items : List Item)
  | started (item : Item)
  | finished (item : Item) (outcome : Outcome)
  | tick
  | summary (summary : Summary)
  | close

/-- Whether a run has a line of totals: one that was given up or had nothing to do has none. -/
def hasTotals (summary : Summary) : Bool := summary.error.isNone && 0 < summary.total

namespace Call

/-- The numbers in what is written of a call. -/
def numbers : Call → List Json
  | .found documents workers => [.int documents, workers.toJson]
  | .summary run => if hasTotals run then [.int run.passed, .int run.total] else []
  | _ => []

def isTold (call : Call) : Bool := call.numbers.all Json.isShowable

/-- A line of a call is written as a whole, or not at all where a number in it cannot be. -/
def told (call : Call) (line : Text) : Text := if call.isTold then line else []

def untold? (call : Call) : Option Failure :=
  if call.isTold then none else some (.scalar .hugeInteger)

end Call

/-- The console after a call, what it printed, and why it refused the call if it did. -/
structure Reply where
  console : Console
  printed : List (Stream × Text)
  refusal : Option Failure

namespace Reply

def accept (console : Console) (printed : List (Stream × Text)) : Reply :=
  ⟨console, printed, none⟩

def write (console : Console) (text : Text) : Reply :=
  accept console (if text.isEmpty then [] else [(console.style.stream, text)])

def refuse (console : Console) (failure : Failure) : Reply := ⟨console, [], some failure⟩

/-- What is written of a call behind another text. The call has taken effect by then, also where its
line cannot be written. -/
def tell (console : Console) (call : Call) (before line : Text) : Reply :=
  { write console (before ++ call.told line) with refusal := call.untold? }

end Reply

def advance (console : Console) (next : Lifecycle) : Except Failure Console :=
  if console.lifecycle.mayBecome next then .ok { console with lifecycle := next }
  else .error (.lifecycle console.lifecycle.name next.name)

/-- A step of an item, if it is where the step begins. -/
def moveItem (console : Console) (index : Int) (source next : Progress) :
    Except Failure Console :=
  if console.progress.lookup index = some source then
    .ok { console with progress := console.progress.put index next }
  else
    let current : Text :=
      match console.progress.lookup index with
      | some progress => progress.name
      | none => "unknown"
    .error (.ofItemOrder index current next.name)

def queue (items : List Item) : Indexed Progress :=
  items.foldl (fun entries item => entries.put item.index .queued) []

/-- The permanent lines about an item that finished: of a passed one a line unless the console is
quiet, of a failed one always, followed by what its error means. -/
def finishedLines (style : ConsoleStyle) (item : Item) (outcome : Outcome) : Text :=
  if outcome.passed then
    if style.quiet then []
    else paint style .green "✓" ++ .char ' ' :: item.label ++ [.char '\n']
  else
    paint style .red "✗" ++ .char ' ' :: item.label ++ .char '\n' ::
      match Diagnostic.clean (outcome.error.getD []) with
      | [] => []
      | error => Text.ofString "  " ++ paint style .gray error ++ [.char '\n']

def totalsLine (style : ConsoleStyle) (summary : Summary) : Text :=
  if hasTotals summary then
    .char '\n' ::
      paint style (if 0 < summary.failed then .red else .green)
        (Text.ofString "Results: " ++ Text.ofInt summary.passed ++ .char '/' ::
          Text.ofInt summary.total ++ Text.ofString " passed") ++ [.char '\n']
  else []

def foundLine (documents : Int) (workers : Amount) : Text :=
  Text.ofString "Found " ++ Text.ofInt documents ++ Text.ofString " markdown file(s) (" ++
    workers.toText ++ Text.ofString " workers)\n\n"

def warningLine (message : Text) : Text :=
  Text.ofString "warning: " ++ message ++ [.char '\n']

def errorLine (message : Text) : Text := Text.ofString "Error: " ++ message ++ [.char '\n']

def itemStarted (console : Console) (item : Item) : Reply :=
  match console.moveItem item.index .queued .running with
  | .error failure => .refuse console failure
  | .ok moved =>
      let flying := { moved with inFlight := moved.inFlight.put item.index item.label }
      if console.style.interactive then
        match flying.redraw with
        | (drawn, text) => .write drawn text
      else .accept flying []

def itemFinished (console : Console) (item : Item) (outcome : Outcome) : Reply :=
  match console.moveItem item.index .running (if outcome.passed then .passed else .failed) with
  | .error failure => .refuse console failure
  | .ok moved =>
      let landed := { moved with inFlight := moved.inFlight.remove item.index }
      let lines := finishedLines console.style item outcome
      if console.style.interactive then
        let (erased, erasing) := landed.erase
        let (drawn, drawing) := erased.draw
        .write drawn (erasing ++ lines ++ drawing)
      else .write landed lines

/-- The end of the run's work. The live region is closed first, whether the call is refused or not. -/
def summarize (console : Console) (summary : Summary) : Reply :=
  let (closed, closing) := if console.style.interactive then console.closeLive else (console, [])
  match closed.advance .summarized with
  | .error failure => { Reply.write closed closing with refusal := some failure }
  | .ok done => .tell done (.summary summary) closing (totalsLine console.style summary)

def call (console : Console) : Call → Reply
  | .scanning directory =>
      match console.advance .scanning with
      | .error failure => .refuse console failure
      | .ok console =>
          .write console (if directory then "Scanning for markdown files...\n" else [])
  | .found documents workers =>
      .tell console (.found documents workers) [] (foundLine documents workers)
  | .warning message => .accept console [(.errors, warningLine message)]
  | .error message => .accept console [(.errors, errorLine message)]
  | .noBlocks => .write console "No testable code blocks found.\n"
  | .start items =>
      match console.advance .running with
      | .error failure => .refuse console failure
      | .ok console => .accept { console with progress := queue items } []
  | .started item => console.itemStarted item
  | .finished item outcome => console.itemFinished item outcome
  | .tick =>
      let next := { console with frame := console.frame + 1 }
      -- Without items in flight a tick only counts.
      if next.inFlight.isEmpty then .accept next []
      else
        match next.redraw with
        | (drawn, text) => .write drawn text
  | .summary summary => console.summarize summary
  | .close =>
      match console.advance .done with
      | .error failure => .refuse console failure
      | .ok console => .accept console []

inductive Destination where
  | screen
  | pipe
  | unknown
  deriving DecidableEq, Repr

/-- Whether a console shows a live region: on a screen, outside a build service, and without a log
between its lines. -/
def isInteractive (destination : Destination) (inBuildService verbose : Bool) : Bool :=
  destination = .screen && !inBuildService && !verbose

end Console

end FenceCheck
