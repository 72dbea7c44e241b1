import FenceCheck.Run.Discovery
import FenceCheck.Run.Pool
import FenceCheck.Sandbox.Run

/-!
A run: what a target holds is found, its blocks are executed by a pool of workers, and the console
and the figures tell of it. A target that does not exist gives the run up before it begins.
-/

namespace FenceCheck

abbrev ConsoleWork := StateT Console Work

namespace Console

def tell (call : Call) : ConsoleWork Unit := do
  let reply := (← get).call call
  Work.record (reply.printed.map fun (stream, text) => .printed stream text)
  set reply.console
  match reply.refusal with
  | some failure => throw failure
  | none => return

end Console

namespace Run

/-- What became of executing a block, and what happened meanwhile. -/
abbrev Execution := Except Text Outcome × Transcript

def inSandbox (machine : Machine) (config : Config) (context : Option Context) (block : Block) :
    Execution :=
  let (result, transcript) := (Sandbox.check machine config context block).perform
  (result.mapError Failure.message, transcript)

structure Surroundings where
  console : Console
  transcript : Transcript

namespace Surroundings

def add (surroundings : Surroundings) (events : Transcript) : Surroundings :=
  { surroundings with transcript := surroundings.transcript ++ events }

def call (surroundings : Surroundings) (call : Console.Call) : Surroundings × Bool :=
  let reply := surroundings.console.call call
  ({ surroundings with console := reply.console }.add
    (reply.printed.map fun (stream, text) => .printed stream text), reply.refusal.isNone)

end Surroundings

/-- The crew of a run: the console is told of starts and finishes. -/
def crew (machine : Machine) (context : Option Context) (execute : Block → Execution)
    (items : List Item) : Pool.Crew Surroundings :=
  { items, execute := fun block => (execute block).1, elapsed := machine.elapsed
    tell := fun happening surroundings =>
      match happening with
      | .started claim => surroundings.call (.started claim.item)
      | .executed claim => (surroundings.add (execute claim.item.block).2, true)
      | .finished claim outcome => surroundings.call (.finished claim.item outcome)
    log := fun entry surroundings =>
      surroundings.add (Log.event machine context entry).perform.2 }

/-- The outcomes of the items, in their order, when the workers begin along a schedule. -/
def executeAll (machine : Machine) (context : Option Context) (execute : Block → Execution)
    (schedule : List Nat) (concurrency : Amount) (items : List Item) :
    ConsoleWork (List Outcome) := do
  let (state, result) :=
    (crew machine context execute items).runAlong schedule concurrency ⟨← get, []⟩
  set state.surroundings.console
  Work.record state.surroundings.transcript
  Work.ofExcept result

def conclude (summary : Summary) : ConsoleWork Summary := do
  Console.tell (.summary summary)
  Console.tell .close
  return summary

/-- Has the workers, who begin along a schedule, go through what was discovered. -/
def workAlong (schedule : List Nat) (machine : Machine) (context : Option Context)
    (execute : Block → Execution) (target : Path) (concurrency : Amount) (discovery : Discovery) :
    ConsoleWork Summary := do
  let documents := discovery.documents.length
  if discovery.items.isEmpty then
    Console.tell .noBlocks
    return ← conclude (.ofOutcomes [] [] documents machine.elapsed (some target) concurrency)
  Console.tell (.start discovery.items)
  let outcomes ← executeAll machine context execute schedule concurrency discovery.items
  conclude (.ofOutcomes discovery.items outcomes documents machine.elapsed (some target) concurrency)

/-- The figures of a run over a target in which the workers begin along a schedule. -/
def performAlong (schedule : List Nat) (machine : Machine) (config : Config)
    (context : Option Context) (execute : Block → Execution) (target : Path)
    (concurrency : Amount) : ConsoleWork Summary := do
  if !(← Work.ofExcept ((machine.files.pathExists target).mapError .file)) then
    -- The error is told before the scanning begins, and the run still ends with figures.
    let message := (Failure.noPath target).message
    Console.tell (.error message)
    Console.tell (.scanning false)
    return ← conclude (.aborted (some target) message)
  let isDirectory ← Work.ofExcept ((machine.files.isDirectory target).mapError .file)
  Console.tell (.scanning isDirectory)
  let discovery ← Discovery.ofTarget machine config context true target
  Console.tell (.found discovery.documents.length concurrency)
  workAlong schedule machine context execute target concurrency discovery

def perform (machine : Machine) (config : Config) (context : Option Context)
    (execute : Block → Execution) (target : Path) (concurrency : Amount) :
    ConsoleWork Summary :=
  performAlong [] machine config context execute target concurrency

end Run

end FenceCheck
