import FenceCheck.Files.Change
import FenceCheck.Machine.Program
import FenceCheck.Shell.Arithmetic
import FenceCheck.Shell.Format
import FenceCheck.Shell.Script

/-!
A running program: its files, variables and streams, the time it has left, and how it ends. What
programs have in common is here: they read, print, complain and let time pass.
-/

namespace FenceCheck

namespace Shell

/-- How a program ends, or why a part of a script does: with a code, with a complaint after which a
shell does not go on, by a signal, because its time is up, by a return from a function, or by leaving
loops or going on with their next round. -/
inductive Halt where
  | exited (code : Nat)
  | gaveUp
  | killed (signal : Nat)
  | timeUp
  | returned (code : Nat)
  | left (loops : Nat)
  | resumed (loops : Nat)
  deriving DecidableEq, Repr

inductive Sink where
  | output
  | errors
  /-- What another part of the script takes up. -/
  | held (level : Nat)
  | nowhere
  | file (place : List Text)
  deriving DecidableEq, Repr

structure Process where
  files : Files
  environment : Variables
  exported : List Text
  fixed : List Text
  /-- Inside a function, the variables that it keeps to itself, as they were around it. -/
  hidden : Option (List (Text × Option Text))
  functions : List (Text × Script)
  name : Text
  /-- The shell's own command that is carried out, by which complaints are introduced. -/
  speaker : Option Text
  arguments : List Text
  status : Nat
  answer : Nat
  careful : Bool
  traced : Bool
  literal : Bool
  strict : Bool
  /-- Whether the result of a command is a condition, so that it may fail. -/
  guarded : Bool
  loops : Nat
  /-- Whether a command in the background goes on past the limit of time. -/
  lingers : Bool
  /-- What is run at a signal; nothing if it is ignored. Zero stands for the end of the shell. -/
  traps : List (Nat × Text)
  /-- Whether this is a part of a shell that waits for it. -/
  isPart : Bool
  /-- A signal that a part sent to the whole shell. -/
  struck : Option Nat
  line : Nat
  input : List UInt8
  output : List UInt8
  errors : List UInt8
  held : List (List UInt8)
  /-- Where the streams lead; one that is not there is closed. -/
  sinks : List (Nat × Sink)
  /-- Microseconds, without limit if absent. -/
  remaining : Option Nat

namespace Process

def start (files : Files) (environment : Variables) (input : List UInt8)
    (remaining : Option Nat) : Process :=
  { files, environment, exported := environment.map (·.1), fixed := [], hidden := none
    functions := [], name := [], speaker := none, arguments := [], status := 0, answer := 0
    careful := false, traced := false, literal := false, strict := false, guarded := false
    loops := 0, lingers := false, traps := [], isPart := false, struck := none, line := 1, input
    output := [], errors := [], held := [], sinks := [(1, .output), (2, .errors)], remaining }

def sink (process : Process) (stream : Nat) : Sink :=
  (process.sinks.lookup stream).getD .nowhere

/-- The blanks and marks that separate the words of a value. -/
def separators (process : Process) : Text :=
  (process.environment.lookup (Text.ofString "IFS")).getD " \t\n"

def shared (process : Process) : Variables :=
  process.environment.filter fun entry => process.exported.contains entry.1

end Process

abbrev Action := ExceptT Halt (StateM Process)

namespace Action

def append (sink : Sink) (bytes : List UInt8) (process : Process) : Process :=
  match sink with
  | .output => { process with output := process.output ++ bytes }
  | .errors => { process with errors := process.errors ++ bytes }
  | .held level =>
      let place := process.held.length - 1 - level
      { process with held := process.held.modify place (· ++ bytes) }
  | .nowhere => process
  | .file place =>
      match process.files.root.at? place with
      | some (.file old _) =>
          match process.files.put place (old ++ bytes) with
          | .ok files => { process with files }
          | .error _ => process
      | _ => process

def print (bytes : List UInt8) : Action Unit :=
  modify fun process => append (process.sink 1) bytes process

def printLine (t : Text) : Action Unit := print (bytesOf (t ++ [.char '\n']))

def complain (t : Text) : Action Unit :=
  modify fun process => append (process.sink 2) (bytesOf (t ++ [.char '\n'])) process

/-- A complaint of the shell, which names the script, the line and the shell's own command. -/
def shellComplain (t : Text) : Action Unit := do
  let process ← get
  let speaker := match process.speaker with
    | some name => name ++ Text.ofString ": "
    | none => []
  complain (process.name ++ Text.ofString ": " ++ Text.ofNat process.line ++
    Text.ofString ": " ++ speaker ++ t)

def giveUp (t : Text) : Action α := do
  shellComplain t
  throw .gaveUp

def setStatus (status : Nat) : Action Unit := modify fun process => { process with status }

def withVariable : Variables → Text → Text → Variables
  | [], name, value => [(name, value)]
  | entry :: rest, name, value =>
      if entry.1 = name then (name, value) :: rest else entry :: withVariable rest name value

/-- Sets a variable, unless it cannot be set again. -/
def setVariable (name value : Text) : Action Unit := do
  if (← get).fixed.contains name then giveUp (name ++ Text.ofString ": is read only")
  modify fun process => { process with environment := withVariable process.environment name value }

def exportVariable (name : Text) : Action Unit :=
  modify fun process => { process with exported := name :: process.exported }

def wait (microseconds : Nat) : Action Unit := do
  match (← get).remaining with
  | none => return
  | some remaining =>
      if remaining ≤ microseconds then throw .timeUp
      else modify fun process => { process with remaining := some (remaining - microseconds) }

def readAll : Action (List UInt8) := do
  let process ← get
  set { process with input := [] }
  return process.input

def readLine : Action (List UInt8 × Bool) := do
  let process ← get
  let line := process.input.takeWhile (· ≠ 0x0A)
  set { process with input := process.input.drop (line.length + 1) }
  return (line, line.length < process.input.length)

end Action

end Shell

end FenceCheck
