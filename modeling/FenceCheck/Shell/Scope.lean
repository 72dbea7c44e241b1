import FenceCheck.Shell.Builtin

/-!
What a part of a script may change: a shell of its own changes files and prints, a redirected command
does not keep its streams, a function hides variables, and a loop takes up what leaves it.
-/

namespace FenceCheck

namespace Shell

def apart (action : Action Unit) : Action Unit := fun before => do
  let (result, after) ← action.run before
  -- Files and streams are left as they are; all that a shell knows by itself is as before.
  let kept (status : Nat) : Process :=
    { before with
      files := { after.files with cwd := before.files.cwd }
      input := after.input, output := after.output, errors := after.errors, held := after.held
      remaining := after.remaining, lingers := after.lingers, struck := after.struck, status }
  return match result with
    | .ok () | .error (.left _) | .error (.resumed _) => (.ok (), kept (after.status % 256))
    | .error (.exited code) | .error (.returned code) => (.ok (), kept (code % 256))
    | .error .gaveUp => (.ok (), kept 2)
    | .error (.killed signal) =>
        let message := bytesOf (signalMessage signal ++ [.char '\n'])
        (.ok (), Action.append (before.sink 2) message (kept (128 + signal)))
    | .error .timeUp => (.error .timeUp, kept after.status)

/-- Restores after an action, however it ends, a part of the process. -/
def restoring (restore : Process → Process → Process) (action : Action Unit) : Action Unit :=
  fun before => do
    let (result, after) ← action.run before
    return (result, restore before after)

/-- An action whose streams may be redirected, the input among them or not. -/
def withStreams (withInput : Bool) : Action Unit → Action Unit :=
  restoring fun before after =>
    { after with
      sinks := before.sinks
      input := if withInput then before.input else after.input }

def taken (action : Action Unit) : Action (List UInt8) := fun before => do
  let level := before.held.length
  let (result, after) ← action.run
    { before with held := [] :: before.held, sinks := (1, .held level) :: before.sinks }
  let restored := { after with held := after.held.drop 1, sinks := before.sinks }
  return (result.map fun _ => after.held.headD [], restored)

def asCondition (action : Action Unit) : Action Unit :=
  restoring (fun before after => { after with guarded := before.guarded }) do
    modify fun process => { process with guarded := true }
    action

/-- An action for one of the shell's own commands, whose complaints it introduces. -/
def spokenBy (speaker : Text) (action : Action Unit) : Action Unit :=
  restoring (fun before after => { after with speaker := before.speaker }) do
    modify fun process => { process with speaker := some speaker }
    action

/-- A complaint in the action ends it with an error, and nothing else. -/
def forgiving (action : Action Unit) : Action Unit := do
  try action
  catch
    | .gaveUp => Action.setStatus 2
    | halt => throw halt

def insist : Action Unit := do
  let process ← get
  if process.strict && !process.guarded && process.status ≠ 0 then throw (.exited process.status)

def loopRound (action : Action Unit) : Action Bool := fun before => do
  let (result, after) ← action.run { before with loops := before.loops + 1 }
  let after := { after with loops := before.loops }
  return match result with
    | .ok () | .error (.resumed 0) | .error (.resumed 1) => (.ok true, after)
    | .error (.left 0) | .error (.left 1) => (.ok false, after)
    | .error (.resumed loops) => (.error (.resumed (loops - 1)), after)
    | .error (.left loops) => (.error (.left (loops - 1)), after)
    | .error halt => (.error halt, after)

/-- Leaves loops, or goes on with their next round; outside of loops it does nothing. -/
def steer (halt : Nat → Halt) (loops : Nat) : Action Unit := do
  let around := (← get).loops
  if around = 0 then Action.setStatus 0 else throw (halt (min loops around))

/-- An action that nobody waits for: it takes no time from what follows and reads nothing. -/
def inBackground (action : Action Unit) : Action Unit := fun before => do
  let (result, after) ← action.run { before with input := [] }
  let restored := { after with remaining := before.remaining, input := before.input, status := 0 }
  return match result with
    | .error .timeUp => (.ok (), { restored with lingers := true })
    | result => (result, restored)

/-- Sets variables back to what they were, the last change first. -/
def unhide (environment : Variables) (hidden : List (Text × Option Text)) : Variables :=
  hidden.foldl (fun environment entry =>
    match entry.2 with
    | some value => Action.withVariable environment entry.1 value
    | none => environment.filter (·.1 ≠ entry.1)) environment

def asFunction (arguments : List Text) (body : Action Unit) : Action Unit :=
  restoring (fun before after =>
    { after with
      arguments := before.arguments, loops := before.loops, hidden := before.hidden
      environment := unhide after.environment (after.hidden.getD []) }) do
    modify fun process => { process with arguments, loops := 0, hidden := some [] }
    try body
    catch
      | .returned code => Action.setStatus code
      | halt => throw halt

/-- An action for which alone some variables are set. -/
def withSettings (names : List Text) : Action Unit → Action Unit :=
  restoring fun before after =>
    { after with
      environment := unhide after.environment
        (names.map fun name => (name, before.environment.lookup name))
      exported := names.filter before.exported.contains ++
        after.exported.filter (!names.contains ·) }

def trace (sink : Sink) (words : List Text) : Action Unit := do
  let process ← get
  if process.traced then
    let start := (process.environment.lookup (Text.ofString "PS4")).getD "+ "
    set (Action.append sink (bytesOf (start ++ Text.join " " words ++ [.char '\n'])) process)

def setSink (stream : Nat) (sink : Option Sink) : Action Unit :=
  modify fun process =>
    { process with
      sinks := (sink.map fun sink => (stream, sink)).toList ++
        process.sinks.filter (·.1 ≠ stream) }

/-- The sinks that files in a directory of devices stand for. -/
def deviceSink? (process : Process) (target : Text) : Option Sink :=
  if target = Text.ofString "/dev/null" then some .nowhere
  else if target = Text.ofString "/dev/stdout" then some (process.sink 1)
  else if target = Text.ofString "/dev/stderr" then some (process.sink 2)
  else none

def refuseFile (creating : Bool) (target : Text) (fault : FileFault) : Action Bool := do
  let reason : Text :=
    if fault = .missing then if creating then "Directory nonexistent" else "No such file"
    else fault.description
  Action.shellComplain (Text.ofString (if creating then "cannot create " else "cannot open ") ++
    target ++ Text.ofString ": " ++ reason)
  return false

def duplicate (stream : Nat) (target : Text) : Action Bool := do
  if target = Text.ofString "-" then
    if stream = 0 then modify fun process => { process with input := [] }
    else setSink stream none
    return true
  if target.isEmpty || !target.all isDigit then Action.giveUp "Syntax error: Bad fd number"
  if numberOf target = 0 || stream = 0 then return true
  match (← get).sinks.lookup (numberOf target) with
  | some sink =>
      setSink stream (some sink)
      return true
  | none =>
      Action.shellComplain (target ++ Text.ofString ": Bad file descriptor")
      return false

/-- Redirects a stream to what a word names; the result says whether it could be. -/
def redirect (stream : Nat) (direction : Direction) (target : Text) : Action Bool := do
  let process ← get
  let read (bytes : List UInt8) : Action Bool := do
    if stream = 0 then set { process with input := bytes }
    return true
  match direction with
  | .duplicate => duplicate stream target
  | .text => read (bytesOf target)
  | .input =>
      if target = Text.ofString "/dev/stdin" then return true
      match if target = Text.ofString "/dev/null" then .ok [] else process.files.readTyped target with
      | .ok bytes => read bytes
      | .error fault => refuseFile false target fault
  | _ =>
      if let some sink := deviceSink? process target then
        setSink stream (some sink)
        return true
      let old :=
        if direction = .append then (process.files.readTyped target).toOption.getD [] else []
      let written : Except FileFault (List Text × Files) := do
        let place ← process.files.placeTyped true target
        return (place.names, ← process.files.put place.names old)
      match written with
      | .ok (place, files) =>
          set { process with files }
          setSink stream (some (.file place))
          return true
      | .error fault => refuseFile true target fault

end Shell

end FenceCheck
