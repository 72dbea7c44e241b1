import FenceCheck.Shell.Run
import FenceCheck.Text.Line

/-!
An operating system for scripts. A machine answers a start with what the program did, and here that is
found out by running it: its working directory is entered, its file found and interpreted. What it
printed until its end, or until its time was up, is read as text. The command itself interprets nothing,
and nothing else depends on this part; it lets starts be tried out against programs that are scripts.
-/

namespace FenceCheck

namespace Shell

/-- Why a path as it was typed is no program that can be started, if it is none. An interpreter may
have an interpreter itself, but there is an end to it. -/
def programFault? (files : Files) (path : Text) : Nat → Option FileFault
  | 0 => some .linkLoop
  | depth + 1 =>
      match files.findTyped path with
      | .error fault => some fault
      | .ok (.file image executable) =>
          if !executable then some .forbidden
          else
            match native? image, interpreter? image with
            | some _, _ => none
            | none, some (interpreter, _) => programFault? files interpreter depth
            | none, none => some .noProgram
      | .ok _ => some .forbidden

/-- The most interpreters that stand between a script and a native program, and one more. -/
def interpreterLimit : Nat := 6

def findProgram (files : Files) (environment : Variables) (name : Text) : Except StartFault Text :=
  let places := Program.startPlaces environment name
  match places.find? fun place => (programFault? files place interpreterLimit).isNone with
  | some place => .ok place
  | none =>
      let faults := places.filterMap (programFault? files · interpreterLimit)
      let telling := faults.find? fun fault => fault ≠ .missing && fault ≠ .notDirectory
      .error (.file (telling.getD (faults.getLastD .missing)) name)

/-- The microseconds that a limit leaves, if it is one. -/
def microseconds (limit : Amount) : Option Nat :=
  if !limit.isPositive then none
  else
    match limit with
    | .whole n => some (n.toNat * 1000000)
    | .real x =>
        match x.value with
        | .finite _ significand exponent =>
            let (num, den) := Binary64.ratio significand exponent
            some (num * 1000000 / den)
        | _ => none

def limitFault? (limit : Amount) : Option LimitFault :=
  match if limit.isPositive then limit.float? else some (.zero false) with
  | none => some .tooLarge
  | some x =>
      match (x.mul (.ofRatio false 1000 1)).value with
      | .finite _ significand exponent =>
          let (num, den) := Binary64.ratio significand exponent
          if 9223372036854 * den < num then some .beyondClock
          else if 2147483647 * den < num then some .tooLong
          else none
      | _ => if limit.isPositive then some .endless else none

def unwritable? (t : Text) : Option StartFault :=
  match t.bytes with
  | .ok _ => none
  | .error fault => some (.formless (.unwritable fault))

def formless? (t : Text) : Option StartFault := t.formFault?.map .formless

def variableFault? (entry : Text × Text) : Option StartFault :=
  (unwritable? entry.1).or
    ((if .char '=' ∈ entry.1 then some .misnamed else none).or (unwritable? entry.2))

/-- Why a start cannot even be tried: what is found first among the variables, the words and the
working directory. -/
def startFault? (environment : Variables) (launch : Launch) : Option StartFault :=
  match launch.words with
  | [] => some .wordless
  | name :: _ =>
      (environment.findSome? variableFault?).or <| (unwritable? name).or <|
        (launch.words.findSome? formless?).or <|
          (environment.findSome? fun entry => formless? (entry.1 ++ entry.2)).or <|
            formless? launch.directory.toText

def prepare (files : Files) (environment : Variables) (launch : Launch) :
    Except StartFault (Files × Text) := do
  if let some fault := startFault? environment launch then throw fault
  let files ← (Program.enter files launch.directory).mapError (.directory · launch.directory)
  let program ← findProgram files environment (launch.words.headD [])
  if let some fault := limitFault? launch.limit then throw (.limit fault)
  return (files, program)

/-- What is written to a program's input. -/
def inputBytes (t : Text) : List UInt8 :=
  t.flatMap fun
    | .char c => Utf8.encodeChar c
    | .surrogate _ => [0x3F]

def launch (files : Files) (environment : Variables) (launch : Launch) : Ending :=
  match prepare files environment launch with
  | .error fault => .unstarted fault
  | .ok (files, path) =>
      let process :=
        Process.start files environment (inputBytes launch.input) (microseconds launch.limit)
      let (result, process) :=
        (runFile stepLimit path (launch.words.headD []) (launch.words.drop 1)).run.run process
      let text (bytes : List UInt8) : Text := Text.universalNewlines (Utf8.decodeLossy bytes)
      let exited (code : Nat) : Ending :=
        .exited (code % 256 : Nat) (text process.output) (text process.errors)
      -- What goes on in the background keeps the streams open, so the end of the time is waited
      -- for.
      match if process.lingers then .error .timeUp else result with
      | .ok () | .error (.left _) | .error (.resumed _) => exited process.status
      | .error (.exited code) | .error (.returned code) => exited code
      | .error .gaveUp => exited 2
      | .error (.killed signal) =>
          .exited (-signal) (text process.output) (text process.errors)
      | .error .timeUp =>
          .stopped (Utf8.decodeLossy process.output) (Utf8.decodeLossy process.errors)

end Shell

end FenceCheck
