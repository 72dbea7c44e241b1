import FenceCheck.Shell.Condition
import FenceCheck.Shell.Process

/-!
Programs that need no script to be described. Their complaints begin with the name under which they
were started.
-/

namespace FenceCheck

namespace Shell

def nativeNames : List Text :=
  ["sh", "cat", "sleep", "echo", "printf", "pwd", "env", "test", "true", "false", "head", "wc",
   "seq", "tr"]

def native? (image : List UInt8) : Option Text :=
  match image with
  | 0x7F :: 0x45 :: 0x4C :: 0x46 :: name => nativeNames.find? fun t => bytesOf t = name
  | _ => none

def duration? (t : Text) : Option Nat :=
  let units : List (Char × Nat) := [('s', 1), ('m', 60), ('h', 3600), ('d', 86400)]
  let (number, factor) := match t.getLast? with
    | some (.char c) =>
        match units.lookup c with
        | some factor => (t.dropLast, factor)
        | none => (t, 1)
    | _ => (t, 1)
  let whole := number.takeWhile isDigit
  match number.drop whole.length with
  | [] => if whole.isEmpty then none else some (numberOf whole * 1000000 * factor)
  | .char '.' :: places =>
      if places.all isDigit && !(whole.isEmpty && places.isEmpty) then
        -- The clock counts microseconds, and further places are dropped.
        let six := places.take 6
        some ((numberOf whole * 1000000 + numberOf six * tenTo (6 - six.length)) * factor)
      else none
  | _ => none

def signalMessage (signal : Nat) : Text :=
  let messages : List (Nat × Text) :=
    [(1, "Hangup"), (3, "Quit"), (4, "Illegal instruction"), (5, "Trace/breakpoint trap"),
     (6, "Aborted"), (7, "Bus error"), (8, "Floating point exception"), (9, "Killed"),
     (10, "User defined signal 1"), (11, "Segmentation fault"), (12, "User defined signal 2"),
     (14, "Alarm clock"), (15, "Terminated")]
  (messages.lookup signal).getD []

/-- The bytes that a set of characters lists, with ranges and escapes. -/
def byteSet : List UInt8 → List UInt8
  | low :: 0x2D :: high :: rest =>
      (List.range (high.toNat + 1 - low.toNat)).map (fun n => low + n.toUInt8) ++ byteSet rest
  | b :: rest => b :: byteSet rest
  | [] => []

/-- The bytes of a text whose bytes of one set are replaced by those at their places in another, of
which the last is repeated. -/
def translated (source target bytes : List UInt8) : List UInt8 :=
  bytes.map fun b =>
    match source.reverse.idxOf? b with
    | some place => (target[source.length - 1 - place]?).getD (target.getLastD b)
    | none => b

def isBlankByte (b : UInt8) : Bool := b = 0x20 || (9 ≤ b && b ≤ 13)

/-- The number of words in bytes; `inside` says whether a word goes on. -/
def countWords (inside : Bool) : List UInt8 → Nat
  | [] => 0
  | b :: rest =>
      if isBlankByte b then countWords false rest
      else countWords true rest + if inside then 0 else 1

/-- The start of bytes up to a number of line feeds. -/
def firstLines : Nat → List UInt8 → List UInt8
  | 0, _ => []
  | _, [] => []
  | n + 1, b :: rest => if b = 0x0A then b :: firstLines n rest else b :: firstLines (n + 1) rest

namespace Action

def advise (self : Text) (complaint : Text) : Action Unit := do
  complain (self ++ Text.ofString ": " ++ complaint)
  complain (Text.ofString "Try '" ++ self ++ Text.ofString " --help' for more information.")
  setStatus 1

def sleep (self : Text) (arguments : List Text) : Action Unit := do
  match arguments.mapM duration? with
  | some [] => advise self "missing operand"
  | some durations =>
      wait (durations.foldl (· + ·) 0)
      setStatus 0
  | none =>
      let wrong := arguments.find? fun t => (duration? t).isNone
      advise self (Text.ofString "invalid time interval '" ++ wrong.getD [] ++ Text.ofString "'")

/-- The bytes of a file, or of what is left to read where the name is a hyphen. -/
def bytesFrom (argument : Text) : Action (Except FileFault (List UInt8)) := do
  if argument = [.char '-'] then return .ok (← readAll)
  else if argument = Text.ofString "/dev/null" then return .ok []
  else return (← get).files.readTyped argument

def isOutput (name : Text) : Action Bool := do
  let process ← get
  match process.sink 1, process.files.placeTyped false name with
  | .file output, .ok place => return place.names = output
  | _, _ => return false

def cat (self : Text) (arguments : List Text) : Action Unit := do
  setStatus 0
  for argument in if arguments.isEmpty then [[.char '-']] else arguments do
    let isOutput ← isOutput argument
    match ← bytesFrom argument with
    | .ok bytes =>
        -- Copying a file to itself would never end.
        if isOutput && !bytes.isEmpty then
          complain (self ++ Text.ofString ": " ++ argument ++
            Text.ofString ": input file is output file")
          setStatus 1
        else print bytes
    | .error fault =>
        complain (self ++ Text.ofString ": " ++ argument ++ Text.ofString ": " ++
          fault.description)
        setStatus 1

def echo (arguments : List Text) (escapes : Bool) : Action Unit := do
  let silent := arguments.head? = some (Text.ofString "-n")
  let t := Text.join " " (if silent then arguments.drop 1 else arguments)
  let (bytes, cut) := if escapes then unescaped (t.length + 1) t else (bytesOf t, false)
  print bytes
  if !silent && !cut then print [0x0A]
  setStatus 0

def isEchoFlag (t : Text) : Bool :=
  match t with
  | .char '-' :: c :: rest => (c :: rest).all (isOneOf "neE")
  | _ => false

/-- Echoes as a program does, which leaves escapes alone unless it is told otherwise. -/
def echoProgram (arguments : List Text) : Action Unit := do
  let flags := (arguments.takeWhile isEchoFlag).flatMap (·.filter (· ≠ .char '-'))
  let escapes := (flags.filter (isOneOf "eE")).getLast? = some (.char 'e')
  let words := arguments.dropWhile isEchoFlag
  echo (if .char 'n' ∈ flags then Text.ofString "-n" :: words else words) escapes

/-- Prints by a format. Complaints come first. -/
def printf (complain : Text → Action Unit) (format : Text) (arguments : List Text) :
    Action Unit := do
  let printed := Shell.format format arguments
  printed.complaints.forM complain
  match printed.ending with
  | some (.failed complaint) => complain complaint; setStatus 2
  | _ => setStatus (if printed.complaints.isEmpty then 0 else 1)
  print printed.bytes

def printfProgram (self : Text) : List Text → Action Unit
  | [] => advise self "missing operand"
  | format :: arguments =>
      printf (fun t => complain (self ++ Text.ofString ": " ++ t)) format arguments

/-- Tells by the status whether a condition holds. -/
def test (complain : Text → Action Unit) (arguments : List Text) : Action Unit := do
  match Condition.holds (← get).files arguments with
  | .ok holds => setStatus (if holds then 0 else 1)
  | .error complaint => complain complaint; setStatus 2

def testProgram (self : Text) (arguments : List Text) : Action Unit :=
  test (fun t => complain (self ++ Text.ofString ": " ++ t)) arguments

def pwd : Action Unit := do
  printLine (← get).files.cwdPath.toText
  setStatus 0

def env : Action Unit := do
  for (name, value) in (← get).shared do
    printLine (name ++ .char '=' :: value)
  setStatus 0

/-- Prints the start of a file: a number of bytes, or of lines. -/
def head (self : Text) (arguments : List Text) : Action Unit := do
  let (inBytes, count, names) := match arguments with
    | [.char '-', .char 'c'] :: n :: rest => (true, numberOf n, rest)
    | [.char '-', .char 'n'] :: n :: rest => (false, numberOf n, rest)
    | (.char '-' :: .char 'c' :: n) :: rest => (true, numberOf n, rest)
    | (.char '-' :: .char 'n' :: n) :: rest => (false, numberOf n, rest)
    | (.char '-' :: c :: n) :: rest => (false, numberOf (c :: n), rest)
    | rest => (false, 10, rest)
  setStatus 0
  let name := names.headD [.char '-']
  if inBytes && name = Text.ofString "/dev/zero" then print (List.replicate count 0)
  else
    match ← bytesFrom name with
    | .ok bytes => print (if inBytes then bytes.take count else firstLines count bytes)
    | .error fault =>
        complain (self ++ Text.ofString ": cannot open '" ++ name ++
          Text.ofString "' for reading: " ++ fault.description)
        setStatus 1

def wc (self : Text) (arguments : List Text) : Action Unit := do
  let flags := (arguments.filter (Text.startsWith · "-")).flatten
  let names := arguments.filter (!Text.startsWith · "-")
  let asked (c : Char) : Bool := flags.isEmpty || .char c ∈ flags
  match ← bytesFrom (names.headD [.char '-']) with
  | .ok bytes =>
      let counts := (if asked 'l' then [bytes.count 0x0A] else []) ++
        (if asked 'w' then [countWords false bytes] else []) ++
        (if asked 'c' then [bytes.length] else [])
      -- Several counts stand in columns that have room for the number of bytes.
      let width := if counts.length = 1 then 0
        else if names.isEmpty then 7 else (Text.ofNat bytes.length).length
      let shown := counts.map fun n =>
        let digits := Text.ofNat n
        List.replicate (width - digits.length) (.char ' ') ++ digits
      printLine (Text.join " " (shown ++ names.take 1))
      setStatus 0
  | .error fault =>
      complain (self ++ Text.ofString ": " ++ names.headD [] ++ Text.ofString ": " ++
        fault.description)
      setStatus 1

def seq (arguments : List Text) : Action Unit := do
  let bounds := arguments.map fun t => (integerArgument t).1
  let (first, step, last) := match bounds with
    | [last] => (1, 1, last)
    | [first, last] => (first, 1, last)
    | [first, step, last] => (first, step, last)
    | _ => (1, 1, 0)
  let count := if step = 0 then 0 else ((last - first).fdiv step + 1).toNat
  for n in List.range count do
    printLine (Text.ofInt (first + n * step))
  setStatus 0

def tr (arguments : List Text) : Action Unit := do
  let setOf (t : Text) : List UInt8 := byteSet (unescaped (t.length + 1) t).1
  let bytes ← readAll
  match arguments with
  | [[.char '-', .char 'd'], source] => print (bytes.filter fun b => !(setOf source).contains b)
  | [source, target] => print (translated (setOf source) (setOf target) bytes)
  | _ => pure ()
  setStatus 0

end Action

end Shell

end FenceCheck
