import FenceCheck.Shell.Expansion
import FenceCheck.Shell.Native

/-!
Commands that a shell carries out itself, as far as they run no script: they set variables, options
and arguments, change the directory, read, tell what a name stands for, and send signals. Their
complaints end the command, and after those of the special ones a shell does not go on.
-/

namespace FenceCheck

namespace Shell

def builtinNames : List Text :=
  [":", ".", "[", "alias", "bg", "break", "cd", "chdir", "command", "continue", "echo", "eval",
   "exec", "exit", "export", "false", "fg", "hash", "jobs", "kill", "local", "printf", "pwd",
   "read", "readonly", "return", "set", "shift", "test", "times", "trap", "true", "type", "ulimit",
   "umask", "unalias", "unset", "wait"].map Text.ofString

def signals : List (Text × Nat) :=
  [("EXIT", 0), ("HUP", 1), ("INT", 2), ("QUIT", 3), ("ILL", 4), ("TRAP", 5), ("ABRT", 6),
   ("BUS", 7), ("FPE", 8), ("KILL", 9), ("USR1", 10), ("SEGV", 11), ("USR2", 12), ("PIPE", 13),
   ("ALRM", 14), ("TERM", 15), ("STKFLT", 16), ("CHLD", 17), ("CONT", 18), ("STOP", 19),
   ("TSTP", 20), ("TTIN", 21), ("TTOU", 22), ("URG", 23), ("XCPU", 24), ("XFSZ", 25),
   ("VTALRM", 26), ("PROF", 27), ("WINCH", 28), ("IO", 29), ("PWR", 30), ("SYS", 31)]

def signal? (t : Text) : Option Nat :=
  if !t.isEmpty && t.all isDigit then if numberOf t ≤ 64 then some (numberOf t) else none
  else signals.lookup (t.map fun
    | .char c => .char c.toUpper
    | c => c)

def signalName (signal : Nat) : Text :=
  match signals.find? fun entry => entry.2 = signal with
  | some (name, _) => name
  | none => Text.ofNat signal

def shellQuoted (t : Text) : Text :=
  let rec go : Nat → Text → Text
    | 0, _ => []
    | fuel + 1, t =>
        -- Runs of single quotes go between double quotes, everything else between single ones.
        let plain := t.takeWhile (· ≠ .char '\x27')
        let quotes := (t.drop plain.length).takeWhile (· = .char '\x27')
        let rest := t.drop (plain.length + quotes.length)
        let first := if plain.isEmpty && !quotes.isEmpty then [] else
          .char '\x27' :: plain ++ [.char '\x27']
        let second := if quotes.isEmpty then [] else .char '\x22' :: quotes ++ [.char '\x22']
        first ++ second ++ if rest.isEmpty then [] else go fuel rest
  go (t.length + 1) t

namespace Action

def demandName (name : Text) : Action Unit := do
  if !isName name then giveUp (name ++ Text.ofString ": bad variable name")

def illegalOption (option : Text) : Action α := giveUp (Text.ofString "Illegal option " ++ option)

/-- The arguments behind options of one letter each, which have to be among the known ones, and the
letters. -/
def lettersOf (known : String) : List Text → Action (Text × List Text)
  | (.char '-' :: c :: rest) :: arguments => do
      if c = .char '-' && rest.isEmpty then return ([], arguments)
      match (c :: rest).find? fun letter => !isOneOf known letter with
      | some letter => illegalOption [.char '-', letter]
      | none =>
          let (more, arguments) ← lettersOf known arguments
          return (c :: rest ++ more, arguments)
  | arguments => return ([], arguments)

def number (t : Text) : Action Nat := do
  if t.all isDigit && !t.isEmpty && numberOf t ≤ 2147483647 then return numberOf t
  giveUp (Text.ofString "Illegal number: " ++ t)

def numberOr (default : Nat) : List Text → Action Nat
  | [] => return default
  | t :: _ => number t

/-- Turns an option on or off; the result says whether there is such an option. -/
def setOption (letter : CodePoint) (on : Bool) : Action Bool := do
  match letter with
  | .char 'e' => modify fun process => { process with strict := on }
  | .char 'u' => modify fun process => { process with careful := on }
  | .char 'x' => modify fun process => { process with traced := on }
  | .char 'f' => modify fun process => { process with literal := on }
  | _ => pure ()
  return isOneOf "efIimnsxvVECabu" letter

def optionNames : List (Text × Char) :=
  [("errexit", 'e'), ("noglob", 'f'), ("ignoreeof", 'I'), ("monitor", 'm'), ("noexec", 'n'),
   ("xtrace", 'x'), ("verbose", 'v'), ("vi", 'V'), ("emacs", 'E'), ("noclobber", 'C'),
   ("allexport", 'a'), ("notify", 'b'), ("nounset", 'u')].map fun (t, c) => (Text.ofString t, c)

def demandOption (letter : CodePoint) (on : Bool) : Action Unit := do
  if !(← setOption letter on) then illegalOption [.char '-', letter]

/-- Sets options at the start of arguments, and gives the arguments behind them and whether a mark
ended the options. Letters in `others` are passed over. -/
def takeOptions (others : String) : Nat → List Text → Action (List Text × Bool)
  | 0, arguments => return (arguments, false)
  | fuel + 1, arguments => do
      match arguments with
      | [] => return ([], false)
      | [.char '-', .char '-'] :: rest => return (rest, true)
      | [.char '-'] :: rest => return (rest, false)
      | (.char sign :: letters@(_ :: _)) :: rest =>
          if sign ≠ '-' && sign ≠ '+' then return (arguments, false)
          let on := sign = '-'
          (letters.filter fun c => c ≠ .char 'o' && !isOneOf others c).forM (demandOption · on)
          -- This letter takes the next argument for the long name of an option.
          if .char 'o' ∈ letters then
            match rest with
            | [] => return ([], false)
            | name :: rest =>
                match optionNames.lookup name with
                | some letter => demandOption (.char letter) on
                | none => illegalOption (Text.ofString "-o " ++ name)
                takeOptions others fuel rest
          else takeOptions others fuel rest
      | arguments => return (arguments, false)

def setOptions (arguments : List Text) : Action Unit := do
  let (rest, marked) ← takeOptions "" (arguments.length + 1) arguments
  if marked || !rest.isEmpty then modify fun process => { process with arguments := rest }
  setStatus 0

def shift (arguments : List Text) : Action Unit := do
  let count ← numberOr 1 arguments
  if (← get).arguments.length < count then giveUp "can't shift that many"
  modify fun process => { process with arguments := process.arguments.drop count, status := 0 }

/-- Reads a line; without `raw` a backslash at its end joins it with the next one. -/
def readJoined (raw : Bool) : Nat → Action (Text × Bool)
  | 0 => return ([], false)
  | fuel + 1 => do
      let (bytes, ended) ← readLine
      let line := Text.ofBytes (bytes.filter (· ≠ 0))
      let slashes := (line.reverse.takeWhile (· = .char '\\')).length
      if !raw && ended && slashes % 2 = 1 then
        let (more, ended) ← readJoined raw fuel
        return (line.dropLast ++ more, ended)
      else return (line, ended)

def readVariables (arguments : List Text) : Action Unit := do
  let (raw, names) ← readOptions (arguments.length + 1) arguments
  if names.isEmpty then giveUp "arg count"
  let (line, ended) ← readJoined raw ((← get).input.length + 1)
  let letters := if raw then line.map fun c => ⟨c, false⟩ else lineLetters line
  for (name, value) in names.zip (fieldsOf (← get).separators names.length letters) do
    demandName name
    setVariable name (textOf value)
  setStatus (if ended then 0 else 1)
where
  readOptions : Nat → List Text → Action (Bool × List Text)
    | 0, arguments => return (false, arguments)
    | fuel + 1, arguments => do
        match arguments with
        | [.char '-', .char 'p'] :: _ :: rest => readOptions fuel rest
        | arguments =>
            match arguments.head? with
            | some (.char '-' :: _ :: _) =>
                let (letters, _) ← lettersOf "r" (arguments.take 1)
                let (raw, rest) ←
                  if letters.isEmpty then pure (false, arguments.drop 1)
                  else readOptions fuel (arguments.drop 1)
                return (raw || !letters.isEmpty, rest)
            | _ => return (false, arguments)

/-- A setting of a variable as an argument: its name, and its value if there is one. -/
def settingOf (t : Text) : Text × Option Text :=
  let name := t.takeWhile (· ≠ .char '=')
  (name, if name.length < t.length then some (t.drop (name.length + 1)) else none)

def printSettings (self : Text) (names : List Text) : Action Unit := do
  let environment := (← get).environment
  for name in (names.mergeSort Text.le).eraseDups do
    printLine (self ++ .char ' ' :: name ++
      match environment.lookup name with
      | some value => .char '=' :: shellQuoted value
      | none => [])

/-- Lets other programs see variables, or fixes them. -/
def mark (self : Text) (change : Text → Process → Process) (marked : Process → List Text)
    (arguments : List Text) : Action Unit := do
  let (letters, rest) ← lettersOf "p" arguments
  if !letters.isEmpty || rest.isEmpty then printSettings self (marked (← get))
  else
    for t in rest do
      let (name, value) := settingOf t
      demandName name
      if let some value := value then setVariable name value
      modify (change name)
  setStatus 0

def exportNames : List Text → Action Unit :=
  mark "export" (fun name process => { process with exported := name :: process.exported })
    (·.exported)

def fixNames : List Text → Action Unit :=
  mark "readonly" (fun name process => { process with fixed := name :: process.fixed }) (·.fixed)

/-- Keeps variables to a function. -/
def hide (arguments : List Text) : Action Unit := do
  for t in arguments do
    let (name, value) := settingOf t
    match (← get).hidden with
    | none => giveUp "not in a function"
    | some hidden =>
        demandName name
        modify fun process =>
          { process with hidden := some ((name, process.environment.lookup name) :: hidden) }
        if let some value := value then setVariable name value
  if (← get).hidden.isNone then giveUp "not in a function"
  setStatus 0

def unset (arguments : List Text) : Action Unit := do
  let (letters, names) ← lettersOf "vf" arguments
  for name in names do
    if letters.getLast? = some (.char 'f') then
      modify fun process => { process with functions := process.functions.filter (·.1 ≠ name) }
    else
      demandName name
      if (← get).fixed.contains name then giveUp (name ++ Text.ofString ": is read only")
      modify fun process =>
        { process with
          environment := process.environment.filter (·.1 ≠ name)
          exported := process.exported.filter (· ≠ name) }
  setStatus 0

/-- What a name stands for as a command: the shell's own, or the path of a program. -/
def commandPath? (process : Process) (name : Text) : Option Text :=
  if reservedWords.contains name || builtinNames.contains name ||
      (process.functions.lookup name).isSome then some name
  else Program.find? process.files process.environment name

def tell (name : Text) : Action Unit := do
  let process ← get
  let say (t : String) : Action Unit := printLine (name ++ Text.ofString t)
  if reservedWords.contains name then say " is a shell keyword"
  else if (process.functions.lookup name).isSome then say " is a shell function"
  else if specialNames.contains name then say " is a special shell builtin"
  else if builtinNames.contains name then say " is a shell builtin"
  else
    match commandPath? process name with
    | some path => printLine (name ++ Text.ofString " is " ++ path)
    | none =>
        say ": not found"
        setStatus 127

def tellAll (names : List Text) : Action Unit := do
  setStatus 0
  names.forM tell

/-- Prints by a format, complaining as a part of the shell. -/
def printfBuiltin (arguments : List Text) : Action Unit := do
  match ← lettersOf "" arguments with
  | (_, []) => giveUp "usage: printf format [arg ...]"
  | (_, format :: arguments) => printf shellComplain format arguments

def testBuiltin : List Text → Action Unit := test shellComplain

def bracketTest (arguments : List Text) : Action Unit := do
  if arguments.getLast? = some (Text.ofString "]") then testBuiltin arguments.dropLast
  else giveUp "missing ]"

def signalAndTargets (arguments : List Text) : Action (Nat × List Text) := do
  match arguments with
  | [.char '-', .char 's'] :: name :: targets =>
      match signal? name with
      | some signal => return (signal, targets)
      | none => giveUp (Text.ofString "invalid signal number or name: " ++ name)
  | (.char '-' :: c :: name) :: targets =>
      if c = .char '-' && name.isEmpty then return (15, targets)
      match signal? (c :: name) with
      | some signal => return (signal, targets)
      | none => illegalOption [.char '-', c]
  | targets => return (15, targets)

/-- Sends a signal, which only the shell itself is there to receive. A part of the shell does not
receive it but goes on. -/
def kill (arguments : List Text) : Action Unit := do
  let (signal, targets) ← signalAndTargets arguments
  if targets.isEmpty then
    giveUp (Text.ofString "Usage: kill [-s sigspec | -signum | -sigspec] [pid | job]... or\n" ++
      Text.ofString "kill -l [exitstatus]")
  setStatus 0
  for target in targets do
    if (target.headD (.char '0')) ≠ .char '-' then discard (number target)
    if target ≠ ownNumber then
      shellComplain "No such process\n"
      setStatus 1
    else if signal = 0 then pure ()
    else if (← get).isPart then modify fun process => { process with struck := some signal }
    else throw (.killed signal)

def listSignals : Action Unit := do
  for (name, _) in signals do
    printLine (if name = Text.ofString "EXIT" then Text.ofString "0" else name)
  setStatus 0

def cd (arguments : List Text) : Action Unit := do
  let process ← get
  let value (name : String) : Text :=
    (process.environment.lookup (Text.ofString name)).getD []
  let (_, words) ← lettersOf "PL" arguments
  let word := words.headD (value "HOME")
  let back := word = Text.ofString "-"
  let target := if back then value "OLDPWD" else word
  let refuse : Action Unit := giveUp (Text.ofString "can't cd to " ++ target)
  match process.files.place (Path.ofText target) with
  | .error _ => refuse
  | .ok place =>
      if (process.files.root.at? place.names).any FileNode.isDirectory then
        let old := process.files.cwdPath.toText
        let files := { process.files with cwd := place.names }
        set { process with files, status := 0 }
        setVariable "OLDPWD" old
        setVariable "PWD" files.cwdPath.toText
        if back then pwd
      else refuse

def setTraps (arguments : List Text) : Action Unit := do
  setStatus 0
  let (_, arguments) ← lettersOf "" arguments
  match arguments with
  | [] =>
      for (signal, script) in (← get).traps.mergeSort fun a b => a.1 ≤ b.1 do
        printLine (Text.ofString "trap -- " ++ shellQuoted script ++ .char ' ' :: signalName signal)
  | first :: others =>
      let (script, names) : Option Text × List Text :=
        -- A single argument is a signal whose script is taken away.
        if others.isEmpty then (none, [first])
        else (if first = Text.ofString "-" then none else some first, others)
      setEach script names
where
  setEach (script : Option Text) : List Text → Action Unit
    | [] => return
    | name :: rest => do
        match signal? name with
        | none =>
            complain (Text.ofString "trap: " ++ name ++ Text.ofString ": bad trap")
            setStatus 1
        | some signal =>
            modify fun process =>
              { process with
                traps := (script.map fun t => (signal, t)).toList ++
                  process.traps.filter (·.1 ≠ signal) }
            setEach script rest

def awaitBackground (arguments : List Text) : Action Unit := do
  if (← get).lingers then throw .timeUp
  match arguments with
  | [] => setStatus 0
  | targets =>
      targets.forM fun target => discard (number target)
      setStatus 127

end Action

end Shell

end FenceCheck
