import FenceCheck.Shell.Scope

/-!
Running scripts and programs. A program file is native, which says by itself what it does, or a text
whose first line names its interpreter; any other file that may be run is a script of the shell. Each
step takes from a supply of steps, so that a script without an end comes to one.
-/

namespace FenceCheck

namespace Shell

/-- The interpreter that the first line of a file names, with its argument. -/
def interpreter? (image : List UInt8) : Option (Text × List Text) :=
  match Text.ofBytes (image.takeWhile (· ≠ 0x0A)) with
  | .char '#' :: .char '!' :: line =>
      let line := Text.dropEndWhile (isOneOf " \t") (line.dropWhile (isOneOf " \t"))
      let path := line.takeWhile fun c => !isOneOf " \t" c
      let argument := (line.drop path.length).dropWhile (isOneOf " \t")
      if path.isEmpty then none
      else some (path, if argument.isEmpty then [] else [argument])
  | _ => none

def scriptOf (bytes : List UInt8) : Text := Text.ofBytes (bytes.filter (· ≠ 0))

def begin (name : Text) (arguments : List Text) : Action Unit := do
  modify fun process =>
    { process with
      name, arguments, fixed := [], hidden := none, functions := [], speaker := none, status := 0
      careful := false, traced := false, literal := false, strict := false, guarded := false
      loops := 0, traps := process.traps.filter (·.2.isEmpty), isPart := false, struck := none
      line := 0 }
  let process ← get
  let directory := process.files.cwdPath.toText
  let usual : List (Text × Text) :=
    [("IFS", " \t\n"), ("OPTIND", "1"), ("PS1", "# "), ("PS2", "> "), ("PS4", "+ ")]
  usual.forM fun (name, value) => do
    -- Prompts that are set are kept; the separators and the counter of options start anew.
    if name.length = 3 && name ≠ Text.ofString "IFS" &&
        (process.environment.lookup name).isSome then return
    Action.setVariable name value
  if process.environment.lookup (Text.ofString "PWD") ≠ some directory then
    Action.setVariable "PWD" directory
  Action.exportVariable "PWD"
  if (process.environment.lookup (Text.ofString "PATH")).isNone then
    Action.setVariable "PATH" "/usr/local/sbin:/usr/local/bin:/usr/sbin:/usr/bin:/sbin:/bin"

/-- The place of a name among the variables that a shell hands to programs. -/
def variablePlace (name : Text) : Nat :=
  let bytes := bytesOf name
  ((bytes.headD 0).toNat * 16 + (bytes.map UInt8.toNat).foldl (· + ·) 0) % 39

def handed (process : Process) : Variables :=
  process.shared.mergeSort fun a b => variablePlace a.1 ≤ variablePlace b.1

/-- Whether a word of a command that marks variables sets one, so that its value is not split. -/
def isSetting (name : Text) (word : List Piece) : Bool :=
  (["export", "readonly", "local"].any fun s => name = Text.ofString s) &&
    (assignment? [] word).isSome

mutual

def expand : Nat → List Piece → Action (List Chunk)
  | 0, _ => throw .timeUp
  | _, [] => return []
  | fuel + 1, piece :: rest => do
      let first ← expandPiece fuel piece
      return first ++ (← expand fuel rest)

def expandPiece : Nat → Piece → Action (List Chunk)
  | 0, _ => throw .timeUp
  | fuel + 1, piece => do
      let chunk (inQuotes : Bool) : Text → Chunk := if inQuotes then .whole else .split
      match piece with
      | .plain t => return [.bare t]
      | .quoted t => return [.whole t]
      | .unknown => Action.giveUp "Bad substitution"
      | .output script line inQuotes =>
          let t := scriptOf (← captured fuel line script)
          return [chunk inQuotes (Text.dropEndWhile (· = .char '\n') t)]
      | .length name inQuotes =>
          return [chunk inQuotes (Text.ofNat ((← demanded name).getD []).size)]
      | .arithmetic expression inQuotes =>
          let t := textOf (← expandInside fuel (expressionPieces (← get).line expression))
          match arithmetic (← get) t with
          | .ok (n, set) =>
              set.reverse.forM fun (name, value) => Action.setVariable name (Text.ofInt value)
              return [chunk inQuotes (Text.ofInt n)]
          | .error fault => Action.giveUp (fault.message t)
      | .parameter name rule other inQuotes =>
          if rule.isEmpty && (name = Text.ofString "@" ||
              (name = Text.ofString "*" && !inQuotes)) then
            return bordered (chunk inQuotes) (← get).arguments
          else if rule.isEmpty then return [chunk inQuotes ((← demanded name).getD [])]
          else if isCut rule then
            let value ← demanded name
            let pattern ← expandInside fuel (insidePieces (← get).line false other)
            return [chunk inQuotes (cutOff rule pattern (value.getD []))]
          else expandRule fuel name rule other inQuotes

/-- The chunks of a parameter for which a rule may put another text. -/
def expandRule : Nat → Text → Text → Text → Bool → Action (List Chunk)
  | 0, _, _, _, _ => throw .timeUp
  | fuel + 1, name, rule, other, inQuotes => do
      let process ← get
      let chunk : Text → Chunk := if inQuotes then .whole else .split
      let value := valueOf process name
      if !isReplaced rule value then
        -- This rule alone puts its text where there is a value.
        if Text.endsWith rule "+" then return if inQuotes then [.whole []] else []
        else if name = Text.ofString "@" || (name = Text.ofString "*" && !inQuotes) then
          return bordered chunk process.arguments
        else return [chunk (value.getD [])]
      else if Text.endsWith rule "?" then
        let t := textOf (← expandInside fuel (insidePieces process.line inQuotes other))
        Action.giveUp (name ++ Text.ofString ": " ++
          if !t.isEmpty then t
          else if Text.startsWith rule ":" then Text.ofString "parameter not set or null"
          else Text.ofString "parameter not set")
      else if Text.endsWith rule "=" then
        let t := textOf (← expandInside fuel (insidePieces process.line inQuotes other))
        if !isName name then Action.giveUp (name ++ Text.ofString ": bad variable name")
        Action.setVariable name t
        return [chunk t]
      else return asValue inQuotes (← expand fuel (insidePieces process.line inQuotes other))

def expandInside : Nat → List Piece → Action (List Letter)
  | 0, _ => throw .timeUp
  | fuel + 1, pieces => do
      let chunks ← expand fuel pieces
      return joinedLetters (← get).separators chunks

def expandAll : Nat → List (List Piece) → Action (List Text)
  | 0, _ => throw .timeUp
  | _, [] => return []
  | fuel + 1, word :: rest => do
      let first ← expandWord fuel word
      return first ++ (← expandAll fuel rest)

def expandWord : Nat → List Piece → Action (List Text)
  | 0, _ => throw .timeUp
  | fuel + 1, word => do
      let chunks ← expand fuel (withHome (← get) word)
      let process ← get
      let words := wordsOf process.separators chunks
      return if process.literal then words.map textOf else words.flatMap (globbed process.files)

/-- The words of a command. Those that set variables which it marks are not split. -/
def expandCommand : Nat → List (List Piece) → Action (List Text)
  | 0, _ => throw .timeUp
  | _, [] => return []
  | fuel + 1, word :: rest => do
      match ← expandWord fuel word with
      | [] => expandCommand fuel rest
      | name :: more => return name :: more ++ (← expandArguments fuel name rest)

def expandArguments : Nat → Text → List (List Piece) → Action (List Text)
  | 0, _, _ => throw .timeUp
  | _, _, [] => return []
  | fuel + 1, name, word :: rest => do
      let first ←
        if isSetting name word then do pure [textOf (← expandWhole fuel word)]
        else expandWord fuel word
      return first ++ (← expandArguments fuel name rest)

def expandWhole : Nat → List Piece → Action (List Letter)
  | 0, _ => throw .timeUp
  | fuel + 1, word => do
      let chunks ← expand fuel (withHome (← get) word)
      return joinedLetters (← get).separators chunks

/-- What a script prints in a shell of its own, which leaves its status to be asked for. -/
def captured : Nat → Nat → Text → Action (List UInt8)
  | 0, _, _ => throw .timeUp
  | fuel + 1, line, script => do
      let status := (← get).status
      let bytes ← taken (runApart fuel (runLines fuel line script))
      modify fun after => { after with status, answer := after.status }
      return bytes

/-- Redirects streams one after another, as long as that is possible. -/
def redirectAll : Nat → List Redirect → Action Bool
  | 0, _ => throw .timeUp
  | _, [] => return true
  | fuel + 1, entry :: rest => do
      let target := textOf (← expandWhole fuel entry.target)
      if ← redirect entry.stream entry.direction target then redirectAll fuel rest
      else
        Action.setStatus 2
        return false

def runLines : Nat → Nat → Text → Action Unit
  | 0, _, _ => throw .timeUp
  | fuel + 1, line, text => do
      let script := Script.ofText line text
      if script.isNothing then Action.setStatus 0 else run fuel script

def runText : Nat → Text → Action Unit
  | 0, _ => throw .timeUp
  | fuel + 1, text => runLines fuel 1 text

/-- Runs a shell up to its end, at which it runs what was left to be run then. -/
def runToEnd : Nat → Action Unit → Action Unit
  | 0, _ => throw .timeUp
  | fuel + 1, action => do
      try action
      catch
        | .exited code | .returned code => Action.setStatus code
        | .gaveUp => Action.setStatus 2
        | .left _ | .resumed _ => pure ()
        | halt => throw halt
      let process ← get
      -- It is taken out before it runs, so that it runs once.
      if let some script := process.traps.lookup 0 then
        set { process with
          traps := process.traps.filter (·.1 ≠ 0), speaker := none, loops := 0, guarded := true }
        runText fuel script
      throw (.exited process.status)

/-- Runs a part of a shell apart from it. A signal that the part sent to the whole shell is received
behind it. -/
def runApart : Nat → Action Unit → Action Unit
  | 0, _ => throw .timeUp
  | fuel + 1, action => do
      let before ← get
      apart do
        modify fun process =>
          { process with isPart := true, traps := process.traps.filter (·.2.isEmpty) }
        runToEnd fuel action
      let after ← get
      match after.struck with
      | none => return
      | some signal =>
          if !before.isPart then
            set { after with struck := none }
            receive fuel signal

/-- The shell as a program: a script is an argument, a file, or what is read. -/
def shell : Nat → Text → List Text → Action Unit
  | 0, _, _ => throw .timeUp
  | fuel + 1, name, arguments => do
      begin name []
      let (rest, _) ← Action.takeOptions "cs" (arguments.length + 1) arguments
      let letters := ((arguments.take (arguments.length - rest.length)).filter fun t =>
        Text.startsWith t "-" || Text.startsWith t "+").flatten
      if .char 'c' ∈ letters then
        match rest with
        | [] => Action.giveUp "-c requires an argument"
        | script :: rest =>
            modify fun process =>
              { process with name := rest.headD name, arguments := rest.drop 1 }
            runToEnd fuel (runText fuel script)
      else
        match if .char 's' ∈ letters then [] else rest with
        | [] =>
            modify fun process => { process with arguments := rest }
            runToEnd fuel (runText fuel (scriptOf (← Action.readAll)))
        | file :: rest => shellFile fuel file rest

def shellFile : Nat → Text → List Text → Action Unit
  | 0, _, _ => throw .timeUp
  | fuel + 1, file, arguments => do
      match (← get).files.readTyped file with
      | .ok bytes =>
          modify fun process => { process with name := file, arguments }
          runToEnd fuel (runText fuel (scriptOf bytes))
      | .error fault =>
          discard (refuseFile false file fault)
          throw .gaveUp

def runFile : Nat → Text → Text → List Text → Action Unit
  | 0, _, _, _ => throw .timeUp
  | fuel + 1, path, name, arguments => do
      let image := ((← get).files.readTyped path).toOption.getD []
      match native? image, interpreter? image with
      | some program, _ => runNative fuel program name arguments
      | none, some (interpreter, argument) =>
          runFile fuel interpreter interpreter (argument ++ path :: arguments)
      | none, none => shell fuel name (path :: arguments)

def runNative : Nat → Text → Text → List Text → Action Unit
  | 0, _, _, _ => throw .timeUp
  | fuel + 1, program, name, arguments => do
      match String.ofList (program.toChars?.getD []) with
      | "sh" => shell fuel name arguments
      | "env" => runEnv fuel name arguments
      | "cat" => Action.cat name arguments
      | "sleep" => Action.sleep name arguments
      | "echo" => Action.echoProgram arguments
      | "printf" => Action.printfProgram name arguments
      | "pwd" => Action.pwd
      | "test" => Action.testProgram name arguments
      | "head" => Action.head name arguments
      | "wc" => Action.wc name arguments
      | "seq" => Action.seq arguments
      | "tr" => Action.tr arguments
      | "false" => Action.setStatus 1
      | _ => Action.setStatus 0

def runEnv : Nat → Text → List Text → Action Unit
  | 0, _, _ => throw .timeUp
  | fuel + 1, self, arguments => do
      match arguments with
      | [] => Action.env
      | first :: rest =>
          let (name, value) := Action.settingOf first
          if let some value := value then
            Action.setVariable name value
            Action.exportVariable name
            runEnv fuel self rest
          else if first = Text.ofString "-i" || first = Text.ofString "-" then
            modify fun process => { process with environment := [] }
            runEnv fuel self rest
          else
            match first, rest with
            | [.char '-', .char 'u'], name :: rest =>
                modify fun process =>
                  { process with environment := process.environment.filter (·.1 ≠ name) }
                runEnv fuel self rest
            | _, _ =>
                let process ← get
                match Program.find? process.files process.environment first with
                | some path => runFile fuel path first rest
                | none =>
                    Action.complain (self ++ Text.ofString ": '" ++ first ++
                      Text.ofString "': No such file or directory")
                    throw (.exited 127)

def runProgram : Nat → Text → List Text → Action Unit
  | 0, _, _ => throw .timeUp
  | fuel + 1, name, arguments => do
      let process ← get
      match Program.find? process.files process.environment name with
      | some path =>
          apart do
            modify fun process => { process with environment := handed process, fixed := [] }
            runFile fuel path name arguments
      | none =>
          -- A file that is there but cannot be run is refused in another way than one that is not.
          let present := Path.slash ∈ name ∧ (process.files.findTyped name).toOption.isSome
          Action.shellComplain (name ++ Text.ofString ": " ++
            if present then Text.ofString "Permission denied" else Text.ofString "not found")
          Action.setStatus (if present then 126 else 127)

/-- Runs a simple command of one word at least; functions come before the shell's own commands, and
programs last. -/
def runWords : Nat → Text → List Text → Action Unit
  | 0, _, _ => throw .timeUp
  | fuel + 1, name, arguments => do
      match (← get).functions.lookup name with
      | some body => asFunction arguments (run fuel body)
      | none =>
          if name = Text.ofString "command" then runCommand fuel arguments
          else if specialNames.contains name then
            spokenBy name (runBuiltin fuel name arguments)
          else if builtinNames.contains name then
            spokenBy name (forgiving (runBuiltin fuel name arguments))
          else runProgram fuel name arguments

/-- Runs a command that is no function, or tells what it is. -/
def runCommand : Nat → List Text → Action Unit
  | 0, _ => throw .timeUp
  | fuel + 1, arguments => do
      match arguments with
      | [] => Action.setStatus 0
      | [.char '-', .char 'v'] :: names =>
          match names with
          | [] => Action.setStatus 0
          | name :: _ =>
              match Action.commandPath? (← get) name with
              | some path =>
                  Action.printLine path
                  Action.setStatus 0
              | none => Action.setStatus 127
      | [.char '-', .char 'V'] :: names => Action.tellAll (names.take 1)
      | [.char '-', .char 'p'] :: rest | [.char '-', .char '-'] :: rest => runCommand fuel rest
      | program :: rest =>
          if program = Text.ofString "command" then runCommand fuel rest
          else if builtinNames.contains program then
            spokenBy program (forgiving (runBuiltin fuel program rest))
          else runProgram fuel program rest

def runBuiltin : Nat → Text → List Text → Action Unit
  | 0, _, _ => throw .timeUp
  | fuel + 1, name, arguments => do
      match String.ofList (name.toChars?.getD []) with
      | "false" => Action.setStatus 1
      | "echo" => Action.echo arguments true
      | "printf" => Action.printfBuiltin arguments
      | "pwd" => Action.pwd
      | "cd" | "chdir" => Action.cd arguments
      | "kill" =>
          if arguments.head? = some (Text.ofString "-l") then Action.listSignals
          else trapped fuel (Action.kill arguments)
      | "test" => Action.testBuiltin arguments
      | "[" => Action.bracketTest arguments
      | "exit" => throw (.exited ((← Action.numberOr (← get).status arguments) % 256))
      | "return" => throw (.returned (← Action.numberOr (← get).status arguments))
      | "break" => steer .left (← Action.numberOr 1 arguments)
      | "continue" => steer .resumed (← Action.numberOr 1 arguments)
      | "wait" => Action.awaitBackground arguments
      | "exec" =>
          match arguments with
          | [] => Action.setStatus 0
          | program :: rest =>
              let process ← get
              if (Program.find? process.files process.environment program).isSome then
                -- The program that takes over ignores what was ignored, and catches nothing.
                set { process with traps := process.traps.filter (·.2.isEmpty) }
              runProgram fuel program rest
              throw (.exited (← get).status)
      | "eval" => runText fuel (Text.join " " arguments)
      | "." => runDot fuel arguments
      | "type" => Action.tellAll arguments
      | "export" => Action.exportNames arguments
      | "readonly" => Action.fixNames arguments
      | "local" => Action.hide arguments
      | "unset" => Action.unset arguments
      | "shift" => Action.shift arguments
      | "set" => Action.setOptions arguments
      | "read" => Action.readVariables arguments
      | "trap" => Action.setTraps arguments
      | "umask" =>
          if arguments.isEmpty then Action.printLine "0022"
          Action.setStatus 0
      | "ulimit" =>
          Action.printLine "unlimited"
          Action.setStatus 0
      | _ => Action.setStatus 0

/-- Runs the script in a file as a part of the one that runs. A name without a slash is looked for
where programs are. -/
def runDot : Nat → List Text → Action Unit
  | 0, _ => throw .timeUp
  | _, [] => Action.setStatus 0
  | fuel + 1, file :: _ => do
      let process ← get
      let places := if Path.slash ∈ file then [file]
        else (Program.searchDirectories process.environment).map (Program.inDirectory · file)
      match places.find? fun t => Path.slash ∈ file ∨
          Condition.leadsTo process.files FileNode.isFile t with
      | none => Action.giveUp (file ++ Text.ofString ": not found")
      | some place =>
          match process.files.readTyped place with
          | .error fault =>
              discard (refuseFile false place fault)
              throw .gaveUp
          | .ok bytes =>
              spokenBy place do
                try runText fuel (scriptOf bytes)
                catch
                  | .returned code => Action.setStatus code
                  | halt => throw halt

def trapped : Nat → Action Unit → Action Unit
  | 0, _ => throw .timeUp
  | fuel + 1, action => do
      try action
      catch
        | .killed signal => receive fuel signal
        | halt => throw halt

/-- Receives a signal, after which the status is as before. -/
def receive : Nat → Nat → Action Unit
  | 0, _ => throw .timeUp
  | fuel + 1, signal => do
      let process ← get
      -- Signal 9 cannot be caught. Signal 19 stops the shell until its time is up.
      match if signal = 9 then none else process.traps.lookup signal with
      | some script =>
          runText fuel script
          Action.setStatus process.status
      | none =>
          if signal = 19 then throw .timeUp
          else if [17, 18, 23, 28].contains signal then return
          else throw (.killed signal)

def assign : Nat → List (Text × List Piece) → Action (List Text)
  | 0, _ => throw .timeUp
  | _, [] => return []
  | fuel + 1, (name, word) :: rest => do
      let value := textOf (← expandWhole fuel word)
      Action.setVariable name value
      return (name ++ .char '=' :: value) :: (← assign fuel rest)

def runSimple : Nat → List (List Piece) → List Redirect → Action Unit
  | 0, _, _ => throw .timeUp
  | fuel + 1, words, redirects => do
      let (settings, words) := assignments words
      let words ← expandCommand fuel words
      let before ← get
      let shown := before.sink 2
      let isSpecial := words.head?.any fun name =>
        specialNames.contains name && (before.functions.lookup name).isNone
      let withInput := redirects.any (·.stream = 0)
      let action : Action Unit := do
        if !(← redirectAll fuel redirects) then
          if isSpecial then throw .gaveUp
        -- Settings in front of a special command stay; those in front of another are made for it
        -- alone.
        else if isSpecial then
          let set ← assign fuel settings
          trace shown (set ++ words)
          runWords fuel (words.headD []) (words.drop 1)
        else
          match words with
          | [] =>
              trace shown (← assign fuel settings)
              modify fun process => { process with status := process.answer }
          | name :: arguments =>
              withSettings (settings.map (·.1)) do
                let set ← assign fuel settings
                trace shown (set ++ words)
                (settings.map (·.1)).forM Action.exportVariable
                runWords fuel name arguments
      if words = [Text.ofString "exec"] then action else withStreams withInput action

def run : Nat → Script → Action Unit
  | 0, _ => throw .timeUp
  | _, .nothing => return
  | _, .faulty fault line => do
      modify fun process => { process with line }
      Action.giveUp fault.message
  | fuel + 1, .simple words redirects line => do
      modify fun process => { process with line, answer := 0 }
      runSimple fuel words redirects
      insist
  | fuel + 1, .sequence first second => do
      run fuel first
      run fuel second
  | fuel + 1, .background script => inBackground (runApart fuel (run fuel script))
  | fuel + 1, .andThen first second => do
      asCondition (run fuel first)
      if (← get).status = 0 then run fuel second
  | fuel + 1, .orElse first second => do
      asCondition (run fuel first)
      if (← get).status ≠ 0 then run fuel second
  | fuel + 1, .negate script => do
      asCondition (run fuel script)
      Action.setStatus (if (← get).status = 0 then 1 else 0)
  | fuel + 1, .pipe source target => do
      runPipe fuel source target
      insist
  | fuel + 1, .redirected body redirects line => do
      modify fun process => { process with line }
      withStreams (redirects.any (·.stream = 0)) do
        if ← redirectAll fuel redirects then run fuel body
  | fuel + 1, .apart body redirects line => do
      modify fun process => { process with line }
      runApart fuel do
        if ← redirectAll fuel redirects then run fuel body
        else throw .gaveUp
      insist
  | fuel + 1, .branch condition body other => do
      asCondition (run fuel condition)
      if (← get).status = 0 then run fuel body
      else if other.isNothing then Action.setStatus 0
      else run fuel other
  | fuel + 1, .loop condition expected body => runLoop fuel condition expected body 0
  | fuel + 1, .each name words body line => do
      modify fun process => { process with line }
      let values ← expandAll fuel words
      Action.setStatus 0
      runEach fuel name values body
  | fuel + 1, .select word cases line => do
      modify fun process => { process with line }
      let t := textOf (← expandWhole fuel word)
      runCases fuel t cases
  | _ + 1, .define name body =>
      modify fun process =>
        { process with
          functions := (name, body) :: process.functions.filter (·.1 ≠ name), status := 0 }

/-- Runs commands of which the second reads what the first prints. -/
def runPipe : Nat → Script → Script → Action Unit
  | 0, _, _ => throw .timeUp
  | fuel + 1, source, target => do
      let bytes ← taken (runApart fuel (run fuel source))
      let left := (← get).input
      modify fun process => { process with input := bytes }
      match target with
      | .pipe source target => runPipe fuel source target
      | target => runApart fuel (run fuel target)
      modify fun process => { process with input := left }

/-- Runs the rounds of a loop; `status` is that of the last round. -/
def runLoop : Nat → Script → Bool → Script → Nat → Action Unit
  | 0, _, _, _, _ => throw .timeUp
  | fuel + 1, condition, expected, body, status => do
      asCondition (run fuel condition)
      if decide ((← get).status = 0) == expected then
        if ← loopRound (run fuel body) then
          runLoop fuel condition expected body (← get).status
      else Action.setStatus status

def runEach : Nat → Text → List Text → Script → Action Unit
  | 0, _, _, _ => throw .timeUp
  | _, _, [], _ => return
  | fuel + 1, name, value :: rest, body => do
      Action.setVariable name value
      if ← loopRound (run fuel body) then runEach fuel name rest body

/-- Runs the body of the first case with a pattern that stands for a text. -/
def runCases : Nat → Text → List (List (List Piece) × Script) → Action Unit
  | 0, _, _ => throw .timeUp
  | _, _, [] => Action.setStatus 0
  | fuel + 1, t, (patterns, body) :: rest => do
      if ← anyFits fuel t patterns then
        if body.isNothing then Action.setStatus 0 else run fuel body
      else runCases fuel t rest

def anyFits : Nat → Text → List (List Piece) → Action Bool
  | 0, _, _ => throw .timeUp
  | _, _, [] => return false
  | fuel + 1, t, pattern :: rest => do
      if matchesGlob (← expandWhole fuel pattern) t then return true
      else anyFits fuel t rest

end

/-- The steps that a program may take. -/
def stepLimit : Nat := 100000

end Shell

end FenceCheck
