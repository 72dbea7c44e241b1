import FenceCheck.Shell.Glob
import FenceCheck.Shell.Process

/-!
What words become when a command is run: values are put in, split at separators where they are not
quoted, and what is not quoted may be a pattern.
-/

namespace FenceCheck

namespace Shell

/-- A part of a word: text that stands for itself, text that may be a pattern, a value that is also
split, or the border between two words. -/
inductive Chunk where
  | whole (t : Text)
  | bare (t : Text)
  | split (t : Text)
  | border
  deriving DecidableEq, Repr

def letters (literal : Bool) (t : Text) : List Letter := t.map fun c => ⟨c, literal⟩

def isSpacing (c : CodePoint) : Bool := isOneOf " \t\n" c

/-- The words that were made, the one that is being made, and whether a blank ended the last one, so
that a mark behind it ends no other. -/
structure Cutting where
  done : List (List Letter)
  current : Option (List Letter)
  spaced : Bool

namespace Cutting

def start : Cutting := ⟨[], none, false⟩

def add (c : Cutting) (letters : List Letter) : Cutting :=
  { c with current := some (c.current.getD [] ++ letters), spaced := false }

def close (c : Cutting) : Cutting := ⟨c.done ++ c.current.toList, none, false⟩

def step (separators : Text) (c : Cutting) (letter : Letter) : Cutting :=
  if letter.literal || letter.point ∉ separators then c.add [letter]
  else if isSpacing letter.point then
    if c.current.isSome then { c.close with spaced := true } else c
  else if c.spaced then { c with spaced := false }
  else ⟨c.done ++ [c.current.getD []], none, false⟩

def chunk (separators : Text) (c : Cutting) : Chunk → Cutting
  | .whole t => c.add (letters true t)
  | .bare t => c.add (letters false t)
  | .border => c.close
  | .split t => (letters false t).foldl (step separators) { c with spaced := false }

end Cutting

def wordsOf (separators : Text) (chunks : List Chunk) : List (List Letter) :=
  (chunks.foldl (Cutting.chunk separators) .start).close.done

/-- The letters of chunks that are not split; the first separator stands at a border. -/
def joinedLetters (separators : Text) (chunks : List Chunk) : List Letter :=
  chunks.flatMap fun
    | .whole t => letters true t
    | .bare t | .split t => letters false t
    | .border => letters true (separators.take 1)

def bordered (chunk : Text → Chunk) (values : List Text) : List Chunk :=
  (values.map chunk).intersperse .border

/-- Where the value of a last word ends: before separators that end it, unless there is more than
one mark among them. `ending` is where the value would end so far. -/
def lastEnd (separators : Text) : Nat → Option Nat → Bool → List Letter → Option Nat
  | _, ending, _, [] => ending
  | place, ending, spaced, letter :: rest =>
      let isSeparator := !letter.literal && letter.point ∈ separators
      let isBlank := isSeparator && isSpacing letter.point
      match ending with
      | some _ =>
          if isBlank then lastEnd separators (place + 1) ending spaced rest
          else if isSeparator && spaced then lastEnd separators (place + 1) ending false rest
          else lastEnd separators (place + 1) none false rest
      | none =>
          lastEnd separators (place + 1) (if isSeparator then some place else none) isBlank rest

/-- The last word of a line that is read: all of it but the separators that end it. -/
def lastField (separators : Text) (line : List Letter) : List Letter :=
  let line := line.dropWhile fun letter =>
    !letter.literal && letter.point ∈ separators && isSpacing letter.point
  match lastEnd separators 0 none false line with
  | some place => line.take place
  | none => line

def firstField (separators : Text) : Cutting → List Letter → List Letter × List Letter
  | c, [] => (c.current.getD [], [])
  | c, letter :: rest =>
      let next := c.step separators letter
      match next.done with
      | [] => firstField separators next rest
      | word :: _ =>
          if next.spaced then
            -- A blank that ends a word takes more blanks with it, and one mark behind them.
            let behind := rest.dropWhile fun letter =>
              !letter.literal && letter.point ∈ separators && isSpacing letter.point
            match behind with
            | mark :: more =>
                if !mark.literal && mark.point ∈ separators then (word, more) else (word, behind)
            | [] => (word, [])
          else (word, rest)

/-- The words of a line that is read into some variables; the last one takes what is left. -/
def fieldsOf (separators : Text) : Nat → List Letter → List (List Letter)
  | 0, _ => []
  | 1, line => [lastField separators line]
  | count + 2, line =>
      let (word, rest) := firstField separators .start line
      word :: fieldsOf separators (count + 1) rest

/-- The letters of a line in which backslashes hide what follows them. -/
def lineLetters : Text → List Letter
  | .char '\\' :: c :: rest => ⟨c, true⟩ :: lineLetters rest
  | [.char '\\'] => []
  | c :: rest => ⟨c, false⟩ :: lineLetters rest
  | [] => []

/-- Assignments at the start of a simple command, and the words behind them. -/
def assignments : List (List Piece) → List (Text × List Piece) × List (List Piece)
  | [] => ([], [])
  | word :: rest =>
      match assignment? [] word with
      | some entry =>
          let (more, words) := assignments rest
          (entry :: more, words)
      | none => ([], word :: rest)

def withHome (process : Process) (word : List Piece) : List Piece :=
  let isSlash (piece : Piece) : Bool := piece = .plain [Path.slash]
  match word with
  | .plain [.char '~'] :: rest =>
      let name := rest.takeWhile (!isSlash ·)
      let home :=
        match plainWord? name with
        | some [] => process.environment.lookup (Text.ofString "HOME")
        | some t => if t = Text.ofString "root" then some (Text.ofString "/root") else none
        | none => none
      match home with
      | some home => .quoted home :: rest.drop name.length
      | none => word
  | word => word

def options (process : Process) : Text :=
  (if process.careful then Text.ofString "u" else []) ++
    (if process.traced then Text.ofString "x" else []) ++
    (if process.literal then Text.ofString "f" else []) ++
    (if process.strict then Text.ofString "e" else [])

def isAlwaysSet (name : Text) : Bool :=
  ["@", "*", "#", "?", "-", "$", "!", "0"].any fun s => name = Text.ofString s

/-- The number by which a shell knows itself. -/
def ownNumber : Text := "1000"

def valueOf (process : Process) (name : Text) : Option Text :=
  match String.ofList (name.toChars?.getD []) with
  | "#" => some (Text.ofNat process.arguments.length)
  | "?" => some (Text.ofNat process.status)
  | "$" => some ownNumber
  | "-" => some (options process)
  | "0" => some process.name
  | "@" | "*" =>
      if process.arguments.isEmpty then none
      else some (Text.join (process.separators.take 1) process.arguments)
  | _ =>
      if name.all isDigit && !name.isEmpty then process.arguments[numberOf name - 1]?
      else process.environment.lookup name

/-- The value of a parameter, which has to have one if the shell is careful. -/
def demanded (name : Text) : Action (Option Text) := do
  let process ← get
  let value := valueOf process name
  if process.careful && value.isNone && !isAlwaysSet name then
    Action.giveUp (name ++ Text.ofString ": parameter not set")
  return value

/-- A text between double quotes in which backslashes hid closing braces. -/
def withBraces : Text → Text
  | .char '\\' :: c :: rest =>
      if c = .char '\x7d' then c :: withBraces rest else .char '\\' :: c :: withBraces rest
  | c :: rest => c :: withBraces rest
  | [] => []

def insidePieces (line : Nat) (inQuotes : Bool) (t : Text) : List Piece :=
  let t := if inQuotes then .char '\x22' :: withBraces t ++ [.char '\x22'] else t
  match wordPieces false (t.length + 1) line t with
  | .ok (pieces, _) => pieces
  | .error _ => [.quoted t]

def expressionPieces (line : Nat) (t : Text) : List Piece :=
  match inDoubleQuotes false (t.length + 1) line t with
  | .ok (pieces, _) => pieces
  | .error _ => [.quoted t]

/-- Chunks in the place of a value, of which what is not quoted is split. -/
def splitChunks : List Chunk → List Chunk
  | .bare t :: rest | .split t :: rest =>
      match splitChunks rest with
      | .split more :: rest => .split (t ++ more) :: rest
      | rest => .split t :: rest
  | chunk :: rest => chunk :: splitChunks rest
  | [] => []

def asValue (inQuotes : Bool) (chunks : List Chunk) : List Chunk :=
  if inQuotes then
    chunks.map fun
      | .bare t | .split t => .whole t
      | chunk => chunk
  else splitChunks chunks

def isReplaced (rule : Text) (value : Option Text) : Bool :=
  let absent := if Text.startsWith rule ":" then (value.getD []).isEmpty else value.isNone
  if Text.endsWith rule "+" then !absent else absent

def isCut (rule : Text) : Bool := Text.startsWith rule "%" || Text.startsWith rule "#"

/-- A value without the shortest or the longest part at one end that a pattern stands for. -/
def cutOff (rule : Text) (pattern : List Letter) (value : Text) : Text :=
  let parts := partsOf pattern
  let units := byteUnits value
  let sizes := List.range (units.length + 1)
  -- A doubled sign asks for the longest part, so the sizes are tried from the largest.
  let sizes := if rule.length = 2 then sizes.reverse else sizes
  let left :=
    if Text.startsWith rule "%" then
      match sizes.find? fun n => matchesParts parts (units.drop (units.length - n)) with
      | some n => units.take (units.length - n)
      | none => units
    else
      match sizes.find? fun n => matchesParts parts (units.take n) with
      | some n => units.drop n
      | none => units
  Text.ofBytes (bytesOf left)

/-- The value of an expression in which values were put, with the variables that it sets. -/
def arithmetic (process : Process) (t : Text) :
    Except ArithmeticFault (Int × List (Text × Int)) := do
  let expression ← Expression.ofText t
  expression.value (fun name => numberIn ((process.environment.lookup name).getD [])) []

end Shell

end FenceCheck
