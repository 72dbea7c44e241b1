import FenceCheck.Cli.Switch
import FenceCheck.Text.Digit

/-!
Reading the command line. Each word is first told to be a switch, a value or the divider, after which
all words are values; then switches act in their order. A long name may be cut short where that is
not ambiguous, a value may be attached to its switch, and short names may be put into one word.
-/

namespace FenceCheck

namespace Cli

inductive Role where
  | switch (switch : Switch) (short : Bool) (attached : Option Text)
  | unknown
  | value
  | divider
  deriving DecidableEq, Repr

structure Word where
  typed : Text
  role : Role
  deriving DecidableEq, Repr

def cutAtEquals (t : Text) : Text × Option Text :=
  match t.dropWhile (· ≠ .char '=') with
  | [] => (t, none)
  | _ :: attached => (t.takeWhile (· ≠ .char '='), some attached)

/-- The switches that a word may abbreviate, with their names and what is attached to them. -/
def candidates (t : Text) : List (Text × Role) :=
  if Switch.isShort t then
    Switch.table.filterMap fun (name, switch) =>
      if name = t.take 2 then some (name, .switch switch true (some (t.drop 2))) else none
  else
    let (start, attached) := cutAtEquals t
    Switch.table.filterMap fun (name, switch) =>
      if Text.startsWith name start then
        some (name, .switch switch (Switch.isShort name) attached)
      else none

def isDigitPoint (c : CodePoint) : Bool := c.decimalDigit?.isSome

/-- Whether a word is a negative number, which counts as a value. -/
def isNegativeNumber (t : Text) : Bool :=
  match t with
  | .char '-' :: number =>
      let number := if number.getLast? = some (.char '\n') then number.dropLast else number
      let whole := number.takeWhile isDigitPoint
      match number.dropWhile isDigitPoint with
      | [] => !whole.isEmpty
      | .char '.' :: places => !places.isEmpty && places.all isDigitPoint
      | _ => false
  | _ => false

def roleOf (t : Text) : Except UsageError Role :=
  if !Text.startsWith t "-" then .ok .value
  else
    match Switch.named? t, cutAtEquals t with
    | some switch, _ => .ok (.switch switch (Switch.isShort t) none)
    | none, (name, attached) =>
        if t.length = 1 then .ok .value
        else
          match if attached.isSome then Switch.named? name else none with
          | some switch => .ok (.switch switch (Switch.isShort name) attached)
          | none =>
              -- A name that is written out is never taken for an abbreviation of others.
              match candidates t with
              | [(_, role)] => .ok role
              | [] =>
                  if isNegativeNumber t || .char ' ' ∈ t then .ok .value else .ok .unknown
              | several => .error (.ambiguous t (several.map (·.1)))

def wordsOf : List Text → Except UsageError (List Word)
  | [] => .ok []
  | t :: rest =>
      -- Behind the divider every word is a value, whatever it looks like.
      if t = Text.ofString "--" then
        .ok (⟨t, .divider⟩ :: rest.map fun value => ⟨value, .value⟩)
      else
        match roleOf t with
        | .error error => .error error
        | .ok role =>
            match wordsOf rest with
            | .error error => .error error
            | .ok words => .ok (⟨t, role⟩ :: words)

inductive Halt where
  | help
  | version
  | error (error : UsageError)
  deriving DecidableEq, Repr

structure Reading where
  path : Option Text
  arguments : Arguments
  seen : List Switch
  extra : List Text

namespace Reading

def start : Reading := ⟨none, default, [], []⟩

def addExtra (reading : Reading) (word : Text) : Reading :=
  { reading with extra := reading.extra ++ [word] }

/-- The value of a switch. The divider is none. -/
def setting (value : Text) : Setting Text :=
  if value = Text.ofString "--" then .void else .given value

def positive (switch : Switch) (value : Text) : Except Halt (Setting Int) :=
  match setting value with
  | .absent => .ok .absent
  | .void => .ok .void
  | .given value =>
      match Integer.ofText? value with
      | none => .error (.error (.notInteger switch value))
      | some n => if n < 1 then .error (.error (.notPositive switch n)) else .ok (.given n)

def set (arguments : Arguments) (value : Text) : Switch → Except Halt Arguments
  | .help => .error .help
  | .version => .error .version
  | .inBand => .ok { arguments with inBand := true }
  | .parallel => do return { arguments with parallel := ← positive .parallel value }
  | .timeout => do return { arguments with timeout := ← positive .timeout value }
  | .config => .ok { arguments with config := setting value }
  | .list => .ok { arguments with list := true }
  | .json => .ok { arguments with json := true }
  | .report => .ok { arguments with report := setting value }
  | .junit => .ok { arguments with junit := setting value }
  | .runId => .ok { arguments with runId := setting value }
  | .jsonLog => .ok { arguments with jsonLog := true }
  | .verbose => .ok { arguments with verbose := true }
  | .quiet => .ok { arguments with quiet := true }

/-- A switch acts. It must not be excluded by one that acted before. -/
def act (reading : Reading) (switch : Switch) (value : Text) : Except Halt Reading := do
  let arguments ← set reading.arguments value switch
  match switch.rival? with
  | some rival =>
      if rival ∈ reading.seen then throw (.error (.excluded switch rival))
  | none => pure ()
  return { reading with arguments, seen := switch :: reading.seen }

end Reading

/-- The switches in one word, the last with the value attached to it. A switch that takes no value
may be followed by further short names. -/
def unbundle (switch : Switch) (short : Bool) : Text → Except UsageError (List (Switch × Option Text))
  | [] =>
      if switch.takesValue then .ok [(switch, some [])]
      else .error (.needlessValue switch [])
  | c :: rest =>
      if switch.takesValue then .ok [(switch, some (c :: rest))]
      else
        -- Only behind a short name the next code point can be a name of its own.
        match if short then Switch.named? [.char '-', c] else none with
        | none => .error (.needlessValue switch (c :: rest))
        | some next =>
            if rest.isEmpty then .ok [(switch, none), (next, none)]
            else (unbundle next true rest).map ((switch, none) :: ·)

def switchesOf (switch : Switch) (short : Bool) :
    Option Text → Except UsageError (List (Switch × Option Text))
  | none => .ok [(switch, none)]
  | some attached => unbundle switch short attached

def lacksValue (switches : List (Switch × Option Text)) : Option Switch :=
  match switches.getLast? with
  | some (switch, none) => if switch.takesValue then some switch else none
  | _ => none

def actAll (reading : Reading) (value : Text) :
    List (Switch × Option Text) → Except Halt Reading
  | [] => .ok reading
  | (switch, attached) :: rest => do
      actAll (← reading.act switch (attached.getD value)) value rest

/-- Reads words in their order. The first value is the path, and a divider beside it says nothing
more. -/
def read (reading : Reading) : List Word → Except Halt Reading
  | [] => .ok reading
  | ⟨typed, .unknown⟩ :: rest => read (reading.addExtra typed) rest
  | ⟨typed, .value⟩ :: rest =>
      if reading.path.isSome then read (reading.addExtra typed) rest
      else
        match rest with
        -- A divider right behind the path is taken together with it.
        | ⟨_, .divider⟩ :: more => read { reading with path := some typed } more
        | more => read { reading with path := some typed } more
  | ⟨typed, .divider⟩ :: rest =>
      if reading.path.isSome then read (reading.addExtra typed) rest
      else
        match rest with
        | [] => .ok (reading.addExtra typed)
        | ⟨value, _⟩ :: more => read { reading with path := some value } more
  | ⟨_, .switch switch short attached⟩ :: rest =>
      match switchesOf switch short attached with
      | .error error => .error (.error error)
      | .ok switches =>
          match lacksValue switches, rest with
          | none, rest => do read (← actAll reading [] switches) rest
          | some _, ⟨value, .value⟩ :: more => do read (← actAll reading value switches) more
          | some needing, _ => .error (.error (.missingValue needing))
  termination_by words => words.length

/-- What a command line asks for. There has to be a path and no word that means nothing. -/
def parse (typed : List Text) : Except Halt Arguments :=
  match wordsOf typed with
  | .error error => .error (.error error)
  | .ok words =>
      match read .start words with
      | .error halt => .error halt
      | .ok reading =>
          match reading.path with
          | none => .error (.error .missingPath)
          | some path =>
              if reading.extra.isEmpty then .ok { reading.arguments with path }
              else .error (.error (.unknownWords reading.extra))

end Cli

end FenceCheck
