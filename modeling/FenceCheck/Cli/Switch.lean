import FenceCheck.Text.Quoted

/-!
The switches of the command line, what is known once they are read, and what can be wrong with them.
-/

namespace FenceCheck

namespace Cli

inductive Switch where
  | help
  | version
  | inBand
  | parallel
  | timeout
  | config
  | list
  | json
  | report
  | junit
  | runId
  | jsonLog
  | verbose
  | quiet
  deriving DecidableEq, Repr

namespace Switch

def all : List Switch :=
  [help, version, inBand, parallel, timeout, config, list, json, report, junit, runId, jsonLog,
   verbose, quiet]

/-- The names of a switch, a short one first. -/
def names : Switch → List Text
  | help => ["-h", "--help"]
  | version => ["--version"]
  | inBand => ["-i", "--runInBand"]
  | parallel => ["-j", "--parallel"]
  | timeout => ["--timeout-ms"]
  | config => ["--config"]
  | list => ["--list"]
  | json => ["--json"]
  | report => ["--report"]
  | junit => ["--junitxml"]
  | runId => ["--run-id"]
  | jsonLog => ["--log-json"]
  | verbose => ["--verbose"]
  | quiet => ["--quiet"]

def takesValue : Switch → Bool
  | parallel | timeout | config | report | junit | runId => true
  | _ => false

/-- The switch that a switch excludes. -/
def rival? : Switch → Option Switch
  | inBand => some parallel
  | parallel => some inBand
  | verbose => some quiet
  | quiet => some verbose
  | _ => none

def label (switch : Switch) : Text := Text.join "/" switch.names

def table : List (Text × Switch) :=
  all.flatMap fun switch => switch.names.map fun name => (name, switch)

def named? (name : Text) : Option Switch := table.lookup name

/-- Whether a name has one hyphen, so that others may follow it in one word. -/
def isShort (name : Text) : Bool := !Text.startsWith name "--"

end Switch

/-- What is known of a switch that takes a value. -/
inductive Setting (α : Type) where
  | absent
  /-- The divider was attached to the switch. It is no value, so that none is left. -/
  | void
  | given (value : α)
  deriving DecidableEq, Repr, Inhabited

namespace Setting

def value? : Setting α → Option α
  | given value => some value
  | _ => none

end Setting

structure Arguments where
  path : Text
  inBand : Bool
  parallel : Setting Int
  timeout : Setting Int
  config : Setting Text
  list : Bool
  json : Bool
  report : Setting Text
  junit : Setting Text
  runId : Setting Text
  jsonLog : Bool
  verbose : Bool
  quiet : Bool
  deriving DecidableEq, Repr, Inhabited

inductive UsageError where
  | missingValue (switch : Switch)
  | notInteger (switch : Switch) (value : Text)
  | notPositive (switch : Switch) (value : Int)
  | needlessValue (switch : Switch) (value : Text)
  | excluded (switch rival : Switch)
  | ambiguous (word : Text) (names : List Text)
  | missingPath
  | unknownWords (words : List Text)
  deriving DecidableEq, Repr

namespace UsageError

def about (switch : Switch) (message : Text) : Text :=
  Text.ofString "argument " ++ switch.label ++ Text.ofString ": " ++ message

def message : UsageError → Text
  | missingValue switch => about switch "expected one argument"
  | notInteger switch value =>
      about switch (Text.ofString "expected an integer, got \x60" ++ value ++
        Text.ofString "\x60")
  | notPositive switch value =>
      about switch (Text.ofString "must be >= 1, got " ++ Text.ofInt value)
  | needlessValue switch value =>
      about switch (Text.ofString "ignored explicit argument " ++ Text.quoted value)
  | excluded switch rival =>
      about switch (Text.ofString "not allowed with argument " ++ rival.label)
  | ambiguous word names =>
      Text.ofString "ambiguous option: " ++ word ++ Text.ofString " could match " ++
        Text.join ", " names
  | missingPath => "the following arguments are required: path"
  | unknownWords words => Text.ofString "unrecognized arguments: " ++ Text.join " " words

end UsageError

end Cli

end FenceCheck
