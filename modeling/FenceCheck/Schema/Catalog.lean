import FenceCheck.Datum.Fault
import FenceCheck.Schema.Check

/-!
The schemas of the program: one for configuration and one for reports on a run.
-/

namespace FenceCheck

structure Contract where
  name : Text
  version : Nat
  file : Text
  schema : Schema

namespace Contract

def textForm (shown : String) (parts : List Pattern) : TextForm :=
  ⟨Text.ofString shown, Pattern.sequence (parts ++ [.textEnd])⟩

def isBetween (low high : Char) : CodePoint → Bool
  | .char c => low ≤ c && c ≤ high
  | .surrogate _ => false

def isDigit : CodePoint → Bool := isBetween '0' '9'

def isLower : CodePoint → Bool := isBetween 'a' 'z'

def isAlphanumeric (c : CodePoint) : Bool := isLower c || isBetween 'A' 'Z' c || isDigit c

def markerForm : TextForm :=
  textForm "^[A-Za-z0-9_-]+$"
    [.oneOrMore fun c => isAlphanumeric c || c = .char '_' || c = .char '-']

def extensionForm : TextForm :=
  textForm "^\\.[A-Za-z0-9]+$" [.literal ".", .oneOrMore isAlphanumeric]

def moduleForm : TextForm :=
  textForm "^[a-z_/]+$" [.oneOrMore fun c => isLower c || c = .char '_' || c = .char '/']

def targetForm : TextForm :=
  textForm "^[a-z]+[0-9.]*$"
    [.oneOrMore isLower, .many fun c => isDigit c || c = .char '.']

def positive : Schema := [.kinds [.integer], .minimum 1]

def count : Schema := [.kinds [.integer], .minimum 0]

def string : Schema := [.kinds [.string]]

def nonEmpty : Schema := [.kinds [.string], .minLength 1]

def optionalString : Schema := [.kinds [.string, .null]]

def listOf (item : Schema) : Schema := [.kinds [.array], .items item]

def record (required : List Text) (fields : List (Text × Schema)) : Schema :=
  [.kinds [.object], .closed (fields.map (·.1))] ++
    (if required.isEmpty then [] else [.required required]) ++ [.fields fields]

def config : Contract :=
  { name := "scribe.config.v1", version := 1, file := "scribe.config.v1.schema.json"
    schema := record []
      [("timeout_ms", positive), ("bundle_timeout_ms", positive), ("concurrency", positive),
       ("languages", listOf nonEmpty ++ [.minItems 1]),
       ("opt_out_marker", string ++ [.form markerForm]),
       ("extensions", listOf (string ++ [.form extensionForm]) ++ [.minItems 1]),
       ("skip_dirs", listOf nonEmpty),
       ("allowed_modules", listOf (string ++ [.form moduleForm])),
       ("node", nonEmpty), ("esbuild", optionalString),
       ("target", string ++ [.form targetForm])] }

def totals : List Text := ["total", "passed", "failed", "documents", "duration_ms"]

def resultSchema : Schema :=
  record ["index", "label", "file", "line", "language", "status", "duration_ms", "output", "error"]
    [("index", count), ("label", string), ("file", string), ("line", positive),
     ("language", string), ("status", [.among [.text "pass", .text "fail"]]),
     ("duration_ms", count), ("timed_out", [.kinds [.boolean]]), ("output", string),
     ("error", optionalString)]

def runReport : Contract :=
  { name := "scribe.run-report.v1", version := 1, file := "scribe.run-report.v1.schema.json"
    schema := record
      ["schema_name", "schema_version", "tool", "kind", "run_id", "status", "target",
       "concurrency", "summary", "results"]
      [("schema_name", [.constant (.text "scribe.run-report.v1")]),
       ("schema_version", [.constant (.int 1)]),
       ("tool", [.constant (.text "scribectl")]),
       ("kind", [.constant (.text "run-report")]),
       ("run_id", string),
       ("status", [.among [.text "pass", .text "fail", .text "error"]]),
       ("target", string), ("concurrency", positive), ("error", optionalString),
       ("summary", record totals (totals.map fun name => (name, count))),
       ("results", listOf resultSchema)] }

def all : List Contract := [config, runReport]

def named? (name : Text) : Option Contract := all.find? fun contract => contract.name = name

end Contract

inductive ContractError where
  | unknown (name : Text)
  | violated (name : Text) (violation : Violation)
  /-- A violation was found of which no message can be written. -/
  | untold
  deriving Repr

namespace ContractError

def message : ContractError → Text
  | unknown name => Text.ofString "unknown schema: " ++ name
  | violated name violation =>
      Text.ofString "schema validation failed for " ++ name ++ Text.ofString " at " ++
        violation.location ++ Text.ofString ": " ++ violation.lack.message
  | untold => ScalarFault.hugeInteger.message

end ContractError

namespace Contract

/-- Accepts a value that fits the schema. The messages about all violations are written before one
of them is chosen. -/
def check (contract : Contract) (value : Datum) : Except ContractError Unit :=
  match contract.schema.firstViolation value with
  | none => .ok ()
  | some violation =>
      if (contract.schema.violations value).all (·.lack.isShowable) then
        .error (.violated contract.name violation)
      else .error .untold

def checkNamed (name : Text) (value : Datum) : Except ContractError Unit :=
  match named? name with
  | none => .error (.unknown name)
  | some contract => contract.check value

end Contract

end FenceCheck
