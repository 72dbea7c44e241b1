import FenceCheck.Document.Selection
import FenceCheck.Document.Walk
import FenceCheck.Machine.Basic
import FenceCheck.Number.Amount
import FenceCheck.Schema.Catalog

/-!
The configuration of a run. Layers are put on the defaults one after another; each is checked against
the schema and replaces the fields that it mentions.
-/

namespace FenceCheck

structure Config where
  /-- Milliseconds that a block may take. -/
  timeout : Amount
  bundleTimeout : Amount
  /-- The number of workers; zero asks for one per processor. -/
  concurrency : Amount
  languages : List Text
  marker : Text
  extensions : List Text
  skipped : List Text
  allowedModules : List Text
  node : Text
  esbuild : Option Text
  target : Text
  source : Text
  deriving DecidableEq, Repr, Inhabited

namespace Config

def defaults : Config :=
  { timeout := 5000, bundleTimeout := 30000, concurrency := 0
    languages := Selection.defaultLanguages, marker := Selection.defaultMarker
    extensions := Document.defaultExtensions, skipped := Document.defaultSkipped
    allowedModules := ["assert", "buffer", "events", "path", "querystring", "string_decoder", "url",
      "util"]
    node := "node", esbuild := none, target := "node18", source := "defaults" }

/-- The number of workers that a configuration asks for on a machine. -/
def workers (config : Config) (processors : Option Nat) : Amount :=
  if config.concurrency.isPositive then config.concurrency
  else
    match processors with
    | some (n + 1) => .whole (n + 1)
    | _ => .whole 1

inductive Field where
  | timeout
  | bundleTimeout
  | concurrency
  | languages
  | marker
  | extensions
  | skipped
  | allowedModules
  | node
  | esbuild
  | target
  deriving DecidableEq, Repr

namespace Field

def all : List Field :=
  [timeout, bundleTimeout, concurrency, languages, marker, extensions, skipped, allowedModules, node,
   esbuild, target]

def name : Field → Text
  | timeout => "timeout_ms"
  | bundleTimeout => "bundle_timeout_ms"
  | concurrency => "concurrency"
  | languages => "languages"
  | marker => "opt_out_marker"
  | extensions => "extensions"
  | skipped => "skip_dirs"
  | allowedModules => "allowed_modules"
  | node => "node"
  | esbuild => "esbuild"
  | target => "target"

def named? (name : Text) : Option Field := all.find? fun field => field.name = name

end Field

def amountOf (value : Datum) : Amount :=
  match value.opened with
  | .int n => .whole n
  | .float x => .real x
  | _ => .whole 0

def textOf (value : Datum) : Text := value.opened.plain

def textsOf (value : Datum) : List Text :=
  match value.opened with
  | .list items => items.map textOf
  | _ => []

def optionalText (value : Datum) : Option Text :=
  match value.opened with
  | .null => none
  | _ => some (textOf value)

/-- The configuration with a field set to a value that fits the schema. Languages are kept in lower
case. -/
def set (config : Config) (field : Field) (value : Datum) : Config :=
  match field with
  | .timeout => { config with timeout := amountOf value }
  | .bundleTimeout => { config with bundleTimeout := amountOf value }
  | .concurrency => { config with concurrency := amountOf value }
  | .languages => { config with languages := (textsOf value).map Text.lower }
  | .marker => { config with marker := textOf value }
  | .extensions => { config with extensions := textsOf value }
  | .skipped => { config with skipped := textsOf value }
  | .allowedModules => { config with allowedModules := textsOf value }
  | .node => { config with node := textOf value }
  | .esbuild => { config with esbuild := optionalText value }
  | .target => { config with target := textOf value }

def setEntry (entry : Datum × Datum) (config : Config) : Config :=
  match entry.1 with
  | .text name =>
      match Field.named? name with
      | some field => config.set field entry.2
      | none => config
  | _ => config

end Config

inductive ConfigError where
  | invalid (source : Text) (cause : ContractError)
  | notYaml (path : Path)
  | notToml (path : Path)
  | notTable (path : Path)
  | notMapping (path : Path)
  | absent (path : Path)
  | notInteger (name value : Text)
  deriving Repr

namespace ConfigError

def message : ConfigError → Text
  | invalid source cause =>
      Text.ofString "invalid configuration in " ++ source ++ Text.ofString ": " ++ cause.message
  | notYaml path => Text.ofString "unable to parse " ++ path.toText ++ Text.ofString ": <yaml error>"
  | notToml path => Text.ofString "unable to parse " ++ path.toText ++ Text.ofString ": <toml error>"
  | notTable path => path.toText ++ Text.ofString ": [tool.scribe] must be a table"
  | notMapping path => path.toText ++ Text.ofString ": root must be mapping"
  | absent path => Text.ofString "config file not found: " ++ path.toText
  | notInteger name value =>
      name ++ Text.ofString " must be an integer, got \x60" ++ value ++ Text.ofString "\x60"

end ConfigError

namespace Config

def merge (config : Config) (layer : List (Datum × Datum)) (source : Text) :
    Except ConfigError Config :=
  match Contract.config.check (.mapping layer) with
  | .error cause => .error (.invalid source cause)
  | .ok () => .ok { layer.foldr setEntry config with source }

end Config

end FenceCheck
