import FenceCheck.Files.Content
import FenceCheck.Toml.Reader
import FenceCheck.Yaml.Reader

/-!
Loading the configuration of a directory. The layers are, from the lowest: the defaults, the table
of the tool in `pyproject.toml`, the configuration file, the variables of the environment and what
the caller overrides. A file that is named explicitly is read instead of the first two files.
-/

namespace FenceCheck

namespace Config

def kindName : Datum → Text
  | .null => "NoneType"
  | .bool _ => "bool"
  | .int _ => "int"
  | .float _ => "float"
  | .text _ => "str"
  | .bytes _ => "bytes"
  | .moment (.date ..) => "datetime.date"
  | .moment (.time ..) => "datetime.time"
  | .moment (.dateTime ..) => "datetime.datetime"
  | .list _ => "list"
  | .tuple _ => "tuple"
  | .set _ => "set"
  | .mapping _ => "dict"
  | .knot _ whole => kindName whole
  | .again _ => "list"

abbrev Layer := List (Datum × Datum)

/-- The tool's table in the table of a TOML file; a file without one has an empty table. -/
def toolTable (p : Path) (table : Toml.Table) : Except Failure Layer :=
  match (Datum.lookupName table "tool").getD (.mapping []) with
  | .mapping tools =>
      match (Datum.lookupName tools "scribe").getD (.mapping []) with
      | .mapping layer => .ok layer
      | _ => .error (.config (.notTable p))
  | other => .error (.noTable (kindName other))

def readToml (files : Files) (p : Path) : Except Failure Layer := do
  match Toml.read (← files.readText p) with
  | .error .malformed => .error (.config (.notToml p))
  | .error (.scalar fault) => .error (.scalar fault)
  | .ok table => toolTable p table

/-- The mapping that a YAML file holds; an empty file has an empty one. -/
def rootMapping (p : Path) (value : Datum) : Except Failure Layer :=
  match value.opened with
  | .null => .ok []
  | .mapping layer => .ok layer
  | _ => .error (.config (.notMapping p))

def readYaml (files : Files) (p : Path) : Except Failure Layer := do
  match Yaml.read (← files.readStream p) with
  | .error .malformed => .error (.config (.notYaml p))
  | .error (.scalar fault) => .error (.scalar fault)
  | .ok value => rootMapping p value

def readFile (files : Files) (p : Path) : Except Failure Layer :=
  if p.suffix = Text.ofString ".toml" then readToml files p else readYaml files p

def fileNames : List Text := ["scribe.yaml", ".scribe.yaml", "scribe.yml", ".scribe.yml"]

/-- The configuration file of a directory: the first of the usual names that is a file. -/
def findFile (files : Files) (directory : Path) : Except Failure (Option Path) :=
  (files.firstFile? (fileNames.map directory.child)).mapError .file

def integerVariables : List (Text × Text) :=
  [("SCRIBE_TIMEOUT_MS", "timeout_ms"), ("SCRIBE_BUNDLE_TIMEOUT_MS", "bundle_timeout_ms"),
   ("SCRIBE_CONCURRENCY", "concurrency")]

def textVariables : List (Text × Text) :=
  [("SCRIBE_NODE", "node"), ("SCRIBE_ESBUILD", "esbuild")]

/-- The fields that integer variables set; blank ones set none. -/
def integerLayer (environment : Variables) : List (Text × Text) → Except ConfigError Layer
  | [] => .ok []
  | (name, field) :: rest =>
      match environment.lookup name with
      | none => integerLayer environment rest
      | some value =>
          if (Text.strip value).isEmpty then integerLayer environment rest
          else
            -- The first variable that is no number is reported, before any schema is asked.
            match Integer.ofText? value with
            | none => .error (.notInteger name value)
            | some n =>
                match integerLayer environment rest with
                | .ok layer => .ok ((.text field, .int n) :: layer)
                | .error error => .error error

/-- The fields that text variables set; empty ones set none. -/
def textLayer (environment : Variables) : Layer :=
  textVariables.filterMap fun (name, field) =>
    match environment.lookup name with
    | some (c :: value) => some (.text field, .text (c :: value))
    | _ => none

def environmentLayer (environment : Variables) : Except ConfigError Layer := do
  return (← integerLayer environment integerVariables) ++ textLayer environment

def mergeLayer (config : Config) (layer : Layer) (source : Text) : Except Failure Config :=
  match config.merge layer source with
  | .ok config => .ok config
  | .error error => .error (.ofConfig error)

def mergeSome (config : Config) (layer : Layer) (source : Text) : Except Failure Config :=
  if layer.isEmpty then .ok config else config.mergeLayer layer source

/-- The layer of the project file, which is not looked for where a file is named explicitly. -/
def mergeProject (config : Config) (files : Files) (directory : Path) :
    Option Path → Except Failure Config
  | some _ => .ok config
  | none => do
      let project := directory.child "pyproject.toml"
      if ← (files.isFile project).mapError .file then
        config.mergeSome (← readToml files project) project.toText
      else return config

/-- The configuration file to read, if there is one. A file that is named has to exist. -/
def chooseFile (files : Files) (directory : Path) : Option Path → Except Failure (Option Path)
  | none => findFile files directory
  | some p => do
      if ← (files.isFile p).mapError .file then return some p else throw (.config (.absent p))

def mergeFile (config : Config) (files : Files) : Option Path → Except Failure Config
  | none => .ok config
  | some p => do config.mergeLayer (← readFile files p) p.toText

def mergeEnvironment (config : Config) (environment : Variables) : Except Failure Config := do
  config.mergeSome (← (environmentLayer environment).mapError .config) "environment"

def overriding (overrides : Layer) : Layer := overrides.filter fun entry => !(entry.2 matches .null)

/-- The configuration for a directory. An override of null sets nothing. -/
def load (files : Files) (directory : Path) (explicit : Option Path) (environment : Variables)
    (overrides : Layer) : Except Failure Config := do
  let config ← Config.defaults.mergeProject files directory explicit
  let chosen ← chooseFile files directory explicit
  let config ← config.mergeFile files chosen
  let config ← config.mergeEnvironment environment
  config.mergeSome (overriding overrides) "command line"

end Config

end FenceCheck
