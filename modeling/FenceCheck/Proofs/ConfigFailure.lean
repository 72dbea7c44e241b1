import FenceCheck.Cli.Command
import FenceCheck.Proofs.ConfigPrecedence
import FenceCheck.Proofs.ShownNumber

/-!
How loading a configuration fails. Most of what is wrong with a configuration is said to be so; what
is not are bytes that are no text, tools that are no table, scalars that stand for nothing, and a
violation whose message would show a whole number with too many digits.
-/

namespace FenceCheck

/-! Whole numbers that were read from text can be shown again. -/

namespace Integer

end Integer

theorem Datum.lookupName_mem {entries : List (Datum × Datum)} {name : Text} {value : Datum}
    (found : lookupName entries name = some value) : (.text name, value) ∈ entries := by
  induction entries with
  | nil => cases found
  | cons entry rest ih =>
      obtain ⟨key, other⟩ := entry
      cases key with
      | text t =>
          rw [lookupName_text] at found
          split at found
          case isTrue same =>
              cases found
              rw [same]
              exact List.mem_cons_self
          case isFalse => exact List.mem_cons_of_mem _ (ih found)
      | _ => exact List.mem_cons_of_mem _ (ih found)

namespace Demand

end Demand

namespace Config

variable {files : Files} {directory p : Path} {explicit : Option Path} {environment : Variables}
  {overrides layer : Layer} {config : Config} {failure : Failure}

/-- A layer with a violation that no message can show. -/
def Untold (layer : Layer) : Prop :=
  ∃ violation ∈ Contract.config.schema.violations (.mapping layer), violation.lack.isShowable = false

def Fails {α : Type} (result : Except Failure α) (failure : Failure) : Prop :=
  result = .error failure ∧ ∀ error, failure ≠ .config error

section

variable {α β : Type}

theorem fails_error {cause : Failure} :
    Fails (.error cause : Except Failure α) failure ↔
      cause = failure ∧ ∀ error, failure ≠ .config error := by
  simp [Fails]

theorem fails_ok {value : α} : ¬ Fails (.ok value) failure := by
  simp [Fails]

theorem fails_config {error : ConfigError} :
    ¬ Fails (.error (.config error) : Except Failure α) failure := by
  rintro ⟨same, other⟩
  cases same
  exact other error rfl

end

/-- A file that is no text. `place` tells where a malformed sequence is said to be. -/
inductive Unread (files : Files) (p : Path)
    (place : List UInt8 → Utf8.Malformed → Utf8.Malformed) : Failure → Prop where
  | refused {error : FileError} (refusal : files.read p = .error error) :
      Unread files p place (.file error)
  | undecodable {bytes : List UInt8} {malformed : Utf8.Malformed} (held : files.read p = .ok bytes)
      (fault : Utf8.decode bytes = .error malformed) :
      Unread files p place (.undecodable (place bytes malformed))

/-- The text of a file, where `place` tells of a malformed sequence. -/
def decoded (files : Files) (p : Path) (place : List UInt8 → Utf8.Malformed → Utf8.Malformed) :
    Except Failure Text :=
  (files.read p).mapError .file >>= fun bytes =>
    ((Utf8.decode bytes).mapError fun malformed => .undecodable (place bytes malformed)) >>=
      fun t => .ok (Text.universalNewlines t)

/-- What reading a TOML file fails with although nothing is said to be wrong with the file. -/
inductive TomlEscapes (files : Files) (p : Path) : Failure → Prop where
  | unread {failure : Failure} (unread : Unread files p (fun _ malformed => malformed) failure) :
      TomlEscapes files p failure
  | scalar {t : Text} {fault : ScalarFault} (text : files.readText p = .ok t)
      (parsed : Toml.read t = .error (.scalar fault)) : TomlEscapes files p (.scalar fault)
  | noTable {t : Text} {table : Toml.Table} {tool : Datum} (text : files.readText p = .ok t)
      (parsed : Toml.read t = .ok table) (found : Datum.lookupName table "tool" = some tool)
      (other : ∀ entries, tool ≠ .mapping entries) : TomlEscapes files p (.noTable (kindName tool))

inductive YamlEscapes (files : Files) (p : Path) : Failure → Prop where
  | unread {failure : Failure}
      (unread : Unread files p (fun bytes malformed => malformed.inStream bytes) failure) :
      YamlEscapes files p failure
  | scalar {t : Text} {fault : ScalarFault} (text : files.readStream p = .ok t)
      (parsed : Yaml.read t = .error (.scalar fault)) : YamlEscapes files p (.scalar fault)

inductive FileEscapes (files : Files) (p : Path) (failure : Failure) : Prop where
  | toml (suffix : p.suffix = Text.ofString ".toml") (escapes : TomlEscapes files p failure) :
      FileEscapes files p failure
  | yaml (suffix : p.suffix ≠ Text.ofString ".toml") (escapes : YamlEscapes files p failure) :
      FileEscapes files p failure

theorem check_untold : Contract.config.check (.mapping layer) = .error .untold ↔ Untold layer := by
  unfold Contract.check
  cases first : Contract.config.schema.firstViolation (.mapping layer) with
  | none =>
      have clean := Violation.weightiest_none.mp first
      simp [Untold, clean]
  | some violation =>
      simp only [Untold]
      split
      case isTrue told =>
          refine iff_of_false (by simp) ?_
          rintro ⟨other, member, unshowable⟩
          rw [List.all_eq_true.mp told other member] at unshowable
          cases unshowable
      case isFalse told =>
          refine iff_of_true rfl ?_
          simpa using told

section

variable {source : Text}

theorem fails_mergeLayer :
    Fails (config.mergeLayer layer source) failure ↔
      Untold layer ∧ failure = .scalar .hugeInteger := by
  rw [mergeLayer, merge, ← check_untold]
  cases Contract.config.check (.mapping layer) with
  | ok => simp [fails_ok]
  | error cause =>
      cases cause with
      | untold =>
          simp only [true_and]
          rw [Failure.ofConfig, fails_error]
          constructor
          · rintro ⟨rfl, -⟩
            rfl
          · rintro rfl
            exact ⟨rfl, by simp⟩
      | unknown | violated => exact iff_of_false fails_config (by simp)

end

inductive ProjectEscapes (files : Files) (directory : Path) : Option Path → Failure → Prop where
  | probe {error : FileError}
      (asked : files.isFile (directory.child "pyproject.toml") = .error error) :
      ProjectEscapes files directory none (.file error)
  | read {failure : Failure} (there : files.isFile (directory.child "pyproject.toml") = .ok true)
      (escapes : TomlEscapes files (directory.child "pyproject.toml") failure) :
      ProjectEscapes files directory none failure
  | layer {layer : Layer} (there : files.isFile (directory.child "pyproject.toml") = .ok true)
      (held : TomlLayer files (directory.child "pyproject.toml") layer) (untold : Untold layer) :
      ProjectEscapes files directory none (.scalar .hugeInteger)

/-- A path on the way to the configuration file that the system does not answer for. -/
inductive ChoiceEscapes (files : Files) (directory : Path) : Option Path → Failure → Prop where
  | named {p : Path} {error : FileError} (asked : files.isFile p = .error error) :
      ChoiceEscapes files directory (some p) (.file error)
  | usual {before after : List Text} {name : Text} {error : FileError}
      (names : fileNames = before ++ name :: after)
      (earlier : ∀ other ∈ before, files.isFile (directory.child other) = .ok false)
      (asked : files.isFile (directory.child name) = .error error) :
      ChoiceEscapes files directory none (.file error)

/-- What leaves the loader without being said to be a wrong configuration, step by step. -/
inductive Escapes (files : Files) (directory : Path) (explicit : Option Path)
    (environment : Variables) (overrides : Layer) : Failure → Prop where
  | project {failure : Failure} (escapes : ProjectEscapes files directory explicit failure) :
      Escapes files directory explicit environment overrides failure
  | choice {failure : Failure} {projected : Config}
      (before : defaults.mergeProject files directory explicit = .ok projected)
      (escapes : ChoiceEscapes files directory explicit failure) :
      Escapes files directory explicit environment overrides failure
  | read {failure : Failure} {projected : Config} {p : Path}
      (before : defaults.mergeProject files directory explicit = .ok projected)
      (selected : Selected files directory explicit (some p)) (escapes : FileEscapes files p failure) :
      Escapes files directory explicit environment overrides failure
  | layer {projected : Config} {p : Path} {layer : Layer}
      (before : defaults.mergeProject files directory explicit = .ok projected)
      (selected : Selected files directory explicit (some p)) (held : FileLayer files p layer)
      (untold : Untold layer) :
      Escapes files directory explicit environment overrides (.scalar .hugeInteger)
  | override {loaded : Config} (before : load files directory explicit environment [] = .ok loaded)
      (untold : Untold (overriding overrides)) :
      Escapes files directory explicit environment overrides (.scalar .hugeInteger)

theorem Escapes.code (escapes : Escapes files directory explicit environment overrides failure) :
    failure.userCode? = none := by
  have toml {p : Path} {failure : Failure} (escapes : TomlEscapes files p failure) :
      failure.userCode? = none := by
    rcases escapes with (unread | unread) | _ | _ <;> rfl
  have yaml {p : Path} {failure : Failure} (escapes : YamlEscapes files p failure) :
      failure.userCode? = none := by
    rcases escapes with (unread | unread) | _ <;> rfl
  cases escapes with
  | project escapes =>
      cases escapes with
      | probe => rfl
      | read there escapes => exact toml escapes
      | layer => rfl
  | choice before escapes => cases escapes <;> rfl
  | read before selected escapes =>
      cases escapes with
      | toml suffix escapes => exact toml escapes
      | yaml suffix escapes => exact yaml escapes
  | layer => rfl
  | override => rfl

end Config

namespace Config

end Config

end FenceCheck
