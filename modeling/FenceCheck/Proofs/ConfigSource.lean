import FenceCheck.Config.Load
import FenceCheck.Proofs.ConfigLayer
import FenceCheck.Proofs.Fallible

/-!
Where the layers of a configuration come from: the tool's table in a TOML file, the mapping in a YAML
file, the file that is chosen among the usual ones, and the variables of the environment.
-/

namespace FenceCheck

/-- The search ends at the first place that is a file or that the system does not answer for. -/
theorem Files.firstFile_stops {files : Files} {α : Type} {place : α → Path} {names : List α}
    {found : Except FileError (Option Path)} (stops : found ≠ .ok none) :
    files.firstFile? (names.map place) = found ↔
      ∃ before name after, names = before ++ name :: after ∧
        (∀ other ∈ before, files.isFile (place other) = .ok false) ∧
        (files.isFile (place name) = .ok true ∧ found = .ok (some (place name)) ∨
          ∃ error, files.isFile (place name) = .error error ∧ found = .error error) := by
  induction names with
  | nil => simp [firstFile?, stops.symm]
  | cons first rest ih =>
      rw [List.map_cons, firstFile?]
      constructor
      · intro search
        cases asked : files.isFile (place first) with
        | error error =>
            rw [asked] at search
            exact ⟨[], first, rest, rfl, List.forall_mem_nil _, .inr ⟨error, asked, search.symm⟩⟩
        | ok here =>
            rw [asked] at search
            cases here with
            | true =>
                exact ⟨[], first, rest, rfl, List.forall_mem_nil _, .inl ⟨asked, search.symm⟩⟩
            | false =>
                obtain ⟨before, name, after, rfl, earlier, last⟩ := ih.mp search
                exact ⟨first :: before, name, after, rfl, List.forall_mem_cons.mpr ⟨asked, earlier⟩,
                  last⟩
      · rintro ⟨before, name, after, split, earlier, last⟩
        cases before with
        | nil =>
            cases split
            rcases last with ⟨asked, rfl⟩ | ⟨error, asked, rfl⟩
            · rw [asked]
              rfl
            · rw [asked]
              rfl
        | cons other before =>
            cases split
            obtain ⟨asked, earlier⟩ := List.forall_mem_cons.mp earlier
            rw [asked]
            exact ih.mpr ⟨before, name, after, rfl, earlier, last⟩

theorem Files.firstFile_none {files : Files} {paths : List Path} :
    files.firstFile? paths = .ok none ↔ ∀ p ∈ paths, files.isFile p = .ok false := by
  induction paths with
  | nil => simp [firstFile?]
  | cons first rest ih =>
      rw [firstFile?, Except.bind_ok, List.forall_mem_cons, ← ih]
      constructor
      · rintro ⟨here, asked, found⟩
        cases here with
        | true => cases found
        | false => exact ⟨asked, found⟩
      · rintro ⟨asked, found⟩
        exact ⟨false, asked, found⟩

namespace Config

variable {files : Files} {p : Path} {layer : Layer} {failure : Failure}

/-- The tool's table in the table of a TOML document, empty where there is none. -/
inductive ToolTable (table : Toml.Table) : Layer → Prop where
  | toolless (absent : Datum.lookupName table "tool" = none) : ToolTable table []
  | tableless {tools : Layer} (found : Datum.lookupName table "tool" = some (.mapping tools))
      (absent : Datum.lookupName tools "scribe" = none) : ToolTable table []
  | here {tools layer : Layer} (found : Datum.lookupName table "tool" = some (.mapping tools))
      (inside : Datum.lookupName tools "scribe" = some (.mapping layer)) : ToolTable table layer

/-- A TOML file and the layer that it holds. -/
inductive TomlLayer (files : Files) (p : Path) (layer : Layer) : Prop where
  | read {t : Text} {table : Toml.Table} (text : files.readText p = .ok t)
      (parsed : Toml.read t = .ok table) (tool : ToolTable table layer) : TomlLayer files p layer

/-- A YAML file and the layer that it holds, empty where the file is empty. -/
inductive YamlLayer (files : Files) (p : Path) : Layer → Prop where
  | mapping {t : Text} {value : Datum} {layer : Layer} (text : files.readStream p = .ok t)
      (parsed : Yaml.read t = .ok value) (opened : value.opened = .mapping layer) :
      YamlLayer files p layer
  | empty {t : Text} {value : Datum} (text : files.readStream p = .ok t)
      (parsed : Yaml.read t = .ok value) (opened : value.opened = .null) : YamlLayer files p []

theorem toolTable_ok {table : Toml.Table} : toolTable p table = .ok layer ↔ ToolTable table layer := by
  unfold toolTable
  constructor
  · intro got
    cases tool : Datum.lookupName table "tool" with
    | none =>
        rw [tool] at got
        cases got
        exact .toolless tool
    | some value =>
        rw [tool] at got
        cases value with
        | mapping tools =>
            simp only [Option.getD_some] at got
            cases inside : Datum.lookupName tools "scribe" with
            | none =>
                rw [inside] at got
                cases got
                exact .tableless tool inside
            | some value =>
                rw [inside] at got
                cases value with
                | mapping => cases got; exact .here tool inside
                | _ => cases got
        | _ => cases got
  · intro found
    cases found with
    | toolless absent => rw [absent]; rfl
    | tableless found absent => simp only [found, absent, Option.getD_some, Option.getD_none]
    | here found inside => simp only [found, inside, Option.getD_some]

theorem rootMapping_ok {value : Datum} :
    rootMapping p value = .ok layer ↔
      value.opened = .mapping layer ∨ value.opened = .null ∧ layer = [] := by
  unfold rootMapping
  cases value.opened <;> simp [eq_comm]

theorem readToml_ok : readToml files p = .ok layer ↔ TomlLayer files p layer := by
  rw [readToml, Except.bind_ok]
  constructor
  · rintro ⟨t, text, got⟩
    split at got
    · cases got
    · cases got
    · exact .read text ‹_› (toolTable_ok.mp got)
  · rintro ⟨text, parsed, tool⟩
    exact ⟨_, text, by simp only [parsed, toolTable_ok.mpr tool]⟩

theorem readYaml_ok : readYaml files p = .ok layer ↔ YamlLayer files p layer := by
  rw [readYaml, Except.bind_ok]
  constructor
  · rintro ⟨t, text, got⟩
    split at got
    · cases got
    · cases got
    · rcases rootMapping_ok.mp got with opened | ⟨opened, rfl⟩
      · exact .mapping text ‹_› opened
      · exact .empty text ‹_› opened
  · rintro (⟨text, parsed, opened⟩ | ⟨text, parsed, opened⟩)
    · exact ⟨_, text, by simp only [parsed, rootMapping_ok.mpr (.inl opened)]⟩
    · exact ⟨_, text, by simp only [parsed, rootMapping_ok.mpr (.inr ⟨opened, rfl⟩)]⟩

/-- A configuration file and the layer that it holds. -/
inductive FileLayer (files : Files) (p : Path) (layer : Layer) : Prop where
  | toml (suffix : p.suffix = Text.ofString ".toml") (held : TomlLayer files p layer) :
      FileLayer files p layer
  | yaml (suffix : p.suffix ≠ Text.ofString ".toml") (held : YamlLayer files p layer) :
      FileLayer files p layer

theorem readFile_ok : readFile files p = .ok layer ↔ FileLayer files p layer := by
  unfold readFile
  constructor
  · intro got
    split at got
    · exact .toml ‹_› (readToml_ok.mp got)
    · exact .yaml ‹_› (readYaml_ok.mp got)
  · rintro (⟨suffix, held⟩ | ⟨suffix, held⟩)
    · rw [if_pos suffix, readToml_ok.mpr held]
    · rw [if_neg suffix, readYaml_ok.mpr held]

/-! Which file is read. -/

/-- The file that is read beside the project file: the one that is named, or the first of the usual
ones. -/
inductive Selected (files : Files) (directory : Path) : Option Path → Option Path → Prop where
  | named {p : Path} (there : files.isFile p = .ok true) : Selected files directory (some p) (some p)
  | usual {before after : List Text} {name : Text} (names : fileNames = before ++ name :: after)
      (earlier : ∀ other ∈ before, files.isFile (directory.child other) = .ok false)
      (there : files.isFile (directory.child name) = .ok true) :
      Selected files directory none (some (directory.child name))
  | none (missing : ∀ name ∈ fileNames, files.isFile (directory.child name) = .ok false) :
      Selected files directory none none

theorem findFile_some {directory : Path} :
    findFile files directory = .ok (some p) ↔
      ∃ before name after, fileNames = before ++ name :: after ∧
        (∀ other ∈ before, files.isFile (directory.child other) = .ok false) ∧
        files.isFile (directory.child name) = .ok true ∧ p = directory.child name := by
  rw [findFile, Except.mapError_ok, Files.firstFile_stops (by simp)]
  simp only [Except.ok.injEq, Option.some.injEq, reduceCtorEq, and_false, exists_false, or_false]

theorem findFile_none {directory : Path} :
    findFile files directory = .ok none ↔
      ∀ name ∈ fileNames, files.isFile (directory.child name) = .ok false := by
  rw [findFile, Except.mapError_ok, Files.firstFile_none, List.forall_mem_map]

theorem chooseFile_ok {directory : Path} {explicit chosen : Option Path} :
    chooseFile files directory explicit = .ok chosen ↔ Selected files directory explicit chosen := by
  cases explicit with
  | none =>
      rw [chooseFile]
      constructor
      · intro found
        cases chosen with
        | none => exact .none (findFile_none.mp found)
        | some p =>
            obtain ⟨before, name, after, all, earlier, there, rfl⟩ := findFile_some.mp found
            exact .usual all earlier there
      · intro selected
        cases selected with
        | usual all earlier there => exact findFile_some.mpr ⟨_, _, _, all, earlier, there, rfl⟩
        | none missing => exact findFile_none.mpr missing
  | some p =>
      rw [chooseFile, Except.bind_ok]
      simp only [Except.mapError_ok]
      constructor
      · rintro ⟨here, asked, got⟩
        cases here with
        | true => cases got; exact .named asked
        | false => cases got
      · rintro ⟨there⟩
        exact ⟨true, there, rfl⟩

/-- What the project file adds: the tool's table in it, unless there is none or a file is named. -/
inductive ProjectLayer (files : Files) (directory : Path) : Option Path → Layer → Prop where
  | read {layer : Layer} (there : files.isFile (directory.child "pyproject.toml") = .ok true)
      (held : TomlLayer files (directory.child "pyproject.toml") layer) :
      ProjectLayer files directory none layer
  | missing (missing : files.isFile (directory.child "pyproject.toml") = .ok false) :
      ProjectLayer files directory none []
  | skipped {p : Path} : ProjectLayer files directory (some p) []

/-- What the selected file adds. -/
inductive ChosenLayer (files : Files) (directory : Path) (explicit : Option Path) : Layer → Prop where
  | read {p : Path} {layer : Layer} (selected : Selected files directory explicit (some p))
      (held : FileLayer files p layer) : ChosenLayer files directory explicit layer
  | nothing (selected : Selected files directory explicit none) :
      ChosenLayer files directory explicit []

end Config

end FenceCheck
