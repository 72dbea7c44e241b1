import FenceCheck.Proofs.ConfigSource

/-!
Which layer sets a field. A loaded configuration has in every field the value of the highest layer that
defines it: the overrides, the environment, the selected file, the project file and the defaults.
-/

namespace FenceCheck

namespace Datum

variable {name : Text}

theorem lookupName_text (entries : List (Datum × Datum)) (t : Text) (value : Datum) :
    lookupName ((.text t, value) :: entries) name =
      if t = name then some value else lookupName entries name :=
  rfl

theorem lookupName_append (entries more : List (Datum × Datum)) :
    lookupName (entries ++ more) name = (lookupName entries name).or (lookupName more name) := by
  induction entries with
  | nil => rfl
  | cons entry rest ih =>
      obtain ⟨key, value⟩ := entry
      cases key with
      | text t =>
          rw [List.cons_append, lookupName_text, lookupName_text]
          split
          · rfl
          · exact ih
      | _ => exact ih

end Datum

namespace Config

variable {files : Files} {directory : Path} {explicit : Option Path} {environment : Variables}
  {overrides layer : Layer} {config merged : Config}

def filled (environment : Variables) (name : Text) : Option Text :=
  (environment.lookup name).filter fun t => !(Text.strip t).isEmpty

def wholeVariable (environment : Variables) (name : Text) : Option Datum :=
  (filled environment name).bind fun t => (Integer.ofText? t).map .int

def textVariable (environment : Variables) (name : Text) : Option Datum :=
  ((environment.lookup name).filter fun t => !t.isEmpty).map .text

def fromEnvironment (environment : Variables) : Field → Option Datum
  | .timeout => wholeVariable environment "SCRIBE_TIMEOUT_MS"
  | .bundleTimeout => wholeVariable environment "SCRIBE_BUNDLE_TIMEOUT_MS"
  | .concurrency => wholeVariable environment "SCRIBE_CONCURRENCY"
  | .node => textVariable environment "SCRIBE_NODE"
  | .esbuild => textVariable environment "SCRIBE_ESBUILD"
  | _ => none

/-- Every one of some variables that is not blank is a whole number. -/
def Legible (environment : Variables) (pairs : List (Text × Text)) : Prop :=
  ∀ pair ∈ pairs, ∀ t, filled environment pair.1 = some t → (Integer.ofText? t).isSome = true

/-- The layer of some variables, each of which sets its field unless it has no value. -/
def settings (read : Text → Option Datum) (pairs : List (Text × Text)) : Layer :=
  pairs.filterMap fun pair => (read pair.1).map fun value => (.text pair.2, value)

theorem settings_cons (read : Text → Option Datum) (name field : Text) (rest : List (Text × Text)) :
    settings read ((name, field) :: rest) =
      ((read name).map fun value => (Datum.text field, value)).toList ++ settings read rest := by
  rw [settings, settings, List.filterMap_cons]
  cases read name <;> rfl

theorem integerLayer_cons (environment : Variables) (name field : Text) (rest : List (Text × Text)) :
    integerLayer environment ((name, field) :: rest) =
      match filled environment name with
      | none => integerLayer environment rest
      | some t =>
          match Integer.ofText? t with
          | none => .error (.notInteger name t)
          | some n => (integerLayer environment rest).map fun layer => (.text field, .int n) :: layer := by
  rw [integerLayer, filled]
  cases environment.lookup name with
  | none => rfl
  | some t =>
      by_cases blank : (Text.strip t).isEmpty = true
      · simp only [blank, if_true, Option.filter_some, Bool.not_true, Bool.false_eq_true, if_false]
      · simp only [blank, Option.filter_some, Bool.not_false, if_true]
        cases Integer.ofText? t with
        | none => rfl
        | some n => cases integerLayer environment rest <;> rfl

theorem integerLayer_ok {pairs : List (Text × Text)}
    (read : integerLayer environment pairs = .ok layer) :
    Legible environment pairs ∧ layer = settings (wholeVariable environment) pairs := by
  induction pairs generalizing layer with
  | nil =>
      cases read
      exact ⟨List.forall_mem_nil _, rfl⟩
  | cons pair rest ih =>
      obtain ⟨name, field⟩ := pair
      rw [integerLayer_cons] at read
      rw [settings_cons, Legible, List.forall_mem_cons, wholeVariable]
      -- A variable without a text is passed over; one with a text that is no number ends the
      -- reading.
      cases set : filled environment name with
      | none =>
          rw [set] at read
          obtain ⟨legible, rfl⟩ := ih read
          exact ⟨⟨by simp, legible⟩, rfl⟩
      | some t =>
          rw [set] at read
          cases whole : Integer.ofText? t with
          | none => simp only [whole, reduceCtorEq] at read
          | some n =>
              simp only [whole] at read
              cases later : integerLayer environment rest with
              | error => rw [later] at read; cases read
              | ok tail =>
                  rw [later] at read
                  cases read
                  obtain ⟨legible, rfl⟩ := ih later
                  refine ⟨⟨?_, legible⟩, by simp [whole]⟩
                  intro other same
                  cases same
                  rw [whole]
                  rfl

theorem textLayer_settings (environment : Variables) :
    textLayer environment = settings (textVariable environment) textVariables := by
  unfold textLayer settings
  congr 1
  funext ⟨name, field⟩
  simp only [textVariable]
  cases environment.lookup name with
  | none => rfl
  | some t => cases t <;> rfl

theorem lookup_settings_cons (read : Text → Option Datum) (name target field : Text)
    (rest : List (Text × Text)) :
    Datum.lookupName (settings read ((name, target) :: rest)) field =
      (if target = field then read name else none).or
        (Datum.lookupName (settings read rest) field) := by
  rw [settings_cons, Datum.lookupName_append]
  by_cases same : target = field <;> cases read name <;> simp [Datum.lookupName, same]

theorem lookup_settings_nil (read : Text → Option Datum) (field : Text) :
    Datum.lookupName (settings read []) field = none :=
  rfl

theorem environmentLayer_ok (read : environmentLayer environment = .ok layer) :
    Legible environment integerVariables ∧
      ∀ field : Field, Datum.lookupName layer field.name = fromEnvironment environment field := by
  obtain ⟨whole, numbers, made⟩ := Except.bind_ok.mp read
  cases made
  obtain ⟨legible, rfl⟩ := integerLayer_ok numbers
  refine ⟨legible, fun field => ?_⟩
  have whole : integerVariables =
      [(Text.ofString "SCRIBE_TIMEOUT_MS", Field.timeout.name),
       (Text.ofString "SCRIBE_BUNDLE_TIMEOUT_MS", Field.bundleTimeout.name),
       (Text.ofString "SCRIBE_CONCURRENCY", Field.concurrency.name)] := rfl
  have texts : textVariables =
      [(Text.ofString "SCRIBE_NODE", Field.node.name), (Text.ofString "SCRIBE_ESBUILD", Field.esbuild.name)] := rfl
  rw [Datum.lookupName_append, textLayer_settings, whole, texts]
  -- Each variable sets a field of its own, so that at most one of the five pairs counts.
  cases field <;> simp [lookup_settings_cons, lookup_settings_nil, Field.name_inj, fromEnvironment]

/-! The layers in their order. -/

theorem mergeLayer_ok {source : Text} :
    config.mergeLayer layer source = .ok merged ↔ config.merge layer source = .ok merged := by
  unfold mergeLayer
  cases config.merge layer source <;> simp

theorem get_mergeLayer {source : Text} (done : config.mergeLayer layer source = .ok merged)
    (field : Field) :
    merged.get field =
      ((Datum.lookupName layer field.name).map field.taken).getD (config.get field) :=
  get_merge (mergeLayer_ok.mp done) field

theorem get_mergeSome {source : Text} (done : config.mergeSome layer source = .ok merged)
    (field : Field) :
    merged.get field =
      ((Datum.lookupName layer field.name).map field.taken).getD (config.get field) := by
  unfold mergeSome at done
  cases layer with
  | nil => cases done; rfl
  | cons => exact get_mergeLayer done field

theorem get_mergeProject (done : config.mergeProject files directory explicit = .ok merged) :
    ∃ project, ProjectLayer files directory explicit project ∧ ∀ field : Field,
      merged.get field =
        ((Datum.lookupName project field.name).map field.taken).getD (config.get field) := by
  unfold mergeProject at done
  cases explicit with
  | some p =>
      cases done
      exact ⟨[], .skipped, fun _ => rfl⟩
  | none =>
      obtain ⟨there, asked, done⟩ := Except.bind_ok.mp done
      rw [Except.mapError_ok] at asked
      cases there with
      | false =>
          cases done
          exact ⟨[], .missing asked, fun _ => rfl⟩
      | true =>
          obtain ⟨layer, read, done⟩ := Except.bind_ok.mp done
          exact ⟨layer, .read asked (readToml_ok.mp read), get_mergeSome done⟩

theorem get_mergeFile {chosen : Option Path} (selected : Selected files directory explicit chosen)
    (done : config.mergeFile files chosen = .ok merged) :
    ∃ file, ChosenLayer files directory explicit file ∧ ∀ field : Field,
      merged.get field =
        ((Datum.lookupName file field.name).map field.taken).getD (config.get field) := by
  cases chosen with
  | none =>
      cases done
      exact ⟨[], .nothing selected, fun _ => rfl⟩
  | some p =>
      obtain ⟨layer, read, done⟩ := Except.bind_ok.mp done
      exact ⟨layer, .read selected (readFile_ok.mp read), get_mergeLayer done⟩

theorem get_mergeEnvironment (done : config.mergeEnvironment environment = .ok merged) :
    Legible environment integerVariables ∧ ∀ field : Field,
      merged.get field =
        ((fromEnvironment environment field).map field.taken).getD (config.get field) := by
  obtain ⟨layer, read, done⟩ := Except.bind_ok.mp done
  obtain ⟨legible, settings⟩ := environmentLayer_ok (Except.mapError_ok.mp read)
  refine ⟨legible, fun field => ?_⟩
  rw [get_mergeSome done, settings]

/-- What the highest of the layers above the defaults says about a field. -/
def topmost (overrides : Layer) (environment : Variables) (file project : Layer) (field : Field) :
    Option Datum :=
  (Datum.lookupName (overriding overrides) field.name).or
    ((fromEnvironment environment field).or
      ((Datum.lookupName file field.name).or (Datum.lookupName project field.name)))

/-- A loaded configuration has in each field what the highest layer says that mentions it, and the
default where none does. -/
theorem load_takes_highest_layer
    (loaded : load files directory explicit environment overrides = .ok config) :
    ∃ project file, ProjectLayer files directory explicit project ∧
      ChosenLayer files directory explicit file ∧ Legible environment integerVariables ∧
      ∀ field : Field,
        config.get field =
          ((topmost overrides environment file project field).map field.taken).getD
            (defaults.get field) := by
  obtain ⟨projected, first, loaded⟩ := Except.bind_ok.mp loaded
  obtain ⟨chosen, selected, loaded⟩ := Except.bind_ok.mp loaded
  obtain ⟨filed, second, loaded⟩ := Except.bind_ok.mp loaded
  obtain ⟨surrounded, third, last⟩ := Except.bind_ok.mp loaded
  obtain ⟨project, projectHeld, ofProject⟩ := get_mergeProject first
  obtain ⟨file, fileHeld, ofFile⟩ := get_mergeFile (chooseFile_ok.mp selected) second
  obtain ⟨legible, ofEnvironment⟩ := get_mergeEnvironment third
  refine ⟨project, file, projectHeld, fileHeld, legible, fun field => ?_⟩
  rw [get_mergeSome last, ofEnvironment, ofFile, ofProject]
  simp only [topmost, Option.map_or, Option.getD_or]

/-! A directory with a project file and one of the usual files. -/

def toolText : Text := "[tool.scribe]\nlanguages = [\"JS\"]\nnode = \"p\"\nconcurrency = 2\n"

def usualText : Text := "node: n\n"

def layered : Files :=
  { root := .directory
      [("pyproject.toml", .file ((Utf8.encode toolText).toOption.getD []) false),
       (".scribe.yaml", .file ((Utf8.encode usualText).toOption.getD []) false)]
    cwd := [] }

def toolLayer : Layer :=
  [(.text "languages", .list [.text "JS"]), (.text "node", .text "p"), (.text "concurrency", .int 2)]

def ofTool : Config :=
  { defaults with languages := ["js"], node := "p", concurrency := 2, source := "pyproject.toml" }

theorem layered_loads :
    load layered .here none [("SCRIBE_CONCURRENCY", "4")]
        [(.text "timeout_ms", .int 3000), (.text "concurrency", .null)] =
      .ok { ofTool with node := "n", concurrency := 4, timeout := 3000, source := "command line" } :=
  Except.toOption_some.mp (by decide +kernel)

theorem load_takes_highest_layer_four_sources :
    let environment : Variables := [("SCRIBE_CONCURRENCY", "4")]
    let overrides : Layer := [(.text "timeout_ms", .int 3000), (.text "concurrency", .null)]
    ∃ config, load layered .here none environment overrides = .ok config ∧
      ∃ project file, ProjectLayer layered .here none project ∧ ChosenLayer layered .here none file ∧
        Legible environment integerVariables ∧
        ∀ field : Field,
          config.get field =
            ((topmost overrides environment file project field).map field.taken).getD
              (defaults.get field) :=
  ⟨_, layered_loads, load_takes_highest_layer layered_loads⟩

end Config

end FenceCheck
