import FenceCheck.Proofs.SchemaFit
import FenceCheck.Config.Basic

/-!
What a layer does to a configuration. An accepted layer has no keys but names of fields, every value
in it fits the schema of its field, and merging replaces exactly the fields that it names.
-/

namespace FenceCheck

namespace Config

namespace Field

def schema : Field → Schema
  | timeout | bundleTimeout | concurrency => Contract.positive
  | languages => Contract.listOf Contract.nonEmpty ++ [.minItems 1]
  | marker => Contract.string ++ [.form Contract.markerForm]
  | extensions =>
      Contract.listOf (Contract.string ++ [.form Contract.extensionForm]) ++ [.minItems 1]
  | skipped => Contract.listOf Contract.nonEmpty
  | allowedModules => Contract.listOf (Contract.string ++ [.form Contract.moduleForm])
  | node => Contract.nonEmpty
  | esbuild => Contract.optionalString
  | target => Contract.string ++ [.form Contract.targetForm]

theorem mem_all (field : Field) : field ∈ all := by cases field <;> decide

theorem named_name (field : Field) : named? field.name = some field := by
  cases field <;> decide +kernel

/-- The value of a field once it is set: a list becomes a tuple of texts, in lower case where the
field holds languages, and any other value stays what it is. -/
def taken (field : Field) (value : Datum) : Datum :=
  match value.opened with
  | .list items =>
      .tuple (items.map fun item =>
        .text (if field = languages then item.opened.plain.lower else item.opened.plain))
  | whole => whole

end Field

theorem schema_fields :
    Contract.config.schema =
      [.kinds [.object], .closed (Field.all.map Field.name),
       .fields (Field.all.map fun field => (field.name, field.schema))] :=
  rfl

def amountValue : Amount → Datum
  | .whole n => .int n
  | .real x => .float x

def textsValue (texts : List Text) : Datum := .tuple (texts.map .text)

def textValue? : Option Text → Datum
  | none => .null
  | some t => .text t

theorem amountValue_inj {first second : Amount} (same : amountValue first = amountValue second) :
    first = second := by
  cases first <;> cases second <;> cases same <;> rfl

theorem textsValue_inj {first second : List Text} (same : textsValue first = textsValue second) :
    first = second :=
  (List.map_inj_right fun _ _ => Datum.text.inj).mp (Datum.tuple.inj same)

theorem textValue?_inj {first second : Option Text} (same : textValue? first = textValue? second) :
    first = second := by
  cases first <;> cases second <;> cases same <;> rfl

def get (config : Config) : Field → Datum
  | .timeout => amountValue config.timeout
  | .bundleTimeout => amountValue config.bundleTimeout
  | .concurrency => amountValue config.concurrency
  | .languages => textsValue config.languages
  | .marker => .text config.marker
  | .extensions => textsValue config.extensions
  | .skipped => textsValue config.skipped
  | .allowedModules => textsValue config.allowedModules
  | .node => .text config.node
  | .esbuild => textValue? config.esbuild
  | .target => .text config.target

theorem get_set_other {field other : Field} (different : other ≠ field) (config : Config)
    (value : Datum) : (config.set field value).get other = config.get other := by
  cases field <;> cases other <;> first | rfl | exact absurd rfl different

theorem get_source (config : Config) (source : Text) (field : Field) :
    get { config with source } field = config.get field := by
  cases field <;> rfl

/-! The values that fit the schemas of fields. -/

section

variable {value : Datum}

theorem opened_positive (fits : Contract.positive.Fits value) :
    (∃ n, value.opened = .int n) ∨ ∃ x, value.opened = .float x := by
  obtain ⟨kind, -⟩ := Schema.fits_cons.mp fits
  rcases Kind.admits_integer.mp (Demand.met_kind.mp kind) with whole | ⟨x, real, -⟩
  · exact Or.inl whole
  · exact Or.inr ⟨x, real⟩

theorem opened_string {rest : Schema} (fits : Schema.Fits (.kinds [.string] :: rest) value) :
    ∃ t, value.opened = .text t :=
  Kind.admits_string.mp (Demand.met_kind.mp (Schema.fits_cons.mp fits).1)

theorem opened_optionalString (fits : Contract.optionalString.Fits value) :
    value.opened = .null ∨ ∃ t, value.opened = .text t := by
  obtain ⟨kind, -⟩ := Schema.fits_cons.mp fits
  obtain ⟨kind, member, admitted⟩ := Demand.met_kinds.mp kind
  rcases List.mem_cons.mp member with rfl | member
  · exact Or.inr (Kind.admits_string.mp admitted)
  · rw [List.mem_singleton] at member
    subst member
    exact Or.inl (Kind.admits_null.mp admitted)

theorem opened_list {rest : Schema} (fits : Schema.Fits (.kinds [.array] :: rest) value) :
    ∃ items, value.opened = .list items :=
  Kind.admits_array.mp (Demand.met_kind.mp (Schema.fits_cons.mp fits).1)

theorem get_set {field : Field} (fits : field.schema.Fits value) (config : Config) :
    (config.set field value).get field = field.taken value := by
  cases field with
  | timeout | bundleTimeout | concurrency =>
      rcases opened_positive fits with ⟨n, opened⟩ | ⟨x, opened⟩ <;>
        simp only [get, set, amountOf, Field.taken, opened, amountValue]
  | languages =>
      obtain ⟨items, opened⟩ := opened_list fits
      simp [get, set, textsOf, textsValue, textOf, Field.taken, opened, Function.comp_def]
  | extensions | skipped | allowedModules =>
      obtain ⟨items, opened⟩ := opened_list fits
      simp [get, set, textsOf, textsValue, textOf, Field.taken, opened, Function.comp_def]
  | marker | node | target =>
      obtain ⟨t, opened⟩ := opened_string fits
      simp only [get, set, textOf, Field.taken, opened, Datum.plain]
  | esbuild =>
      rcases opened_optionalString fits with opened | ⟨t, opened⟩ <;>
        simp only [get, set, optionalText, textOf, Field.taken, opened, textValue?, Datum.plain]

end

structure Accepted (layer : List (Datum × Datum)) : Prop where
  named : ∀ entry ∈ layer, ∃ field : Field, entry.1 = .text field.name
  fits : ∀ (field : Field) (value : Datum), Datum.lookupName layer field.name = some value →
    field.schema.Fits value

theorem check_accepted {layer : List (Datum × Datum)} :
    Contract.config.check (.mapping layer) = .ok () ↔ Accepted layer := by
  rw [Contract.check_ok, schema_fields]
  simp only [Schema.fits_cons, Demand.met_kind, Demand.met_closed, Demand.met_fields]
  constructor
  · rintro ⟨-, closed, fields, -⟩
    refine ⟨fun entry member => ?_, fun field value found => ?_⟩
    · obtain ⟨name, known, key⟩ := closed entry member
      obtain ⟨field, -, rfl⟩ := List.mem_map.mp known
      exact ⟨field, key⟩
    · exact fields (field.name, field.schema) (List.mem_map_of_mem field.mem_all) value found
  · rintro ⟨named, fits⟩
    refine ⟨rfl, fun entry member => ?_, fun entry member => ?_, Schema.fits_nil⟩
    · obtain ⟨field, key⟩ := named entry member
      exact ⟨field.name, List.mem_map_of_mem field.mem_all, key⟩
    · obtain ⟨field, -, rfl⟩ := List.mem_map.mp member
      exact fits field

theorem merge_ok {config merged : Config} {layer : List (Datum × Datum)} {source : Text} :
    config.merge layer source = .ok merged ↔
      Accepted layer ∧ merged = { layer.foldr setEntry config with source } := by
  rw [← check_accepted, merge]
  cases Contract.config.check (.mapping layer) with
  | ok => simp [eq_comm]
  | error cause => simp

theorem setEntry_named (field : Field) (value : Datum) (config : Config) :
    setEntry (.text field.name, value) config = config.set field value := by
  simp [setEntry, Field.named_name]

theorem Field.name_inj {field other : Field} : field.name = other.name ↔ field = other := by
  refine ⟨fun same => ?_, congrArg name⟩
  have known := named_name field
  rw [same, named_name] at known
  exact (Option.some.inj known).symm

theorem get_foldr {layer : List (Datum × Datum)} (accepted : Accepted layer) (config : Config)
    (field : Field) :
    (layer.foldr setEntry config).get field =
      ((Datum.lookupName layer field.name).map field.taken).getD (config.get field) := by
  obtain ⟨named, fits⟩ := accepted
  replace fits := fits field
  -- Only the first value under a name has been checked, and it is the one set last.
  induction layer with
  | nil => rfl
  | cons entry rest ih =>
      obtain ⟨key, value⟩ := entry
      obtain ⟨⟨other, same⟩, later⟩ := List.forall_mem_cons.mp named
      simp only at same
      subst same
      rw [List.foldr_cons, setEntry_named]
      by_cases here : other = field
      · subst here
        simp only [Datum.lookupName, if_true] at fits ⊢
        exact get_set (fits value rfl) _
      · have apart : other.name ≠ field.name := mt Field.name_inj.mp here
        simp only [Datum.lookupName, if_neg apart] at fits ⊢
        rw [get_set_other (Ne.symm here)]
        exact ih later fits

theorem get_merge {config merged : Config} {layer : List (Datum × Datum)} {source : Text}
    (done : config.merge layer source = .ok merged) (field : Field) :
    merged.get field =
      ((Datum.lookupName layer field.name).map field.taken).getD (config.get field) := by
  obtain ⟨accepted, rfl⟩ := merge_ok.mp done
  rw [get_source, get_foldr accepted]

end Config

end FenceCheck
