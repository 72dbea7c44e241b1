import FenceCheck.Schema.Catalog

/-!
Values that fit a schema. A check accepts a value exactly when it meets every demand of the schema,
and each demand is met or not by the value and its parts alone: which of several violations would be
reported does not matter here.
-/

namespace FenceCheck

def Demand.Met (demand : Demand) (value : Datum) : Prop :=
  Demand.violationsOf true demand value = []

def Schema.Fits (schema : Schema) (value : Datum) : Prop := ∀ demand ∈ schema, demand.Met value

namespace Kind

variable {value : Datum}

theorem admits_null : null.admits value = true ↔ value = .null := by
  cases value <;> simp [admits]

theorem admits_string : string.admits value = true ↔ ∃ t, value = .text t := by
  cases value <;> simp [admits]

theorem admits_array : array.admits value = true ↔ ∃ items, value = .list items := by
  cases value <;> simp [admits]

theorem admits_integer :
    integer.admits value = true ↔
      (∃ n, value = .int n) ∨ ∃ x, value = .float x ∧ x.toInt?.isSome = true := by
  cases value <;> simp [admits]

end Kind

namespace Schema

variable {value : Datum}

theorem fits_nil : Fits [] value := List.forall_mem_nil _

theorem fits_cons {demand : Demand} {rest : Schema} :
    Fits (demand :: rest) value ↔ demand.Met value ∧ Fits rest value :=
  List.forall_mem_cons

end Schema

namespace Demand

variable {value : Datum} {entries : List (Datum × Datum)}

-- The kind of the value is kept with a violation to weigh it; it makes none and hides none.
theorem violationsOf_nil {rightKind : Bool} {demand : Demand} :
    violationsOf rightKind demand value = [] ↔ demand.Met value := by
  unfold Met
  cases demand with
  | required names =>
      simp only [violationsOf]
      split <;> simp
  | kinds | closed | fields | items | minItems | minLength | minimum | form | constant | among =>
      simp [violationsOf]

theorem violations_nil {rightKind : Bool} {schema : Schema} :
    violations rightKind schema value = [] ↔ schema.Fits value := by
  induction schema with
  | nil => exact iff_of_true rfl Schema.fits_nil
  | cons demand rest ih =>
      rw [violations, List.append_eq_nil_iff, violationsOf_nil, ih, Schema.fits_cons]

theorem met_kinds {allowed : List Kind} :
    (kinds allowed).Met value ↔ ∃ kind ∈ allowed, kind.admits value.opened = true := by
  simp only [Met, violationsOf, lackOf]
  by_cases admitted : allowed.any (·.admits value.opened) = true
  · simp only [admitted, if_true]
    simpa using admitted
  · simp only [admitted]
    simpa using admitted

theorem met_kind {kind : Kind} : (kinds [kind]).Met value ↔ kind.admits value.opened = true := by
  rw [met_kinds]
  simp

theorem met_minimum {limit : Int} : (minimum limit).Met value ↔ isBelow limit value.opened = false := by
  simp only [Met, violationsOf, lackOf]
  cases isBelow limit value.opened <;> simp

theorem met_form {wanted : TextForm} {t : Text} (text : value.opened = .text t) :
    (form wanted).Met value ↔ wanted.admits t = true := by
  simp only [Met, violationsOf, lackOf, text]
  cases wanted.admits t <;> simp

theorem met_items {schema : Schema} {values : List Datum} (list : value.opened = .list values) :
    (items schema).Met value ↔ ∀ item ∈ values, schema.Fits item := by
  simp only [Met, violationsOf, list, List.flatMap_eq_nil_iff, List.map_eq_nil_iff, violations_nil]
  refine ⟨fun each item member => ?_, fun each entry member => each _ (List.fst_mem_of_mem_zipIdx member)⟩
  obtain ⟨index, here⟩ := List.mem_iff_getElem?.mp member
  exact each (item, index) (List.mk_mem_zipIdx_iff_getElem?.mpr here)

theorem unexpectedKeys_nil {named : List Text} :
    unexpectedKeys named entries = [] ↔ ∀ entry ∈ entries, ∃ name ∈ named, entry.1 = .text name := by
  have sorted : ∀ keys : List Datum, (keys.mergeSort fun a b => Text.le a.plain b.plain) = [] ↔
      keys = [] := by
    intro keys
    rw [← List.length_eq_zero_iff, List.length_mergeSort, List.length_eq_zero_iff]
  rw [unexpectedKeys, sorted, List.filterMap_eq_nil_iff]
  refine forall₂_congr fun entry _ => ?_
  cases entry.1 <;> simp

theorem met_closed {named : List Text} :
    (closed named).Met (.mapping entries) ↔
      ∀ entry ∈ entries, ∃ name ∈ named, entry.1 = .text name := by
  rw [← unexpectedKeys_nil]
  simp only [Met, violationsOf, lackOf, Datum.opened]
  cases unexpectedKeys named entries <;> simp

theorem fieldViolations_nil {schemas : List (Text × Schema)} :
    fieldViolations entries schemas = [] ↔
      ∀ field ∈ schemas, ∀ value, Datum.lookupName entries field.1 = some value →
        Schema.Fits field.2 value := by
  induction schemas with
  | nil => simp [fieldViolations]
  | cons field rest ih =>
      obtain ⟨name, schema⟩ := field
      rw [fieldViolations, List.append_eq_nil_iff, ih, List.forall_mem_cons]
      refine and_congr_left fun _ => ?_
      cases Datum.lookupName entries name with
      | none => simp
      | some value => simp [violations_nil]

theorem met_fields {schemas : List (Text × Schema)} :
    (fields schemas).Met (.mapping entries) ↔
      ∀ field ∈ schemas, ∀ value, Datum.lookupName entries field.1 = some value →
        Schema.Fits field.2 value := by
  rw [← fieldViolations_nil]
  simp [Met, violationsOf, Datum.opened]

end Demand

theorem Violation.weightiest_none {violations : List Violation} :
    weightiest violations = none ↔ violations = [] := by
  cases violations <;> simp [weightiest]

theorem Schema.firstViolation_none {schema : Schema} {value : Datum} :
    schema.firstViolation value = none ↔ schema.Fits value := by
  rw [firstViolation, Violation.weightiest_none, violations, Demand.violations_nil]

theorem Contract.check_ok {contract : Contract} {value : Datum} :
    contract.check value = .ok () ↔ contract.schema.Fits value := by
  rw [← Schema.firstViolation_none, check]
  cases contract.schema.firstViolation value with
  | none => simp
  | some violation =>
      simp only [reduceCtorEq, iff_false]
      split <;> simp

end FenceCheck
