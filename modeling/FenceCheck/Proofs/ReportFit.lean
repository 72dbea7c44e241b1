import FenceCheck.Proofs.FloatInteger
import FenceCheck.Proofs.JsonOrder
import FenceCheck.Proofs.SchemaFit
import FenceCheck.Report.Payload

/-!
The report of a run fits its schema, in whatever order its fields are read. A field is accepted for its
own name; the figures have to be within bounds, and all texts are accepted.
-/

namespace FenceCheck

namespace Datum

theorem ofJsonItems_map (items : List Json) : ofJsonItems items = items.map ofJson := by
  induction items with
  | nil => rfl
  | cons item rest ih => rw [ofJsonItems, ih, List.map_cons]

theorem lookupName_ofJson {fields : Json.Fields} {name : Text} {value : Datum}
    (found : lookupName (ofJsonFields fields) name = some value) :
    ∃ field ∈ fields, field.1 = name ∧ value = ofJson field.2 := by
  induction fields with
  | nil => cases found
  | cons field rest ih =>
      rw [ofJsonFields, lookupName] at found
      split at found
      · exact ⟨field, List.mem_cons_self, ‹_›, (Option.some.inj found).symm⟩
      · obtain ⟨other, member, rest⟩ := ih found
        exact ⟨other, List.mem_cons_of_mem _ member, rest⟩

theorem lookupName_isSome {fields : Json.Fields} {name : Text} (named : name ∈ fields.map (·.1)) :
    (lookupName (ofJsonFields fields) name).isSome = true := by
  induction fields with
  | nil => cases named
  | cons field rest ih =>
      rw [ofJsonFields, lookupName]
      split
      · rfl
      · exact ih ((List.mem_cons.mp named).resolve_left fun same => absurd same.symm ‹_›)

theorem key_ofJson {fields : Json.Fields} {entry : Datum × Datum}
    (member : entry ∈ ofJsonFields fields) : ∃ field ∈ fields, entry.1 = .text field.1 := by
  induction fields with
  | nil => cases member
  | cons field rest ih =>
      rcases List.mem_cons.mp member with rfl | behind
      · exact ⟨field, List.mem_cons_self, rfl⟩
      · obtain ⟨other, member, key⟩ := ih behind
        exact ⟨other, List.mem_cons_of_mem _ member, key⟩

end Datum

namespace Demand

variable {value : Datum} {entries : List (Datum × Datum)}

theorem met_required {names : List Text} :
    (required names).Met (.mapping entries) ↔
      ∀ name ∈ names, (Datum.lookupName entries name).isSome = true := by
  simp only [Met, violationsOf, Datum.opened, List.map_eq_nil_iff, List.filter_eq_nil_iff]
  refine forall₂_congr fun name _ => ?_
  cases Datum.lookupName entries name <;> simp

end Demand

namespace Schema

/-- A schema accepts a value that fits it, and goes on to fit when its fields are in another order. -/
def Accepts (schema : Schema) (value : Json) : Prop :=
  ∀ other, Json.Reordered value other → schema.Fits (.ofJson other)

variable {schema : Schema} {value : Json}

theorem accepts_scalar (scalar : value.IsScalar) (fits : schema.Fits (.ofJson value)) :
    schema.Accepts value := fun _ reordered => reordered.scalar_inv scalar ▸ fits

theorem accepts_list {items : List Json} (each : ∀ item ∈ items, schema.Accepts item) :
    Accepts (Contract.listOf schema) (.list items) := by
  intro other reordered
  obtain ⟨others, rfl, pairs⟩ := reordered.list_inv
  rw [Datum.ofJson, Datum.ofJsonItems_map]
  refine fits_cons.mpr ⟨Demand.met_kind.mpr rfl, fits_cons.mpr ⟨(Demand.met_items rfl).mpr ?_, fits_nil⟩⟩
  intro value member
  obtain ⟨after, within, rfl⟩ := List.mem_map.mp member
  obtain ⟨item, origin, changed⟩ := forall₂_right pairs within
  exact each item origin after changed

theorem accepts_record {names : List Text} {schemas : List (Text × Schema)} {fields : Json.Fields}
    (apart : Json.Apart schemas) (present : names ⊆ fields.map (·.1))
    (each : ∀ field ∈ fields, ∃ schema : Schema, schemas.lookup field.1 = some schema ∧
      schema.Accepts field.2) :
    Accepts (Contract.record names schemas) (.object fields) := by
  intro other reordered
  obtain ⟨others, rfl, names_perm, before⟩ := reordered.object_inv
  rw [Datum.ofJson, Contract.record, List.append_assoc]
  -- In whatever order the fields are, each has the name of one before and its value up to order.
  have known : ∀ field ∈ others, ∃ schema : Schema, (field.1, schema) ∈ schemas ∧
      schema.Fits (.ofJson field.2) := by
    intro field member
    obtain ⟨origin, within, changed⟩ := before field member
    obtain ⟨schema, named, accepts⟩ := each _ within
    obtain ⟨front, back, rfl, -⟩ := List.lookup_eq_some_iff.mp named
    exact ⟨schema, List.mem_append_right _ List.mem_cons_self, accepts field.2 changed⟩
  have closed : (Demand.closed (schemas.map (·.1))).Met (.mapping (Datum.ofJsonFields others)) := by
    refine Demand.met_closed.mpr fun entry member => ?_
    obtain ⟨field, within, key⟩ := Datum.key_ofJson member
    obtain ⟨schema, named, -⟩ := known field within
    exact ⟨field.1, List.mem_map_of_mem named, key⟩
  have required : (Demand.required names).Met (.mapping (Datum.ofJsonFields others)) :=
    Demand.met_required.mpr fun name wanted =>
      Datum.lookupName_isSome (names_perm.mem_iff.mpr (present wanted))
  have inner : (Demand.fields schemas).Met (.mapping (Datum.ofJsonFields others)) := by
    refine Demand.met_fields.mpr fun entry listed value found => ?_
    obtain ⟨field, within, same, rfl⟩ := Datum.lookupName_ofJson found
    obtain ⟨schema, named, fits⟩ := known field within
    rwa [← apart.same named listed same]
  intro demand among
  rw [List.mem_append, List.mem_append, List.mem_cons, List.mem_singleton, List.mem_singleton] at among
  rcases among with (rfl | rfl) | asked | rfl
  · exact Demand.met_kind.mpr rfl
  · exact closed
  · split at asked
    · cases asked
    · rwa [List.mem_singleton.mp asked]
  · exact inner

end Schema

namespace Contract

variable {n : Int}

theorem accepts_count (bound : 0 ≤ n) : count.Accepts (.int n) :=
  Schema.accepts_scalar trivial (Schema.fits_cons.mpr ⟨Demand.met_kind.mpr rfl,
    Schema.fits_cons.mpr ⟨Demand.met_minimum.mpr (decide_eq_false (Int.not_lt.mpr bound)),
      Schema.fits_nil⟩⟩)

theorem accepts_positive {amount : Amount} (stands : amount.Stands n) (bound : 1 ≤ n) :
    positive.Accepts amount.toJson := by
  have below : decide (n < 1) = false := decide_eq_false (Int.not_lt.mpr bound)
  rcases stands with rfl | ⟨x, rfl, whole⟩
  · exact Schema.accepts_scalar trivial (Schema.fits_cons.mpr ⟨Demand.met_kind.mpr rfl,
      Schema.fits_cons.mpr ⟨Demand.met_minimum.mpr below, Schema.fits_nil⟩⟩)
  · have integer : Kind.integer.admits (.float x) = true :=
      Kind.admits_integer.mpr (.inr ⟨x, rfl, Option.isSome_iff_exists.mpr ⟨n, whole⟩⟩)
    have least := (Binary64.ltInt_of_toInt whole 1).trans below
    exact Schema.accepts_scalar trivial (Schema.fits_cons.mpr ⟨Demand.met_kind.mpr integer,
      Schema.fits_cons.mpr ⟨Demand.met_minimum.mpr least, Schema.fits_nil⟩⟩)

theorem accepts_string (s : Text) : string.Accepts (.str s) :=
  Schema.accepts_scalar trivial (Schema.fits_cons.mpr ⟨Demand.met_kind.mpr rfl, Schema.fits_nil⟩)

theorem accepts_optional (s : Option Text) : optionalString.Accepts (.ofOption .str s) := by
  cases s with
  | none =>
      exact Schema.accepts_scalar trivial
        (Schema.fits_cons.mpr ⟨Demand.met_kinds.mpr ⟨.null, by simp, rfl⟩, Schema.fits_nil⟩)
  | some s =>
      exact Schema.accepts_scalar trivial
        (Schema.fits_cons.mpr ⟨Demand.met_kinds.mpr ⟨.string, by simp, rfl⟩, Schema.fits_nil⟩)

theorem accepts_bool (b : Bool) : Schema.Accepts [.kinds [.boolean]] (.bool b) :=
  Schema.accepts_scalar trivial (Schema.fits_cons.mpr ⟨Demand.met_kind.mpr rfl, Schema.fits_nil⟩)

theorem accepts_constant (s : Text) : Schema.Accepts [.constant (.text s)] (.str s) := by
  have same : Demand.isConstant (.text s) (.text s) = true := by simp [Demand.isConstant, Datum.same]
  refine Schema.accepts_scalar trivial (Schema.fits_cons.mpr ⟨?_, Schema.fits_nil⟩)
  simp [Demand.Met, Demand.violationsOf, Demand.lackOf, Datum.ofJson, Datum.opened, same]

theorem accepts_version : Schema.Accepts [.constant (.int 1)] (.int 1) :=
  Schema.accepts_scalar trivial (Schema.fits_cons.mpr ⟨rfl, Schema.fits_nil⟩)

theorem accepts_among {s : Text} (words : List Text) (listed : s ∈ words) :
    Schema.Accepts [.among (words.map Datum.text)] (.str s) := by
  have found : (words.map Datum.text).any (Demand.isConstant · (.text s)) = true := by
    rw [List.any_map, List.any_eq_true]
    exact ⟨s, listed, by simp [Demand.isConstant, Datum.same]⟩
  refine Schema.accepts_scalar trivial (Schema.fits_cons.mpr ⟨?_, Schema.fits_nil⟩)
  simp only [Demand.Met, Demand.violationsOf, Demand.lackOf, Datum.ofJson, Datum.opened, found]
  rfl

end Contract

namespace Report

structure RowBounds (entry : Item × Outcome) : Prop where
  index : 0 ≤ entry.1.index
  line : 1 ≤ entry.1.block.line
  duration : 0 ≤ entry.2.duration

/-- The figures of a summary that a schema bounds. -/
structure Bounds (summary : Summary) : Prop where
  total : 0 ≤ summary.total
  passed : 0 ≤ summary.passed
  failed : 0 ≤ summary.failed
  documents : 0 ≤ summary.documents
  duration : 0 ≤ summary.duration
  workers : ∃ n, summary.concurrency.Stands n
  rows : ∀ entry ∈ summary.rows, RowBounds entry

theorem workers_stands {concurrency : Amount} {n : Int} (stands : concurrency.Stands n) :
    ∃ m, (workers concurrency).Stands m ∧ 1 ≤ m := by
  rw [workers, stands.isAbove]
  by_cases above : 1 < n
  · exact ⟨n, by rwa [if_pos (decide_eq_true above)], Int.le_of_lt above⟩
  · exact ⟨1, by rw [if_neg (by simpa using above)]; exact .inl rfl, Int.le_refl 1⟩

theorem outcome_status (outcome : Outcome) : outcome.status ∈ [Text.ofString "pass", Text.ofString "fail"] := by
  rw [Outcome.status]
  cases outcome.passed
  · exact List.mem_cons_of_mem _ List.mem_cons_self
  · exact List.mem_cons_self

theorem status_listed (summary : Summary) :
    status summary ∈ [Text.ofString "pass", Text.ofString "fail", Text.ofString "error"] := by
  rw [status]
  cases summary.error.isSome
  · cases summary.isOk
    · exact List.mem_cons_of_mem _ List.mem_cons_self
    · exact List.mem_cons_self
  · exact List.mem_cons_of_mem _ (List.mem_cons_of_mem _ List.mem_cons_self)

theorem row_accepted {entry : Item × Outcome} (bounds : RowBounds entry) :
    Contract.resultSchema.Accepts (row entry) := by
  refine Schema.accepts_record (show List.Nodup _ by decide) ?_ ?_
  · simp only [List.map_cons, List.map_nil]
    decide
  simp only [List.forall_mem_cons]
  refine ⟨⟨_, rfl, Contract.accepts_count bounds.index⟩, ⟨_, rfl, Contract.accepts_string _⟩,
    ⟨_, rfl, Contract.accepts_string _⟩,
    ⟨_, rfl, Contract.accepts_positive (.inl rfl) bounds.line⟩, ⟨_, rfl, Contract.accepts_string _⟩,
    ⟨_, rfl, Contract.accepts_among _ (outcome_status entry.2)⟩,
    ⟨_, rfl, Contract.accepts_count bounds.duration⟩, ⟨_, rfl, Contract.accepts_bool _⟩,
    ⟨_, rfl, Contract.accepts_string _⟩, ⟨_, rfl, Contract.accepts_optional _⟩, List.forall_mem_nil _⟩

theorem totals_accepted {summary : Summary} (bounds : Bounds summary) :
    Schema.Accepts (Contract.record Contract.totals (Contract.totals.map fun name =>
      (name, Contract.count))) (totals summary) := by
  refine Schema.accepts_record (show List.Nodup _ by decide) ?_ ?_
  · simp only [List.map_cons, List.map_nil]
    decide
  simp only [List.forall_mem_cons]
  exact ⟨⟨_, rfl, Contract.accepts_count bounds.total⟩, ⟨_, rfl, Contract.accepts_count bounds.passed⟩,
    ⟨_, rfl, Contract.accepts_count bounds.failed⟩,
    ⟨_, rfl, Contract.accepts_count bounds.documents⟩,
    ⟨_, rfl, Contract.accepts_count bounds.duration⟩, List.forall_mem_nil _⟩

def common (context : Context) (summary : Summary) : Json.Fields :=
  [(Text.ofString "schema_name", .str Contract.runReport.name), ("schema_version", .int 1),
    ("tool", .str "scribectl"), ("kind", .str "run-report"), ("run_id", .str context.runId),
    ("status", .str (status summary)),
    ("target", .str ((summary.target.map Path.toText).getD [])),
    ("concurrency", (workers summary.concurrency).toJson), ("summary", totals summary),
    ("results", .list (summary.rows.map row))]

theorem content_common (context : Context) (summary : Summary) :
    content context summary = .object (common context summary ++
      (summary.error.map fun error => (Text.ofString "error", Json.str error)).toList) := rfl

theorem content_accepted (context : Context) {summary : Summary} (bounds : Bounds summary) :
    Contract.runReport.schema.Accepts (content context summary) := by
  obtain ⟨n, stands⟩ := bounds.workers
  obtain ⟨m, stands, positive⟩ := workers_stands stands
  rw [content_common]
  refine Schema.accepts_record (show List.Nodup _ by decide) ?_ (List.forall_mem_append.mpr ⟨?_, ?_⟩)
  · rw [List.map_append]
    refine List.subset_append_of_subset_left _ ?_
    simp only [common, List.map_cons, List.map_nil]
    decide
  · simp only [common, List.forall_mem_cons]
    refine ⟨⟨_, rfl, Contract.accepts_constant _⟩, ⟨_, rfl, Contract.accepts_version⟩,
      ⟨_, rfl, Contract.accepts_constant _⟩, ⟨_, rfl, Contract.accepts_constant _⟩,
      ⟨_, rfl, Contract.accepts_string _⟩, ⟨_, rfl, Contract.accepts_among _ (status_listed summary)⟩,
      ⟨_, rfl, Contract.accepts_string _⟩, ⟨_, rfl, Contract.accepts_positive stands positive⟩,
      ⟨_, rfl, totals_accepted bounds⟩, ⟨_, rfl, Schema.accepts_list ?_⟩, List.forall_mem_nil _⟩
    exact List.forall_mem_map.mpr fun entry member => row_accepted (bounds.rows entry member)
  · cases summary.error with
    | none => exact List.forall_mem_nil _
    | some error =>
        exact List.forall_mem_singleton.mpr ⟨_, rfl, Contract.accepts_optional (some error)⟩

theorem payload_content (context : Context) {summary : Summary} (bounds : Bounds summary) :
    payload context summary = .ok (content context summary) := by
  have fits := Contract.check_ok.mpr (content_accepted context bounds _ (.refl _))
  rw [payload, fits]

end Report

end FenceCheck
