import FenceCheck.Proofs.JsonAscii
import FenceCheck.Proofs.JsonLine
import FenceCheck.Session.Log

/-!
The lines of the log. An event whose numbers are short enough to be written is written as a whole, and of
any other there is nothing. As a JSON object an event stands on one line, whatever its texts hold, and it
is read back with all its fields. As pairs its texts stand there as they are, so one that holds a line
feed breaks the line; what is shown of all other values does not.
-/

namespace FenceCheck

namespace Text

/-- A text whose only line feed ends it. -/
def IsOneLine (t : Text) : Prop := ∃ body, t = body ++ [.char '\n'] ∧ .char '\n' ∉ body

theorem isOneLine_ended {body : Text} : IsOneLine (body ++ [.char '\n']) ↔ .char '\n' ∉ body := by
  constructor
  · rintro ⟨other, same, free⟩
    rwa [List.append_cancel_right same]
  · exact fun free => ⟨body, rfl, free⟩

theorem isOneLine_iff {t : Text} :
    IsOneLine t ↔ t.getLast? = some (.char '\n') ∧ .char '\n' ∉ t.dropLast := by
  constructor
  · rintro ⟨body, rfl, free⟩
    rw [List.getLast?_concat, List.dropLast_concat]
    exact ⟨rfl, free⟩
  · rintro ⟨last, free⟩
    exact ⟨t.dropLast, (List.dropLast_append_getLast? _ last).symm, free⟩

instance (t : Text) : Decidable (IsOneLine t) := decidable_of_iff _ isOneLine_iff.symm

theorem Whole.unbroken {t : Text} (whole : Whole t) : .char '\n' ∉ t :=
  fun inside => Bool.noConfusion (whole _ inside)

theorem whole_join {separator : Text} {pieces : List Text} (between : Whole separator)
    (each : ∀ piece ∈ pieces, Whole piece) : Whole (join separator pieces) := by
  intro c inside
  rcases mem_join inside with here | ⟨piece, listed, here⟩
  · exact between c here
  · exact each piece listed c here

theorem mem_join_iff {separator : Text} {pieces : List Text} {c : CodePoint} (apart : c ∉ separator) :
    c ∈ join separator pieces ↔ ∃ piece ∈ pieces, c ∈ piece := by
  constructor
  · exact fun inside => (mem_join inside).resolve_left apart
  · rintro ⟨piece, listed, inside⟩
    exact mem_join_piece listed inside

end Text

/-! A value as a message shows it. -/

namespace Datum

variable {around : List (Nat × Text)}

theorem shownItems_map (items : List Json) : shownItems around (ofJsonItems items) =
    items.map fun item => (ofJson item).shownWithin around := by
  induction items with
  | nil => rfl
  | cons item rest ih => rw [ofJsonItems, shownItems, ih, List.map_cons]

theorem shownEntries_map (fields : Json.Fields) : shownEntries around (ofJsonFields fields) =
    fields.map fun field =>
      Text.quoted field.1 ++ Text.ofString ": " ++ (ofJson field.2).shownWithin around := by
  induction fields with
  | nil => rfl
  | cons field rest ih =>
      rw [ofJsonFields, shownEntries, ih, List.map_cons, shownWithin]

theorem whole_shownWithin (value : Json) : Text.Whole ((ofJson value).shownWithin around) := by
  have framed {opening closing : Text} {parts : List Text} (marks : Text.Whole opening ∧ Text.Whole closing)
      (each : ∀ part ∈ parts, Text.Whole part) :
      Text.Whole (opening ++ Text.join ", " parts ++ closing) :=
    Text.whole_append.mpr
      ⟨Text.whole_append.mpr ⟨marks.1, Text.whole_join (by decide) each⟩, marks.2⟩
  induction value using Json.nested with
  | null => rw [ofJson, shownWithin]; decide
  | bool b => cases b <;> rw [ofJson, shownWithin] <;> decide
  | int n =>
      rw [ofJson, shownWithin]
      exact Text.whole_written (Number.written_ofInt n)
  | float x =>
      rw [ofJson, shownWithin]
      exact Text.whole_written (Number.written_binary x)
  | str s =>
      rw [ofJson, shownWithin]
      exact Text.whole_quoted s
  | list items ih =>
      rw [ofJson, shownWithin, shownItems_map]
      exact framed (by decide) (List.forall_mem_map.mpr ih)
  | object fields ih =>
      rw [ofJson, shownWithin, shownEntries_map]
      refine framed (by decide) (List.forall_mem_map.mpr fun field member => ?_)
      exact Text.whole_append.mpr
        ⟨Text.whole_append.mpr ⟨Text.whole_quoted field.1, by decide⟩, ih field member⟩

theorem plain_breaks (value : Json) :
    .char '\n' ∈ (ofJson value).plain ↔ ∃ s, value = .str s ∧ .char '\n' ∈ s := by
  cases value with
  | str s =>
      rw [ofJson, plain]
      constructor
      · exact fun inside => ⟨s, rfl, inside⟩
      · rintro ⟨t, same, inside⟩
        cases same
        exact inside
  | null | bool | int | float | list | object =>
      constructor
      · exact fun inside => absurd inside (@whole_shownWithin [] _).unbroken
      · rintro ⟨t, same, -⟩
        cases same

end Datum

theorem Json.Apart.lookup {α : Type} {fields : List (Text × α)} (apart : Apart fields) {name : Text}
    {value : α} (member : (name, value) ∈ fields) : fields.lookup name = some value := by
  induction fields with
  | nil => cases member
  | cons first rest ih =>
      obtain ⟨new, later⟩ := List.nodup_cons.mp apart
      rcases List.mem_cons.mp member with rfl | behind
      · exact List.lookup_cons_self
      · have other : (name == first.1) = false := by
          refine beq_false_of_ne fun same => new ?_
          exact List.mem_map.mpr ⟨_, behind, same⟩
        rw [List.lookup_cons, other]
        exact ih later behind

theorem Clock.toText_marks (clock : Clock) :
    ∀ c ∈ clock.toText, c ∈ Text.ofChars (':' :: 'T' :: Number.alphabet) := by
  have digits (width n : Nat) : ∀ c ∈ Text.zeroPadded width (Text.ofNat n),
      c ∈ Text.ofChars (':' :: 'T' :: Number.alphabet) := by
    intro c inside
    rcases List.mem_append.mp inside with zero | digit
    · rw [List.eq_of_mem_replicate zero]
      decide
    · exact List.mem_cons_of_mem _ (List.mem_cons_of_mem _ (Number.written_ofNat n c digit))
  unfold Clock.toText Clock.twoDigits
  simp only [List.forall_mem_append, List.forall_mem_cons]
  refine ⟨⟨⟨⟨⟨⟨⟨digits 4 _, ?_, digits 2 _⟩, ?_, digits 2 _⟩, ?_, digits 2 _⟩, ?_, digits 2 _⟩,
    ?_, digits 2 _⟩, ?_, digits 3 _⟩, ?_⟩ <;> decide

namespace Log

def baseNames : List Text := ["ts", "level", "run_id", "component", "action"]

/-- The fields of an event have names of their own. -/
structure Entry.Proper (entry : Entry) : Prop where
  apart : Json.Apart entry.fields
  own : ∀ field ∈ entry.fields, field.1 ∉ baseNames

def textOf? : Json → Option Text
  | .str s => some s
  | _ => none

/-- All texts that are given for an event: those of its base fields, and the names and the texts among its
own fields. -/
def texts (context : Context) (entry : Entry) : List Text :=
  [entry.level, context.runId, entry.component, entry.action] ++ entry.fields.map (·.1) ++
    entry.fields.filterMap (textOf? ·.2)

variable {context : Context} {clock : Clock} {entry : Entry}

theorem baseFields_names : (baseFields context clock entry).map (·.1) = baseNames := rfl

/-! Events as pairs. -/

theorem pair_breaks (field : Text × Json) : .char '\n' ∈ pair field ↔
    .char '\n' ∈ field.1 ∨ ∃ s, field.2 = .str s ∧ .char '\n' ∈ s := by
  rw [pair, List.mem_append, List.mem_cons, Datum.plain_breaks]
  simp

theorem pairsLine_proper (proper : entry.Proper) : pairsLine context clock entry =
    Text.join " " ((baseFields context clock entry ++ Json.sortedByName entry.fields).map pair) := by
  have untimed : entry.fields.filter (fun field => field.1 = Text.ofString "ts") = [] := by
    refine List.filter_eq_nil_iff.mpr fun field listed same => proper.own field listed ?_
    rw [of_decide_eq_true same]
    decide
  rw [pairsLine, untimed, List.nil_append, List.take_append_drop, List.map_append]

theorem textOf_iff {value : Json} {s : Text} : textOf? value = some s ↔ value = .str s := by
  cases value with
  | str t => rw [textOf?, Option.some.injEq, Json.str.injEq]
  | null | bool | int | float | list | object => exact iff_of_false nofun nofun

theorem baseFields_break : (∃ field ∈ baseFields context clock entry, .char '\n' ∈ pair field) ↔
    ∃ t ∈ [entry.level, context.runId, entry.component, entry.action], .char '\n' ∈ t := by
  have timed : .char '\n' ∉ clock.toText := by
    intro inside
    exact absurd (clock.toText_marks _ inside) (by decide)
  have plain (name : Text) (free : .char '\n' ∉ name) (s : Text) :
      .char '\n' ∈ pair (name, .str s) ↔ .char '\n' ∈ s := by
    rw [pair_breaks]
    simp [free]
  simp only [baseFields, List.exists_mem_cons_iff]
  rw [plain "ts" (by decide), plain "level" (by decide), plain "run_id" (by decide),
    plain "component" (by decide), plain "action" (by decide)]
  simp only [timed, false_or, List.not_mem_nil, false_and, exists_false]

theorem ownFields_break : (∃ field ∈ entry.fields, .char '\n' ∈ pair field) ↔
    (∃ t ∈ entry.fields.map (·.1), .char '\n' ∈ t) ∨
      ∃ t ∈ entry.fields.filterMap (textOf? ·.2), .char '\n' ∈ t := by
  simp only [pair_breaks, List.mem_map, List.mem_filterMap, textOf_iff]
  constructor
  · rintro ⟨field, listed, name | ⟨s, same, inside⟩⟩
    · exact Or.inl ⟨_, ⟨field, listed, rfl⟩, name⟩
    · exact Or.inr ⟨s, ⟨field, listed, same⟩, inside⟩
  · rintro (⟨_, ⟨field, listed, rfl⟩, name⟩ | ⟨s, ⟨field, listed, same⟩, inside⟩)
    · exact ⟨field, listed, Or.inl name⟩
    · exact ⟨field, listed, Or.inr ⟨s, same, inside⟩⟩

theorem pairsLine_breaks (proper : entry.Proper) : .char '\n' ∈ pairsLine context clock entry ↔
    ∃ t ∈ texts context entry, .char '\n' ∈ t := by
  have sorted (field : Text × Json) : field ∈ Json.sortedByName entry.fields ↔ field ∈ entry.fields :=
    (Json.sortedByName_perm entry.fields).mem_iff
  calc .char '\n' ∈ pairsLine context clock entry
    _ ↔ ∃ piece ∈ (baseFields context clock entry ++ Json.sortedByName entry.fields).map pair,
          .char '\n' ∈ piece := by
        rw [pairsLine_proper proper]
        exact Text.mem_join_iff (by decide)
    _ ↔ (∃ field ∈ baseFields context clock entry, .char '\n' ∈ pair field) ∨
          ∃ field ∈ entry.fields, .char '\n' ∈ pair field := by
        simp only [List.map_append, List.mem_append, List.mem_map, or_and_right, exists_or,
          exists_exists_and_eq_and, sorted]
    _ ↔ ∃ t ∈ texts context entry, .char '\n' ∈ t := by
        rw [baseFields_break, ownFields_break, texts]
        simp only [List.mem_append, or_and_right, exists_or, or_assoc]

/-! Events as JSON objects. -/

theorem proper_apart (proper : entry.Proper) :
    Json.Apart (baseFields context clock entry ++ entry.fields) := by
  rw [Json.Apart, List.map_append, baseFields_names, List.nodup_append]
  refine ⟨by decide, proper.apart, fun name base other own same => ?_⟩
  obtain ⟨field, listed, rfl⟩ := List.mem_map.mp own
  exact proper.own field listed (same ▸ base)

theorem jsonLine_proper (proper : entry.Proper) : jsonLine context clock entry =
    Json.write .log (.object (baseFields context clock entry ++ entry.fields)) := by
  rw [jsonLine, Json.ofMembers_apart (proper_apart proper)]

theorem jsonLine_unbroken (context : Context) (clock : Clock) (entry : Entry) :
    .char '\n' ∉ jsonLine context clock entry := by
  intro inside
  exact absurd (Json.visible_writeAt rfl _ 0 _ inside) (by decide)

theorem unpaired_of_halfless {s : Text} (halfless : ∀ c ∈ s, Json.isFirstHalf c = false) :
    Json.Unpaired s := by
  induction s with
  | nil => trivial
  | cons c rest ih =>
      obtain ⟨here, later⟩ := List.forall_mem_cons.mp halfless
      cases rest with
      | nil => trivial
      | cons d rest => exact ⟨fun pair => Bool.noConfusion (here.symm.trans pair.1), ih later⟩

theorem clear_of_halfless {s : Text} (halfless : ∀ c ∈ s, Json.isFirstHalf c = false) :
    Json.Clear true s :=
  Json.clear_ascii_iff.mpr (unpaired_of_halfless halfless)

theorem clear_clock (clock : Clock) : Json.Clear true clock.toText := by
  apply clear_of_halfless
  intro c inside
  obtain ⟨char, -, rfl⟩ := List.mem_map.mp (clock.toText_marks c inside)
  rfl

theorem legible_event (clock : Clock) (proper : entry.Proper)
    (unpaired : ∀ t ∈ texts context entry, Json.Unpaired t)
    (legible : ∀ field ∈ entry.fields, Json.Legible true (Json.nestingLimit - 1) field.2) :
    Json.Legible true Json.nestingLimit (.object (baseFields context clock entry ++ entry.fields)) := by
  have spoken {t : Text} (listed : t ∈ texts context entry) : Json.Clear true t :=
    Json.clear_ascii_iff.mpr (unpaired t listed)
  have given {t : Text} (listed : t ∈ [entry.level, context.runId, entry.component, entry.action]) :
      Json.Legible true (Json.nestingLimit - 1) (.str t) :=
    .str _ (spoken (List.mem_append_left _ (List.mem_append_left _ listed)))
  refine .object (proper_apart proper) ?_ (List.forall_mem_append.mpr ⟨?_, legible⟩)
  · refine List.forall_mem_append.mpr ⟨fun field base => ?_, fun field own => ?_⟩
    · have names : ∀ name ∈ baseNames, ∀ c ∈ name, Json.isFirstHalf c = false := by decide
      have listed : field.1 ∈ baseNames := List.mem_map_of_mem base
      exact clear_of_halfless (names _ listed)
    · exact spoken (List.mem_append_left _ (List.mem_append_right _ (List.mem_map_of_mem own)))
  · simp only [baseFields, List.forall_mem_cons]
    exact ⟨.str _ (clear_clock clock), given (by simp), given (by simp),
      given (by simp), given (by simp), List.forall_mem_nil _⟩

theorem jsonLine_read (clock : Clock) (proper : entry.Proper)
    (unpaired : ∀ t ∈ texts context entry, Json.Unpaired t)
    (legible : ∀ field ∈ entry.fields, Json.Legible true (Json.nestingLimit - 1) field.2) :
    ∃ fields : Json.Fields,
      Json.read (jsonLine context clock entry ++ [.char '\n']) = .ok (.object fields) ∧
        ∀ field ∈ baseFields context clock entry ++ entry.fields,
          fields.get? field.1 = some field.2.inOrder := by
  have whole := legible_event clock proper unpaired legible
  have read := @Json.read_written .log _ whole [.char '\n'] (List.forall_mem_singleton.mpr rfl)
  rw [Json.inOrder_object] at read
  rw [jsonLine_proper proper]
  refine ⟨_, read, fun field listed => (proper_apart proper).inOrder.lookup ?_⟩
  exact List.mem_map.mpr ⟨field, (Json.sortedByName_perm _).mem_iff.mpr listed, rfl⟩

theorem line_pairs (pairs : context.jsonLog = false) :
    line context clock entry = pairsLine context clock entry ++ [.char '\n'] := by
  rw [line, pairs, if_neg Bool.false_ne_true]

theorem line_json (json : context.jsonLog = true) :
    line context clock entry = jsonLine context clock entry ++ [.char '\n'] := by
  rw [line, if_pos json]

/-- An event is written unless a number in its fields has too many digits; then nothing is. Written as a
JSON object it stands on one line, and as pairs just if no text that is given for it holds a line feed.
The JSON line is read back as an object with the identifier of the run and all fields, up to the order of
the fields in them: where no half of a character stands before another in those texts, and each value is
one that a reader takes. -/
theorem event_stands_on_one_line (context : Context) (clock : Clock) {entry : Entry}
    (proper : entry.Proper) :
    (entry.isTold = false → written context clock entry = .error (.scalar .hugeInteger)) ∧
      (entry.isTold = true → ∃ line, written context clock entry = .ok line ∧
        (context.jsonLog = false →
          (Text.IsOneLine line ↔ ∀ t ∈ texts context entry, .char '\n' ∉ t)) ∧
        (context.jsonLog = true → Text.IsOneLine line ∧
          ((∀ t ∈ texts context entry, Json.Unpaired t) →
            (∀ field ∈ entry.fields, Json.Legible true (Json.nestingLimit - 1) field.2) →
            ∃ fields : Json.Fields, Json.read line = .ok (.object fields) ∧
              fields.get? "run_id" = some (.str context.runId) ∧
              ∀ field ∈ entry.fields, ∃ value, fields.get? field.1 = some value ∧
                Json.Reordered field.2 value))) := by
  refine ⟨written_untold, fun told => ⟨line context clock entry, written_ok told, ?_, ?_⟩⟩
  · intro pairs
    rw [line_pairs pairs, Text.isOneLine_ended, pairsLine_breaks proper]
    simp
  · intro json
    rw [line_json json]
    refine ⟨Text.isOneLine_ended.mpr (jsonLine_unbroken context clock entry), ?_⟩
    intro unpaired legible
    obtain ⟨fields, read, each⟩ := jsonLine_read clock proper unpaired legible
    obtain ⟨base, own⟩ := List.forall_mem_append.mp each
    have named : fields.get? "run_id" = some (.str context.runId) :=
      base ("run_id", .str context.runId) (by simp [baseFields])
    exact ⟨fields, read, named, fun field listed =>
      ⟨_, own field listed, Json.legible_reordered (legible field listed)⟩⟩

def named (runId : Text) (jsonLog : Bool) : Context :=
  { runId, directory := .here, format := .text, verbose := true, quiet := false, jsonLog
    inBuildService := false }

def blockEnded : Entry :=
  { level := "info", component := "sandbox", action := "run-block"
    fields := [("line", .int 3), ("status", .str "pass")] }

def noon : Clock := ⟨2024, 1, 1, 12, 0, 0, 0⟩

/-- The start of a run whose blocks are given more time than can be written. -/
def startedLate : Entry :=
  { level := "info", component := "cli", action := "start"
    fields := [("timeout_ms", .int (tenTo Integer.digitLimit))] }

theorem event_stands_on_one_line_block :
    (blockEnded.Proper ∧ blockEnded.isTold = true ∧
      (∃ pairs, written (named "unit-run" false) noon blockEnded = .ok pairs ∧ Text.IsOneLine pairs) ∧
      ∃ json, ∃ fields : Json.Fields, written (named "unit-run" true) noon blockEnded = .ok json ∧
        Text.IsOneLine json ∧ Json.read json = .ok (.object fields) ∧
          fields.get? "run_id" = some (.str "unit-run")) ∧
      startedLate.Proper ∧ startedLate.isTold = false ∧
        written (named "unit-run" false) noon startedLate = .error (.scalar .hugeInteger) := by
  have proper : blockEnded.Proper := ⟨by unfold Json.Apart; decide, by decide⟩
  have told : blockEnded.isTold = true := by decide +kernel
  have plain : ∀ t ∈ texts (named "unit-run" true) blockEnded, ∀ c ∈ t, Json.isFirstHalf c = false := by
    decide
  have legible : ∀ field ∈ blockEnded.fields, Json.Legible true (Json.nestingLimit - 1) field.2 := by
    refine List.forall_mem_cons.mpr ⟨.int _ (by decide +kernel), List.forall_mem_singleton.mpr (.str _ ?_)⟩
    exact clear_of_halfless (by decide)
  have late : startedLate.Proper := ⟨by unfold Json.Apart; decide, by decide⟩
  have long : startedLate.isTold = false := by decide +kernel
  refine ⟨⟨proper, told, ?_, ?_⟩, late, long, (event_stands_on_one_line _ noon late).1 long⟩
  · obtain ⟨pairs, written, single, -⟩ :=
      (event_stands_on_one_line (named "unit-run" false) noon proper).2 told
    exact ⟨pairs, written, (single rfl).mpr (by decide)⟩
  · obtain ⟨json, written, -, single⟩ :=
      (event_stands_on_one_line (named "unit-run" true) noon proper).2 told
    obtain ⟨single, reads⟩ := single rfl
    obtain ⟨fields, read, same, -⟩ :=
      reads (fun t listed => unpaired_of_halfless (plain t listed)) legible
    exact ⟨json, fields, written, single, read, same⟩

/-- The identifier of a run is written into the pairs as it is, and a line feed in it ends the line; as a
JSON object the same event stands on one. -/
theorem event_broken_by_identifier :
    let entry := { blockEnded with fields := [] }
    let pairs := Text.ofString
      "ts=2024-01-01T12:00:00.000+00:00 level=info run_id=a\nb component=sandbox action=run-block\n"
    entry.Proper ∧ written (named "a\nb" false) noon entry = .ok pairs ∧ ¬ Text.IsOneLine pairs ∧
      ∃ json, written (named "a\nb" true) noon entry = .ok json ∧ Text.IsOneLine json := by
  intro entry pairs
  have shown : line (named "a\nb" false) noon entry = pairs := by decide +kernel
  refine ⟨⟨List.nodup_nil, List.forall_mem_nil _⟩, ?_, by decide +kernel, _, written_ok rfl, ?_⟩
  · rw [written_ok rfl, shown]
  · rw [line_json rfl]
    exact Text.isOneLine_ended.mpr (jsonLine_unbroken _ _ _)

end Log

end FenceCheck
