import FenceCheck.Proofs.BlockStart
import FenceCheck.Proofs.FileWriting
import FenceCheck.Proofs.HostReport
import FenceCheck.Proofs.JsonRoundTrip
import FenceCheck.Proofs.RunBounds
import FenceCheck.Proofs.RunSchedule
import FenceCheck.Proofs.StrictText
import FenceCheck.Proofs.WrittenJson

/-!
The file of a report. Its text does not depend on the order in which fields were added, and it is read
back from the file as the report that was written. Only a text in which one half of a character stands
alone is lost: it has no bytes, and the file is left empty.
-/

namespace FenceCheck

namespace Datum

theorem items_shown {items : List Json} (shown : (ofJson (.list items)).isShowable = true) :
    ∀ item ∈ items, (ofJson item).isShowable = true := by
  rw [ofJson, isShowable, areShowable_map, List.all_eq_true] at shown
  exact shown

theorem fields_shown {fields : Json.Fields} (shown : (ofJson (.object fields)).isShowable = true) :
    ∀ field ∈ fields, (ofJson field.2).isShowable = true := by
  rw [ofJson, isShowable, hasShowable_map, List.all_eq_true] at shown
  exact shown

end Datum

namespace Report

/-- A value of a report that is no container and no floating-point number. -/
def IsPlain : Json → Prop
  | .null | .bool _ | .int _ | .str _ => True
  | _ => False

theorem plain_legible {value : Json} (plain : IsPlain value)
    (shown : (Datum.ofJson value).isShowable = true) (room : Nat) : Json.Legible false room value := by
  cases value with
  | null => exact .null room
  | bool b => exact .bool room b
  | int n => exact .int room (Integer.isShort_iff.mp shown)
  | str s => exact .str room (Json.clear_unicode s)
  | float | list | object => exact plain.elim

theorem amount_legible {amount : Amount} {n : Int} (stands : amount.Stands n)
    (shown : (Datum.ofJson amount.toJson).isShowable = true) (room : Nat) :
    Json.Legible false room amount.toJson := by
  rcases stands with rfl | ⟨x, rfl, whole⟩
  · exact .int room (Integer.isShort_iff.mp shown)
  · refine .float room fun wrong => ?_
    obtain ⟨negative, significand, exponent, k, value, -⟩ := Binary64.toInt_some.mp whole
    rw [wrong] at value
    cases value

theorem optional_plain (s : Option Text) : IsPlain (.ofOption .str s) := by cases s <;> exact trivial

theorem row_legible {entry : Item × Outcome}
    (shown : (Datum.ofJson (row entry)).isShowable = true) (room : Nat) :
    Json.Legible false (room + 1) (row entry) := by
  have each := Datum.fields_shown shown
  refine .object ?_ (fun field _ => Json.clear_unicode field.1) ?_
  · simp only [Json.Apart, List.map_cons, List.map_nil]
    decide
  suffices plain : ∀ field : Text × Json, field ∈ _ → IsPlain field.2 from
    fun field member => plain_legible (plain field member) (each field member) room
  simp only [List.forall_mem_cons]
  exact ⟨trivial, trivial, trivial, trivial, trivial, trivial, trivial, trivial, trivial,
    optional_plain _, List.forall_mem_nil _⟩

theorem totals_legible {summary : Summary}
    (shown : (Datum.ofJson (totals summary)).isShowable = true) (room : Nat) :
    Json.Legible false (room + 1) (totals summary) := by
  have each := Datum.fields_shown shown
  refine .object ?_ (fun field _ => Json.clear_unicode field.1) ?_
  · simp only [Json.Apart, List.map_cons, List.map_nil]
    decide
  suffices plain : ∀ field : Text × Json, field ∈ _ → IsPlain field.2 from
    fun field member => plain_legible (plain field member) (each field member) room
  simp only [List.forall_mem_cons]
  exact ⟨trivial, trivial, trivial, trivial, trivial, List.forall_mem_nil _⟩

theorem content_apart (reporting : Context) (summary : Summary) :
    Json.Apart (common reporting summary ++
      (summary.error.map fun error => (Text.ofString "error", Json.str error)).toList) := by
  cases summary.error <;>
    simp only [Json.Apart, common, Option.map_none, Option.map_some, Option.toList_none,
      Option.toList_some, List.map_append, List.map_cons, List.map_nil] <;> decide

theorem content_legible (reporting : Context) {summary : Summary} (bounds : Bounds summary)
    (shown : (Datum.ofJson (content reporting summary)).isShowable = true) :
    Json.Legible false Json.nestingLimit (content reporting summary) := by
  obtain ⟨n, stands⟩ := bounds.workers
  obtain ⟨m, stands, -⟩ := workers_stands stands
  rw [content_common] at shown ⊢
  have each := Datum.fields_shown shown
  refine .object (content_apart reporting summary) (fun field _ => Json.clear_unicode field.1) ?_
  obtain ⟨each, error⟩ := List.forall_mem_append.mp each
  refine List.forall_mem_append.mpr ⟨?_, ?_⟩
  · simp only [common, List.forall_mem_cons] at each ⊢
    obtain ⟨-, version, -, -, -, -, -, workers, totals, rows, -⟩ := each
    have clear (s : Text) : Json.Legible false 974 (.str s) := .str _ (Json.clear_unicode s)
    refine ⟨clear _, .int _ (Integer.isShort_iff.mp version), clear _, clear _, clear _, clear _, clear _,
      amount_legible stands workers _, totals_legible totals _, .list ?_, List.forall_mem_nil _⟩
    have rows := Datum.items_shown rows
    exact List.forall_mem_map.mpr fun entry member =>
      row_legible (rows _ (List.mem_map_of_mem member)) _
  · intro field member
    obtain ⟨told, -, rfl⟩ := Option.map_eq_some_iff.mp (Option.mem_toList.mp member)
    exact .str _ (Json.clear_unicode told)

/-! The text of a report, and the file that it is written to. -/

theorem fileText_reordered {report other : Json} (same : Json.Reordered report other) :
    fileText report = fileText other := by
  rw [fileText, fileText, Json.write, Json.write, Json.writeAt_reordered same]

theorem read_fileText {report : Json} (legible : Json.Legible false Json.nestingLimit report) :
    Json.read (fileText report) = .ok report.inOrder :=
  @Json.read_written .spread report legible _ (List.forall_mem_singleton.mpr rfl)

theorem fileText_lines (report : Json) :
    Text.universalNewlines (fileText report) = fileText report := by
  have free : .char '\r' ∉ fileText report := by
    rw [fileText, Json.write, List.mem_append, not_or]
    exact ⟨Json.writeAt_return report 0, by decide⟩
  have kept := Text.universalNewlines_append free []
  rwa [List.append_nil, Text.universalNewlines, List.append_nil] at kept

theorem half_fileText {report : Json} {half : Fin 2048} :
    .surrogate half ∈ fileText report ↔ ∃ s ∈ report.texts, .surrogate half ∈ s := by
  rw [fileText, List.mem_append, Json.write, Json.half_writeAt rfl]
  simp

theorem readJson_fileText {files : Files} {p : Path} {report : Json} {bytes : List UInt8}
    (legible : Json.Legible false Json.nestingLimit report)
    (encoded : Utf8.encode (fileText report) = .ok bytes) (holds : files.read p = .ok bytes) :
    files.readJson p = .ok report.inOrder := by
  have text : files.readText p = .ok (fileText report) := by
    rw [Files.readText, holds]
    simp only [Utf8.decode_encode encoded, fileText_lines]
  rw [Files.readJson, text]
  exact congrArg (Except.mapError _) (read_fileText legible)

end Report

theorem Files.store_halved {files : Files} {p : Path} {t : Text} {half : Fin 2048}
    (placed : files.Stands) (filed : ∀ error, (files.store p t).2 ≠ .error (.file error))
    (among : .surrogate half ∈ t) :
    ∃ written fault, files.store p t = (written, .error (.unwritable fault)) ∧
      written.read p = .ok [] := by
  obtain ⟨holds, told⟩ := (store_cases placed p t).resolve_left fun ⟨error, refused⟩ =>
    filed error refused
  cases encoded : Utf8.encode t with
  | ok bytes => exact absurd among (Utf8.encode_ok.mp ⟨bytes, encoded⟩ half)
  | error fault =>
      rw [encoded] at holds told
      exact ⟨_, fault, Prod.ext rfl told, holds⟩

namespace Run

/-- A report never fails its own contract, and it survives the file: whatever a run ends with can be
reported, the report fits its schema, and its text does not depend on the order in which fields were
added. A report whose numbers have digits that can be written and read is found in the file as it was
reported, with its fields in some order, and the file fits the schema, unless one half of a character
stands alone in the text; then nothing is written, and the file is left empty. -/
theorem report_survives (machine : Machine) (config : Config) (context : Option Context)
    (schedule : List Nat) (target : Path) (concurrency : Amount) (n : Int)
    (stands : concurrency.Stands n) (style : ConsoleStyle) (summary : Summary) (after : Console)
    (events : Transcript)
    (ended : ((performAlong schedule machine config context (inSandbox machine config context) target
      concurrency).run (Console.new style)).perform = (.ok (summary, after), events))
    (reporting : Context) :
    ∃ report, Report.payload reporting summary = .ok report ∧
      Contract.runReport.check (.ofJson report) = .ok () ∧
      (∀ other, Json.Reordered report other → Report.fileText other = Report.fileText report) ∧
      ((Datum.ofJson report).isShowable = true → ∀ (files : Files) (p : Path), files.Stands →
        (∀ error, (files.store p (Report.fileText report)).2 ≠ .error (.file error)) →
          ((∀ half, .surrogate half ∉ Report.fileText report) →
            ∃ written other, files.store p (Report.fileText report) = (written, .ok ()) ∧
              written.readJson p = .ok other ∧ Json.Reordered report other ∧
              Contract.checkFile written Contract.runReport.name p = .ok ()) ∧
          ∀ half, .surrogate half ∈ Report.fileText report →
            ∃ written fault, files.store p (Report.fileText report) =
                (written, .error (.unwritable fault)) ∧ written.read p = .ok []) := by
  have bounds := (performAlong_ended ended).bounds stands
  have fits := Report.content_accepted reporting bounds
  refine ⟨Report.content reporting summary, Report.payload_content reporting bounds,
    Contract.check_ok.mpr (fits _ (.refl _)), fun other same => (Report.fileText_reordered same).symm, ?_⟩
  intro shown files p placed filed
  have legible := Report.content_legible reporting bounds shown
  refine ⟨fun whole => ?_, fun half among => Files.store_halved placed filed among⟩
  obtain ⟨holds, told⟩ := (Files.store_cases placed p _).resolve_left fun ⟨error, refused⟩ =>
    filed error refused
  obtain ⟨bytes, encoded⟩ := Utf8.encode_ok.mpr whole
  rw [encoded] at holds told
  have same := Json.legible_reordered legible
  have read := Report.readJson_fileText legible encoded holds
  refine ⟨_, _, Prod.ext rfl told, read, same, ?_⟩
  rw [Contract.checkFile, read]
  exact congrArg (Except.mapError _) (Contract.check_ok.mpr (fits _ same))

/-! A page with one plain block, of which the host says what a report says. -/

def hosting (report : HostReport) : Machine :=
  { onePage with
    files := ⟨.directory [("a.md", .file "```js\ny\n```".toUTF8.data.toList false)], []⟩
    launch := fun _ => .exited 0 (report.line ++ [.char '\n']) [] }

def hostedBlock : Block := ⟨"js", "y\n", thePage, 1, []⟩

def hosted (report : HostReport) : Summary :=
  .ofOutcomes [⟨hostedBlock, "a.md:1", 0⟩] [report.outcome (hosting report) hostedBlock] 1 3
    (some thePage) (.whole 2)

def archivist : Context := ⟨"r-1", .here, .text, false, false, false, false⟩

def archive : Path := ⟨[], ["r.json"]⟩

theorem hosted_checked {report : HostReport} (whole : report.breaks = false)
    (context : Option Context) :
    (inSandbox (hosting report) .defaults context hostedBlock).1 =
      .ok (report.outcome (hosting report) hostedBlock) := by
  have ended : Text.Ended [] := fun some => absurd rfl some
  have read := report.ofOutput_line ended
  rw [whole] at read
  have resolved : (hosting report).files.resolve? hostedBlock.origin.parent = .ok Sandbox.rootPath := by
    rfl
  have limited : Sandbox.hostLimit .defaults = some ⟨4619567317775286272⟩ := by decide +kernel
  have needless : Bundler.isNeeded .defaults hostedBlock = false := by decide +kernel
  obtain ⟨input, ready⟩ := Sandbox.launch_ready
    ⟨hostedBlock.source, Bundler.filename hostedBlock, false, false⟩ resolved limited
  have course := Sandbox.Course.reported (.direct needless) ready rfl read
  rw [report.ofReport_fields] at course
  exact congrArg (Except.mapError Failure.message) (course.check (by decide +kernel) context).1

def hostedDiscovery : Discovery := ⟨[thePage], [⟨hostedBlock, "a.md:1", 0⟩]⟩

theorem hosted_discovered (report : HostReport) (context : Option Context) (warns : Bool) :
    (Discovery.ofTarget (hosting report) .defaults context warns thePage).perform.1 =
      .ok hostedDiscovery := by
  rw [Discovery.ofTarget_result]
  rfl

theorem hosted_ends (report : HostReport) (whole : report.breaks = false) (context : Option Context)
    (schedule : List Nat) {style : ConsoleStyle} (plain : style.interactive = false)
    {concurrency : Int} (positive : 1 ≤ concurrency) (short : Integer.isShort concurrency = true) :
    ∃ after events,
      ((performAlong schedule (hosting report) .defaults context
        (inSandbox (hosting report) .defaults context) thePage (.whole concurrency)).run
          (Console.new style)).perform =
            (.ok ({ hosted report with concurrency := .whole concurrency }, after), events) := by
  have present : (hosting report).files.pathExists thePage = .ok true := rfl
  have place : (hosting report).files.isDirectory thePage = .ok false := rfl
  have told : Told hostedDiscovery concurrency := by
    refine ⟨?_, short, ?_⟩ <;> decide +kernel
  obtain ⟨after, events, -, ended, -⟩ := performAlong_ends plain present place
    (Prod.ext (hosted_discovered report context true) rfl)
    (inSandbox (hosting report) .defaults context) schedule positive told
  have outcome : (crew (hosting report) none (inSandbox (hosting report) .defaults context)
      []).outcomeOf hostedBlock = report.outcome (hosting report) hostedBlock := by
    simp only [Pool.Crew.outcomeOf, crew, hosted_checked whole]
  refine ⟨after, events, ?_⟩
  rw [ended, figures]
  simp only [hostedDiscovery, List.map_cons, List.map_nil, outcome]
  rfl

theorem hosted_stored (report : HostReport) (t : Text) :
    ((hosting report).files.store archive t).2 =
      ((Utf8.encode t).mapError .unwritable).map fun _ => () := by
  rfl

theorem hosted_filed (report : HostReport) (t : Text) (error : FileError) :
    ((hosting report).files.store archive t).2 ≠ .error (.file error) := by
  rw [hosted_stored]
  cases Utf8.encode t <;> exact nofun

theorem hosted_whole (half : Fin 2048) :
    .surrogate half ∉ Report.fileText (Report.content archivist (hosted HostReport.shortReport)) := by
  have low : (Report.content archivist (hosted HostReport.shortReport)).texts.all
      (·.all (·.val < 0xD800)) = true := by decide +kernel
  rw [Report.half_fileText]
  rintro ⟨s, held, inside⟩
  have below := List.all_eq_true.mp (List.all_eq_true.mp low s held) _ inside
  exact absurd (of_decide_eq_true below) (Nat.not_lt.mpr (Nat.le_add_right _ _))

theorem report_survives_hosted :
    let machine := hosting HostReport.shortReport
    ∃ after events report written other,
      ((performAlong [1, 0] machine .defaults none (inSandbox machine .defaults none) thePage
        (.whole 2)).run (Console.new ⟨.output, false, false, false⟩)).perform =
          (.ok (hosted HostReport.shortReport, after), events) ∧
        (hosted HostReport.shortReport).passed = 1 ∧
        Report.payload archivist (hosted HostReport.shortReport) = .ok report ∧
        machine.files.store archive (Report.fileText report) = (written, .ok ()) ∧
        written.readJson archive = .ok other ∧ Json.Reordered report other ∧
        Contract.checkFile written Contract.runReport.name archive = .ok () := by
  intro machine
  have plain : (⟨.output, false, false, false⟩ : ConsoleStyle).interactive = false := rfl
  obtain ⟨after, events, ended⟩ := hosted_ends _ HostReport.shortReport_whole none [1, 0] plain
    (show (1 : Int) ≤ 2 by decide) (by decide +kernel)
  have stands : (Amount.whole 2).Stands 2 := .inl rfl
  obtain ⟨report, reported, -, -, survives⟩ := report_survives machine .defaults none [1, 0] thePage
    (.whole 2) 2 stands _ _ after events ended archivist
  rw [Report.payload_content _ ((performAlong_ended ended).bounds stands)] at reported
  cases reported
  have shown : (Datum.ofJson (Report.content archivist (hosted HostReport.shortReport))).isShowable =
      true := by decide +kernel
  obtain ⟨written, other, stored, read, same, fits⟩ :=
    (survives shown machine.files archive ⟨_, rfl⟩ (hosted_filed _ _)).1 hosted_whole
  exact ⟨after, events, _, written, other, ended, by decide +kernel,
    Report.payload_content _ ((performAlong_ended ended).bounds stands), stored, read, same, fits⟩

def halfReport : HostReport := ⟨true, ⟨[.surrogate ⟨0, by decide⟩], trivial⟩, none, false⟩

/-- The block passes, and the report of it is made but cannot be written: its file is left empty. -/
theorem halved_report_lost :
    let machine := hosting halfReport
    ∃ after events report written fault,
      ((performAlong [] machine .defaults none (inSandbox machine .defaults none) thePage
        (.whole 2)).run (Console.new ⟨.output, false, false, false⟩)).perform =
          (.ok (hosted halfReport, after), events) ∧
        (hosted halfReport).passed = 1 ∧
        Report.payload archivist (hosted halfReport) = .ok report ∧
        machine.files.store archive (Report.fileText report) =
          (written, .error (.unwritable fault)) ∧
        written.read archive = .ok [] := by
  intro machine
  have plain : (⟨.output, false, false, false⟩ : ConsoleStyle).interactive = false := rfl
  obtain ⟨after, events, ended⟩ := hosted_ends halfReport (by decide +kernel) none [] plain
    (show (1 : Int) ≤ 2 by decide) (by decide +kernel)
  have reported := Report.payload_content archivist
    ((performAlong_ended ended).bounds (.inl rfl : (Amount.whole 2).Stands 2))
  have said : [.surrogate ⟨0, by decide⟩] ∈ (Report.content archivist (hosted halfReport)).texts := by
    decide +kernel
  have among : .surrogate ⟨0, by decide⟩ ∈ Report.fileText (Report.content archivist (hosted halfReport)) :=
    Report.half_fileText.mpr ⟨_, said, List.mem_singleton_self _⟩
  obtain ⟨written, fault, stored, empty⟩ :=
    Files.store_halved (⟨_, rfl⟩ : machine.files.Stands) (hosted_filed _ _) among
  exact ⟨after, events, _, written, fault, ended, by decide +kernel, reported, stored, empty⟩

end Run

end FenceCheck
