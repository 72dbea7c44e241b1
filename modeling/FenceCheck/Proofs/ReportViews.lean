import FenceCheck.Proofs.NumberText
import FenceCheck.Proofs.Fallible
import FenceCheck.Report.Junit
import FenceCheck.Report.Payload

/-!
What readers find in the two reports of a run: the rows of the one for programs, and the cases of the
one for build services. Both are made from the same figures, so they tell of the same items.
-/

namespace FenceCheck

namespace Json

def textAt (value : Json) (name : Text) : Option Text :=
  match value.get? name with
  | some (.str text) => some text
  | _ => none

end Json

namespace Xml.Element

def name : Element → Text
  | .mk name _ _ _ => name

def attribute? : Element → Text → Option Text
  | .mk _ attributes _ _, name => attributes.lookup name

def inside : Element → Text → List Element
  | .mk _ _ _ children, name => children.filter (·.name = name)

end Xml.Element

/-- The figures count the outcomes, and each item has one. -/
structure Summary.Counts (summary : Summary) : Prop where
  each : summary.outcomes.length = summary.items.length
  total : summary.total = summary.outcomes.length
  passed : summary.passed = summary.outcomes.countP (·.passed)
  failed : summary.failed = summary.outcomes.countP (!·.passed)

/-- The figures of a run that ended: they count its outcomes, or it was given up. -/
inductive Summary.Final : Summary → Prop where
  | counted {summary : Summary} (whole : summary.error = none) (counts : summary.Counts) :
      summary.Final
  | aborted (target : Option Path) (error : Text) : (Summary.aborted target error).Final

namespace Summary

theorem parted (outcomes : List Outcome) :
    outcomes.length = outcomes.countP (·.passed) + outcomes.countP (!·.passed) := by
  have both := List.length_eq_countP_add_countP (fun outcome : Outcome => outcome.passed)
    (l := outcomes)
  simpa using both

theorem counts_ofOutcomes {items : List Item} {outcomes : List Outcome}
    (each : outcomes.length = items.length) (documents duration : Int) (target : Option Path)
    (concurrency : Amount) :
    (ofOutcomes items outcomes documents duration target concurrency).Counts := by
  have both := parted outcomes
  refine ⟨each, rfl, rfl, ?_⟩
  simp only [ofOutcomes]
  omega

variable {summary : Summary}

theorem Counts.sum (counts : summary.Counts) : summary.passed + summary.failed = summary.total := by
  have both := parted summary.outcomes
  rw [counts.passed, counts.failed, counts.total]
  omega

theorem Counts.items (counts : summary.Counts) : summary.rows.map Prod.fst = summary.items :=
  List.map_fst_zip (Nat.le_of_eq counts.each.symm)

theorem Counts.outcomes (counts : summary.Counts) : summary.rows.map Prod.snd = summary.outcomes :=
  List.map_snd_zip (Nat.le_of_eq counts.each)

theorem Counts.rows (counts : summary.Counts) : (summary.rows.length : Int) = summary.total := by
  rw [counts.total, ← counts.outcomes, List.length_map]

end Summary

namespace Report

variable {summary : Summary} {reporting : Context} {report : Json} {suite case : Xml.Element}

theorem payload_ok (reported : payload reporting summary = .ok report) :
    report = content reporting summary := by
  unfold payload at reported
  cases checked : Contract.runReport.check (.ofJson (content reporting summary)) with
  | error error =>
      simp only [checked] at reported
      cases reported
  | ok =>
      simp only [checked] at reported
      cases reported
      rfl

theorem content_status : (content reporting summary).textAt "status" = some (status summary) := rfl

theorem content_results :
    (content reporting summary).get? "results" = some (.list (summary.rows.map row)) := rfl

theorem row_label (entry : Item × Outcome) : (row entry).textAt "label" = some entry.1.label := rfl

theorem row_status (entry : Item × Outcome) : (row entry).textAt "status" = some entry.2.status := rfl

theorem count_short {n : Int} (short : Integer.isShort n = true) : count n = .ok (Text.ofInt n) :=
  if_pos short

theorem count_ok {n : Int} {text : Text} (made : count n = .ok text) : text = Text.ofInt n := by
  cases short : Integer.isShort n with
  | true => exact Except.ok.inj (made.symm.trans (count_short short))
  | false =>
      rw [count, short] at made
      cases made

theorem count_error {n : Int} {failure : Failure} (failed : count n = .error failure) :
    failure = .scalar .hugeInteger ∧ Integer.isShort n = false := by
  cases short : Integer.isShort n with
  | true => cases (count_short short).symm.trans failed
  | false =>
      rw [count, short] at failed
      cases failed
      exact ⟨rfl, rfl⟩

theorem seconds_some {duration : Int}
    (small : (Amount.whole duration).thousandth.isSome = true) :
    ∃ time, seconds duration = .ok time := by
  obtain ⟨x, known⟩ := Option.isSome_iff_exists.mp small
  rw [seconds, known]
  exact ⟨_, rfl⟩

theorem detail_failure (outcome : Outcome) :
    ((caseDetail outcome).filter (·.name = Text.ofString "failure")).isEmpty = outcome.passed := by
  unfold caseDetail
  by_cases passed : outcome.passed = true
  · rw [if_pos passed, passed]
    split <;> rfl
  · rw [if_neg passed, Bool.eq_false_iff.mpr passed]
    rfl

theorem testCase_ok {entry : Item × Outcome} (made : testCase entry = .ok case) :
    case.name = Text.ofString "testcase" ∧ case.attribute? "name" = some entry.1.label ∧
      (case.inside "failure").isEmpty = entry.2.passed := by
  unfold testCase at made
  obtain ⟨time, -, made⟩ := Except.bind_ok.mp made
  cases made
  exact ⟨rfl, rfl, detail_failure entry.2⟩

theorem testCases_named {entries : List (Item × Outcome)} {cases : List Xml.Element}
    (each : List.Forall₂ (fun entry case => testCase entry = .ok case) entries cases) :
    ∀ case ∈ cases, case.name = Text.ofString "testcase" := by
  induction each with
  | nil => exact List.forall_mem_nil _
  | cons made _ ih => exact List.forall_mem_cons.mpr ⟨(testCase_ok made).1, ih⟩

/-- A suite can be made where its counts and all its times can be written. -/
theorem suite_made (counted : Integer.isShort summary.total = true ∧
      Integer.isShort (failures summary) = true)
    (whole : (Amount.whole summary.duration).thousandth.isSome = true)
    (each : ∀ entry ∈ summary.rows, (Amount.whole entry.2.duration).thousandth.isSome = true) :
    ∃ suite, Report.suite summary = .ok suite := by
  obtain ⟨time, written⟩ := seconds_some whole
  obtain ⟨cases, made⟩ : ∃ cases, summary.rows.mapM testCase = .ok cases := by
    refine Except.mapM_exists fun entry member => ?_
    obtain ⟨time, written⟩ := seconds_some (each entry member)
    unfold testCase
    simp only [written]
    exact ⟨_, rfl⟩
  unfold Report.suite
  rw [count_short counted.1, count_short counted.2, written, made]
  exact ⟨_, rfl⟩

theorem reports_made (fits : (payload reporting summary).isOk = true)
    (counted : Integer.isShort summary.total = true ∧ Integer.isShort (failures summary) = true)
    (whole : (Amount.whole summary.duration).thousandth.isSome = true)
    (each : ∀ entry ∈ summary.rows, (Amount.whole entry.2.duration).thousandth.isSome = true) :
    ∃ report suite, payload reporting summary = .ok report ∧ Report.suite summary = .ok suite := by
  obtain ⟨suite, suited⟩ := suite_made counted whole each
  cases reported : payload reporting summary with
  | error failure =>
      rw [reported] at fits
      cases fits
  | ok report => exact ⟨report, suite, rfl, suited⟩

theorem suite_ok (made : Report.suite summary = .ok suite) :
    ∃ cases, List.Forall₂ (fun entry case => testCase entry = .ok case) summary.rows cases ∧
      suite.inside "testcase" = cases ∧
      suite.attribute? "tests" = some (Text.ofInt summary.total) ∧
      suite.attribute? "failures" = some (Text.ofInt (failures summary)) ∧
      suite.attribute? "errors" = some (Text.ofNat summary.error.toList.length) := by
  unfold Report.suite at made
  obtain ⟨tests, total, made⟩ := Except.bind_ok.mp made
  obtain ⟨fails, failed, made⟩ := Except.bind_ok.mp made
  cases count_ok total
  cases count_ok failed
  obtain ⟨time, -, made⟩ := Except.bind_ok.mp made
  obtain ⟨cases, each, made⟩ := Except.bind_ok.mp made
  cases made
  refine ⟨cases, Except.mapM_ok.mp each, ?_, rfl, rfl, ?_⟩
  · have named := testCases_named (Except.mapM_ok.mp each)
    have stays : cases.filter (·.name = Text.ofString "testcase") = cases :=
      List.filter_eq_self.mpr fun case member => decide_eq_true (named case member)
    rw [Xml.Element.inside, List.filter_append, stays]
    cases summary.error with
    | none => exact List.append_nil _
    | some error => exact List.append_nil _
  · cases summary.error <;> rfl

def rowFails (row : Json) : Bool := row.textAt "status" = some (Text.ofString "fail")

def caseFails (case : Xml.Element) : Bool := !(case.inside "failure").isEmpty

theorem rowFails_row (entry : Item × Outcome) : rowFails (row entry) = !entry.2.passed := by
  rw [rowFails, row_status, Outcome.status]
  cases entry.2.passed <;> decide

theorem map_cases {α : Type} {entries : List (Item × Outcome)} {cases : List Xml.Element}
    {ofEntry : Item × Outcome → α} {ofCase : Xml.Element → α}
    (each : List.Forall₂ (fun entry case => testCase entry = .ok case) entries cases)
    (same : ∀ {entry case}, testCase entry = .ok case → ofCase case = ofEntry entry) :
    cases.map ofCase = entries.map ofEntry := by
  induction each with
  | nil => rfl
  | cons made _ ih => rw [List.map_cons, List.map_cons, ih, same made]

/-- Both reports give one verdict on the run. -/
structure Agrees (summary : Summary) (report : Json) (suite : Xml.Element) : Prop where
  status : report.textAt "status" = some (Text.ofString "pass") ↔ summary.failed = 0
  suite : suite.attribute? "failures" = some (Text.ofString "0") ∧
    suite.attribute? "errors" = some (Text.ofString "0") ↔ summary.failed = 0

/-- Rows and cases tell of the items of a run, in their order and with one verdict on each. -/
structure Accounts (summary : Summary) (rows : List Json) (suite : Xml.Element) : Prop where
  sum : summary.passed + summary.failed = summary.total
  items : (summary.items.length : Int) = summary.total
  rowCount : (rows.length : Int) = summary.total
  tests : suite.attribute? "tests" = some (Text.ofInt summary.total)
  caseCount : ((suite.inside "testcase").length : Int) = summary.total
  rowLabels : rows.map (·.textAt "label") = summary.items.map fun item => some item.label
  caseLabels : (suite.inside "testcase").map (·.attribute? "name") =
    summary.items.map fun item => some item.label
  failures : rows.map rowFails = (suite.inside "testcase").map caseFails
  failed : (rows.countP rowFails : Int) = summary.failed

/-- The reports of a run that was given up. -/
structure Abandoned (report : Json) (rows : List Json) (suite : Xml.Element) : Prop where
  status : report.textAt "status" = some (Text.ofString "error")
  rows : rows = []
  cases : suite.inside "testcase" = []
  failures : suite.attribute? "failures" = some (Text.ofString "0")
  errors : suite.attribute? "errors" = some (Text.ofString "1")

theorem aborted_failed (target : Option Path) (error : Text) :
    (Summary.aborted target error).failed ≠ 0 := Int.one_ne_zero

theorem status_pass (final : summary.Final) :
    status summary = Text.ofString "pass" ↔ summary.failed = 0 := by
  cases final with
  | aborted target error =>
      have apart : Text.ofString "error" ≠ Text.ofString "pass" := by decide
      exact iff_of_false apart (aborted_failed target error)
  | counted whole counts =>
      rw [status, whole]
      by_cases zero : summary.failed = 0
      · simp [Summary.isOk, zero]
      · simp only [Summary.isOk, zero]
        exact iff_of_false (by decide) id

theorem agrees (final : summary.Final) (made : Report.suite summary = .ok suite) :
    Agrees summary (content reporting summary) suite := by
  obtain ⟨cases, -, -, -, failures, errors⟩ := suite_ok made
  constructor
  case status =>
      rw [content_status, Option.some.injEq]
      exact status_pass final
  case suite =>
      rw [failures, errors]
      cases final with
      | aborted target error =>
          have one : Text.ofNat 1 ≠ Text.ofString "0" := by decide
          exact iff_of_false (fun same => one (Option.some.inj same.2))
            (aborted_failed target error)
      | counted whole counts =>
          have own : Report.failures summary = summary.failed := if_pos (by rw [whole]; rfl)
          rw [own, whole, Option.some.injEq, Option.some.injEq]
          exact (and_iff_left rfl).trans Text.ofInt_zero

theorem accounts (counts : summary.Counts) (made : Report.suite summary = .ok suite) :
    Accounts summary (summary.rows.map row) suite := by
  obtain ⟨cases, each, inside, tests, -, -⟩ := suite_ok made
  have count := each.length_eq
  have labels : summary.rows.map (fun entry => some entry.1.label) =
      summary.items.map fun item => some item.label := by
    rw [← counts.items, List.map_map]
    rfl
  refine ⟨counts.sum, ?_, ?_, tests, ?_, ?_, ?_, ?_, ?_⟩
  · rw [counts.total, counts.each]
  · rw [List.length_map, counts.rows]
  · rw [inside, ← count, counts.rows]
  · rw [List.map_map, ← labels]
    exact List.map_congr_left fun entry _ => row_label entry
  · rw [inside, ← labels]
    exact map_cases each fun made => (testCase_ok made).2.1
  · -- Rows and cases are both compared with the entries that they are made from.
    rw [inside, List.map_map]
    refine (map_cases each fun made => ?_).symm
    rw [caseFails, (testCase_ok made).2.2, Function.comp, rowFails_row]
  · rw [List.countP_map, counts.failed, ← counts.outcomes, List.countP_map]
    congr 2
    funext entry
    exact rowFails_row entry

theorem abandoned {target : Option Path} {error : Text}
    (made : Report.suite (.aborted target error) = .ok suite) :
    let report := content reporting (.aborted target error)
    Abandoned report ((Summary.aborted target error).rows.map row) suite := by
  obtain ⟨cases, each, inside, -, failures, errors⟩ := suite_ok made
  cases each
  have one : Text.ofNat 1 = Text.ofString "1" := by decide
  exact ⟨rfl, rfl, inside, failures, errors.trans (congrArg some one)⟩

end Report

end FenceCheck
