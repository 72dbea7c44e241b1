import FenceCheck.Proofs.FloatRange
import FenceCheck.Proofs.ReportViews
import FenceCheck.Proofs.XmlDocument

/-!
The report for build services as its readers find it. Whatever blocks print and however they fail, no
text of theirs becomes markup: a document of legal characters is read back case by case. It has legal
characters just if the labels, outputs and errors in it have, and cannot be read otherwise.
-/

namespace FenceCheck

theorem Text.universalNewlines_some {t : Text} (some : t ≠ []) : Text.universalNewlines t ≠ [] := by
  obtain ⟨c, rest, rfl⟩ := List.exists_cons_of_ne_nil some
  unfold Text.universalNewlines
  split
  case h_1 same => cases same
  case h_2 => exact List.cons_ne_nil _ _
  case h_3 => exact List.cons_ne_nil _ _

theorem Number.Written.legal {t : Text} (written : Number.Written t) : Xml.Legal t := by
  have all : (Text.ofChars Number.alphabet).all Xml.isLegal = true := by decide
  exact fun c member => List.all_eq_true.mp all c (written c member)

namespace Report

open Xml

variable {summary : Summary} {suite case : Element}

def complaint (outcome : Outcome) : Text :=
  match outcome.error with
  | none | some [] => "failed"
  | some error => error

theorem complaint_some (outcome : Outcome) : complaint outcome ≠ [] := by
  unfold complaint
  split
  case h_1 => decide
  case h_2 => decide
  case h_3 empty _ => exact fun same => empty same

def said (outcome : Outcome) : Text :=
  if outcome.passed then outcome.output else complaint outcome

/-- The texts of a run that its report holds. -/
def sayings (summary : Summary) : List Text :=
  (summary.rows.flatMap fun entry =>
    [entry.1.block.origin.stem, entry.1.label, said entry.2]) ++ summary.error.toList

/-- What a reader is to find in a case: what a block printed, or why it failed, up to line ends. -/
def detail (outcome : Outcome) : List Node :=
  if outcome.passed then
    if outcome.output.isEmpty then []
    else [.element "system-out" [] [.text (Text.universalNewlines outcome.output)]]
  else
    [.element "failure" [("message", complaint outcome)]
      [.text (Text.universalNewlines (complaint outcome))]]

/-- A case as a reader finds it: it has the label of an item and says what became of it. -/
def TellsOf (entry : Item × Outcome) (node : Node) : Prop :=
  ∃ attributes, node = .element "testcase" attributes (detail entry.2) ∧
    attributes.lookup (Text.ofString "name") = some entry.1.label

/-- A suite as a reader finds it: a case for each item of a run in their order, and why the run was
given up, if it was. -/
def TellsAll (summary : Summary) (document : Node) : Prop :=
  ∃ attributes cases,
    document = .element "testsuite" attributes (cases ++ (summary.error.map fun error =>
      .element "error" [("message", error)] (textual (Text.universalNewlines error))).toList) ∧
    List.Forall₂ TellsOf summary.rows cases

theorem caseDetail_eq (outcome : Outcome) : caseDetail outcome =
    if outcome.passed then
      if outcome.output.isEmpty then [] else [.mk "system-out" [] outcome.output []]
    else [.mk "failure" [("message", complaint outcome)] (complaint outcome) []] := rfl

theorem textual_some {t : Text} (some : t ≠ []) :
    textual (Text.universalNewlines t) = [.text (Text.universalNewlines t)] := by
  rw [textual, if_neg (by simpa using Text.universalNewlines_some some)]

theorem caseDetail_nodes (outcome : Outcome) : nodes (caseDetail outcome) = detail outcome := by
  rw [caseDetail_eq, detail]
  split
  case isTrue passed =>
      split
      case isTrue silent => rfl
      case isFalse printed =>
          rw [nodes, nodes, Element.node, textual_some (by simpa using printed), nodes, List.append_nil]
  case isFalse failed =>
      rw [nodes, nodes, Element.node, textual_some (complaint_some outcome), nodes, List.append_nil]

theorem seconds_written {duration : Int} {time : Text} (made : seconds duration = .ok time) :
    Number.Written time := by
  unfold seconds at made
  split at made
  case h_1 x known =>
      cases made
      exact Number.written_sixPlaces x
  case h_2 => cases made

theorem seconds_error {duration : Int} {failure : Failure} (failed : seconds duration = .error failure) :
    failure = .numberTooLarge ∧ Binary64.overflow ≤ duration.natAbs := by
  unfold seconds at failed
  split at failed
  case h_1 => cases failed
  case h_2 unknown =>
      cases failed
      obtain ⟨n, same, large⟩ := Amount.thousandth_none.mp unknown
      cases same
      exact ⟨rfl, large⟩

theorem caseDetail_named (outcome : Outcome) : ∀ element ∈ caseDetail outcome, Named element := by
  rw [caseDetail_eq]
  split
  case isTrue passed =>
      split
      case isTrue silent => exact List.forall_mem_nil _
      case isFalse printed =>
          exact List.forall_mem_singleton.mpr
            (named_keys [] rfl (by decide +kernel) (List.forall_mem_nil _))
  case isFalse failed =>
      exact List.forall_mem_singleton.mpr
        (named_keys ["message"] rfl (by decide +kernel) (List.forall_mem_nil _))

theorem caseDetail_legal (outcome : Outcome) :
    (∀ element ∈ caseDetail outcome, ∀ t ∈ element.strings, Legal t) ↔ Legal (said outcome) := by
  rw [caseDetail_eq, said]
  split
  case isTrue passed =>
      split
      case isTrue silent =>
          rw [List.isEmpty_iff.mp silent]
          exact iff_of_true (List.forall_mem_nil _) (List.forall_mem_nil _)
      case isFalse printed => simp [legal_strings]
  case isFalse failed => simp [legal_strings]

theorem testCase_read {entry : Item × Outcome} (made : testCase entry = .ok case) :
    Named case ∧ TellsOf entry case.node ∧
      ((∀ t ∈ case.strings, Legal t) ↔
        Legal entry.1.block.origin.stem ∧ Legal entry.1.label ∧ Legal (said entry.2)) := by
  unfold testCase at made
  obtain ⟨time, timed, made⟩ := Except.bind_ok.mp made
  cases made
  refine ⟨named_keys ["classname", "name", "time"] rfl (by decide +kernel)
    (caseDetail_named entry.2), ⟨_, by rw [Element.node, caseDetail_nodes]; rfl, rfl⟩, ?_⟩
  have number := (seconds_written timed).legal
  have suite : Legal suiteName ∧ isLegal (.char '.') = true ∧ Legal [] := by decide
  simp [legal_strings, caseDetail_legal, legal_append, legal_cons, suite, number, and_assoc]

def errorsOf (error : Option Text) : List Element :=
  (error.map fun error => Element.mk "error" [("message", error)] error []).toList

theorem errors_read (error : Option Text) :
    (∀ element ∈ errorsOf error, Named element) ∧
      nodes (errorsOf error) = (error.map fun error =>
        Node.element "error" [("message", error)] (textual (Text.universalNewlines error))).toList ∧
      ((∀ element ∈ errorsOf error, ∀ t ∈ element.strings, Legal t) ↔
        ∀ t ∈ error.toList, Legal t) := by
  cases error with
  | none =>
      exact ⟨List.forall_mem_nil _, rfl, iff_of_true (List.forall_mem_nil _) (List.forall_mem_nil _)⟩
  | some error =>
      refine ⟨List.forall_mem_singleton.mpr
        (named_keys ["message"] rfl (by decide +kernel) (List.forall_mem_nil _)), ?_, ?_⟩
      · simp [errorsOf, nodes, Element.node]
      · simp [errorsOf, legal_strings]

theorem cases_read {entries : List (Item × Outcome)} {cases : List Element}
    (each : List.Forall₂ (fun entry case => testCase entry = .ok case) entries cases) :
    (∀ case ∈ cases, Named case) ∧ List.Forall₂ TellsOf entries (nodes cases) ∧
      ((∀ case ∈ cases, ∀ t ∈ case.strings, Legal t) ↔ ∀ entry ∈ entries,
        Legal entry.1.block.origin.stem ∧ Legal entry.1.label ∧ Legal (said entry.2)) := by
  induction each with
  | nil =>
      exact ⟨List.forall_mem_nil _, .nil, iff_of_true (List.forall_mem_nil _) (List.forall_mem_nil _)⟩
  | cons made others ih =>
      obtain ⟨named, tells, legal⟩ := testCase_read made
      obtain ⟨allNamed, allTell, allLegal⟩ := ih
      refine ⟨List.forall_mem_cons.mpr ⟨named, allNamed⟩, .cons tells allTell, ?_⟩
      rw [List.forall_mem_cons, List.forall_mem_cons, legal, allLegal]

def figuresOf (summary : Summary) (time : Text) : List (Text × Text) :=
  [("name", suiteName), ("tests", Text.ofInt summary.total),
   ("failures", Text.ofInt (failures summary)), ("errors", Text.ofNat (errorsOf summary.error).length), ("time", time)]

theorem suite_parts (made : Report.suite summary = .ok suite) :
    ∃ time cases, Number.Written time ∧
      List.Forall₂ (fun entry case => testCase entry = .ok case) summary.rows cases ∧
      suite = .mk "testsuite" (figuresOf summary time) [] (cases ++ errorsOf summary.error) := by
  unfold Report.suite at made
  obtain ⟨tests, total, made⟩ := Except.bind_ok.mp made
  obtain ⟨fails, failed, made⟩ := Except.bind_ok.mp made
  cases count_ok total
  cases count_ok failed
  obtain ⟨time, timed, made⟩ := Except.bind_ok.mp made
  obtain ⟨cases, each, made⟩ := Except.bind_ok.mp made
  cases made
  exact ⟨time, cases, seconds_written timed, Except.mapM_ok.mp each, rfl⟩

theorem figures_legal (summary : Summary) {time : Text} (written : Number.Written time) :
    ∀ entry ∈ figuresOf summary time, Legal entry.2 := by
  have suite : Legal suiteName := by decide
  simp [figuresOf, suite, (Number.written_ofInt _).legal, (Number.written_ofNat _).legal, written.legal]

theorem legal_sayings : (∀ t ∈ sayings summary, Legal t) ↔
    (∀ entry ∈ summary.rows,
      Legal entry.1.block.origin.stem ∧ Legal entry.1.label ∧ Legal (said entry.2)) ∧
      ∀ t ∈ summary.error.toList, Legal t := by
  rw [sayings, List.forall_mem_append, List.forall_mem_flatMap]
  exact and_congr_left' (forall₂_congr fun entry _ => by simp)

theorem suite_read (made : Report.suite summary = .ok suite) :
    Named suite ∧ TellsAll summary suite.node ∧
      (Legal suite.write ↔ ∀ t ∈ sayings summary, Legal t) := by
  obtain ⟨time, cases, written, each, rfl⟩ := suite_parts made
  obtain ⟨casesNamed, tells, casesLegal⟩ := cases_read each
  obtain ⟨errorsNamed, errorNodes, errorsLegal⟩ := errors_read summary.error
  have named : Named (.mk "testsuite" (figuresOf summary time) [] (cases ++ errorsOf summary.error)) :=
    named_keys ["name", "tests", "failures", "errors", "time"] rfl (by decide +kernel)
      (List.forall_mem_append.mpr ⟨casesNamed, errorsNamed⟩)
  refine ⟨named, ⟨figuresOf summary time, nodes cases, ?_, tells⟩, ?_⟩
  · rw [Element.node, ← errorNodes, nodes_map, nodes_map, nodes_map, List.map_append]
    rfl
  · rw [legal_write named, legal_strings, List.forall_mem_append, casesLegal, errorsLegal,
      legal_sayings]
    exact (and_iff_right (figures_legal summary written)).trans
      (and_iff_right (List.forall_mem_nil _))

theorem testCase_error {entry : Item × Outcome} {failure : Failure}
    (failed : testCase entry = .error failure) :
    failure = .numberTooLarge ∧ Binary64.overflow ≤ entry.2.duration.natAbs := by
  unfold testCase at failed
  rcases Except.bind_error.mp failed with timed | ⟨time, -, never⟩
  · exact seconds_error timed
  · cases never

/-- Why the report of a run cannot be made: a count that is too long to be written, or a time beyond all
floating-point numbers. -/
def Unmade (summary : Summary) (failure : Failure) : Prop :=
  (failure = .scalar .hugeInteger ∧
    ∃ n ∈ [summary.total, failures summary], Integer.isShort n = false) ∨
  (failure = .numberTooLarge ∧
    ∃ duration ∈ summary.duration :: summary.rows.map (·.2.duration),
      Binary64.overflow ≤ duration.natAbs)

theorem suite_error {failure : Failure} (failed : Report.suite summary = .error failure) :
    Unmade summary failure := by
  unfold Report.suite at failed
  rcases Except.bind_error.mp failed with total | ⟨tests, -, failed⟩
  · exact .inl ((count_error total).imp_right fun long => ⟨_, List.mem_cons_self, long⟩)
  rcases Except.bind_error.mp failed with fails | ⟨fails, -, failed⟩
  · exact .inl ((count_error fails).imp_right fun long =>
      ⟨_, List.mem_cons_of_mem _ List.mem_cons_self, long⟩)
  rcases Except.bind_error.mp failed with timed | ⟨time, -, failed⟩
  · exact .inr ((seconds_error timed).imp_right fun large => ⟨_, List.mem_cons_self, large⟩)
  rcases Except.bind_error.mp failed with made | ⟨cases, -, never⟩
  · obtain ⟨entry, member, made⟩ := Except.mapM_error made
    exact .inr ((testCase_error made).imp_right fun large =>
      ⟨_, List.mem_cons_of_mem _ (List.mem_map_of_mem member), large⟩)
  · cases never

/-- The report of a run can be read just if its sayings are legal, and tells each item's label and
what became of it, whatever markup the sayings hold. Only a count with too many digits or a time beyond
all floating-point numbers keeps it from being made. -/
theorem suite_reads_back (summary : Summary) :
    match Report.suite summary with
    | .ok suite =>
        (Legal suite.write ↔ ∀ t ∈ sayings summary, Legal t) ∧
          (Legal suite.write →
            ∃ document, Xml.read suite.write = some document ∧ TellsAll summary document) ∧
          (¬ Legal suite.write → Xml.read suite.write = none)
    | .error failure => Unmade summary failure := by
  cases made : Report.suite summary with
  | ok suite =>
      obtain ⟨named, tells, legal⟩ := suite_read made
      exact ⟨legal, fun legal => ⟨_, read_write named legal, tells⟩, read_illegal⟩
  | error failure => exact suite_error made

def colored : Summary :=
  let block : Block := ⟨"js", "x\n", ⟨[], ["a.md"]⟩, 1, []⟩
  .ofOutcomes [⟨block, "a.md:1", 0⟩] [.pass block "\x1b[31mred" 4] 1 12 none (.whole 1)

theorem colored_suite_unreadable :
    ∃ suite, Report.suite colored = .ok suite ∧ ¬ Legal suite.write ∧ Xml.read suite.write = none := by
  have counted : Integer.isShort colored.total = true ∧
      Integer.isShort (failures colored) = true := by decide +kernel
  have whole : (Amount.whole colored.duration).thousandth.isSome = true := by decide +kernel
  have each : ∀ entry ∈ colored.rows, (Amount.whole entry.2.duration).thousandth.isSome = true := by
    decide +kernel
  obtain ⟨suite, made⟩ := suite_made counted whole each
  have escapes : ¬ ∀ t ∈ sayings colored, Legal t := by decide +kernel
  have illegal := mt (suite_read made).2.2.mp escapes
  exact ⟨suite, made, illegal, read_illegal illegal⟩

end Report

end FenceCheck
