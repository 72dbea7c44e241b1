import FenceCheck.Proofs.BlockPipeline
import FenceCheck.Proofs.TidyText

/-!
The outcome of a block as it is shown. A pass carries no error. A failure says on one line what is
wrong, unless cleaning a complaint of the bundler for the second time leaves nothing of it, or the
operating system gave a reason that is not fit to be shown.
-/

namespace FenceCheck

variable {machine : Machine} {config : Config} {block : Block}

open Text (Tidy Whole closes opens)

/-! Texts that are fit to be shown. -/

theorem tidy_number {front back number : Text} (written : Number.Written number)
    (whole : Whole front) (opening : opens front = true) (rest : Whole back)
    (closing : closes (number ++ back) = true) : Tidy (front ++ number ++ back) := by
  rw [List.append_assoc]
  refine Text.tidy_iff.mpr ⟨?_, Text.opens_append opening, Text.closes_append closing⟩
  simp only [Text.whole_append]
  exact ⟨whole, Text.whole_written written, rest⟩

theorem tidy_code {front : Text} (whole : Whole front) (opening : opens front = true) (code : Int) :
    Tidy (front ++ Text.ofInt code) := by
  have tidy : Tidy (front ++ Text.ofInt code ++ []) :=
    tidy_number (Number.written_ofInt code) whole opening (by decide)
      (by rw [List.append_nil]; exact Text.ofInt_closes code)
  rwa [List.append_nil] at tidy

theorem plain_number {front back number : Text} (written : Number.Written number)
    (tidy : Tidy (front ++ number ++ back))
    (colon : .char ':' ∉ front ∧ .char ':' ∉ back)
    (underscore : .char '_' ∉ front ∧ .char '_' ∉ back)
    (first : ∀ c ∈ front.head?, c ≠ .char 'a' ∧ c ≠ .char '✘' ∧ c ≠ .char '[') (some : front ≠ []) :
    Diagnostic.Plain (front ++ number ++ back) where
  tidy := tidy
  colon := by
    have absent : .char ':' ∉ number := fun member => absurd (written _ member) (by decide)
    simp [colon, absent]
  underscore := by
    have absent : .char '_' ∉ number := fun member => absurd (written _ member) (by decide)
    simp [underscore, absent]
  first := by
    intro c here
    refine first c ?_
    rwa [List.append_assoc, List.head?_append, List.head?_eq_some_head some, Option.some_or,
      ← List.head?_eq_some_head some] at here

namespace Bundler

theorem timeoutText_clean (config : Config) :
    Diagnostic.clean (timeoutText config) = timeoutText config ∧ Tidy (timeoutText config) := by
  have written := Number.written_amount config.bundleTimeout
  have tidy : Tidy (timeoutText config) :=
    tidy_number written (by decide) (by decide) (by decide) (Text.closes_append (by decide))
  refine ⟨Diagnostic.Plain.clean ?_, tidy⟩
  exact plain_number written tidy (by decide) (by decide) (by decide) (by decide)

def exitText (code : Int) : Text := Text.ofString "esbuild exited with code " ++ Text.ofInt code

theorem exitText_clean (code : Int) :
    Diagnostic.clean (exitText code) = exitText code ∧ Tidy (exitText code) := by
  have tidy : Tidy (exitText code) := tidy_code (by decide) (by decide) code
  refine ⟨Diagnostic.Plain.clean ?_, tidy⟩
  rw [exitText, ← List.append_nil (_ ++ _)] at tidy ⊢
  exact plain_number (Number.written_ofInt code) tidy (by decide) (by decide) (by decide) (by decide)

theorem missingText_clean : Diagnostic.clean missingText = missingText ∧ Tidy missingText := by
  refine ⟨by decide +kernel, Text.tidy_iff.mpr ⟨by decide +kernel, by decide, by decide +kernel⟩⟩

end Bundler

theorem FileError.refused_tail (fault : FileFault) (name : Text) :
    Whole (FileError.refused fault name).message ∧
      closes (FileError.refused fault name).message = true := by
  have described : Whole fault.description := by cases fault <;> decide
  refine ⟨?_, Text.closes_append (Text.quoted_closes name)⟩
  simp only [FileError.message, Text.whole_append]
  refine ⟨⟨⟨⟨⟨by decide, ?_⟩, by decide⟩, described⟩, by decide⟩, Text.whole_quoted name⟩
  exact Text.whole_written (Number.written_ofInt fault.number)

theorem StartFault.refused_tail {fault : StartFault} (refused : fault.isRefusal = true)
    (named : ∀ reason, fault ≠ .other reason) : Whole fault.message ∧ closes fault.message = true := by
  cases fault with
  | wordless => cases refused
  | misnamed => cases refused
  | formless => cases refused
  | limit => cases refused
  | other reason => exact absurd rfl (named reason)
  | file fault name => exact FileError.refused_tail fault name
  | directory fault path =>
      have described : Whole fault.description := by cases fault <;> decide
      refine ⟨?_, Text.closes_append (by decide)⟩
      simp only [StartFault.message, Text.whole_append]
      refine ⟨⟨⟨⟨⟨⟨by decide, ?_⟩, by decide⟩, described⟩, by decide⟩, Text.whole_quoted _⟩, by decide⟩
      exact Text.whole_written (Number.written_ofInt fault.number)

namespace Sandbox

theorem orElse_tidy {message fallback : Text} (cleaned : message = [] ∨ Tidy message)
    (fit : Tidy fallback) : Tidy (orElse message fallback) := by
  rcases cleaned with rfl | tidy
  · exact fit
  · have kept : orElse message fallback = message := if_neg (by simpa using tidy.some)
    rwa [kept]

theorem timeoutText_tidy (config : Config) : Tidy (timeoutText config) :=
  tidy_number (Number.written_amount config.timeout) (by decide) (by decide) (by decide)
    (Text.closes_append (by decide))

theorem silenceText_tidy (code : Int) (errors : Text) : Tidy (silenceText code errors) :=
  orElse_tidy (Diagnostic.clean_tidy errors) (tidy_code (by decide) (by decide) code)

def unavailableText (reason : Text) : Text := Text.ofString "node runtime not available: " ++ reason

theorem unavailableText_tidy {reason : Text} :
    Tidy (unavailableText reason) ↔ Whole reason ∧ closes reason = true :=
  Text.tidy_behind (by decide) (by decide) (by decide)

/-- The ways to a failure that is not fit to be shown. -/
inductive Spoiled (machine : Machine) (config : Config) (block : Block) : Prop where
  /-- A complaint is cleaned twice, and the second time nothing is left of it. -/
  | complaint {start : Launch} {code : Int} {output errors : Text}
      (needed : Bundler.isNeeded config block = true)
      (ready : Bundler.launch machine config block = .ok start)
      (ended : machine.launch start = .exited code output errors) (bad : code ≠ 0)
      (said : Diagnostic.clean errors ≠ [])
      (lost : Diagnostic.clean (Diagnostic.clean errors) = []) : Spoiled machine config block
  /-- The reason for which the bundler was not started is taken for noise. -/
  | bundler {start : Launch} {fault : StartFault} (needed : Bundler.isNeeded config block = true)
      (ready : Bundler.launch machine config block = .ok start)
      (ended : machine.launch start = .unstarted fault) (refused : fault.isRefusal = true)
      (lost : Diagnostic.clean (Text.ofString "unable to start esbuild: " ++ fault.message) = []) :
      Spoiled machine config block
  /-- The reason for which the host was not started is shown as it is. -/
  | host {launches : List Launch} {runnable : Runnable} {start : Launch} {reason : Text}
      (bundling : Bundler.Course machine config block launches (.ok runnable))
      (ready : launch machine config block runnable = .ok start)
      (ended : machine.launch start = .unstarted (.other reason))
      (unfit : ¬ (Whole reason ∧ closes reason = true)) : Spoiled machine config block

structure Failing (outcome : Outcome) (message : Text) : Prop where
  failed : outcome.passed = false
  silent : outcome.output = []
  told : outcome.error = some message

theorem failing_fail (machine : Machine) (block : Block) (message : Text) (late : Bool) :
    Failing (.fail block message machine.elapsed late) message := ⟨rfl, rfl, rfl⟩

theorem complaint_said {errors : Text} (said : Diagnostic.clean errors ≠ []) (code : Int) :
    Bundler.complaint code errors = Diagnostic.clean errors :=
  if_neg (by simpa using said)

theorem spoiled_untidy (context : Option Context) (named : Integer.isShort block.line = true)
    (spoiled : Spoiled machine config block) :
    ∃ outcome message, (check machine config context block).perform.1 = .ok outcome ∧
      Failing outcome message ∧ ¬ Tidy message := by
  have comes {launches : List Launch} {failure : Failure} {message : Text}
      (course : Course machine config block launches (.error failure))
      (handled : ofFailure machine block failure =
        some (.fail block message machine.elapsed false)) (untidy : ¬ Tidy message) :
      ∃ outcome message, (check machine config context block).perform.1 = .ok outcome ∧
        Failing outcome message ∧ ¬ Tidy message := by
    refine ⟨_, message, ?_, failing_fail machine block message false, untidy⟩
    rw [(course.check named context).1, settled, handled]
  have nothing : ¬ Tidy [] := fun tidy => tidy.some rfl
  cases spoiled with
  | complaint needed ready ended bad said lost =>
      refine comes (.unbundled (.failed needed ready ended bad)) ?_ nothing
      rw [ofFailure, complaint_said said, lost]
  | bundler needed ready ended refused lost =>
      refine comes (.unbundled (.unstarted needed ready ended)) ?_ nothing
      rw [Bundler.ofStartFault, if_pos refused, ofFailure, lost]
  | @host _ _ _ reason bundling ready ended unfit =>
      have handled : ofFailure machine block (.unstarted (.other reason)) =
          some (.fail block (unavailableText reason) machine.elapsed false) := rfl
      exact comes (.unstarted bundling ready ended) handled (mt unavailableText_tidy.mp unfit)

theorem unhandled_unsettled {failure : Failure} {outcome : Outcome}
    (unhandled : ofFailure machine block failure = none) :
    .ok outcome ≠ settled machine block (.error failure) := by
  intro result
  rw [settled, unhandled] at result
  cases result

theorem settled_bundling {text : Text} {outcome : Outcome}
    (result : .ok outcome = settled machine block (.error (.bundling text))) :
    Failing outcome (Diagnostic.clean text) := by
  cases result
  exact failing_fail machine block _ false

theorem settled_refused {failure : Failure} {outcome : Outcome} (refused : failure.isRefusal = true)
    (result : .ok outcome = settled machine block (.error failure)) :
    Failing outcome (unavailableText failure.message) := by
  have handled : ofFailure machine block failure =
      some (.fail block (unavailableText failure.message) machine.elapsed false) := by
    unfold ofFailure
    split
    · cases refused
    · rw [if_pos refused]
      rfl
  rw [settled, handled] at result
  cases result
  exact failing_fail machine block _ false

theorem unbundled_fit {launches : List Launch} {failure : Failure} {outcome : Outcome}
    (bundling : Bundler.Course machine config block launches (.error failure))
    (result : .ok outcome = settled machine block (.error failure)) :
    ∃ message, Failing outcome message ∧ (Tidy message ∨ Spoiled machine config block) := by
  cases bundling with
  | refused needed refusal =>
      cases Bundler.launch_error refusal with
      | lost failed => exact absurd result (unhandled_unsettled (directoryOf_unhandled failed))
      | @unsearched _ fault resolved failed =>
          cases fault with
          | refused fault name =>
              refine ⟨_, settled_refused rfl result, Or.inl ?_⟩
              exact unavailableText_tidy.mpr (FileError.refused_tail fault name)
          | circular path => exact absurd result (unhandled_unsettled rfl)
          | formless fault => exact absurd result (unhandled_unsettled rfl)
      | missing =>
          obtain ⟨same, tidy⟩ := Bundler.missingText_clean
          refine ⟨_, settled_bundling result, Or.inl ?_⟩
          rwa [same]
      | late => exact absurd result (unhandled_unsettled rfl)
  | @unstarted start fault needed ready ended =>
      by_cases refused : fault.isRefusal = true
      · rw [Bundler.ofStartFault, if_pos refused] at result
        refine ⟨_, settled_bundling result, ?_⟩
        rcases Diagnostic.clean_tidy (Text.ofString "unable to start esbuild: " ++ fault.message) with
          lost | tidy
        · exact Or.inr (.bundler needed ready ended refused lost)
        · exact Or.inl tidy
      · rw [Bundler.ofStartFault, if_neg refused] at result
        have admitted : (Failure.unstarted fault).isRefusal = false := eq_false_of_ne_true refused
        exact absurd result (unhandled_unsettled (ofFailure_unrelated (by simp) admitted))
  | stopped needed ready ended =>
      obtain ⟨same, tidy⟩ := Bundler.timeoutText_clean config
      refine ⟨_, settled_bundling result, Or.inl ?_⟩
      rwa [same]
  | @failed start code output errors needed ready ended bad =>
      refine ⟨_, settled_bundling result, ?_⟩
      -- The first cleaning has something to fall back on, the second one has not.
      by_cases said : Diagnostic.clean errors = []
      · have unsaid : Bundler.complaint code errors = Bundler.exitText code := by
          rw [Bundler.complaint, said]
          rfl
        obtain ⟨same, tidy⟩ := Bundler.exitText_clean code
        rw [unsaid, same]
        exact Or.inl tidy
      · rw [complaint_said said]
        rcases Diagnostic.clean_tidy (Diagnostic.clean errors) with lost | tidy
        · exact Or.inr (.complaint needed ready ended bad said lost)
        · exact Or.inl tidy

theorem unstarted_fit {launches : List Launch} {runnable : Runnable} {start : Launch}
    {fault : StartFault} {outcome : Outcome}
    (bundling : Bundler.Course machine config block launches (.ok runnable))
    (ready : launch machine config block runnable = .ok start)
    (ended : machine.launch start = .unstarted fault)
    (result : .ok outcome = settled machine block (.error (.unstarted fault))) :
    ∃ message, Failing outcome message ∧ (Tidy message ∨ Spoiled machine config block) := by
  by_cases refused : (Failure.unstarted fault).isRefusal = true
  · refine ⟨_, settled_refused refused result, ?_⟩
    rw [unavailableText_tidy]
    by_cases fit : Whole fault.message ∧ closes fault.message = true
    · exact Or.inl fit
    · refine Or.inr ?_
      -- The faults that have a text of their own end in a quoted name, so this one has none.
      by_cases named : ∃ reason, fault = .other reason
      · obtain ⟨reason, rfl⟩ := named
        exact .host bundling ready ended fit
      · exact absurd (StartFault.refused_tail refused (not_exists.mp named)) fit
  · have admitted := eq_false_of_ne_true refused
    exact absurd result (unhandled_unsettled (ofFailure_unrelated (by simp) admitted))

theorem ofReport_fit (machine : Machine) (block : Block) (fields : Json.Fields) :
    ((ofReport machine block fields).passed = true ∧ (ofReport machine block fields).error = none ∧
        (ofReport machine block fields).timedOut = false) ∨
      ∃ message, Failing (ofReport machine block fields) message ∧ Tidy message := by
  unfold ofReport
  split
  · exact Or.inl ⟨rfl, rfl, rfl⟩
  · refine Or.inr ⟨_, failing_fail machine block _ _, ?_⟩
    exact orElse_tidy (Diagnostic.clean_tidy _) (Text.tidy_iff.mpr (by decide))

theorem check_fit {context : Option Context} {outcome : Outcome}
    (returned : (check machine config context block).perform.1 = .ok outcome) :
    (outcome.passed = true ∧ outcome.error = none ∧ outcome.timedOut = false) ∨
      ∃ message, Failing outcome message ∧ (Tidy message ∨ Spoiled machine config block) := by
  obtain ⟨_, attempted, course, result, -⟩ :=
    check_course machine config context (check_named returned)
  rw [returned] at result
  cases course with
  | unbundled bundling => exact Or.inr (unbundled_fit bundling result)
  | refused bundling refusal =>
      exact absurd result (unhandled_unsettled (launch_unhandled refusal))
  | unstarted bundling ready ended => exact Or.inr (unstarted_fit bundling ready ended result)
  | stopped bundling ready ended =>
      cases result
      exact Or.inr ⟨_, failing_fail machine block _ _, Or.inl (timeoutText_tidy config)⟩
  | garbled bundling ready ended read => cases result
  | silent bundling ready ended read =>
      cases result
      exact Or.inr ⟨_, failing_fail machine block _ _, Or.inl (silenceText_tidy _ _)⟩
  | reported bundling ready ended read =>
      cases result
      rcases ofReport_fit machine block _ with passed | ⟨message, failing, tidy⟩
      · exact Or.inl passed
      · exact Or.inr ⟨message, failing, Or.inl tidy⟩

/-- A pass carries no error and was in time. A failure has no output and a message that is fit to be
shown, unless it was spoiled. -/
theorem check_shape {context : Option Context} {outcome : Outcome}
    (returned : (check machine config context block).perform.1 = .ok outcome) :
    (outcome.passed = true → outcome.error = none ∧ outcome.timedOut = false) ∧
      (outcome.passed = false → outcome.output = [] ∧
        ∃ message, outcome.error = some message ∧
          (Tidy message ↔ ¬ Spoiled machine config block)) := by
  rcases check_fit returned with ⟨passed, fit⟩ | ⟨message, failing, fit⟩
  · refine ⟨fun _ => fit, fun failed => ?_⟩
    rw [passed] at failed
    cases failed
  · refine ⟨fun passed => ?_, fun _ => ⟨failing.silent, message, failing.told, ?_, fit.resolve_right⟩⟩
    · rw [failing.failed] at passed
      cases passed
    · intro tidy spoiled
      obtain ⟨other, told, same, its, untidy⟩ := spoiled_untidy context (check_named returned) spoiled
      cases returned.symm.trans same
      cases failing.told.symm.trans its.told
      exact untidy tidy

theorem check_shape_stopped :
    let machine := workshop fun _ => .stopped [] []
    ∃ outcome message, (check machine workshopConfig none typedBlock).perform.1 = .ok outcome ∧
      outcome.passed = false ∧ outcome.output = [] ∧ outcome.error = some message ∧ Tidy message := by
  intro machine
  obtain ⟨start, made, -⟩ := workshop_made machine.launch
  have course : Course machine workshopConfig typedBlock _ _ :=
    .unbundled (.stopped (by decide) made rfl)
  have returned := (course.check (by decide +kernel) none).1
  obtain ⟨silent, message, told, fit⟩ := (check_shape returned).2 rfl
  refine ⟨_, message, returned, rfl, silent, told, fit.mpr fun spoiled => ?_⟩
  cases spoiled with
  | complaint _ _ ended => cases ended
  | bundler _ _ ended => cases ended
  | host _ _ ended => cases ended

/-- A complaint that opens with the word `at` once its label is gone, so that it is taken for a stack
frame when it is cleaned again. -/
def framedComplaint : Text := "✘ [ERROR] at least one entry point is required"

theorem check_loses_complaint :
    ∃ outcome, (check (workshop fun _ => .exited 1 [] framedComplaint) workshopConfig none
        typedBlock).perform.1 = .ok outcome ∧
      outcome.passed = false ∧ outcome.error = some [] := by
  obtain ⟨start, made, -⟩ := workshop_made fun _ => .exited 1 [] framedComplaint
  have course : Course (workshop fun _ => .exited 1 [] framedComplaint) workshopConfig typedBlock _ _ :=
    .unbundled (.failed (by decide) made rfl (by decide))
  have lost : Diagnostic.clean (Bundler.complaint 1 framedComplaint) = [] := by decide +kernel
  exact ⟨_, (course.check (by decide +kernel) none).1, rfl, congrArg some lost⟩

end Sandbox

end FenceCheck
