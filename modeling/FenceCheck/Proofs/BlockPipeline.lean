import FenceCheck.Proofs.BlockStart
import FenceCheck.Proofs.HostReading

/-!
The way of a block from its source to its outcome: the bundler is started at most once and only where
it is needed, the host at most once and only with code that bundling came to, and a block passes by
what the host reports last.
-/

namespace FenceCheck

variable {machine : Machine} {config : Config} {block : Block} {launches : List Launch} {code : Text}

namespace Bundler

/-- Code that bundling comes to: the source as it is, or all that a bundler printed that ended well. -/
inductive Yields (machine : Machine) (config : Config) (block : Block) (bundling : List Launch) :
    Text → Prop where
  | source (needless : isNeeded config block = false) :
      Yields machine config block bundling block.source
  | printed {start : Launch} {output errors : Text} (needed : isNeeded config block = true)
      (started : start ∈ bundling) (ended : machine.launch start = .exited 0 output errors) :
      Yields machine config block bundling output

/-- A start of the bundler that suits a block. -/
structure Suits (machine : Machine) (config : Config) (block : Block) (start : Launch) : Prop where
  needed : block.isTypeScript = true ∨ mustBundle config block = true
  program : ∃ program, start.words.head? = some program ∧
    locate machine start.directory config.esbuild = .ok (some program)
  loader : Text.ofString "--loader=ts" ∈ start.words.tail ↔ block.isTypeScript = true
  bundles : Text.ofString "--bundle" ∈ start.words.tail ↔ mustBundle config block = true
  input : start.input = block.source
  directory : machine.files.resolve? block.origin.parent = .ok start.directory

theorem word_apart {word start : Text} (apart : Text.startsWith word start = false) (behind : Text) :
    word ≠ start ++ behind := by
  rintro rfl
  rw [Text.startsWith, List.isPrefixOf_iff_prefix.mpr (List.prefix_append start behind)] at apart
  cases apart

theorem words_loader (config : Config) (program : Text) (block : Block) (bundle : Bool) :
    Text.ofString "--loader=ts" ∈ (words config program block bundle).tail ↔
      block.isTypeScript = true := by
  have targeted : Text.ofString "--loader=ts" ≠ Text.ofString "--target=" ++ config.target :=
    word_apart (by decide) _
  have named : Text.ofString "--loader=ts" ≠ Text.ofString "--sourcefile=" ++ filename block :=
    word_apart (by decide) _
  cases typed : block.isTypeScript <;> cases bundle <;> simp [words, typed, targeted, named] <;> decide

theorem words_bundle (config : Config) (program : Text) (block : Block) (bundle : Bool) :
    Text.ofString "--bundle" ∈ (words config program block bundle).tail ↔ bundle = true := by
  have targeted : Text.ofString "--bundle" ≠ Text.ofString "--target=" ++ config.target :=
    word_apart (by decide) _
  have named : Text.ofString "--bundle" ≠ Text.ofString "--sourcefile=" ++ filename block :=
    word_apart (by decide) _
  cases typed : block.isTypeScript <;> cases bundle <;> simp [words, typed, targeted, named] <;> decide

theorem launch_suits {start : Launch} (needed : isNeeded config block = true)
    (ready : launch machine config block = .ok start) : Suits machine config block start := by
  obtain ⟨program, limit, resolved, located, -, same⟩ := launch_ok ready
  rw [same]
  exact {
    needed := Bool.or_eq_true_iff.mp needed
    program := ⟨program, rfl, located⟩
    loader := words_loader config program block _
    bundles := words_bundle config program block _
    input := rfl
    directory := resolved }

theorem yields_needless (needless : isNeeded config block = false) :
    Yields machine config block launches code ↔ block.source = code := by
  constructor
  · intro yields
    cases yields with
    | source => rfl
    | printed needed => rw [needless] at needed; cases needed
  · rintro rfl
    exact .source needless

theorem yields_needed (needed : isNeeded config block = true) :
    Yields machine config block launches code ↔
      ∃ start ∈ launches, ∃ errors, machine.launch start = .exited 0 code errors := by
  constructor
  · intro yields
    cases yields with
    | source needless => rw [needless] at needed; cases needed
    | printed _ started ended => exact ⟨_, started, _, ended⟩
  · rintro ⟨start, started, errors, ended⟩
    exact .printed needed started ended

theorem Course.yields {result : Except Failure Runnable}
    (course : Course machine config block launches result) :
    Yields machine config block launches code ↔
      ∃ runnable, result = .ok runnable ∧ runnable.code = code := by
  cases course with
  | direct needless => simp [yields_needless needless]
  | refused needed refusal => simp [yields_needed needed]
  | unstarted needed ready ended => simp [yields_needed needed, ended]
  | stopped needed ready ended => simp [yields_needed needed, ended]
  | failed needed ready ended bad => simp [yields_needed needed, ended, bad]
  | produced needed ready ended => simp [yields_needed needed, ended]

theorem Course.once {result : Except Failure Runnable}
    (course : Course machine config block launches result) :
    launches.length ≤ 1 ∧ ∀ start ∈ launches, Suits machine config block start := by
  have one {start : Launch} (needed : isNeeded config block = true)
      (ready : launch machine config block = .ok start) :
      [start].length ≤ 1 ∧ ∀ other ∈ [start], Suits machine config block other := by
    simp [launch_suits needed ready]
  cases course with
  | direct => simp
  | refused => simp
  | unstarted needed ready => exact one needed ready
  | stopped needed ready => exact one needed ready
  | failed needed ready => exact one needed ready
  | produced needed ready => exact one needed ready

end Bundler

namespace Sandbox

structure Hosts (machine : Machine) (config : Config) (block : Block) (code : Text)
    (start : Launch) : Prop where
  words : start.words = [config.node, machine.hostScript]
  told : ∃ told : Json, start.input = Json.write .log told ∧ told.get? "code" = some (.str code)
  directory : machine.files.resolve? block.origin.parent = .ok start.directory

/-- A host that ends by itself and reports a success last. -/
def Succeeds (machine : Machine) (start : Launch) : Prop :=
  ∃ code output errors fields, machine.launch start = .exited code output errors ∧
    HostLine.IsLast output fields ∧ fields.get? "success" = some (.bool true)

/-- What the starts for a block have to do with each other and with its outcome. -/
structure Pipeline (machine : Machine) (config : Config) (block : Block)
    (bundling hosting : List Launch) (outcome : Outcome) : Prop where
  bundledOnce : bundling.length ≤ 1
  bundled : ∀ start ∈ bundling, Bundler.Suits machine config block start
  hostedOnce : hosting.length ≤ 1
  hostedWhen : hosting ≠ [] ↔ ∃ code, Bundler.Yields machine config block bundling code
  hosted : ∀ start ∈ hosting, ∀ code, Bundler.Yields machine config block bundling code →
    Hosts machine config block code start
  passed : outcome.passed = true ↔ ∃ start ∈ hosting, Succeeds machine start

theorem launch_hosts {runnable : Runnable} {start : Launch}
    (ready : launch machine config block runnable = .ok start) :
    Hosts machine config block runnable.code start := by
  obtain ⟨limit, told, resolved, -, made, same⟩ := launch_ok ready
  rw [same]
  exact { words := rfl, told := ⟨told, rfl, payload_code made⟩, directory := resolved }

theorem ofFailure_failed {failure : Failure} {outcome : Outcome}
    (handled : ofFailure machine block failure = some outcome) : outcome.passed = false := by
  unfold ofFailure at handled
  split at handled
  · cases handled
    rfl
  · split at handled <;> cases handled
    rfl

theorem ofFailure_unrelated {failure : Failure} (apart : ∀ message, failure ≠ .bundling message)
    (admitted : failure.isRefusal = false) : ofFailure machine block failure = none := by
  unfold ofFailure
  split
  · exact absurd rfl (apart _)
  · simp [admitted]

theorem directoryOf_unhandled {failure : Failure}
    (failed : Bundler.directoryOf machine block = .error failure) :
    ofFailure machine block failure = none := by
  obtain ⟨admitted, apart⟩ := Bundler.directoryOf_error failed
  exact ofFailure_unrelated apart admitted

theorem launch_unhandled {runnable : Runnable} {failure : Failure}
    (refusal : launch machine config block runnable = .error failure) :
    ofFailure machine block failure = none := by
  rcases launch_error refusal with unresolved | ⟨-, rfl⟩
  · exact directoryOf_unhandled unresolved
  · rfl

theorem ofReport_passed {fields : Json.Fields} :
    (ofReport machine block fields).passed = true ↔
      fields.get? "success" = some (.bool true) := by
  unfold ofReport
  split
  case h_1 said => simp [said, Outcome.pass]
  case h_2 other =>
      simp only [Outcome.fail, Bool.false_eq_true, false_iff]
      exact other

theorem succeeds_exited {start : Launch} {code : Int} {output errors : Text}
    {answer : Option Json.Fields} (ended : machine.launch start = .exited code output errors)
    (read : HostLine.ofOutput output = .ok answer) :
    Succeeds machine start ↔
      ∃ fields, answer = some fields ∧ fields.get? "success" = some (.bool true) := by
  constructor
  · rintro ⟨_, _, _, fields, same, last, said⟩
    rw [ended] at same
    cases same
    exact ⟨fields, (HostLine.ofOutput_some read).mpr last, said⟩
  · rintro ⟨fields, last, said⟩
    exact ⟨_, _, _, fields, ended, (HostLine.ofOutput_some read).mp last, said⟩

theorem succeeds_unended {start : Launch}
    (ended : ∀ code output errors, machine.launch start ≠ .exited code output errors) :
    ¬ Succeeds machine start := by
  rintro ⟨code, output, errors, -, same, -⟩
  exact ended code output errors same

theorem pipeline_unhosted {failure : Failure} {outcome : Outcome}
    (bundling : Bundler.Course machine config block launches (.error failure))
    (failed : outcome.passed = false) : Pipeline machine config block launches [] outcome where
  bundledOnce := bundling.once.1
  bundled := bundling.once.2
  hostedOnce := by simp
  hostedWhen := by simp [bundling.yields]
  hosted := by simp
  passed := by simp [failed]

theorem pipeline_hosted {runnable : Runnable} {start : Launch} {outcome : Outcome}
    (bundling : Bundler.Course machine config block launches (.ok runnable))
    (ready : launch machine config block runnable = .ok start)
    (passed : outcome.passed = true ↔ Succeeds machine start) :
    Pipeline machine config block launches [start] outcome where
  bundledOnce := bundling.once.1
  bundled := bundling.once.2
  hostedOnce := by simp
  hostedWhen := by simp [bundling.yields]
  hosted := by
    intro other among code yields
    obtain ⟨same, here, rfl⟩ := bundling.yields.mp yields
    cases here
    rw [List.mem_singleton.mp among]
    exact launch_hosts ready
  passed := by simpa using passed

/-- A block that comes to an outcome went through the pipeline. -/
theorem check_pipeline {context : Option Context} {outcome : Outcome} {transcript : Transcript}
    (returned : (check machine config context block).perform = (.ok outcome, transcript)) :
    ∃ bundling hosting, transcript.launches = bundling ++ hosting ∧
      Pipeline machine config block bundling hosting outcome := by
  have named := check_named (congrArg Prod.fst returned)
  obtain ⟨launches, attempted, course, result, started⟩ :=
    check_course machine config context named
  rw [returned] at result started
  cases course with
  | unbundled bundling =>
      refine ⟨_, [], started.trans (List.append_nil _).symm, pipeline_unhosted bundling ?_⟩
      simp only [settled] at result
      split at result <;> cases result
      exact ofFailure_failed ‹_›
  | refused bundling refusal =>
      -- Code that can run without a host being started: then the check does not return.
      rw [settled, launch_unhandled refusal] at result
      cases result
  | unstarted bundling ready ended =>
      refine ⟨_, _, started, pipeline_hosted bundling ready ?_⟩
      simp only [settled] at result
      split at result <;> cases result
      simp [ofFailure_failed ‹_›, succeeds_unended, ended]
  | stopped bundling ready ended =>
      cases result
      refine ⟨_, _, started, pipeline_hosted bundling ready ?_⟩
      simp [Outcome.fail, succeeds_unended, ended]
  | garbled bundling ready ended read => cases result
  | silent bundling ready ended read =>
      cases result
      refine ⟨_, _, started, pipeline_hosted bundling ready ?_⟩
      simp [Outcome.fail, succeeds_exited ended read]
  | reported bundling ready ended read =>
      cases result
      refine ⟨_, _, started, pipeline_hosted bundling ready ?_⟩
      simp [ofReport_passed, succeeds_exited ended read]

theorem check_pipeline_typed :
    let machine := workshop fun start =>
      if start.words.head? = some (Text.ofString "/e") then .exited 0 "code" []
      else .exited 0 goodReport []
    ∃ outcome transcript bundling hosting,
      (check machine workshopConfig none typedBlock).perform = (.ok outcome, transcript) ∧
        outcome.passed = true ∧ transcript.launches.length = 2 ∧
        transcript.launches = bundling ++ hosting ∧
        Pipeline machine workshopConfig typedBlock bundling hosting outcome := by
  intro machine
  have bundled (start : Launch) (named : start.words.head? = some (Text.ofString "/e")) :
      machine.launch start = .exited 0 "code" [] := if_pos named
  have hosted (start : Launch) (named : start.words = [Text.ofString "node", Text.ofString "host"]) :
      machine.launch start = .exited 0 goodReport [] := if_neg (by rw [named]; decide)
  obtain ⟨fields, read, said⟩ := goodReport_read
  obtain ⟨start, made, named⟩ := workshop_made machine.launch
  obtain ⟨input, ready⟩ := launch_ready
    ⟨"code", Bundler.filename typedBlock, true, _⟩ (workshop_resolved machine.launch)
    workshop_hostLimit
  have course := Course.reported (.produced (by decide) made (bundled _ named)) ready
    (hosted _ rfl) read
  obtain ⟨returned, started⟩ := course.check (by decide +kernel) none
  obtain ⟨bundling, hosting, split, pipeline⟩ := check_pipeline (Prod.ext returned rfl)
  exact ⟨_, _, bundling, hosting, Prod.ext returned rfl, ofReport_passed.mpr said,
    congrArg List.length started, split, pipeline⟩

end Sandbox

end FenceCheck
