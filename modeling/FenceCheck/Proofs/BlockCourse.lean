import FenceCheck.Proofs.WorkRecord
import FenceCheck.Sandbox.Run

/-!
The course of a block: which programs are started for it and what comes of that. A course goes one of a
few ways, and what holds of a checked block is shown for each of them.
-/

namespace FenceCheck

theorem Transcript.launches_append (first second : Transcript) :
    (first ++ second).launches = first.launches ++ second.launches := by
  simp [launches]

namespace Work

variable {α β : Type}

/-- The work ends with a result and starts these programs, whatever it prints meanwhile. -/
def Starts (work : Work α) (result : Except Failure α) (launches : List Launch) : Prop :=
  ∃ events : Transcript, work.Gives result events ∧ events.launches = launches

variable {work : Work α} {next : α → Work β} {handler : Failure → Work α} {value : α}
  {failure : Failure} {launches more : List Launch}

theorem starts_perform {result : Except Failure α} (starts : work.Starts result launches) :
    work.perform.1 = result ∧ work.perform.2.launches = launches := by
  obtain ⟨events, gives, rfl⟩ := starts
  simp [gives_perform gives]

theorem starts_pure (value : α) : (pure value : Work α).Starts (.ok value) [] :=
  ⟨[], gives_pure value, rfl⟩

theorem starts_throw (failure : Failure) : (throw failure : Work α).Starts (.error failure) [] :=
  ⟨[], gives_throw failure, rfl⟩

theorem starts_ofExcept (result : Except Failure α) : (ofExcept result).Starts result [] :=
  ⟨[], gives_ofExcept result, rfl⟩

theorem starts_bind {result : Except Failure β} (first : work.Starts (.ok value) launches)
    (second : (next value).Starts result more) : (work >>= next).Starts result (launches ++ more) := by
  obtain ⟨events, gives, rfl⟩ := first
  obtain ⟨others, givesNext, rfl⟩ := second
  exact ⟨events ++ others, gives_bind gives givesNext, Transcript.launches_append _ _⟩

theorem starts_bind_quiet {result : Except Failure β} (first : work.Starts (.ok value) [])
    (second : (next value).Starts result launches) : (work >>= next).Starts result launches :=
  starts_bind first second

theorem starts_bind_last {result : Except Failure β} (first : work.Starts (.ok value) launches)
    (second : (next value).Starts result []) : (work >>= next).Starts result launches := by
  simpa using starts_bind first second

theorem starts_bind_error (first : work.Starts (.error failure) launches) :
    (work >>= next).Starts (.error failure) launches := by
  obtain ⟨events, gives, same⟩ := first
  exact ⟨events, gives_bind_error gives, same⟩

theorem starts_tryCatch (first : work.Starts (.ok value) launches) :
    (tryCatch work handler).Starts (.ok value) launches := by
  obtain ⟨events, gives, same⟩ := first
  exact ⟨events, gives_tryCatch gives, same⟩

theorem starts_tryCatch_error {result : Except Failure α}
    (first : work.Starts (.error failure) launches) (second : (handler failure).Starts result []) :
    (tryCatch work handler).Starts result launches := by
  obtain ⟨events, gives, rfl⟩ := first
  obtain ⟨others, givesNext, none⟩ := second
  refine ⟨events ++ others, gives_tryCatch_error gives givesNext, ?_⟩
  rw [Transcript.launches_append, none, List.append_nil]

end Work

theorem Log.event_starts (machine : Machine) (context : Option Context) {entry : Log.Entry}
    (told : entry.isTold = true) : (Log.event machine context entry).Starts (.ok ()) [] := by
  unfold Log.event
  cases context with
  | none => exact Work.starts_pure ()
  | some context =>
      simp only [written_ok told]
      split
      · exact ⟨_, Work.gives_bind (Work.gives_ofExcept _) (Work.gives_record _), rfl⟩
      · exact Work.starts_pure ()

theorem Launch.perform_starts (machine : Machine) (context : Option Context) (launch : Launch) :
    (launch.perform machine context).Starts
      ((Finished.ofEnding launch.limit (machine.launch launch)).mapError .unstarted) [launch] := by
  have recorded : (Work.record [.launched launch]).Starts (.ok ()) [launch] :=
    ⟨_, Work.gives_record _, rfl⟩
  refine Work.starts_bind_last recorded ?_
  cases Finished.ofEnding launch.limit (machine.launch launch) with
  | error fault => exact Work.starts_throw _
  | ok finished =>
      refine Work.starts_bind_quiet (Log.event_starts machine context ?_) (Work.starts_pure finished)
      simp [Log.Entry.isTold]

variable {machine : Machine} {config : Config} {block : Block}

namespace Bundler

def isNeeded (config : Config) (block : Block) : Bool :=
  block.isTypeScript || mustBundle config block

def complaint (code : Int) (errors : Text) : Text :=
  Sandbox.orElse (Diagnostic.clean errors)
    (Text.ofString "esbuild exited with code " ++ Text.ofInt code)

def timeoutText (config : Config) : Text :=
  Text.ofString "Bundling timed out after " ++ config.bundleTimeout.toText ++ Text.ofString "ms"

/-- The ways of a block with a name to a piece of code that can run, with the programs that are started
on them. -/
inductive Course (machine : Machine) (config : Config) (block : Block) :
    List Launch → Except Failure Runnable → Prop where
  | direct (needless : isNeeded config block = false) :
      Course machine config block [] (.ok ⟨block.source, filename block, false, false⟩)
  | refused {failure : Failure} (needed : isNeeded config block = true)
      (refusal : launch machine config block = .error failure) :
      Course machine config block [] (.error failure)
  | unstarted {start : Launch} {fault : StartFault} (needed : isNeeded config block = true)
      (ready : launch machine config block = .ok start)
      (ended : machine.launch start = .unstarted fault) :
      Course machine config block [start] (.error (ofStartFault (.unstarted fault)))
  | stopped {start : Launch} {output errors : Text} (needed : isNeeded config block = true)
      (ready : launch machine config block = .ok start)
      (ended : machine.launch start = .stopped output errors) :
      Course machine config block [start] (.error (.bundling (timeoutText config)))
  | failed {start : Launch} {code : Int} {output errors : Text}
      (needed : isNeeded config block = true) (ready : launch machine config block = .ok start)
      (ended : machine.launch start = .exited code output errors) (bad : code ≠ 0) :
      Course machine config block [start] (.error (.bundling (complaint code errors)))
  | produced {start : Launch} {output errors : Text} (needed : isNeeded config block = true)
      (ready : launch machine config block = .ok start)
      (ended : machine.launch start = .exited 0 output errors) :
      Course machine config block [start]
        (.ok ⟨output, filename block, block.isTypeScript, mustBundle config block⟩)

theorem named_ok (short : Integer.isShort block.line = true) : named block = .ok (filename block) :=
  if_pos short

/-- A block whose line cannot be written has no name, and nothing is started for it. -/
theorem prepare_unnamed (context : Option Context) (long : Integer.isShort block.line = false) :
    (prepare machine config context block).Starts (.error (.scalar .hugeInteger)) [] := by
  have unnamed : named block = .error (.scalar .hugeInteger) := if_neg (by simp [long])
  unfold prepare
  rw [unnamed]
  exact Work.starts_bind_error (Work.starts_ofExcept _)

theorem codeOf_failed (config : Config) {code : Int} (bad : code ≠ 0) (output errors : Text) :
    codeOf config ⟨code, output, errors, false⟩ = .error (.bundling (complaint code errors)) := by
  unfold codeOf complaint Sandbox.orElse
  simp only [Bool.false_eq_true, ↓reduceIte, bad, ne_eq, not_false_eq_true]
  cases Diagnostic.clean errors <;> rfl

theorem Course.starts {launches : List Launch} {result : Except Failure Runnable}
    (course : Course machine config block launches result)
    (short : Integer.isShort block.line = true) (context : Option Context) :
    (prepare machine config context block).Starts result launches := by
  -- Beyond the first step the course runs through the start of the bundler.
  have proceeds {launches : List Launch} {result : Except Failure Runnable}
      (needed : isNeeded config block = true)
      (work : (do
        let launch ← Work.ofExcept (launch machine config block)
        let finished ← tryCatch (launch.perform machine context) fun failure =>
          throw (ofStartFault failure)
        let code ← Work.ofExcept (codeOf config finished)
        return ⟨code, filename block, block.isTypeScript, mustBundle config block⟩ :
          Work Runnable).Starts result launches) :
      (prepare machine config context block).Starts result launches := by
    have further : (!block.isTypeScript && !mustBundle config block) = false := by
      rcases Bool.or_eq_true_iff.mp needed with typed | bundled <;> simp [*]
    unfold prepare
    rw [named_ok short]
    refine Work.starts_bind_quiet (Work.starts_ofExcept _) ?_
    simpa only [further, Bool.false_eq_true, ↓reduceIte] using work
  have judged {start : Launch} {finished : Finished} {code : Except Failure Text}
      (needed : isNeeded config block = true) (ready : launch machine config block = .ok start)
      (ended : Finished.ofEnding start.limit (machine.launch start) = .ok finished)
      (meaning : codeOf config finished = code) :
      (prepare machine config context block).Starts
        (code.map (⟨·, filename block, block.isTypeScript, mustBundle config block⟩)) [start] := by
    have performed := start.perform_starts machine context
    rw [ended] at performed
    refine proceeds needed ?_
    rw [ready]
    refine Work.starts_bind_quiet (Work.starts_ofExcept _) ?_
    refine Work.starts_bind_last (Work.starts_tryCatch performed) ?_
    rw [meaning]
    cases code with
    | error failure => exact Work.starts_bind_error (Work.starts_ofExcept _)
    | ok code => exact Work.starts_bind_quiet (Work.starts_ofExcept _) (Work.starts_pure _)
  cases course with
  | direct needless =>
      unfold prepare
      rw [named_ok short]
      refine Work.starts_bind_quiet (Work.starts_ofExcept _) ?_
      have apart := needless
      rw [isNeeded, Bool.or_eq_false_iff] at apart
      simp only [apart, Bool.not_false, Bool.and_self, ↓reduceIte]
      exact Work.starts_pure _
  | refused needed refusal =>
      refine proceeds needed ?_
      rw [refusal]
      exact Work.starts_bind_error (Work.starts_ofExcept _)
  | @unstarted start fault needed ready ended =>
      refine proceeds needed ?_
      have performed := start.perform_starts machine context
      rw [ended] at performed
      rw [ready]
      refine Work.starts_bind_quiet (Work.starts_ofExcept _) ?_
      exact Work.starts_bind_error (Work.starts_tryCatch_error performed (Work.starts_throw _))
  | stopped needed ready ended => exact judged needed ready (by rw [ended]; rfl) rfl
  | failed needed ready ended bad =>
      exact judged needed ready (by rw [ended]; rfl) (codeOf_failed config bad _ _)
  | produced needed ready ended => exact judged needed ready (by rw [ended]; rfl) rfl

theorem course_exists (machine : Machine) (config : Config) (block : Block) :
    ∃ launches result, Course machine config block launches result := by
  cases needed : isNeeded config block with
  | false => exact ⟨_, _, .direct needed⟩
  | true =>
      cases ready : launch machine config block with
      | error failure => exact ⟨_, _, .refused needed ready⟩
      | ok start =>
          cases ended : machine.launch start with
          | unstarted fault => exact ⟨_, _, .unstarted needed ready ended⟩
          | stopped output errors => exact ⟨_, _, .stopped needed ready ended⟩
          | exited code output errors =>
              by_cases good : code = 0
              · subst good
                exact ⟨_, _, .produced needed ready ended⟩
              · exact ⟨_, _, .failed needed ready ended good⟩

end Bundler

namespace Sandbox

def timeoutText (config : Config) : Text :=
  Text.ofString "Timed out after " ++ config.timeout.toText ++ Text.ofString "ms"

def silenceText (code : Int) (errors : Text) : Text :=
  orElse (Diagnostic.clean errors) (Text.ofString "node exited with code " ++ Text.ofInt code)

/-- The ways of a block with a name through the bundler and the host. -/
inductive Course (machine : Machine) (config : Config) (block : Block) :
    List Launch → Except Failure Outcome → Prop where
  | unbundled {launches : List Launch} {failure : Failure}
      (bundling : Bundler.Course machine config block launches (.error failure)) :
      Course machine config block launches (.error failure)
  | refused {launches : List Launch} {runnable : Runnable} {failure : Failure}
      (bundling : Bundler.Course machine config block launches (.ok runnable))
      (refusal : launch machine config block runnable = .error failure) :
      Course machine config block launches (.error failure)
  | unstarted {launches : List Launch} {runnable : Runnable} {start : Launch} {fault : StartFault}
      (bundling : Bundler.Course machine config block launches (.ok runnable))
      (ready : launch machine config block runnable = .ok start)
      (ended : machine.launch start = .unstarted fault) :
      Course machine config block (launches ++ [start]) (.error (.unstarted fault))
  | stopped {launches : List Launch} {runnable : Runnable} {start : Launch} {output errors : Text}
      (bundling : Bundler.Course machine config block launches (.ok runnable))
      (ready : launch machine config block runnable = .ok start)
      (ended : machine.launch start = .stopped output errors) :
      Course machine config block (launches ++ [start])
        (.ok (.fail block (timeoutText config) machine.elapsed true))
  | garbled {launches : List Launch} {runnable : Runnable} {start : Launch} {code : Int}
      {output errors : Text} {fault : Json.Fault}
      (bundling : Bundler.Course machine config block launches (.ok runnable))
      (ready : launch machine config block runnable = .ok start)
      (ended : machine.launch start = .exited code output errors)
      (read : HostLine.ofOutput output = .error fault) :
      Course machine config block (launches ++ [start]) (.error (.unreadable [] fault))
  | silent {launches : List Launch} {runnable : Runnable} {start : Launch} {code : Int}
      {output errors : Text}
      (bundling : Bundler.Course machine config block launches (.ok runnable))
      (ready : launch machine config block runnable = .ok start)
      (ended : machine.launch start = .exited code output errors)
      (read : HostLine.ofOutput output = .ok none) :
      Course machine config block (launches ++ [start])
        (.ok (.fail block (silenceText code errors) machine.elapsed false))
  | reported {launches : List Launch} {runnable : Runnable} {start : Launch} {code : Int}
      {output errors : Text} {fields : Json.Fields}
      (bundling : Bundler.Course machine config block launches (.ok runnable))
      (ready : launch machine config block runnable = .ok start)
      (ended : machine.launch start = .exited code output errors)
      (read : HostLine.ofOutput output = .ok (some fields)) :
      Course machine config block (launches ++ [start]) (.ok (ofReport machine block fields))

theorem Course.starts {launches : List Launch} {result : Except Failure Outcome}
    (course : Course machine config block launches result)
    (short : Integer.isShort block.line = true) (context : Option Context) :
    (attempt machine config context block).Starts result launches := by
  -- Whatever comes of the start, it is behind what the bundler started.
  have hosted {launches : List Launch} {runnable : Runnable} {start : Launch} {finished : Finished}
      {result : Except Failure Outcome}
      (bundling : Bundler.Course machine config block launches (.ok runnable))
      (ready : launch machine config block runnable = .ok start)
      (ended : Finished.ofEnding start.limit (machine.launch start) = .ok finished)
      (judged : ofFinished machine config block finished = result) :
      (attempt machine config context block).Starts result (launches ++ [start]) := by
    have performed := start.perform_starts machine context
    rw [ended] at performed
    unfold attempt
    refine Work.starts_bind (bundling.starts short context) ?_
    rw [ready]
    refine Work.starts_bind_quiet (Work.starts_ofExcept _) ?_
    refine Work.starts_bind_last performed ?_
    rw [judged]
    exact Work.starts_ofExcept _
  cases course with
  | unbundled bundling =>
      unfold attempt
      exact Work.starts_bind_error (bundling.starts short context)
  | refused bundling refusal =>
      unfold attempt
      refine Work.starts_bind_last (bundling.starts short context) ?_
      rw [refusal]
      exact Work.starts_bind_error (Work.starts_ofExcept _)
  | @unstarted launches runnable start fault bundling ready ended =>
      have performed := start.perform_starts machine context
      rw [ended] at performed
      unfold attempt
      refine Work.starts_bind (bundling.starts short context) ?_
      rw [ready]
      exact Work.starts_bind_quiet (Work.starts_ofExcept _) (Work.starts_bind_error performed)
  | stopped bundling ready ended =>
      refine hosted bundling ready (by rw [ended]; rfl) ?_
      rw [ofFinished, if_pos rfl]
      rfl
  | garbled bundling ready ended read =>
      refine hosted bundling ready (by rw [ended]; rfl) ?_
      simp [ofFinished, read]
  | silent bundling ready ended read =>
      refine hosted bundling ready (by rw [ended]; rfl) ?_
      simp [ofFinished, read]
      rfl
  | reported bundling ready ended read =>
      refine hosted bundling ready (by rw [ended]; rfl) ?_
      simp [ofFinished, read]

theorem course_exists (machine : Machine) (config : Config) (block : Block) :
    ∃ launches result, Course machine config block launches result := by
  obtain ⟨launches, prepared, bundling⟩ := Bundler.course_exists machine config block
  cases prepared with
  | error failure => exact ⟨_, _, .unbundled bundling⟩
  | ok runnable =>
      cases ready : launch machine config block runnable with
      | error failure => exact ⟨_, _, .refused bundling ready⟩
      | ok start =>
          cases ended : machine.launch start with
          | unstarted fault => exact ⟨_, _, .unstarted bundling ready ended⟩
          | stopped output errors => exact ⟨_, _, .stopped bundling ready ended⟩
          | exited code output errors =>
              cases read : HostLine.ofOutput output with
              | error fault => exact ⟨_, _, .garbled bundling ready ended read⟩
              | ok report =>
                  cases report with
                  | none => exact ⟨_, _, .silent bundling ready ended read⟩
                  | some fields => exact ⟨_, _, .reported bundling ready ended read⟩

/-- The result of an attempt once failures that are about the block have become outcomes. -/
def settled (machine : Machine) (block : Block) : Except Failure Outcome → Except Failure Outcome
  | .ok outcome => .ok outcome
  | .error failure =>
      match ofFailure machine block failure with
      | some outcome => .ok outcome
      | none => .error failure

theorem logEntry_told (short : Integer.isShort block.line = true) (outcome : Outcome) :
    (logEntry block outcome).isTold = true := by
  simp [Log.Entry.isTold, logEntry, Json.isShowable_int, short]

theorem Course.check {launches : List Launch} {attempted : Except Failure Outcome}
    (course : Course machine config block launches attempted)
    (short : Integer.isShort block.line = true) (context : Option Context) :
    (check machine config context block).perform.1 = settled machine block attempted ∧
      (check machine config context block).perform.2.launches = launches := by
  refine Work.starts_perform ?_
  have logged (outcome : Outcome) : (do
      Log.event machine context (logEntry block outcome)
      return outcome : Work Outcome).Starts (.ok outcome) [] :=
    Work.starts_bind_quiet (Log.event_starts machine context (logEntry_told short outcome))
      (Work.starts_pure _)
  have starts := course.starts short context
  unfold Sandbox.check
  cases attempted with
  | ok outcome => exact Work.starts_bind_last (Work.starts_tryCatch starts) (logged outcome)
  | error failure =>
      cases handled : ofFailure machine block failure with
      | some outcome =>
          have same : settled machine block (.error failure) = .ok outcome := by
            simp [settled, handled]
          rw [same]
          refine Work.starts_bind_last (Work.starts_tryCatch_error starts ?_) (logged outcome)
          rw [handled]
          exact Work.starts_pure _
      | none =>
          have same : settled machine block (.error failure) = .error failure := by
            simp [settled, handled]
          rw [same]
          refine Work.starts_bind_error (Work.starts_tryCatch_error starts ?_)
          rw [handled]
          exact Work.starts_throw _

theorem check_unnamed (context : Option Context) (long : Integer.isShort block.line = false) :
    (check machine config context block).perform.1 = .error (.scalar .hugeInteger) := by
  have prepared : (Bundler.prepare machine config context block).Starts _ [] :=
    Bundler.prepare_unnamed context long
  unfold Sandbox.check attempt
  refine (Work.starts_perform (Work.starts_bind_error (Work.starts_tryCatch_error
    (Work.starts_bind_error prepared) ?_))).1
  exact Work.starts_throw _

theorem check_named {context : Option Context} {outcome : Outcome}
    (returned : (check machine config context block).perform.1 = .ok outcome) :
    Integer.isShort block.line = true := by
  by_contra long
  rw [check_unnamed context (Bool.not_eq_true _ ▸ long)] at returned
  cases returned

theorem check_course (machine : Machine) (config : Config) (context : Option Context)
    (short : Integer.isShort block.line = true) :
    ∃ launches attempted, Course machine config block launches attempted ∧
      (check machine config context block).perform.1 = settled machine block attempted ∧
      (check machine config context block).perform.2.launches = launches := by
  obtain ⟨launches, attempted, course⟩ := course_exists machine config block
  exact ⟨launches, attempted, course, course.check short context⟩

end Sandbox

end FenceCheck
