import FenceCheck.Cli.Command
import FenceCheck.Proofs.ReportViews
import FenceCheck.Proofs.RunFigures

/-!
All that tells of a run tells the same of it: the exit code, the line of totals, the report for programs
and the one for build services.
-/

namespace FenceCheck

namespace Console

def resultsLine (style : ConsoleStyle) (summary : Summary) : Text :=
  .char '\n' ::
    paint style (if 0 < summary.failed then .red else .green)
      (Text.ofString "Results: " ++ Text.ofInt summary.passed ++ .char '/' ::
        Text.ofInt summary.total ++ Text.ofString " passed") ++ [.char '\n']

theorem totalsLine_results {summary : Summary} (whole : summary.error = none)
    (some : 0 < summary.total) (style : ConsoleStyle) :
    totalsLine style summary = resultsLine style summary := by
  have shown : (summary.error.isNone && decide (0 < summary.total)) = true := by simp [whole, some]
  exact if_pos shown

theorem written_some {text : Text} (some : text ≠ []) (style : ConsoleStyle) :
    written style text = [.printed style.stream text] := by
  rw [written, List.isEmpty_eq_false_iff.mpr some]
  rfl

/-- What ends a run of items: the line, below what closes the live region. -/
def EndsRun (style : ConsoleStyle) (summary : Summary) (event : Event) : Prop :=
  ∃ last : Console, last.style = style ∧
    event = .printed style.stream (last.closing.2 ++ resultsLine style summary)

theorem closing_head (console : Console) (line : Text) :
    (console.closing.2 ++ .char '\n' :: line).head? = some (.char '\n') ∨
      (console.closing.2 ++ .char '\n' :: line).head? = some (.char '\x1b') := by
  unfold closing
  by_cases live : console.style.interactive = true
  · rw [if_pos live, closeLive, erase]
    cases console.drawn with
    | succ drawn => exact .inr rfl
    | zero =>
        cases console.cursorHidden
        · exact .inl rfl
        · exact .inr rfl
  · rw [if_neg live]
    exact .inl rfl

end Console

/-- Text that begins neither with a line break nor with an escape. -/
def Event.IsPlain (event : Event) : Prop :=
  ∃ stream text c, event = .printed stream text ∧ text.head? = some c ∧ c ≠ .char '\n' ∧
    c ≠ .char '\x1b'

theorem Event.IsPlain.not_endsRun {event : Event} (plain : event.IsPlain) (style : ConsoleStyle)
    (summary : Summary) : ¬ Console.EndsRun style summary event := by
  obtain ⟨stream, text, c, rfl, head, apart, visible⟩ := plain
  rintro ⟨last, -, same⟩
  cases same
  rcases Console.closing_head last _ with here | here
  · exact apart (Option.some.inj (head.symm.trans here))
  · exact visible (Option.some.inj (head.symm.trans here))

theorem Console.written_plain {style : ConsoleStyle} {text : Text} {c : CodePoint}
    (head : text.head? = some c) (apart : c ≠ .char '\n') (visible : c ≠ .char '\x1b') :
    ∀ event ∈ written style text, event.IsPlain := by
  intro event member
  rw [written_some (fun none => by rw [none] at head; cases head)] at member
  cases List.mem_singleton.mp member
  exact ⟨_, _, c, rfl, head, apart, visible⟩

theorem Json.enclose_head (layout : Layout) (level : Nat) (opening closing : Char)
    (parts : List Text) :
    (layout.enclose level opening closing parts).head? = some (.char opening) := by
  cases parts <;> rfl

theorem Log.line_plain (context : Context) (clock : Clock) {entry : Log.Entry}
    (untimed : ∀ field ∈ entry.fields, field.1 ≠ Text.ofString "ts") :
    (Event.printed .errors (Log.line context clock entry)).IsPlain := by
  unfold Log.line
  by_cases json : context.jsonLog = true
  · rw [if_pos json]
    refine ⟨_, _, .char '\x7b', rfl, ?_, by decide, by decide⟩
    rw [List.head?_append, Log.jsonLine, Json.write, Json.writeAt, Json.enclose_head]
    rfl
  · rw [if_neg json]
    have none : (entry.fields.filter fun field => field.1 = Text.ofString "ts") = [] :=
      List.filter_eq_nil_iff.mpr fun field member => by simpa using untimed field member
    refine ⟨_, _, .char 't', rfl, ?_, by decide, by decide⟩
    rw [Log.pairsLine]
    simp only [none]
    rfl

theorem Log.event_tells (machine : Machine) (context : Option Context) {entry : Log.Entry}
    (untimed : ∀ field ∈ entry.fields, field.1 ≠ Text.ofString "ts") :
    (Log.event machine context entry).Tells Event.IsPlain := by
  unfold Log.event
  cases context with
  | none => exact Work.tells_pure ()
  | some context =>
      simp only
      split
      · cases told : entry.isTold with
        | true =>
            rw [written_ok told]
            exact Work.tells_record (List.forall_mem_singleton.mpr (line_plain context _ untimed))
        | false =>
            rw [written_untold told]
            exact Work.tells_ofExcept (.error _)
      · exact Work.tells_pure ()

theorem Discovery.report_tells (machine : Machine) (context : Option Context) (warns : Bool)
    (base : Path) (fence : OpenFence) :
    (report machine context warns base fence).Tells Event.IsPlain := by
  have named : Text.ofString "label" ≠ Text.ofString "ts" := by decide
  unfold report
  cases warns
  · exact Log.event_tells machine context (List.forall_mem_singleton.mpr named)
  · refine Work.tells_bind (Work.tells_record (List.forall_mem_singleton.mpr ?_)) fun _ => ?_
    · exact ⟨_, _, .char 'w', rfl, rfl, by decide, by decide⟩
    · exact Log.event_tells machine context (List.forall_mem_singleton.mpr named)

/-- A discovery tells of the fences that are not closed, and of nothing but itself. -/
theorem Discovery.ofTarget_tells (machine : Machine) (config : Config) (context : Option Context)
    (warns : Bool) (target : Path) :
    (ofTarget machine config context warns target).Tells Event.IsPlain := by
  refine Work.tells_bind (Work.tells_ofExcept _) fun documents => ?_
  refine Work.tells_bind (Work.tells_ofExcept _) fun base => ?_
  refine Work.tells_bind (Work.tells_ofExcept _) fun extraction => ?_
  refine Work.tells_bind (Work.tells_forM _ _ fun fence => report_tells machine context warns base
    fence) fun _ => ?_
  refine Work.tells_bind (Log.event_tells machine context ?_) fun _ => Work.tells_pure _
  have first : Text.ofString "documents" ≠ Text.ofString "ts" := by decide
  have second : Text.ofString "blocks" ≠ Text.ofString "ts" := by decide
  exact List.forall_mem_cons.mpr ⟨first, List.forall_mem_singleton.mpr second⟩

namespace Run

variable {machine : Machine} {config : Config} {context : Option Context}
  {execute : Block → Execution} {target : Path} {concurrency : Amount} {style : ConsoleStyle}
  {summary : Summary} {events : Transcript}

theorem Ended.final
    (ended : Ended machine config context execute target concurrency style summary events) :
    summary.Final := by
  cases ended with
  | aborted => exact .aborted _ _
  | idle => exact .counted rfl (Summary.counts_ofOutcomes rfl _ _ _ _)
  | worked discovered filled each made figures =>
      subst figures
      exact .counted rfl (Summary.counts_ofOutcomes each _ _ _ _)

theorem Ended.results
    (ended : Ended machine config context execute target concurrency style summary events) :
    (∃ event ∈ events, Console.EndsRun style summary event) ↔ 0 < summary.total := by
  -- The line begins as nothing else does that a run without items prints.
  have silent (plain : ∀ event ∈ events, event.IsPlain) :
      ¬ ∃ event ∈ events, Console.EndsRun style summary event := by
    rintro ⟨event, member, ends⟩
    exact (plain event member).not_endsRun style summary ends
  cases ended with
  | aborted =>
      refine iff_of_false (silent (List.forall_mem_singleton.mpr ?_)) (Int.lt_irrefl 0)
      exact ⟨_, _, .char 'E', rfl, rfl, by decide, by decide⟩
  | idle directory discovered empty =>
      refine iff_of_false (silent ?_) (Int.lt_irrefl 0)
      have warns := (Discovery.ofTarget_tells machine config context true target).perform
      rw [discovered] at warns
      have scans : ∀ event ∈ Console.written style (Console.scanningLine directory),
          event.IsPlain := by
        cases directory
        · exact List.forall_mem_nil _
        · exact Console.written_plain rfl (by decide) (by decide)
      refine List.forall_mem_append.mpr ⟨scans, List.forall_mem_append.mpr ⟨warns, ?_⟩⟩
      exact List.forall_mem_append.mpr ⟨Console.written_plain rfl (by decide) (by decide),
        Console.written_plain rfl (by decide) (by decide)⟩
  | @worked _ _ _ _ discovered filled each made figures before last styled =>
      have whole : summary.error = none := by
        rw [figures]
        rfl
      have some : 0 < summary.total := by
        rw [figures, Summary.ofOutcomes, each]
        exact Int.natCast_pos.mpr (List.length_pos_iff.mpr filled)
      refine iff_of_true ?_ some
      rw [Console.totalsLine_results whole some]
      have filled : last.closing.2 ++ Console.resultsLine style summary ≠ [] :=
        List.append_ne_nil_of_right_ne_nil _ (List.cons_ne_nil _ _)
      rw [Console.written_some filled]
      exact ⟨_, List.mem_append_right _ List.mem_cons_self, last, styled, rfl⟩

end Run

namespace Cli

variable {machine : Machine} {screen : Bool} {arguments : Arguments} {context : Context}
  {summary : Summary}

/-- A command that could log its start, whose run came to these figures, and which could write the
reports it was asked for. -/
inductive Finishes (machine : Machine) (screen : Bool) (arguments : Arguments) (context : Context)
    (summary : Summary) : Prop where
  | intro {config : Config} {after : Console} {events : Transcript} {desk : Desk}
      (runs : arguments.list = false)
      (configured : loadConfig machine context arguments = .ok config)
      (started : (Log.event machine (some context)
        (startEntry arguments config (config.workers machine.processors))).perform.1 = .ok ())
      (ended : ((Run.perform machine config (some context)
        (Run.inSandbox machine config (some context)) (Path.ofText arguments.path)
        (config.workers machine.processors)).run (console machine arguments screen)).perform =
          (.ok (summary, after), events))
      (written : (writeReports context arguments summary).run.run
        ⟨Run.logged machine (some context)
          (startEntry arguments config (config.workers machine.processors)) ++ events,
          machine.files⟩ = (.ok (), desk))

namespace Command

variable {α β : Type} {desk later : Desk} {next : α → Command β}

theorem run_bind {command : Command α} {value : α}
    (first : command.run.run desk = (.ok value, later)) :
    (command >>= next).run.run desk = (next value).run.run later := by
  simp only [ExceptT.run_bind, StateT.run_bind, first]
  rfl

theorem run_ofWork {work : Work α} {result : Except Failure α} {events : Transcript}
    (gives : work.Gives result events) (desk : Desk) :
    (ofWork work).run.run desk =
      (result, { desk with transcript := desk.transcript ++ events }) := by
  have recorded := gives desk.transcript
  unfold ofWork
  simp only [ExceptT.run_mk, StateT.run_bind, StateT.run_get, StateT.run_set, pure_bind, recorded]
  rfl

theorem run_log {entry : Log.Entry} {result : Except Failure Unit}
    (ended : (Log.event machine (some context) entry).perform.1 = result) (desk : Desk) :
    (ofWork (Log.event machine (some context) entry)).run.run desk =
      (result, { desk with
        transcript := desk.transcript ++ Run.logged machine (some context) entry }) :=
  run_ofWork ((Log.event_appends machine (some context) entry).gives (Prod.ext ended rfl)) desk

end Command

/-- The figures of a run are counted, so its end can be logged. -/
theorem finishEntry_logged (machine : Machine) (context : Context) (summary : Summary) :
    (Log.event machine (some context) (finishEntry summary)).perform.1 = .ok () := by
  have told : (finishEntry summary).isTold = true := by simp [Log.Entry.isTold, finishEntry]
  obtain ⟨events, gives⟩ := Log.event_gives machine (some context) told
  exact congrArg Prod.fst (Work.gives_perform gives)

theorem perform_finishes (finishes : Finishes machine screen arguments context summary) :
    ∃ last, (perform machine screen arguments context).run.run ⟨[], machine.files⟩ =
      (.ok (if summary.isOk then 0 else 1), last) := by
  cases finishes with
  | @intro config after events desk runs configured started ended written =>
      refine ⟨⟨desk.transcript ++ Run.logged machine (some context) (finishEntry summary),
        desk.files⟩, ?_⟩
      unfold perform
      rw [configured]
      refine (Command.run_bind (Command.run_ofWork (Work.gives_ofExcept (.ok _)) _)).trans ?_
      refine (Command.run_bind (Command.run_log started _)).trans ?_
      rw [runs]
      have ran := (Run.ends_performAlong [] _).gives ended
      refine (Command.run_bind (Command.run_ofWork ran _)).trans ?_
      refine (Command.run_bind written).trans ?_
      refine (Command.run_bind (Command.run_log (finishEntry_logged ..) _)).trans ?_
      rfl

theorem complete_finishes (finishes : Finishes machine screen arguments context summary) :
    (complete machine screen arguments context).exitCode = if summary.isOk then 0 else 1 := by
  obtain ⟨last, performed⟩ := perform_finishes finishes
  unfold complete
  rw [performed]

end Cli

namespace Run

/-- All that tells of a run that ended tells the same of it, whatever executes the blocks and however
the workers take turns: the verdict of the exit code, of both reports and of the figures is one, the
results are printed where there are items, and the reports list the items with one verdict on each.
The reports of a run that was given up list nothing, and call it an error. -/
theorem views_agree (machine : Machine) (config : Config) (context : Option Context)
    (execute : Block → Execution) (schedule : List Nat) (target : Path) (concurrency : Amount)
    (style : ConsoleStyle) (summary : Summary) (after : Console) (events : Transcript)
    (ended : ((performAlong schedule machine config context execute target concurrency).run
      (Console.new style)).perform = (.ok (summary, after), events))
    (reporting : Context) (report : Json) (suite : Xml.Element)
    (reported : Report.payload reporting summary = .ok report)
    (suited : Report.suite summary = .ok suite) :
    Report.Agrees summary report suite ∧
      (∀ machine screen arguments context, Cli.Finishes machine screen arguments context summary →
        ((Cli.complete machine screen arguments context).exitCode = 0 ↔ summary.failed = 0)) ∧
      ((∃ event ∈ events, Console.EndsRun style summary event) ↔ 0 < summary.total) ∧
      ∃ rows, report.get? "results" = some (.list rows) ∧
        (summary.error = none → Report.Accounts summary rows suite) ∧
        (summary.error ≠ none → Report.Abandoned report rows suite) := by
  have whole := performAlong_ended ended
  have content := Report.payload_ok reported
  subst content
  refine ⟨Report.agrees whole.final suited, ?_, whole.results, _, Report.content_results, ?_⟩
  · intro machine screen arguments context finishes
    rw [Cli.complete_finishes finishes, Summary.isOk]
    by_cases zero : summary.failed = 0
    · simp [zero]
    · simp [zero]
  · -- A run has its items counted, or is given up before there are any.
    cases whole.final with
    | counted unbroken counts =>
        exact ⟨fun _ => Report.accounts counts suited, fun broken => absurd unbroken broken⟩
    | aborted target error =>
        refine ⟨fun unbroken => ?_, fun _ => Report.abandoned suited⟩
        cases unbroken

/-! A run of two blocks, of which the second fails, and a command whose target does not exist. -/

def mixed (block : Block) : Execution :=
  (if block.line = 1 then .ok (.pass block [] 7) else .error "boom", [])

def mixedFigures : Summary := figures onePage mixed thePage ⟨[thePage], itsItems⟩ (.whole 2)

def onlooker : Context := ⟨"r-1", .here, .text, false, false, false, false⟩

def misled : Cli.Arguments := { (default : Cli.Arguments) with path := "b.md" }

def nothing : Summary :=
  .aborted (some (Path.ofText misled.path)) (Failure.noPath (Path.ofText misled.path)).message

theorem misled_ends (config : Config) (context : Option Context) (execute : Block → Execution)
    (schedule : List Nat) (concurrency : Amount) {style : ConsoleStyle}
    (plain : style.interactive = false) :
    ∃ after events, ((performAlong schedule onePage config context execute
      (Path.ofText misled.path) concurrency).run (Console.new style)).perform =
        (.ok (nothing, after), events) := by
  have missing : onePage.files.pathExists (Path.ofText misled.path) = .ok false := rfl
  obtain ⟨stream, quiet, color, interactive⟩ := style
  cases plain
  rw [performAlong_cases, missing]
  exact ⟨_, _, rfl⟩

theorem misled_finishes : Cli.Finishes onePage false misled onlooker nothing := by
  have configured : (Cli.loadConfig onePage onlooker misled).isOk = true := rfl
  cases loaded : Cli.loadConfig onePage onlooker misled with
  | error failure =>
      rw [loaded] at configured
      cases configured
  | ok config =>
      obtain ⟨after, events, ended⟩ := misled_ends config (some onlooker)
        (inSandbox onePage config (some onlooker)) [] (config.workers onePage.processors)
        (show (Cli.console onePage misled false).style.interactive = false from rfl)
      exact .intro rfl loaded rfl ended rfl

theorem nothing_reported : ∃ report suite, Report.payload onlooker nothing = .ok report ∧
    Report.suite nothing = .ok suite :=
  Report.reports_made (by decide +kernel) (by decide +kernel) (by decide +kernel) (List.forall_mem_nil _)

theorem mixed_reported : ∃ report suite, Report.payload onlooker mixedFigures = .ok report ∧
    Report.suite mixedFigures = .ok suite :=
  Report.reports_made (by decide +kernel) (by decide +kernel) (by decide +kernel) (by decide +kernel)

theorem views_agree_one_page :
    let style : ConsoleStyle := ⟨.output, false, false, false⟩
    (∃ report suite rows after events,
      ((performAlong [1, 0, 1, 1] onePage .defaults none mixed thePage (.whole 2)).run
          (Console.new style)).perform = (.ok (mixedFigures, after), events) ∧
        Report.payload onlooker mixedFigures = .ok report ∧
        Report.suite mixedFigures = .ok suite ∧
        report.textAt "status" ≠ some (Text.ofString "pass") ∧
        (∃ event ∈ events, Console.EndsRun style mixedFigures event) ∧
        report.get? "results" = some (.list rows) ∧ Report.Accounts mixedFigures rows suite) ∧
      (Cli.complete onePage false misled onlooker).exitCode ≠ 0 := by
  intro style
  constructor
  · have present : onePage.files.pathExists thePage = .ok true := rfl
    have place : onePage.files.isDirectory thePage = .ok false := rfl
    have plain : style.interactive = false := rfl
    have some : (1 : Int) ≤ 2 := by decide
    have told : Told ⟨[thePage], itsItems⟩ 2 := by
      constructor <;> decide +kernel
    obtain ⟨after, events, -, ended, -⟩ :=
      performAlong_ends plain present place onePage_discovered mixed [1, 0, 1, 1] some told
    obtain ⟨report, suite, reported, suited⟩ := mixed_reported
    obtain ⟨agrees, -, results, rows, listed, accounts, -⟩ := views_agree onePage .defaults none
      mixed [1, 0, 1, 1] thePage (.whole 2) style mixedFigures after events ended onlooker report
      suite reported suited
    have failed : mixedFigures.failed ≠ 0 := by decide +kernel
    exact ⟨report, suite, rows, after, events, ended, reported, suited,
      fun passed => failed (agrees.status.mp passed), results.mpr (by decide +kernel), listed,
      accounts rfl⟩
  · obtain ⟨after, events, ended⟩ := misled_ends .defaults none mixed [] (.whole 2)
      (show style.interactive = false from rfl)
    obtain ⟨report, suite, reported, suited⟩ := nothing_reported
    obtain ⟨-, exits, -⟩ := views_agree onePage .defaults none mixed [] _ (.whole 2) style nothing
      after events ended onlooker report suite reported suited
    intro zero
    cases (exits onePage false misled onlooker misled_finishes).mp zero

end Run

end FenceCheck
