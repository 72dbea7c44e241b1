import FenceCheck.Proofs.ConsoleRecord
import FenceCheck.Proofs.RunConsole
import FenceCheck.Proofs.ShownNumber

/-!
A run does not depend on the number of its workers nor on the order of their steps. The console hears
every worker, so all outcomes are collected in the order of the items, and the run concludes with the
same figures. What the console writes before and after the work is the same too, but for the number
of workers; in between the lines of each item stand together, in the order of the finishes.

The numbers in these lines have to be short enough to be written. A run that is asked for too many
workers fails before its work begins, although it would have had no more of them than items.
-/

namespace FenceCheck

namespace Run

open Pool

variable {machine : Machine} {config : Config} {context : Option Context}
  {execute : Block → Execution} {items : List Item} {style : ConsoleStyle} {target : Path}

def logged (machine : Machine) (context : Option Context) (entry : Log.Entry) : Transcript :=
  (Log.event machine context entry).perform.2

theorem executeAll_gives {concurrency : Int} (positive : 1 ≤ concurrency) {console : Console}
    {origin : Surroundings}
    (begun : (crew machine context execute items).begin concurrency ⟨console, []⟩ = origin)
    (indexed : (crew machine context execute items).Indexed)
    (hears : (crew machine context execute items).Hears origin) (schedule : List Nat) :
    ∃ history, (crew machine context execute items).Orderly history ∧
      (finishes history).Perm (crew machine context execute items).rows ∧
      ((executeAll machine context execute schedule (.whole concurrency) items).run console).Gives
        (.ok (items.map fun item => (crew machine context execute items).outcomeOf item.block,
          ((crew machine context execute items).after origin history).console))
        (((crew machine context execute items).after origin history).transcript ++
          logged machine context (finishEntry items.length)) := by
  subst begun
  have manned := crewSize_manned positive items.length
  have ran := runAlong_collects positive hears indexed schedule
  have sound := complete_sound hears (crewSize concurrency items.length) schedule
  refine ⟨_, sound.ledger.orderly, complete_finishes hears indexed manned schedule, ?_⟩
  have gives := gives_executeAll machine context execute schedule (.whole concurrency) items console
  rw [ran] at gives
  rw [← sound.told]
  exact gives

def concluded (console : Console) : Console := { console with lifecycle := .done }

theorem call_summary {console : Console} (plain : console.style.interactive = false)
    (open' : console.lifecycle.mayBecome .summarized = true) (summary : Summary) :
    console.call (.summary summary) =
      .tell { console with lifecycle := .summarized } (.summary summary) []
        (Console.totalsLine console.style summary) := by
  simp [Console.call, Console.summarize, plain, Console.advance, open']

theorem conclude_gives {console : Console} (plain : console.style.interactive = false)
    (open' : console.lifecycle.mayBecome .summarized = true) {summary : Summary}
    (told : (Console.Call.summary summary).isTold = true) :
    ((conclude summary).run console).Gives (.ok (summary, concluded console))
      (Console.written console.style (Console.totalsLine console.style summary)) := by
  have summarized := call_summary plain open' summary
  rw [Console.Reply.tell_told _ _ _ told, List.nil_append] at summarized
  have closed : Console.call { console with lifecycle := .summarized } .close =
      .accept (concluded console) [] := rfl
  have told := gives_tell summarized rfl
  rw [Console.eventsOf_write] at told
  rw [← List.append_nil (Console.written _ _)]
  refine gives_run_bind told ?_
  refine gives_run_bind (gives_tell closed rfl) ?_
  exact gives_return summary _

/-- What is logged on the stream when the work on the items begins. -/
def beginning (machine : Machine) (context : Option Context) (style : ConsoleStyle) (count : Nat)
    (concurrency : Int) : Text :=
  if count = 0 then []
  else
    (logged machine context
      (startEntry count (.whole (crewSize concurrency count)))).textOn style.stream

def heading (machine : Machine) (context : Option Context) (style : ConsoleStyle)
    (directory : Bool) (warned : Transcript) (discovery : Discovery) (concurrency : Int) : Text :=
  Console.scanningLine directory ++ warned.textOn style.stream ++
    Console.foundLine discovery.documents.length (.whole concurrency) ++
    beginning machine context style discovery.items.length concurrency

def footing (machine : Machine) (context : Option Context) (style : ConsoleStyle)
    (summary : Summary) : Text :=
  (if summary.items = [] then Console.noBlocksLine
    else (logged machine context (finishEntry summary.items.length)).textOn style.stream) ++
    Console.totalsLine style summary

/-- The figures of a run in which every block gets its outcome. -/
def figures (machine : Machine) (execute : Block → Execution) (target : Path)
    (discovery : Discovery) (concurrency : Amount) : Summary :=
  .ofOutcomes discovery.items
    (discovery.items.map fun item => (crew machine none execute []).outcomeOf item.block)
    discovery.documents.length machine.elapsed (some target) concurrency

def scanned (style : ConsoleStyle) : Console := { Console.new style with lifecycle := .scanning }

/-- The numbers that a run tells of, of documents, of workers and of items, can all be written. -/
structure Told (discovery : Discovery) (concurrency : Int) : Prop where
  documents : Integer.isShort discovery.documents.length = true
  workers : Integer.isShort concurrency = true
  items : Integer.isShort discovery.items.length = true

theorem found_told {discovery : Discovery} {concurrency : Int} (told : Told discovery concurrency) :
    (Console.Call.found discovery.documents.length (.whole concurrency)).isTold = true := by
  rw [Console.Call.found_isTold, told.documents]
  exact told.workers

/-- The line of totals can be written if the number of items can: no more of them passed. -/
theorem figures_isTold (discovery : Discovery) (concurrency : Amount) :
    (Console.Call.summary (figures machine execute target discovery concurrency)).isTold =
      Integer.isShort discovery.items.length := by
  have fewer : (figures machine execute target discovery concurrency).passed.natAbs ≤
      (discovery.items.length : Int).natAbs := by
    have le := List.countP_le_length (p := fun outcome : Outcome => outcome.passed)
      (l := discovery.items.map fun item => (crew machine none execute []).outcomeOf item.block)
    simpa [figures, Summary.ofOutcomes] using le
  have all : (figures machine execute target discovery concurrency).total =
      discovery.items.length := by simp [figures, Summary.ofOutcomes]
  have given : (figures machine execute target discovery concurrency).error = none := rfl
  rw [Console.Call.summary_isTold, Console.hasTotals, given, all,
    Bool.and_eq_right_iff_imp.mpr (Integer.isShort_of_le fewer)]
  by_cases empty : discovery.items.length = 0
  · rw [empty]
    exact Integer.isShort_zero.symm
  · simp [empty, Nat.pos_of_ne_zero]

theorem workAlong_empty (plain : style.interactive = false) {discovery : Discovery}
    (empty : discovery.items = []) (schedule : List Nat) (concurrency : Amount) :
    let summary := figures machine execute target discovery concurrency
    ((workAlong schedule machine context execute target concurrency discovery).run
      (scanned style)).Gives (.ok (summary, concluded (scanned style)))
      (Console.written style Console.noBlocksLine ++
        Console.written style (Console.totalsLine style summary)) := by
  intro summary
  have said : (scanned style).call .noBlocks = .write (scanned style) Console.noBlocksLine := rfl
  have told := gives_tell said rfl
  rw [Console.eventsOf_write] at told
  have none : summary =
      .ofOutcomes [] [] discovery.documents.length machine.elapsed (some target) concurrency := by
    simp only [summary, figures, empty, List.map_nil]
  simp only [workAlong, empty, List.isEmpty_nil, if_pos]
  rw [← none]
  have short : (Console.Call.summary summary).isTold = true := by
    rw [figures_isTold, empty]
    exact Integer.isShort_zero
  exact gives_run_bind told (conclude_gives plain rfl short)

/-- Over items the workers come to their end whatever becomes of the summary. -/
theorem workAlong_items (plain : style.interactive = false) {discovery : Discovery}
    (filled : discovery.items ≠ []) {concurrency : Int} (positive : 1 ≤ concurrency)
    {result : Console → Except Failure (Summary × Console)} {last : Transcript}
    (closes : ∀ console : Console, console.style = style → console.lifecycle = .running →
      ((conclude (figures machine execute target discovery (.whole concurrency))).run
        console).Gives (result console) last)
    {origin : Surroundings}
    (begun : (crew machine context execute discovery.items).begin concurrency
      ⟨ready style discovery.items, []⟩ = origin)
    (begins : Follows style discovery.items [] origin.console)
    (indexed : (crew machine context execute discovery.items).Indexed) (schedule : List Nat) :
    let crew := crew machine context execute discovery.items
    ∃ history, crew.Orderly history ∧ (finishes history).Perm crew.rows ∧
      ((workAlong schedule machine context execute target (.whole concurrency) discovery).run
        (scanned style)).Gives (result (crew.after origin history).console)
        ((crew.after origin history).transcript ++
          (logged machine context (finishEntry discovery.items.length) ++ last)) := by
  intro crew
  obtain ⟨history, orderly, finished, worked⟩ :=
    executeAll_gives positive begun indexed (crew_hears indexed plain begins) schedule
  refine ⟨history, orderly, finished, ?_⟩
  -- The console is told of the summary in the state in which the last worker left it.
  obtain ⟨follows, -⟩ := follows_after indexed plain begins orderly
  have started : (scanned style).call (.start discovery.items) =
      .accept (ready style discovery.items) [] := rfl
  have told := closes _ follows.style_kept follows.running
  simp only [workAlong, List.isEmpty_eq_false_iff.mpr filled, Bool.false_eq_true, if_false]
  rw [← List.append_assoc, ← List.nil_append (_ ++ _)]
  exact gives_run_bind (gives_tell started rfl) (gives_run_bind worked told)

theorem figures_rows (machine : Machine) (context : Option Context) (execute : Block → Execution)
    (target : Path) (discovery : Discovery) (concurrency : Amount) :
    (figures machine execute target discovery concurrency).rows =
      (crew machine context execute discovery.items).rows.map fun row => (row.1.item, row.2) :=
  (rows_outcomes (crew machine context execute discovery.items)).symm

theorem workAlong_gives (target : Path) (plain : style.interactive = false) {discovery : Discovery}
    {concurrency : Int} (positive : 1 ≤ concurrency)
    (short : Integer.isShort discovery.items.length = true)
    (indexed : (crew machine context execute discovery.items).Indexed) (schedule : List Nat) :
    let summary := figures machine execute target discovery (.whole concurrency)
    ∃ console events finished,
      ((workAlong schedule machine context execute target (.whole concurrency) discovery).run
        (scanned style)).Gives (.ok (summary, console)) events ∧
      console.lifecycle = .done ∧ finished.Perm summary.rows ∧
      ((∀ block, (execute block).2.textOn style.stream = []) →
        events.textOn style.stream =
          beginning machine context style discovery.items.length concurrency ++
            (itemLines style finished ++ footing machine context style summary)) := by
  intro summary
  -- Without items there is no pool, and nothing is logged of its start and its finish.
  by_cases empty : discovery.items = []
  case pos =>
      refine ⟨_, _, [], workAlong_empty plain empty schedule (.whole concurrency), rfl, ?_, ?_⟩
      · simp [summary, figures, Summary.rows, Summary.ofOutcomes, empty]
      · intro _
        have none : summary.items = [] := empty
        simp only [Transcript.textOn_append, Console.textOn_written, beginning, footing, itemLines,
          empty, none, List.length_nil, if_true, List.nil_append]
        rfl
  case neg =>
      have filled : discovery.items.length ≠ 0 := by simpa using empty
      have items : summary.items = discovery.items := rfl
      have begins : Follows style discovery.items [] ((crew machine context execute
          discovery.items).begin concurrency ⟨ready style discovery.items, []⟩).console :=
        ready_follows style discovery.items
      have closes (console : Console) (styled : console.style = style)
          (running : console.lifecycle = .running) :
          ((conclude summary).run console).Gives (.ok (summary, concluded console))
            (Console.written style (Console.totalsLine style summary)) := by
        subst styled
        exact conclude_gives plain (by rw [running]; rfl) ((figures_isTold discovery _).trans short)
      obtain ⟨history, orderly, finished, gives⟩ :=
        workAlong_items plain empty positive closes rfl begins indexed schedule
      refine ⟨_, _, (finishes history).map fun row => (row.1.item, row.2), gives, rfl, ?_, ?_⟩
      · rw [figures_rows machine context]
        exact finished.map _
      · intro silent
        have lines := (follows_after indexed plain begins orderly).2 silent
        rw [lines_finishes] at lines
        rw [Transcript.textOn_append, Transcript.textOn_append, Console.textOn_written]
        rw [lines, beginning, footing, items, if_neg empty, if_neg filled]
        simp only [List.append_assoc]
        rfl

theorem discovered_indexed {discovery : Discovery} {warned : Transcript}
    (discovered : (Discovery.ofTarget machine config context true target).perform =
      (.ok discovery, warned)) : (crew machine context execute discovery.items).Indexed := by
  obtain ⟨documents, base, extraction, -, -, -, rfl⟩ :=
    Discovery.ofTarget_found (congrArg Prod.fst discovered)
  exact Discovery.number_index base _

/-- What is left of a run when its target was searched. -/
def proceed (schedule : List Nat) (machine : Machine) (context : Option Context)
    (execute : Block → Execution) (target : Path) (concurrency : Amount) (discovery : Discovery) :
    ConsoleWork Summary := do
  Console.tell (.found discovery.documents.length concurrency)
  workAlong schedule machine context execute target concurrency discovery

theorem performAlong_gives
    (present : machine.files.pathExists target = .ok true) {directory : Bool}
    (place : machine.files.isDirectory target = .ok directory) {discovery : Discovery}
    {warned : Transcript}
    (discovered : (Discovery.ofTarget machine config context true target).perform =
      (.ok discovery, warned))
    {concurrency : Amount} {schedule : List Nat} {result : Except Failure (Summary × Console)}
    {events : Transcript}
    (proceeds : ((proceed schedule machine context execute target concurrency discovery).run
      (scanned style)).Gives result events) :
    ((performAlong schedule machine config context execute target concurrency).run
      (Console.new style)).Gives result
      (Console.written style (Console.scanningLine directory) ++ (warned ++ events)) := by
  have appends := Discovery.ofTarget_appends machine config context true target
  unfold Work.Appends at appends
  rw [discovered] at appends
  have scanning : (Console.new style).call (.scanning directory) =
      .write (scanned style) (Console.scanningLine directory) := by
    cases directory <;> rfl
  have toldScanning := gives_tell scanning rfl
  rw [Console.eventsOf_write] at toldScanning
  rw [← List.nil_append (_ ++ _)]
  refine gives_run_bind (gives_ofExcept (by rw [present]; rfl) _) ?_
  rw [← List.nil_append (_ ++ _)]
  refine gives_run_bind (gives_ofExcept (by rw [place]; rfl) _) ?_
  refine gives_run_bind toldScanning ?_
  exact gives_run_bind (gives_lift appends _) proceeds

theorem call_found (style : ConsoleStyle) (documents : Int) (concurrency : Amount) :
    (scanned style).call (.found documents concurrency) =
      .tell (scanned style) (.found documents concurrency) []
        (Console.foundLine documents concurrency) := rfl

theorem proceed_told {discovery : Discovery} {concurrency : Int} (told : Told discovery concurrency)
    {schedule : List Nat} {result : Except Failure (Summary × Console)} {events : Transcript}
    (worked : ((workAlong schedule machine context execute target (.whole concurrency)
      discovery).run (scanned style)).Gives result events) :
    ((proceed schedule machine context execute target (.whole concurrency) discovery).run
      (scanned style)).Gives result
      (Console.written style (Console.foundLine discovery.documents.length (.whole concurrency)) ++
        events) := by
  have found := call_found style discovery.documents.length (.whole concurrency)
  rw [Console.Reply.tell_told _ _ _ (found_told told), List.nil_append] at found
  have toldFound := gives_tell found rfl
  rw [Console.eventsOf_write] at toldFound
  exact gives_run_bind toldFound worked

theorem performAlong_ends (plain : style.interactive = false)
    (present : machine.files.pathExists target = .ok true) {directory : Bool}
    (place : machine.files.isDirectory target = .ok directory) {discovery : Discovery}
    {warned : Transcript}
    (discovered : (Discovery.ofTarget machine config context true target).perform =
      (.ok discovery, warned))
    (execute : Block → Execution) (schedule : List Nat) {concurrency : Int}
    (positive : 1 ≤ concurrency) (told : Told discovery concurrency) :
    let summary := figures machine execute target discovery (.whole concurrency)
    ∃ console events finished,
      ((performAlong schedule machine config context execute target (.whole concurrency)).run
        (Console.new style)).perform = (.ok (summary, console), events) ∧
      console.lifecycle = .done ∧ finished.Perm summary.rows ∧
      ((∀ block, (execute block).2.textOn style.stream = []) →
        events.textOn style.stream =
          heading machine context style directory warned discovery concurrency ++
            itemLines style finished ++ footing machine context style summary) := by
  intro summary
  have indexed : (crew machine context execute discovery.items).Indexed :=
    discovered_indexed discovered
  obtain ⟨console, events, finished, worked, done, rows, text⟩ :=
    workAlong_gives target plain positive told.items indexed schedule
  have gives := performAlong_gives present place discovered (proceed_told told worked)
  refine ⟨console, _, finished, Work.gives_perform gives, done, rows, fun silent => ?_⟩
  simp only [Transcript.textOn_append, Console.textOn_written, text silent, heading,
    List.append_assoc]
  rfl

def onePage : Machine :=
  { files := ⟨.directory [("a.md", .file "```ts\nx\n```\n```js\ny\n```".toUTF8.data.toList false)], []⟩
    environment := [], processors := none, clock := ⟨2024, 1, 1, 0, 0, 0, 0⟩, elapsed := 3
    hostScript := [], launch := fun _ => .exited 0 [] [] }

def thePage : Path := ⟨[], ["a.md"]⟩

def itsItems : List Item :=
  [⟨⟨"ts", "x\n", thePage, 1, []⟩, "a.md:1", 0⟩, ⟨⟨"js", "y\n", thePage, 4, []⟩, "a.md:4", 1⟩]

theorem onePage_discovered :
    (Discovery.ofTarget onePage .defaults none true thePage).perform =
      (.ok ⟨[thePage], itsItems⟩, []) := rfl

end Run

end FenceCheck
