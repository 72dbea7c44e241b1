import FenceCheck.Proofs.ConsoleStanding
import FenceCheck.Proofs.RunSchedule

/-!
What any run that ends well comes to, on any console and for any schedule, number of workers and way of
executing blocks: the figures of a run that was given up or those of one outcome for each item, with
the line of totals written last.
-/

namespace FenceCheck

/-! A pool keeps one slot for each item, and the console of a run keeps its style. -/

namespace Pool

variable {σ : Type} {crew : Crew σ} {state next : State σ} {worker : Nat}

theorem step_slots (step : crew.Step worker state next) : next.slots.length = state.slots.length := by
  cases step with
  | claim | leave | tell | miss => rfl
  | store => exact List.length_set

theorem complete_slots (crew : Crew σ) (schedule : List Nat) (workers : Nat) (surroundings : σ) :
    (crew.complete schedule workers surroundings).slots.length = crew.items.length := by
  have kept (state : State σ) (worker : Nat) (next : State σ)
      (sized : state.slots.length = crew.items.length) (step : crew.Step worker state next) :
      next.slots.length = crew.items.length := (step_slots step).trans sized
  exact complete_keeps kept schedule workers surroundings List.length_replicate

theorem collect_length {outcomes : List Outcome} (collected : state.collect = .ok outcomes) :
    outcomes.length = state.slots.length := by
  unfold State.collect at collected
  split at collected
  case h_2 => cases collected
  case h_1 none =>
      cases collected
      rw [List.filterMap_length_eq_length]
      intro slot member
      obtain ⟨position, here⟩ := List.mem_iff_getElem?.mp member
      have filled := List.filter_eq_nil_iff.mp none position
        (List.mem_range.mpr (List.getElem?_eq_some_iff.mp here).1)
      rw [here] at filled
      cases slot with
      | none => exact absurd rfl filled
      | some => rfl

/-- Every outcome in hand or in a slot is that of executing a block. -/
structure Crew.Made (crew : Crew σ) (state : State σ) : Prop where
  hands : ∀ claim outcome, Stage.executed claim outcome ∈ state.stages →
    ∃ block, outcome = crew.outcomeOf block
  slots : ∀ outcome, some outcome ∈ state.slots → ∃ block, outcome = crew.outcomeOf block

theorem made_start (workers : Nat) (surroundings : σ) :
    crew.Made (State.start crew workers surroundings) where
  hands claim outcome member := by cases List.eq_of_mem_replicate member
  slots outcome member := by cases List.eq_of_mem_replicate member

theorem Crew.Made.move {after : Stage} (made : crew.Made state)
    (hand : ∀ claim outcome, after = .executed claim outcome → ∃ block, outcome = crew.outcomeOf block) :
    crew.Made (state.move worker after) where
  hands claim outcome member := by
    rcases List.mem_or_eq_of_mem_set member with before | here
    · exact made.hands claim outcome before
    · exact hand claim outcome here.symm
  slots := made.slots

theorem telling_made {stage after : Stage} {happening : Happening}
    (told : crew.telling stage = some (happening, after)) (claim : Claim) (outcome : Outcome)
    (hand : after = .executed claim outcome) : ∃ block, outcome = crew.outcomeOf block := by
  subst hand
  cases stage with
  | started claim =>
      cases told
      exact ⟨_, rfl⟩
  | idle | claimed | executed | stored | ended | lost => cases told

theorem step_made (made : crew.Made state) (step : crew.Step worker state next) : crew.Made next := by
  cases step with
  | claim | leave | miss =>
      exact Crew.Made.move ⟨made.hands, made.slots⟩ fun _ _ hand => by cases hand
  | @tell stage after happening here told =>
      rw [Crew.afterTelling]
      split
      refine Crew.Made.move ⟨made.hands, made.slots⟩ fun claim outcome hand => ?_
      split at hand
      · exact telling_made told claim outcome hand
      · cases hand
  | @store claim outcome slot here place =>
      refine Crew.Made.move ⟨made.hands, fun other member => ?_⟩ fun _ _ hand => by cases hand
      rcases List.mem_or_eq_of_mem_set member with before | same
      · exact made.slots other before
      · cases same
        exact made.hands claim outcome (List.mem_of_getElem? here)

theorem complete_made (crew : Crew σ) (schedule : List Nat) (workers : Nat) (surroundings : σ) :
    crew.Made (crew.complete schedule workers surroundings) :=
  complete_keeps (fun _ _ _ made step => step_made made step) schedule workers surroundings
    (made_start workers surroundings)

theorem collect_made {outcomes : List Outcome} (collected : state.collect = .ok outcomes)
    (made : crew.Made state) : ∀ outcome ∈ outcomes, ∃ block, outcome = crew.outcomeOf block := by
  unfold State.collect at collected
  split at collected
  case h_2 => cases collected
  case h_1 =>
      cases collected
      intro outcome member
      obtain ⟨slot, stored, rfl⟩ := List.mem_filterMap.mp member
      exact made.slots outcome stored

theorem runAlong_ok {schedule : List Nat} {concurrency : Amount} {surroundings : σ}
    {outcomes : List Outcome}
    (ran : crew.runAlong schedule concurrency surroundings = (state, .ok outcomes)) :
    ∃ workers before,
      before = crew.complete schedule workers
        (crew.log (startEntry crew.items.length (size concurrency crew.items.length)) surroundings) ∧
      before.collect = .ok outcomes ∧
      state.surroundings = crew.log (finishEntry crew.items.length) before.surroundings := by
  unfold Crew.runAlong at ran
  split at ran
  · cases ran
  · simp only at ran
    split at ran
    · cases ran
    case h_2 workers counted =>
        split at ran
        · cases ran
        case h_2 collected =>
            cases ran
            exact ⟨workers.toNat, _, rfl, collected, rfl⟩

end Pool

namespace Run

open Pool

variable {machine : Machine} {config : Config} {context : Option Context}
  {execute : Block → Execution} {items : List Item} {style : ConsoleStyle} {target : Path}
  {schedule : List Nat} {concurrency : Amount} {console after : Console} {events : Transcript}

theorem step_style {state next : State Surroundings} {worker : Nat}
    (step : (crew machine context execute items).Step worker state next) :
    next.surroundings.console.style = state.surroundings.console.style := by
  cases step with
  | claim | leave | store | miss => rfl
  | @tell stage after happening here told =>
      cases happening with
      | started | finished => exact Console.call_style _ _
      | executed => rfl

theorem complete_style (schedule : List Nat) (workers : Nat) (surroundings : Surroundings) :
    ((crew machine context execute items).complete schedule workers
      surroundings).surroundings.console.style = surroundings.console.style := by
  have kept (state : State Surroundings) (worker : Nat) (next : State Surroundings)
      (same : state.surroundings.console.style = surroundings.console.style)
      (step : (crew machine context execute items).Step worker state next) :
      next.surroundings.console.style = surroundings.console.style := (step_style step).trans same
  exact complete_keeps kept schedule workers surroundings rfl

theorem ends_executeAll (schedule : List Nat) (concurrency : Amount) (items : List Item)
    (console : Console) :
    Ends (executeAll machine context execute schedule concurrency items) console
      fun outcomes after _ => outcomes.length = items.length ∧
        (∀ outcome ∈ outcomes,
          ∃ block, outcome = (crew machine context execute items).outcomeOf block) ∧
        after.style = console.style := by
  refine ⟨_, _, gives_executeAll machine context execute schedule concurrency items console,
    fun outcomes after ended => ?_⟩
  split at ended
  next => cases ended
  next result =>
      cases ended
      obtain ⟨workers, before, rfl, collected, last⟩ := runAlong_ok (Prod.ext rfl result)
      refine ⟨(collect_length collected).trans (complete_slots _ schedule workers _),
        collect_made collected (complete_made _ schedule workers _), ?_⟩
      rw [last]
      exact complete_style schedule workers _

/-- The last thing that is written is the line of totals, below what closes the live region. -/
theorem ends_conclude (summary : Summary) (console : Console) :
    Ends (conclude summary) console fun result _ events =>
      result = summary ∧ events = Console.written console.style
        (console.closing.2 ++ Console.totalsLine console.style summary) := by
  refine (ends_tell (.summary summary) console).bind ?_
  rintro - middle - ⟨accepted, -, rfl⟩
  refine (ends_tell .close middle).bind ?_
  rintro - last - ⟨-, -, rfl⟩
  refine ends_return ⟨rfl, ?_⟩
  have silent : (middle.call .close).printed = [] := by
    rw [Console.call]
    cases middle.advance .done <;> rfl
  have answer : console.call (.summary summary) = console.summarize summary := rfl
  rw [silent, answer]
  rw [answer] at accepted
  -- A refused call leaves what it wrote in the record, so only an accepted summary ends a run.
  by_cases allowed : console.lifecycle.mayBecome .summarized = true
  · rw [Console.summarize_allowed summary allowed] at accepted ⊢
    rw [Console.Reply.tell_returned _ _ _ accepted, Console.eventsOf_write]
    simp only [Console.eventsOf, List.map_nil, List.append_nil]
    rw [Console.written, Console.written, (Console.closing_keeps console).1]
  · rw [Console.summarize_refused summary allowed] at accepted
    cases accepted

theorem closing_blank (undrawn : console.drawn = 0) (shown : console.cursorHidden = false) :
    console.closing.2 = [] := by
  unfold Console.closing
  split
  · simp [Console.closeLive, Console.erase, undrawn, shown]
  · rfl

/-- The figures that a run ends with, and what it did until then. -/
inductive Ended (machine : Machine) (config : Config) (context : Option Context)
    (execute : Block → Execution) (target : Path) (concurrency : Amount) (style : ConsoleStyle) :
    Summary → Transcript → Prop where
  | aborted (missing : machine.files.pathExists target = .ok false) :
      Ended machine config context execute target concurrency style
        (.aborted (some target) (Failure.noPath target).message)
        [.printed .errors (Console.errorLine (Failure.noPath target).message)]
  | idle {discovery : Discovery} {warned : Transcript} (directory : Bool)
      (discovered : (Discovery.ofTarget machine config context true target).perform =
        (.ok discovery, warned))
      (empty : discovery.items = []) :
      Ended machine config context execute target concurrency style
        (.ofOutcomes [] [] discovery.documents.length machine.elapsed (some target) concurrency)
        (Console.written style (Console.scanningLine directory) ++ (warned ++
          (Console.written style (Console.foundLine discovery.documents.length concurrency) ++
            Console.written style Console.noBlocksLine)))
  | worked {discovery : Discovery} {warned : Transcript} {outcomes : List Outcome}
      {summary : Summary}
      (discovered : (Discovery.ofTarget machine config context true target).perform =
        (.ok discovery, warned))
      (filled : discovery.items ≠ []) (each : outcomes.length = discovery.items.length)
      (made : ∀ outcome ∈ outcomes,
        ∃ block, outcome = (crew machine context execute discovery.items).outcomeOf block)
      (figures : summary = .ofOutcomes discovery.items outcomes discovery.documents.length
        machine.elapsed (some target) concurrency)
      (before : Transcript) {last : Console} (styled : last.style = style) :
      Ended machine config context execute target concurrency style summary
        (before ++ Console.written style (last.closing.2 ++ Console.totalsLine style summary))

/-- A run of a target that does not exist. -/
def giveUp (target : Path) : ConsoleWork Summary := do
  Console.tell (.error (Failure.noPath target).message)
  Console.tell (.scanning false)
  conclude (.aborted (some target) (Failure.noPath target).message)

theorem ends_giveUp (style : ConsoleStyle) (target : Path) :
    Ends (giveUp target) (Console.new style) fun summary _ events =>
      summary = .aborted (some target) (Failure.noPath target).message ∧
        events = [.printed .errors (Console.errorLine (Failure.noPath target).message)] := by
  refine (ends_tell _ _).bind ?_
  rintro - _ _ ⟨-, rfl, rfl⟩
  refine (ends_tell _ _).bind ?_
  rintro - _ _ ⟨-, rfl, rfl⟩
  refine (ends_conclude _ _).mono ?_
  rintro _ _ _ ⟨rfl, rfl⟩
  refine ⟨rfl, ?_⟩
  rw [closing_blank rfl rfl]
  rfl

def workOn (schedule : List Nat) (machine : Machine) (context : Option Context)
    (execute : Block → Execution) (target : Path) (concurrency : Amount) (discovery : Discovery) :
    ConsoleWork Summary := do
  Console.tell (.start discovery.items)
  let outcomes ← executeAll machine context execute schedule concurrency discovery.items
  conclude (.ofOutcomes discovery.items outcomes discovery.documents.length machine.elapsed
    (some target) concurrency)

def idle (machine : Machine) (target : Path) (concurrency : Amount) (documents : Nat) :
    ConsoleWork Summary := do
  Console.tell .noBlocks
  conclude (.ofOutcomes [] [] documents machine.elapsed (some target) concurrency)

theorem workAlong_cases (schedule : List Nat) (discovery : Discovery) :
    workAlong schedule machine context execute target concurrency discovery =
      if discovery.items.isEmpty then idle machine target concurrency discovery.documents.length
      else workOn schedule machine context execute target concurrency discovery := by
  unfold workAlong
  cases discovery.items.isEmpty <;> rfl

theorem ends_idle (style : ConsoleStyle) (documents : Nat) :
    Ends (idle machine target concurrency documents) (scanned style) fun summary _ events =>
      summary = .ofOutcomes [] [] documents machine.elapsed (some target) concurrency ∧
        events = Console.written style Console.noBlocksLine := by
  refine (ends_written rfl).bind ?_
  rintro - _ _ ⟨rfl, rfl⟩
  refine (ends_conclude _ _).mono ?_
  rintro _ _ _ ⟨rfl, rfl⟩
  refine ⟨rfl, ?_⟩
  rw [closing_blank rfl rfl]
  exact List.append_nil _

theorem ends_workOn (schedule : List Nat) (discovery : Discovery) (console : Console) :
    Ends (workOn schedule machine context execute target concurrency discovery) console
      fun summary _ events =>
        ∃ outcomes before, ∃ last : Console, outcomes.length = discovery.items.length ∧
          (∀ outcome ∈ outcomes,
            ∃ block, outcome = (crew machine context execute discovery.items).outcomeOf block) ∧
          summary = .ofOutcomes discovery.items outcomes discovery.documents.length
            machine.elapsed (some target) concurrency ∧
          last.style = console.style ∧ events = before ++ Console.written console.style
            (last.closing.2 ++ Console.totalsLine console.style summary) := by
  refine (ends_tell _ _).bind ?_
  rintro - _ begun ⟨-, rfl, -⟩
  refine (ends_executeAll _ _ _ _).bind ?_
  rintro outcomes last told ⟨each, made, kept⟩
  rw [Console.call_style] at kept
  refine (ends_conclude _ _).mono ?_
  rintro _ _ _ ⟨rfl, rfl⟩
  rw [kept]
  exact ⟨outcomes, begun ++ told, last, each, made, rfl, kept, (List.append_assoc _ _ _).symm⟩

def explore (schedule : List Nat) (machine : Machine) (config : Config) (context : Option Context)
    (execute : Block → Execution) (target : Path) (concurrency : Amount) : ConsoleWork Summary := do
  let directory ← Work.ofExcept ((machine.files.isDirectory target).mapError .file)
  Console.tell (.scanning directory)
  let discovery ← Discovery.ofTarget machine config context true target
  Console.tell (.found discovery.documents.length concurrency)
  workAlong schedule machine context execute target concurrency discovery

theorem performAlong_cases (schedule : List Nat) :
    performAlong schedule machine config context execute target concurrency =
      (Work.ofExcept ((machine.files.pathExists target).mapError .file) : ConsoleWork Bool) >>=
        fun there =>
          if there then explore schedule machine config context execute target concurrency
          else giveUp target := by
  unfold performAlong
  congr 1
  funext there
  cases there <;> rfl

theorem call_scanning (style : ConsoleStyle) (directory : Bool) :
    (Console.new style).call (.scanning directory) =
      .write (scanned style) (Console.scanningLine directory) := by
  cases directory <;> rfl

theorem ends_explore (schedule : List Nat) (style : ConsoleStyle) :
    Ends (explore schedule machine config context execute target concurrency) (Console.new style)
      fun summary _ events =>
        Ended machine config context execute target concurrency style summary events := by
  refine (ends_ofExcept _ _).bind ?_
  rintro directory _ _ ⟨-, rfl, rfl⟩
  refine (ends_written (call_scanning style directory)).bind ?_
  rintro - _ _ ⟨rfl, rfl⟩
  refine (ends_lift (Discovery.ofTarget_appends machine config context true target) _).bind ?_
  rintro discovery _ warned ⟨found, rfl⟩
  refine (ends_told (call_found style _ _)).bind ?_
  rintro - _ _ ⟨rfl, rfl⟩
  rw [workAlong_cases]
  by_cases empty : discovery.items.isEmpty = true
  · rw [if_pos empty]
    refine (ends_idle style _).mono ?_
    rintro _ _ _ ⟨rfl, rfl⟩
    exact .idle directory found (List.isEmpty_iff.mp empty)
  · rw [if_neg empty]
    refine (ends_workOn schedule discovery _).mono ?_
    rintro _ _ _ ⟨outcomes, before, last, each, made, figures, styled, rfl⟩
    have filled : discovery.items ≠ [] := fun none => empty (List.isEmpty_iff.mpr none)
    simp only [← List.append_assoc]
    exact .worked found filled each made figures _ styled

theorem ends_performAlong (schedule : List Nat) (style : ConsoleStyle) :
    Ends (performAlong schedule machine config context execute target concurrency)
      (Console.new style) fun summary _ events =>
        Ended machine config context execute target concurrency style summary events := by
  rw [performAlong_cases]
  refine (ends_ofExcept _ _).bind ?_
  rintro there _ _ ⟨given, rfl, rfl⟩
  cases there with
  | false =>
      refine (ends_giveUp style target).mono ?_
      rintro _ _ _ ⟨rfl, rfl⟩
      exact .aborted (Except.mapError_ok.mp given)
  | true => exact ends_explore schedule style

/-- Any run that ends well has ended in one of these ways. -/
theorem performAlong_ended {summary : Summary}
    (ended : ((performAlong schedule machine config context execute target concurrency).run
      (Console.new style)).perform = (.ok (summary, after), events)) :
    Ended machine config context execute target concurrency style summary events :=
  (ends_performAlong schedule style).holds ended

end Run

end FenceCheck
