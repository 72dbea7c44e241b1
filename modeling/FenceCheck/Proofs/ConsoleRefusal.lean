import FenceCheck.Proofs.ConsoleEnding

/-!
What a call does that is refused as out of order. Every call looks at the stage of the run, or at its
item, before it does anything; only the summary closes the live region first. So a refused call leaves
all as it is, unless it is a summary and the cursor is hidden: then the live region that the run has open
is taken off the screen. A run that refuses a summary has a live region open only where an item was still
heard of after an earlier summary had closed it.
-/

namespace FenceCheck

/-- Whether a failure says that a call does not fit the course of the run or of its item. -/
def Failure.isDisorder : Failure → Bool
  | lifecycle .. | itemOrder .. => true
  | _ => false

namespace Console

variable {console : Console} {call : Call} {style : ConsoleStyle} {calls : List Call}

/-- A live region stays on the screen only while the cursor is hidden. -/
def Veiled (console : Console) : Prop := console.cursorHidden = false → console.drawn = 0

/-- The call is a summary, and the run has a live region open. -/
structure ClosesEarly (console : Console) (call : Call) : Prop where
  interactive : console.style.interactive = true
  hidden : console.cursorHidden = true
  isSummary : ∃ summary, call = .summary summary

/-- Among the calls an item was heard of, or the live region drawn, after the run was summarised. -/
def HeardLate (style : ConsoleStyle) (calls : List Call) : Prop :=
  ∃ before call after, calls = before ++ call :: after ∧
    (((new style).reached before).lifecycle = .summarized ∨
      ((new style).reached before).lifecycle = .done) ∧
    (((new style).reached before).call call).refusal = none ∧
    (call.isOfItem = true ∨ call = .tick)

theorem reached_append (console : Console) (calls : List Call) (call : Call) :
    console.reached (calls ++ [call]) = ((console.reached calls).call call).console :=
  List.foldl_append

theorem HeardLate.append (late : HeardLate style calls) (call : Call) :
    HeardLate style (calls ++ [call]) := by
  obtain ⟨before, heard, after, rfl, closed, allowed, ofItem⟩ := late
  exact ⟨before, heard, after ++ [call], by simp, closed, allowed, ofItem⟩

theorem heard_refusal_none (heard : call.isOfItem = true ∨ call = .tick) :
    (console.call call).refusal = none ↔ console.standing.accepts call = true := by
  rcases heard with ofItem | rfl
  · exact item_refusal_none ofItem
  · exact (refusal_none console .tick).trans (and_iff_left rfl)

theorem disorder_unfit (refused : (console.call call).refusal.any Failure.isDisorder = true) :
    console.standing.accepts call = false := by
  by_contra fits
  rw [(call_accepted (Bool.not_eq_false _ ▸ fits)).1, Call.untold?] at refused
  split at refused <;> cases refused

/-! The live region is on the screen only while the cursor is hidden. -/

theorem veiled_draw (veiled : Veiled console) : Veiled console.draw.1 := by
  unfold draw
  split
  · exact veiled
  · exact fun shown => Bool.noConfusion shown

theorem veiled_erase (console : Console) : Veiled console.erase.1 := fun _ => rfl

theorem veiled_closing (veiled : Veiled console) : Veiled console.closing.1 := by
  unfold closing
  split
  · exact fun _ => rfl
  · exact veiled

theorem veiled_call (veiled : Veiled console) (call : Call) :
    Veiled (console.call call).console := by
  cases fits : console.standing.accepts call with
  | false =>
      -- A refused summary still closes the live region; nothing comes of any other refused call.
      by_cases other : ∀ summary, call ≠ .summary summary
      · obtain ⟨failure, answer⟩ := call_refused fits other
        rw [answer]
        exact veiled
      · push Not at other
        obtain ⟨summary, rfl⟩ := other
        obtain ⟨failure, answer⟩ := summary_refused fits
        rw [answer]
        exact veiled_closing veiled
  | true =>
      cases call with
      | found | warning | error | noBlocks => exact veiled
      | scanning | start | close =>
          rw [Console.call, advance_ok fits]
          exact veiled
      | tick =>
          rw [Console.call]
          split
          · exact veiled
          · exact veiled_draw (veiled_erase _)
      | summary summary =>
          rw [Console.call, summarize_allowed summary fits]
          exact veiled_closing veiled
      | started item =>
          rw [call_started (of_decide_eq_true fits)]
          split
          · exact veiled_draw (veiled_erase _)
          · exact veiled
      | finished item outcome =>
          rw [call_finished (of_decide_eq_true fits)]
          split
          · exact veiled_draw (veiled_erase _)
          · exact veiled

theorem veiled_reached (veiled : Veiled console) (calls : List Call) :
    Veiled (console.reached calls) := by
  induction calls generalizing console with
  | nil => exact veiled
  | cons call rest ih => exact ih (veiled_call veiled call)

/-! A live region is opened by what is heard of the items, and closed by the summary. -/

theorem hides_heard (shown : console.cursorHidden = false)
    (hides : (console.call call).console.cursorHidden = true) :
    console.standing.accepts call = true ∧ (call.isOfItem = true ∨ call = .tick) := by
  by_contra other
  have apart : ∀ piece ∈ console.pieces call, piece.isOfItem = false :=
    pieces_all (fun _ => rfl) (ending_apart console) fun heard fits => absurd ⟨fits, heard⟩ other
  have toggles := (call_shows console call).cursor
  rw [shown] at toggles
  rw [toggles.stays apart] at hides
  cases hides

theorem hides_known {before : List Call} (consistent : Consistent console.standing before)
    (shown : console.cursorHidden = false)
    (hides : (console.call call).console.cursorHidden = true) :
    ∃ index, console.standing.progress.lookup index ≠ none := by
  obtain ⟨fits, ofItem | rfl⟩ := hides_heard shown hides
  · cases call with
    | started item => exact ⟨item.index, by simp [of_decide_eq_true fits]⟩
    | finished item outcome => exact ⟨item.index, by simp [of_decide_eq_true fits]⟩
    | scanning | found | warning | error | noBlocks | start | tick | summary | close => cases ofItem
  · cases flying : console.inFlight with
    | nil =>
        have still : (console.call .tick).console.cursorHidden = console.cursorHidden := by
          simp [Console.call, flying, Reply.accept]
        rw [still, shown] at hides
        cases hides
    | cons entry rest =>
        have member : entry.1 ∈ console.standing.inFlight.map (·.1) := by
          simp [Console.standing, flying]
        exact ⟨entry.1, by simp [(consistent.flying entry.1).mp member]⟩

theorem running_goes_on (lit : console.style.interactive = true)
    (running : console.lifecycle = .running)
    (hidden : (console.call call).console.cursorHidden = true) :
    (console.call call).console.lifecycle = .running := by
  have moved := (call_standing console call).2
  split at moved
  case isFalse => exact (congrArg Standing.lifecycle moved).trans running
  case isTrue fits =>
      have next : (console.call call).console.lifecycle = (console.standing.after call).lifecycle :=
        congrArg Standing.lifecycle moved
      rw [next, Standing.after_lifecycle]
      cases call with
      | found | warning | error | noBlocks | started | finished | tick => exact running
      | scanning | start | close =>
          simp [Standing.accepts, Console.standing, running, Lifecycle.mayBecome] at fits
      | summary summary =>
          have closed := (summary_accepted fits).2
          rw [hidden, if_pos lit] at closed
          cases closed

theorem open_region (lit : style.interactive = true) (calls : List Call)
    (hidden : ((new style).reached calls).cursorHidden = true) :
    ((new style).reached calls).lifecycle = .running ∨ HeardLate style calls := by
  -- Either the region was open before the last call, or this call has opened it.
  induction calls using List.reverseRecOn with
  | nil => cases hidden
  | append_singleton calls call ih =>
      rw [reached_append] at hidden ⊢
      cases before : ((new style).reached calls).cursorHidden with
      | true =>
          rcases ih before with running | late
          · exact Or.inl (running_goes_on (by rw [reached_style]; exact lit) running hidden)
          · exact Or.inr (late.append call)
      | false =>
          have consistent := consistent_reached (new style) calls [] (consistent_new style)
          obtain ⟨fits, heard⟩ := hides_heard before hidden
          obtain ⟨index, known⟩ := hides_known consistent before hidden
          obtain ⟨notIdle, notScanning⟩ := consistent.begun known
          have here (closed : ((new style).reached calls).lifecycle = .summarized ∨
              ((new style).reached calls).lifecycle = .done) : HeardLate style (calls ++ [call]) :=
            ⟨calls, call, [], rfl, closed, (heard_refusal_none heard).mpr fits, heard⟩
          cases stage : ((new style).reached calls).lifecycle with
          | idle => exact absurd stage notIdle
          | scanning => exact absurd stage notScanning
          | running => exact Or.inl (running_goes_on (by rw [reached_style]; exact lit) stage hidden)
          | summarized => exact Or.inr (here (Or.inl stage))
          | done => exact Or.inr (here (Or.inr stage))

/-! What is closed. -/

theorem closing_shut (veiled : Veiled console)
    (shut : ¬ (console.style.interactive = true ∧ console.cursorHidden = true)) :
    console.closing = (console, []) := by
  unfold closing
  split
  case isTrue lit =>
      have shown : console.cursorHidden = false :=
        Bool.eq_false_iff.mpr fun hidden => shut ⟨lit, hidden⟩
      obtain ⟨style, lifecycle, progress, inFlight, frame, drawn, cursorHidden⟩ := console
      -- Nothing is drawn while the cursor is shown, so nothing is taken off the screen.
      have bare : drawn = 0 := veiled shown
      have shown : cursorHidden = false := shown
      subst bare shown
      rfl
  case isFalse => rfl

theorem closing_open (lit : console.style.interactive = true) (hidden : console.cursorHidden = true) :
    console.closing = ({ console with drawn := 0, cursorHidden := false },
      (List.replicate console.drawn eraseLineUp).flatten ++ showCursor) := by
  rw [closing, if_pos lit]
  simp [closeLive, erase, hidden]

/-- A call that is refused as out of order changes nothing that is known of the run and its items. If
it is no summary, or the run has no live region open, it changes nothing of the console and prints
nothing. Else it takes the live region off the screen and shows the cursor; and then an item was heard
of, or the live region drawn, after an earlier summary. -/
theorem refused_call_keeps (style : ConsoleStyle) (calls : List Call) (call : Call)
    (refused : (((new style).reached calls).call call).refusal.any Failure.isDisorder = true) :
    let console := (new style).reached calls
    let reply := console.call call
    reply.console.standing = console.standing ∧
      (¬ console.ClosesEarly call → reply.console = console ∧ reply.printed = []) ∧
      (console.ClosesEarly call →
        reply.console = { console with drawn := 0, cursorHidden := false } ∧
          reply.printed = [(style.stream,
            (List.replicate console.drawn eraseLineUp).flatten ++ showCursor)] ∧
          HeardLate style calls) := by
  intro console reply
  have unfit : console.standing.accepts call = false := disorder_unfit refused
  have bare : Veiled (new style) := fun _ => rfl
  have veiled : Veiled console := veiled_reached bare calls
  have styled : console.style = style := reached_style (new style) calls
  have kept : reply.console.standing = console.standing := by
    rw [(call_standing console call).2, if_neg (by rw [unfit]; exact Bool.false_ne_true)]
  by_cases other : ∀ summary, call ≠ .summary summary
  · obtain ⟨failure, answer⟩ := call_refused unfit other
    have answer : reply = .refuse console failure := answer
    refine ⟨kept, fun _ => ?_, fun early => ?_⟩
    · rw [answer]
      exact ⟨rfl, rfl⟩
    · obtain ⟨summary, same⟩ := early.isSummary
      exact absurd same (other summary)
  · push Not at other
    obtain ⟨summary, rfl⟩ := other
    obtain ⟨failure, answer⟩ := summary_refused unfit
    have answer : reply = { Reply.write console.closing.1 console.closing.2 with
      refusal := some failure } := answer
    refine ⟨kept, fun shut => ?_, fun early => ?_⟩
    · have same := closing_shut veiled fun opened => shut ⟨opened.1, opened.2, summary, rfl⟩
      rw [answer, same]
      exact ⟨rfl, rfl⟩
    · have closed := closing_open early.interactive early.hidden
      -- While the run goes on a summary is not refused, so the region was drawn again after one.
      have late : HeardLate style calls := by
        refine (open_region (styled ▸ early.interactive) calls early.hidden).resolve_left ?_
        intro running
        have running : console.standing.lifecycle = .running := running
        rw [Standing.accepts, running] at unfit
        cases unfit
      have text : ((List.replicate console.drawn eraseLineUp).flatten ++ showCursor).isEmpty =
          false := by
        cases (List.replicate console.drawn eraseLineUp).flatten <;> rfl
      rw [answer, closed]
      refine ⟨rfl, ?_, late⟩
      simp only [Reply.write, Reply.accept, text, styled]
      rfl

/-- While the item is in flight the run cannot be closed, and its live region stays as it is. -/
theorem refused_call_keeps_open_region :
    let console := (new onScreen).reached (announced ++ [.started loneItem])
    console.drawn = 1 ∧ console.cursorHidden = true ∧
      (console.call .close).refusal.any Failure.isDisorder = true ∧
      (console.call .close).console = console ∧
      (console.call .close).printed = [] := by
  intro console
  have refused : (console.call .close).refusal.any Failure.isDisorder = true := rfl
  have apart : ¬ console.ClosesEarly .close := by
    rintro ⟨-, -, summary, same⟩
    cases same
  have keeps := refused_call_keeps onScreen (announced ++ [.started loneItem]) .close
  obtain ⟨-, kept, -⟩ := keeps refused
  obtain ⟨same, silent⟩ := kept apart
  exact ⟨rfl, rfl, refused, same, silent⟩

/-- The item is started after the summary, and the run summarised again: that is refused, but the live
region is gone. -/
theorem refused_summary_closes_region :
    let console := (new onScreen).reached (announced ++ [.summary tally, .started loneItem])
    let reply := console.call (.summary tally)
    reply.refusal = some (.lifecycle "summarized" "summarized") ∧
      console.drawn = 1 ∧ console.cursorHidden = true ∧
      reply.console.drawn = 0 ∧ reply.console.cursorHidden = false ∧
      reply.printed = [(.output, eraseLineUp ++ showCursor)] := by
  intro console reply
  have lit : console.style.interactive = true := rfl
  have hidden : console.cursorHidden = true := rfl
  have drawn : console.drawn = 1 := rfl
  have stage : console.lifecycle = .summarized := rfl
  have unfit : ¬ console.lifecycle.mayBecome .summarized := by
    rw [stage]
    decide
  have answer : reply = _ := summarize_refused tally unfit
  rw [answer, closing_open lit hidden, drawn, stage]
  exact ⟨rfl, rfl, hidden, rfl, rfl, rfl⟩

end Console

end FenceCheck
