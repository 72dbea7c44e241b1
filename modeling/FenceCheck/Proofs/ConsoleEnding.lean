import FenceCheck.Proofs.ConsolePieces

/-!
What the summary leaves of the items. Whether the start or the finish of an item is accepted depends on
that item alone and not on the stage of the run; so after the summary nothing more is written about
items just if none was waiting or in flight then.
-/

namespace FenceCheck

namespace Console

def Call.isOfItem : Call → Bool
  | .started _ | .finished .. => true
  | .scanning _ | .found .. | .warning _ | .error _ | .noBlocks | .start _ | .tick | .summary _
  | .close => false

/-- A piece that shows an item, or makes room for one. -/
def Piece.isOfItem : Piece → Bool
  | .hideCursor | .live .. | .landed .. => true
  | .eraseLine | .showCursor | .lines _ => false

def Standing.Settled (standing : Standing) : Prop :=
  ∀ index, standing.progress.lookup index ≠ some .queued ∧
    standing.progress.lookup index ≠ some .running

/-- The run is over, and so is every item. -/
structure Resting (standing : Standing) : Prop where
  closed : standing.lifecycle = .summarized ∨ standing.lifecycle = .done
  settled : standing.Settled
  grounded : standing.inFlight = []

variable {console : Console} {standing : Standing} {call : Call} {before : List Call} {index : Int}

/-- No number is written of an item, so a call about it returns just if it fits. -/
theorem item_refusal_none (ofItem : call.isOfItem = true) :
    (console.call call).refusal = none ↔ console.standing.accepts call = true := by
  have told : call.isTold = true := by cases call <;> first | rfl | cases ofItem
  rw [refusal_none, told, and_iff_left rfl]

theorem Consistent.begun (consistent : Consistent standing before)
    (known : standing.progress.lookup index ≠ none) :
    standing.lifecycle ≠ .idle ∧ standing.lifecycle ≠ .scanning := by
  rw [← not_or]
  intro early
  rw [consistent.progress, consistent.unannounced early] at known
  exact known rfl

theorem Consistent.grounded (consistent : Consistent standing before) (settled : standing.Settled) :
    standing.inFlight = [] := by
  apply List.eq_nil_iff_forall_not_mem.mpr
  intro entry member
  exact (settled entry.1).2 ((consistent.flying entry.1).mp (List.mem_map_of_mem member))

/-! Once the run and its items are over, nothing more is heard of them. -/

theorem Resting.refuses (resting : Resting standing) (ofItem : call.isOfItem = true) :
    standing.accepts call = false := by
  cases call with
  | started item => exact decide_eq_false (resting.settled item.index).1
  | finished item outcome => exact decide_eq_false (resting.settled item.index).2
  | scanning | found | warning | error | noBlocks | start | tick | summary | close => cases ofItem

theorem resting_after (resting : Resting standing) (fits : standing.accepts call = true) :
    Resting (standing.after call) := by
  obtain ⟨closed, settled, grounded⟩ := id resting
  cases call with
  | found | warning | error | noBlocks | tick => exact resting
  | scanning | start | summary =>
      rcases closed with stage | stage <;> simp [Standing.accepts, stage, Lifecycle.mayBecome] at fits
  | close => exact ⟨Or.inr rfl, settled, grounded⟩
  | started | finished =>
      rw [resting.refuses rfl] at fits
      cases fits

theorem resting_call (resting : Resting console.standing) (call : Call) :
    Resting (console.call call).console.standing := by
  rw [(call_standing console call).2]
  split
  case isTrue fits => exact resting_after resting fits
  case isFalse => exact resting

theorem ending_apart (console : Console) : ∀ piece ∈ console.ending, piece.isOfItem = false := by
  intro piece member
  unfold ending at member
  split at member
  · rcases List.mem_append.mp member with erased | shown
    · rw [(List.mem_replicate.mp erased).2]
      rfl
    · split at shown
      · rw [List.mem_singleton.mp shown]
        rfl
      · cases shown
  · cases member

theorem pieces_all {good : Piece → Prop} (lines : ∀ text, good (.lines text))
    (ends : ∀ piece ∈ console.ending, good piece)
    (live : call.isOfItem = true ∨ call = .tick → console.standing.accepts call = true →
      ∀ piece ∈ console.acceptedPieces call, good piece) :
    ∀ piece ∈ console.pieces call, good piece := by
  have line (text : Text) : ∀ piece ∈ [Piece.lines text], good piece :=
    List.forall_mem_singleton.mpr (lines text)
  have none : ∀ piece ∈ ([] : List Piece), good piece := List.forall_mem_nil good
  unfold pieces
  split
  case isTrue fits =>
      cases call with
      | scanning | found | warning | error | noBlocks => exact line _
      | start | close => exact none
      | summary => exact List.forall_mem_append.mpr ⟨ends, line _⟩
      | started | finished => exact live (Or.inl rfl) fits
      | tick => exact live (Or.inr rfl) fits
  case isFalse =>
      cases call with
      | summary => exact ends
      | scanning | found | warning | error | noBlocks | start | started | finished | tick | close =>
          exact none

theorem resting_pieces (resting : Resting console.standing) (call : Call) :
    ∀ piece ∈ console.pieces call, piece.isOfItem = false := by
  refine pieces_all (fun _ => rfl) (ending_apart console) ?_
  rintro (ofItem | rfl) fits
  · rw [resting.refuses ofItem] at fits
    cases fits
  · have grounded : console.inFlight = [] := resting.grounded
    rw [acceptedPieces, grounded]
    exact List.forall_mem_nil _

theorem resting_quiet (resting : Resting console.standing) (calls : List Call) :
    (∀ call ∈ console.accepted calls, call.isOfItem = false) ∧
      ∀ piece ∈ console.wrote calls, piece.isOfItem = false := by
  induction calls generalizing console with
  | nil => exact ⟨List.forall_mem_nil _, List.forall_mem_nil _⟩
  | cons call rest ih =>
      obtain ⟨heard, shown⟩ := ih (resting_call resting call)
      refine ⟨?_, List.forall_mem_append.mpr ⟨resting_pieces resting call, shown⟩⟩
      rw [accepted]
      split
      case isTrue fits =>
          refine List.forall_mem_cons.mpr ⟨?_, heard⟩
          by_contra ofItem
          rw [resting.refuses (Bool.not_eq_false _ ▸ ofItem)] at fits
          cases fits
      case isFalse => exact heard

theorem Toggles.still_eq {hidden later : Bool} {shown : List Piece}
    (toggles : Toggles hidden shown later) (still : ∀ piece ∈ shown, piece.cursor? = none) :
    later = hidden := by
  induction toggles with
  | nil => rfl
  | keep _ _ ih => exact ih (List.forall_mem_cons.mp still).2
  | turn turned _ _ =>
      have none := (List.forall_mem_cons.mp still).1
      rw [turned] at none
      cases none

theorem Toggles.stays {later : Bool} {shown : List Piece} (toggles : Toggles false shown later)
    (apart : ∀ piece ∈ shown, piece.isOfItem = false) : later = false := by
  have none : shown.count .hideCursor = 0 :=
    List.count_eq_zero.mpr fun member => Bool.noConfusion (apart _ member)
  have count := toggles.count
  rw [none] at count
  cases later with
  | false => rfl
  | true => simp at count

theorem reached_style (console : Console) (calls : List Call) :
    (console.reached calls).style = console.style := by
  induction calls generalizing console with
  | nil => rfl
  | cons call rest ih => exact (ih _).trans (call_style console call)

theorem plain_pieces (plain : console.style.interactive = false) (timeless : call ≠ .tick) :
    ∀ piece ∈ console.pieces call, piece.cursor? = none := by
  have unlit : ¬ console.style.interactive = true := by simp [plain]
  refine pieces_all (fun _ => rfl) ?_ ?_
  · rw [ending, if_neg unlit]
    exact List.forall_mem_nil _
  · rintro (ofItem | rfl) -
    · cases call with
      | started item =>
          rw [acceptedPieces, if_neg unlit]
          exact List.forall_mem_nil _
      | finished item outcome =>
          rw [acceptedPieces, if_neg unlit]
          exact List.forall_mem_singleton.mpr rfl
      | scanning | found | warning | error | noBlocks | start | tick | summary | close => cases ofItem
    · exact absurd rfl timeless

theorem plain_cursor (plain : console.style.interactive = false) (calls : List Call)
    (timeless : .tick ∉ calls) : (console.reached calls).cursorHidden = console.cursorHidden := by
  induction calls generalizing console with
  | nil => rfl
  | cons call rest ih =>
      obtain ⟨here, later⟩ := List.forall_mem_cons.mp (List.forall_mem_ne.mpr timeless)
      have kept := ih (call_style console call ▸ plain) (List.forall_mem_ne.mp later)
      exact kept.trans ((call_shows console call).cursor.still_eq (plain_pieces plain (Ne.symm here)))

theorem summary_accepted {summary : Summary}
    (fits : console.standing.accepts (.summary summary) = true) :
    (console.call (.summary summary)).console.standing =
        { console.standing with lifecycle := .summarized } ∧
      (console.call (.summary summary)).console.cursorHidden =
        if console.style.interactive then false else console.cursorHidden := by
  refine ⟨(call_accepted fits).2, ?_⟩
  rw [Console.call, summarize_allowed summary fits]
  simp only [Reply.tell, Reply.write, Reply.accept, closing]
  split <;> rfl

theorem landed_written {item : Item} {outcome : Outcome}
    (running : console.standing.progress.lookup item.index = some .running) :
    .landed item outcome ∈ console.pieces (.finished item outcome) := by
  have fits : console.standing.accepts (.finished item outcome) = true := decide_eq_true running
  rw [pieces, if_pos fits, acceptedPieces]
  split <;> simp

theorem unsettled_shows
    (known : console.standing.progress.lookup index = some .queued ∨
      console.standing.progress.lookup index = some .running) :
    ∃ calls, ∃ piece ∈ console.wrote calls, piece.isOfItem = true := by
  let item : Item := { (default : Item) with index }
  rcases known with queued | running
  · have fits : console.standing.accepts (.started item) = true := decide_eq_true queued
    have running : (console.call (.started item)).console.standing.progress.lookup item.index =
        some .running := by
      rw [(call_accepted fits).2]
      exact Indexed.lookup_put_self _ _ _
    refine ⟨[.started item, .finished item default], .landed item default, ?_, rfl⟩
    simp only [wrote, List.append_nil]
    exact List.mem_append_right _ (landed_written running)
  · refine ⟨[.finished item default], .landed item default, ?_, rfl⟩
    exact List.mem_append_left _ (landed_written running)

theorem summary_resting {calls : List Call} (consistent : Consistent console.standing calls)
    (settled : console.standing.Settled) {summary : Summary}
    (fits : console.standing.accepts (.summary summary) = true) :
    Resting (console.call (.summary summary)).console.standing := by
  rw [(summary_accepted fits).1]
  exact ⟨Or.inl rfl, settled, consistent.grounded settled⟩

theorem summary_cursor {style : ConsoleStyle} {calls : List Call}
    (lit : style.interactive = true ∨ .tick ∉ calls) {summary : Summary}
    (fits : ((new style).reached calls).standing.accepts (.summary summary) = true) :
    (((new style).reached calls).call (.summary summary)).console.cursorHidden = false := by
  rw [(summary_accepted fits).2, reached_style]
  split
  case isTrue => rfl
  case isFalse plain =>
      exact plain_cursor (Bool.not_eq_true _ ▸ plain) calls (lit.resolve_left plain)

/-- The start and the finish of an item are accepted just where the item is, whatever the stage of the
run, though never before the run is started. So after the summary nothing more is written of items just
if then no item was waiting or in flight; and if so, no item is heard of and the cursor stays as it is
shown. Where there is no live region nothing ticks. -/
theorem summary_ends_settled_items (style : ConsoleStyle) :
    (∀ calls item outcome, let console := (new style).reached calls
      ((console.call (.started item)).refusal = none ↔
        console.progress.lookup item.index = some .queued) ∧
      ((console.call (.finished item outcome)).refusal = none ↔
        console.progress.lookup item.index = some .running) ∧
      (console.lifecycle = .idle ∨ console.lifecycle = .scanning →
        (console.call (.started item)).refusal ≠ none ∧
          (console.call (.finished item outcome)).refusal ≠ none)) ∧
    ∀ calls summary, let console := (new style).reached calls
      (console.call (.summary summary)).refusal = none →
        let closed := (console.call (.summary summary)).console
        (∀ more, (closed.printed more).flatMap (·.2) = textOf style (closed.wrote more)) ∧
        ((∀ more, ∀ piece ∈ closed.wrote more, piece.isOfItem = false) ↔
          console.standing.Settled) ∧
        (console.standing.Settled → ∀ more,
          (∀ call ∈ closed.accepted more, call.isOfItem = false) ∧
          (style.interactive = true ∨ .tick ∉ calls →
            (closed.reached more).cursorHidden = false)) := by
  have consistent (calls : List Call) :=
    consistent_reached (new style) calls [] (consistent_new style)
  refine ⟨fun calls item outcome => ?_, fun calls summary => ?_⟩
  · intro console
    have starts : (console.call (.started item)).refusal = none ↔
        console.progress.lookup item.index = some .queued :=
      (item_refusal_none rfl).trans decide_eq_true_iff
    have finishes : (console.call (.finished item outcome)).refusal = none ↔
        console.progress.lookup item.index = some .running :=
      (item_refusal_none rfl).trans decide_eq_true_iff
    refine ⟨starts, finishes, fun early => ?_⟩
    -- Progress is known of an item only once the run has begun.
    have unknown : console.progress.lookup item.index = none := by
      by_contra known
      exact not_or.mpr ((consistent calls).begun known) early
    rw [ne_eq, ne_eq, starts, finishes, unknown]
    decide
  · intro console allowed closed
    have fits := ((refusal_none console _).mp allowed).1
    have resting (settled : console.standing.Settled) : Resting closed.standing :=
      summary_resting (consistent calls) settled fits
    refine ⟨fun more => ?_,
      ⟨fun quiet index => ?_, fun settled more => (resting_quiet (resting settled) more).2⟩,
      fun settled more => ⟨(resting_quiet (resting settled) more).1, fun lit => ?_⟩⟩
    · rw [printed_wrote, call_style, reached_style]
      rfl
    · rw [← not_or]
      intro known
      have kept : closed.standing.progress = console.standing.progress := by
        rw [(summary_accepted fits).1]
      rw [← kept] at known
      obtain ⟨more, piece, member, shown⟩ := unsettled_shows known
      rw [quiet more piece member] at shown
      cases shown
    · have toggles := wrote_toggles closed more
      rw [summary_cursor lit fits] at toggles
      exact toggles.stays (resting_quiet (resting settled) more).2

def loneItem : Item := ⟨default, "a.md:1", 0⟩

def onScreen : ConsoleStyle := ⟨.output, false, false, true⟩

def announced : List Call := [.scanning false, .found 1 (.whole 1), .start [loneItem]]

def tally : Summary := .ofOutcomes [loneItem] [.pass default [] 7] 1 7 none (.whole 1)

def settledRun : List Call := announced ++ [.started loneItem, .finished loneItem (.pass default [] 7)]

theorem summary_ends_settled_items_lone :
    (((new onScreen).reached settledRun).call (.summary tally)).refusal = none ∧
      ((new onScreen).reached settledRun).standing.Settled ∧
      ((((new onScreen).reached settledRun).call (.summary tally)).console.reached
        [.close, .started loneItem, .tick]).cursorHidden = false := by
  have told : (Call.summary tally).isTold = true := by decide +kernel
  have allowed : (((new onScreen).reached settledRun).call (.summary tally)).refusal = none :=
    (refusal_none _ _).mpr ⟨rfl, told⟩
  have settled : ((new onScreen).reached settledRun).standing.Settled := by
    intro index
    have passed : ((new onScreen).reached settledRun).standing.progress = [(0, .passed)] := rfl
    rw [passed, List.lookup_cons]
    cases index == 0 <;> simp
  obtain ⟨-, -, quiet⟩ := (summary_ends_settled_items onScreen).2 settledRun tally allowed
  exact ⟨allowed, settled, (quiet settled _).2 (Or.inl rfl)⟩

/-- The item waits when the run is summarised and closed. It can still be started, and that opens the
live region and hides the cursor again. -/
theorem late_start_hides_cursor :
    let console := (new onScreen).reached (announced ++ [.summary tally, .close])
    console.lifecycle = .done ∧ console.cursorHidden = false ∧
      (console.call (.started loneItem)).refusal = none ∧
      (console.call (.started loneItem)).printed =
        [(.output, hideCursor ++ liveLine onScreen 0 "a.md:1")] ∧
      (console.call (.started loneItem)).console.cursorHidden = true := by
  intro console
  have single : Indexed.inOrder [(0, loneItem.label)] = [loneItem.label] := by
    simp [Indexed.inOrder]
  have printed : (console.call (.started loneItem)).printed =
      [(.output, hideCursor ++
        ((Indexed.inOrder [(0, loneItem.label)]).map (liveLine onScreen 0)).flatten)] := rfl
  rw [single] at printed
  exact ⟨rfl, rfl, rfl, printed, rfl⟩

end Console

end FenceCheck
