import FenceCheck.Proofs.ColorCodes
import FenceCheck.Proofs.ConsoleEnding
import FenceCheck.Proofs.RepeatedCleaning

/-!
How a console was set up shows in what it prints alone. Consoles of all styles answer the same calls in
the same way and stand where the others stand. A quiet one leaves out the lines about passed items, and a
coloured one adds colour codes, which can be taken out again.
-/

namespace FenceCheck

theorem Indexed.mem_put {α : Type} {entries : Indexed α} {index : Int} {value : α}
    {entry : Int × α} (member : entry ∈ entries.put index value) :
    entry ∈ entries ∨ entry = (index, value) := by
  induction entries with
  | nil => exact Or.inr (List.mem_singleton.mp member)
  | cons first rest ih =>
      rw [put] at member
      split at member
      · rcases List.mem_cons.mp member with new | old
        · exact Or.inr new
        · exact Or.inl (List.mem_cons_of_mem _ old)
      · rcases List.mem_cons.mp member with rfl | later
        · exact Or.inl List.mem_cons_self
        · exact (ih later).imp_left (List.mem_cons_of_mem _)

def ConsoleStyle.uncolored (style : ConsoleStyle) : ConsoleStyle := { style with color := false }

def ConsoleStyle.hushed (style : ConsoleStyle) : ConsoleStyle := { style with quiet := true }

namespace Console

namespace Standing

variable (standing : Standing)

def stageRefusal (next : Lifecycle) : Option Failure :=
  if standing.lifecycle.mayBecome next then none
  else some (.lifecycle standing.lifecycle.name next.name)

def itemRefusal (index : Int) (source next : Progress) : Option Failure :=
  if standing.progress.lookup index = some source then none
  else
    some (.ofItemOrder index ((standing.progress.lookup index).elim "unknown" Progress.name) next.name)

def refusal : Call → Option Failure
  | .scanning _ => standing.stageRefusal .scanning
  | .found documents workers => (Call.found documents workers).untold?
  | .start _ => standing.stageRefusal .running
  | .summary summary => (standing.stageRefusal .summarized).or (Call.summary summary).untold?
  | .close => standing.stageRefusal .done
  | .started item => standing.itemRefusal item.index .queued .running
  | .finished item outcome => standing.itemRefusal item.index .running (verdict outcome)
  | .warning _ | .error _ | .noBlocks | .tick => none

end Standing

variable {console : Console} {call : Call} {style other : ConsoleStyle}

theorem advance_refusal (console : Console) (next : Lifecycle) :
    console.advance next =
      match console.standing.stageRefusal next with
      | none => .ok { console with lifecycle := next }
      | some failure => .error failure := by
  by_cases allowed : console.lifecycle.mayBecome next = true
  · have none : console.standing.stageRefusal next = none := if_pos allowed
    rw [advance, if_pos allowed, none]
  · have refused : console.standing.stageRefusal next =
        some (.lifecycle console.lifecycle.name next.name) := if_neg allowed
    rw [advance, if_neg allowed, refused]

theorem moveItem_refusal (console : Console) (index : Int) (source next : Progress) :
    console.moveItem index source next =
      match console.standing.itemRefusal index source next with
      | none => .ok { console with progress := console.progress.put index next }
      | some failure => .error failure := by
  by_cases here : console.progress.lookup index = some source
  · have none : console.standing.itemRefusal index source next = none := if_pos here
    rw [moveItem, if_pos here, none]
  · have refused : console.standing.itemRefusal index source next =
        some (.ofItemOrder index ((console.progress.lookup index).elim "unknown" Progress.name)
          next.name) := if_neg here
    rw [moveItem, if_neg here, refused]
    cases console.progress.lookup index <;> rfl

/-- Whether a call is refused, and why, depends on where the console stands alone. -/
theorem call_refusal (console : Console) (call : Call) :
    (console.call call).refusal = console.standing.refusal call := by
  cases call with
  | found | warning | error | noBlocks => rfl
  | scanning | start | close =>
      simp only [Console.call, advance_refusal, Standing.refusal]
      cases console.standing.stageRefusal _ <;> rfl
  | tick =>
      rw [Console.call]
      split <;> rfl
  | summary summary =>
      rw [Console.call, Standing.refusal, Standing.stageRefusal]
      by_cases allowed : console.lifecycle.mayBecome .summarized = true
      · rw [summarize_allowed summary allowed, if_pos (by exact allowed)]
        rfl
      · rw [summarize_refused summary allowed, if_neg (by exact allowed)]
        rfl
  | started item =>
      simp only [Console.call, itemStarted, moveItem_refusal, Standing.refusal]
      cases console.standing.itemRefusal _ _ _ with
      | some => rfl
      | none =>
          dsimp only
          split <;> rfl
  | finished item outcome =>
      simp only [Console.call, itemFinished, moveItem_refusal, Standing.refusal, verdict]
      cases console.standing.itemRefusal _ _ _ with
      | some => rfl
      | none =>
          dsimp only
          split <;> rfl

/-! A console of another style, in the same place. -/

def restyled (console : Console) (style : ConsoleStyle) : Console := { console with style }

theorem draw_restyled (console : Console) (style : ConsoleStyle) :
    (console.restyled style).draw.1 = console.draw.1.restyled style := by
  unfold draw restyled
  dsimp only
  split <;> rfl

theorem redraw_restyled (console : Console) (style : ConsoleStyle) :
    (console.restyled style).redraw.1 = console.redraw.1.restyled style :=
  draw_restyled console.erase.1 style

theorem closing_restyled (alive : style.interactive = console.style.interactive) :
    (console.restyled style).closing.1 = console.closing.1.restyled style := by
  unfold closing
  rw [show (console.restyled style).style.interactive = _ from alive]
  split <;> rfl

theorem call_tick (console : Console) :
    console.call .tick =
      let next : Console := { console with frame := console.frame + 1 }
      if console.inFlight.isEmpty then .accept next [] else .write next.redraw.1 next.redraw.2 :=
  rfl

theorem call_restyled (alive : style.interactive = console.style.interactive) (call : Call) :
    ((console.restyled style).call call).console = (console.call call).console.restyled style := by
  cases fits : console.standing.accepts call with
  | false =>
      have unfit : (console.restyled style).standing.accepts call = false := fits
      by_cases other : ∀ summary, call ≠ .summary summary
      · obtain ⟨_, answer⟩ := call_refused fits other
        obtain ⟨_, again⟩ := call_refused unfit other
        rw [answer, again]
        rfl
      · push Not at other
        -- A summary closes the live region before it is refused.
        obtain ⟨summary, rfl⟩ := other
        obtain ⟨_, answer⟩ := summary_refused fits
        obtain ⟨_, again⟩ := summary_refused unfit
        rw [answer, again]
        exact closing_restyled alive
  | true =>
      have fit : (console.restyled style).standing.accepts call = true := fits
      cases call with
      | found | warning | error | noBlocks => rfl
      | scanning | start | close =>
          rw [Console.call, Console.call, advance_ok fits, advance_ok fit]
          rfl
      | tick =>
          rw [call_tick, call_tick, show (console.restyled style).inFlight = console.inFlight from rfl]
          split
          · rfl
          · exact redraw_restyled { console with frame := console.frame + 1 } style
      | summary summary =>
          rw [Console.call, Console.call, summarize_allowed summary fits, summarize_allowed summary fit]
          exact congrArg (fun closed : Console => { closed with lifecycle := .summarized })
            (closing_restyled alive)
      | started item =>
          rw [call_started (of_decide_eq_true fits), call_started (of_decide_eq_true fit),
            show (console.restyled style).style.interactive = _ from alive]
          split
          · exact redraw_restyled (console.launched item) style
          · rfl
      | finished item outcome =>
          rw [call_finished (of_decide_eq_true fits), call_finished (of_decide_eq_true fit),
            show (console.restyled style).style.interactive = _ from alive]
          split
          · exact draw_restyled (console.landed item outcome).erase.1 style
          · rfl

theorem pieces_restyled (alive : style.interactive = console.style.interactive)
    (other : ∀ summary, call ≠ .summary summary) :
    (console.restyled style).pieces call = console.pieces call := by
  unfold pieces
  congr 1
  · unfold acceptedPieces
    rw [show (console.restyled style).style.interactive = _ from alive]
    cases call with
    | summary summary => exact absurd rfl (other summary)
    | _ => rfl
  · cases call with
    | summary summary => exact absurd rfl (other summary)
    | _ => rfl

/-! What a console prints. -/

/-- A piece in which nothing but the console's own codes colours anything. -/
def Piece.Colorless : Piece → Prop
  | .eraseLine | .hideCursor | .showCursor => True
  | .live _ label => Console.Colorless label
  | .landed item outcome => Console.Colorless item.label ∧
      (outcome.passed = false → Console.Colorless (Diagnostic.clean (outcome.error.getD [])))
  | .lines text => Terminal.escape ∉ text

theorem uncolors_told (call : Call) {line plain : Text} (whole : Uncolors line plain) :
    Uncolors (call.told line) (call.told plain) := by
  unfold Call.told
  split
  case isTrue told => exact whole
  case isFalse untold => exact uncolors_nil

section

variable (bright : style.color = true)
include bright

theorem uncolors_marked (color : Color) {mark label : Text} (bare : Colorless mark)
    (colorless : Colorless label) :
    Uncolors (paint style color mark ++ .char ' ' :: label ++ [.char '\n'])
      (mark ++ .char ' ' :: label ++ [.char '\n']) := by
  have blank : Uncolors [.char ' '] [.char ' '] := uncolors_self (by decide)
  have line := (uncolors_paint color bare bright).append
    (blank.append (uncolors_closed colorless (c := .char '\n') (by decide) (by decide)))
  simpa using line

theorem uncolors_failed {item : Item} {message : Text} (label : Colorless item.label)
    (colorless : Colorless message) :
    Uncolors (failedLines style item message) (failedLines style.uncolored item message) := by
  have cross : Colorless "✗" := by decide
  have head := uncolors_marked bright .red cross label
  have indent : Uncolors (Text.ofString "  ") (Text.ofString "  ") := uncolors_self (by decide)
  have lineEnd : Uncolors [.char '\n'] [.char '\n'] := uncolors_self (by decide)
  unfold failedLines
  cases message with
  | nil => exact head
  | cons c message =>
      have lines := head.append
        ((indent.append (uncolors_paint .gray colorless bright)).append lineEnd)
      simpa [paint, ConsoleStyle.uncolored] using lines

theorem uncolors_finished {item : Item} {outcome : Outcome} (label : Colorless item.label)
    (error : outcome.passed = false → Colorless (Diagnostic.clean (outcome.error.getD []))) :
    Uncolors (finishedLines style item outcome)
      (finishedLines style.uncolored item outcome) := by
  cases passed : outcome.passed with
  | true =>
      rw [finishedLines, if_pos passed, finishedLines, if_pos passed]
      by_cases quiet : style.quiet = true
      · rw [if_pos quiet, if_pos (by exact quiet)]
        exact uncolors_nil
      · rw [if_neg quiet, if_neg (by exact quiet)]
        exact uncolors_marked bright .green (by decide) label
  | false =>
      rw [finishedLines_failed style item passed, finishedLines_failed style.uncolored item passed]
      exact uncolors_failed bright label (error passed)

theorem uncolors_live (frame : Nat) {label : Text} (colorless : Colorless label) :
    Uncolors (liveLine style frame label) (liveLine style.uncolored frame label) := by
  have indent : Uncolors (Text.ofString "  ") (Text.ofString "  ") := uncolors_self (by decide)
  have glyph : Colorless (spinner frame) := colorless_plain (spinner_fits frame).1
  have line := indent.append (uncolors_marked bright .yellow glyph colorless)
  simpa [liveLine, paint, ConsoleStyle.uncolored] using line

theorem uncolors_totals (summary : Summary) :
    Uncolors (totalsLine style summary) (totalsLine style.uncolored summary) := by
  have lineEnd : Uncolors [.char '\n'] [.char '\n'] := uncolors_self (by decide)
  unfold totalsLine
  split
  case isTrue counted =>
      have words : Colorless (Text.ofString "Results: " ++ Text.ofInt summary.passed ++ .char '/' ::
          Text.ofInt summary.total ++ Text.ofString " passed") :=
        colorless_plain (escape_counts summary)
      exact lineEnd.append ((uncolors_paint _ words bright).append lineEnd)
  case isFalse => exact uncolors_nil

theorem uncolors_piece {piece : Piece} (colorless : piece.Colorless) :
    Uncolors (piece.text style) (piece.text style.uncolored) := by
  cases piece with
  | eraseLine | hideCursor | showCursor => exact fun _ => rfl
  | live frame label => exact uncolors_live bright frame colorless
  | landed item outcome => exact uncolors_finished bright colorless.1 colorless.2
  | lines text => exact uncolors_self colorless

theorem uncolors_pieces {pieces : List Piece} (colorless : ∀ piece ∈ pieces, piece.Colorless) :
    Uncolors (textOf style pieces) (textOf style.uncolored pieces) := by
  induction pieces with
  | nil => exact uncolors_nil
  | cons piece rest ih =>
      obtain ⟨here, later⟩ := List.forall_mem_cons.mp colorless
      exact (uncolors_piece bright here).append (ih later)

end

/-- A call that speaks of the run and not of its course. -/
def Call.isMessage : Call → Bool
  | .warning _ | .error _ => true
  | .scanning _ | .found .. | .noBlocks | .start _ | .started _ | .finished .. | .tick | .summary _
  | .close => false

/-- A call in which no label and no error, as far as it is shown, holds a colour code. -/
def Call.Colorless : Call → Prop
  | .started item => Console.Colorless item.label
  | .finished item outcome => Console.Colorless item.label ∧
      (outcome.passed = false → Console.Colorless (Diagnostic.clean (outcome.error.getD [])))
  | .scanning _ | .found .. | .warning _ | .error _ | .noBlocks | .start _ | .tick | .summary _
  | .close => True

def FliesColorless (console : Console) : Prop := ∀ entry ∈ console.inFlight, Colorless entry.2

theorem flying_call (flying : console.FliesColorless) (colorless : call.Colorless) :
    (console.call call).console.FliesColorless := by
  have after : ∀ entry ∈ (console.standing.after call).inFlight, Colorless entry.2 := by
    cases call with
    | started item =>
        intro entry member
        rcases Indexed.mem_put member with old | rfl
        · exact flying entry old
        · exact colorless
    | finished item outcome => exact fun entry member => flying entry (List.mem_of_mem_filter member)
    | scanning | found | warning | error | noBlocks | start | tick | summary | close => exact flying
  change ∀ entry ∈ (console.call call).console.standing.inFlight, _
  rw [(call_standing console call).2]
  split
  · exact after
  · exact flying

theorem mem_drawing {piece : Piece} (member : piece ∈ console.drawing) :
    piece = .hideCursor ∨ ∃ entry ∈ console.inFlight, piece = .live console.frame entry.2 := by
  unfold drawing at member
  split at member
  · cases member
  · rcases List.mem_append.mp member with hides | lives
    · split at hides
      · cases hides
      · exact Or.inl (List.mem_singleton.mp hides)
    · obtain ⟨label, shown, rfl⟩ := List.mem_map.mp lives
      obtain ⟨entry, sorted, rfl⟩ := List.mem_map.mp shown
      exact Or.inr ⟨entry, List.mem_mergeSort.mp sorted, rfl⟩

theorem erasing_colorless (console : Console) : ∀ piece ∈ console.erasing, piece.Colorless := by
  intro piece member
  rw [(List.mem_replicate.mp member).2]
  trivial

theorem drawing_colorless (flying : console.FliesColorless) :
    ∀ piece ∈ console.drawing, piece.Colorless := by
  intro piece member
  rcases mem_drawing member with rfl | ⟨entry, inside, rfl⟩
  · trivial
  · exact flying entry inside

theorem redrawing_colorless (flying : console.FliesColorless) :
    ∀ piece ∈ console.redrawing, piece.Colorless :=
  List.forall_mem_append.mpr ⟨erasing_colorless console, drawing_colorless flying⟩

theorem ending_colorless (console : Console) : ∀ piece ∈ console.ending, piece.Colorless := by
  unfold ending
  split
  · refine List.forall_mem_append.mpr ⟨erasing_colorless console, ?_⟩
    split
    · exact List.forall_mem_singleton.mpr trivial
    · exact List.forall_mem_nil _
  · exact List.forall_mem_nil _

theorem accepted_colorless (flying : console.FliesColorless) (colorless : call.Colorless)
    (course : call.isMessage = false) (other : ∀ summary, call ≠ .summary summary) :
    ∀ piece ∈ console.acceptedPieces call, piece.Colorless := by
  cases call with
  | warning | error => cases course
  | summary summary => exact absurd rfl (other summary)
  | start | close => exact List.forall_mem_nil _
  | scanning directory =>
      have plain : Terminal.escape ∉ scanningLine directory := by cases directory <;> decide
      exact List.forall_mem_singleton.mpr plain
  | noBlocks =>
      have plain : Terminal.escape ∉ noBlocksLine := by decide
      exact List.forall_mem_singleton.mpr plain
  | found documents workers =>
      have plain := mt List.mem_append.mp
        (not_or.mpr ⟨escape_found documents workers, (by decide : _ ∉ [Terminal.lineFeed])⟩)
      rw [List.append_assoc] at plain
      exact List.forall_mem_singleton.mpr fun inside => plain (mem_told inside)
  | tick =>
      rw [acceptedPieces]
      split
      · exact List.forall_mem_nil _
      · exact redrawing_colorless flying
  | started item =>
      rw [acceptedPieces]
      split
      · refine redrawing_colorless fun entry member => ?_
        rcases Indexed.mem_put member with old | rfl
        · exact flying entry old
        · exact colorless
      · exact List.forall_mem_nil _
  | finished item outcome =>
      have landed : ∀ piece ∈ [Piece.landed item outcome], piece.Colorless :=
        List.forall_mem_singleton.mpr colorless
      rw [acceptedPieces]
      split
      · refine List.forall_mem_append.mpr ⟨List.forall_mem_append.mpr
          ⟨erasing_colorless _, landed⟩, drawing_colorless fun entry member => ?_⟩
        exact flying entry (List.mem_of_mem_filter member)
      · exact landed

theorem uncolors_call (bright : console.style.color = true) (flying : console.FliesColorless)
    (colorless : call.Colorless) (course : call.isMessage = false) :
    Uncolors (textOf console.style (console.pieces call))
      (textOf console.style.uncolored
        ((console.restyled console.style.uncolored).pieces call)) := by
  have alive : console.style.uncolored.interactive = console.style.interactive := rfl
  by_cases other : ∀ summary, call ≠ .summary summary
  · rw [pieces_restyled alive other]
    apply uncolors_pieces bright
    unfold pieces
    split
    · exact accepted_colorless flying colorless course other
    · cases call with
      | summary summary => exact absurd rfl (other summary)
      | scanning | found | warning | error | noBlocks | start | started | finished | tick | close =>
          exact List.forall_mem_nil _
  · push Not at other
    -- The totals are painted as they are said, so here the two styles do not have the same pieces.
    obtain ⟨summary, rfl⟩ := other
    have ends := uncolors_pieces bright (ending_colorless console)
    unfold pieces
    change Uncolors (textOf _ (if console.standing.accepts _ then _ else _))
      (textOf _ (if console.standing.accepts _ then _ else _))
    split
    · rw [acceptedPieces, acceptedPieces, textOf_append, textOf_append, textOf_single, textOf_single]
      exact ends.append (uncolors_told _ (uncolors_totals bright summary))
    · exact ends

def Reply.text (reply : Reply) : Text := reply.printed.flatMap (·.2)

theorem reply_text (console : Console) (call : Call) :
    (console.call call).text = textOf console.style (console.pieces call) := by
  rw [Reply.text, (call_shows console call).printed, spoken_text]

/-! The lines that a quiet console leaves out. -/

def Call.passes : Call → Bool
  | .finished _ outcome => outcome.passed
  | .scanning _ | .found .. | .warning _ | .error _ | .noBlocks | .start _ | .started _ | .tick
  | .summary _ | .close => false

def Piece.passes : Piece → Bool
  | .landed _ outcome => outcome.passed
  | .eraseLine | .hideCursor | .showCursor | .live .. | .lines _ => false

def passedLine (style : ConsoleStyle) (item : Item) : Text :=
  paint style .green "✓" ++ .char ' ' :: item.label ++ [.char '\n']

theorem pieces_hushed (console : Console) (call : Call) :
    (console.restyled console.style.hushed).pieces call = console.pieces call := by
  cases call <;> rfl

theorem text_hushed {piece : Piece} (apart : piece.passes = false) :
    piece.text style.hushed = piece.text style := by
  cases piece with
  | eraseLine | hideCursor | showCursor | live | lines => rfl
  | landed item outcome =>
      have failed : ¬ outcome.passed = true := Bool.eq_false_iff.mp apart
      rw [Piece.text, Piece.text, finishedLines, finishedLines, if_neg failed, if_neg failed]
      rfl

theorem drawing_apart (console : Console) : ∀ piece ∈ console.drawing, piece.passes = false := by
  intro piece member
  rcases mem_drawing member with rfl | ⟨entry, -, rfl⟩ <;> rfl

theorem erasing_apart (console : Console) : ∀ piece ∈ console.erasing, piece.passes = false := by
  intro piece member
  rw [(List.mem_replicate.mp member).2]
  rfl

theorem pieces_apart (console : Console) (apart : call.passes = false) :
    ∀ piece ∈ console.pieces call, piece.passes = false := by
  refine pieces_all (fun _ => rfl) (fun piece member => ?_) ?_
  · have other := ending_apart console piece member
    cases piece <;> first | rfl | cases other
  · have redrawn (next : Console) : ∀ piece ∈ next.redrawing, piece.passes = false :=
      List.forall_mem_append.mpr ⟨erasing_apart next, drawing_apart next.erase.1⟩
    rintro (ofItem | rfl) -
    · cases call with
      | started item =>
          rw [acceptedPieces]
          split
          · exact redrawn _
          · exact List.forall_mem_nil _
      | finished item outcome =>
          have landed : ∀ piece ∈ [Piece.landed item outcome], piece.passes = false :=
            List.forall_mem_singleton.mpr apart
          rw [acceptedPieces]
          split
          · exact List.forall_mem_append.mpr
              ⟨List.forall_mem_append.mpr ⟨erasing_apart _, landed⟩, drawing_apart _⟩
          · exact landed
      | scanning | found | warning | error | noBlocks | start | tick | summary | close => cases ofItem
    · rw [acceptedPieces]
      split
      · exact List.forall_mem_nil _
      · exact redrawn _

theorem text_unheard (console : Console) (apart : call.passes = false) :
    ((console.restyled console.style.hushed).call call).text = (console.call call).text := by
  rw [reply_text, reply_text, pieces_hushed]
  exact List.flatMap_congr fun piece member => text_hushed (pieces_apart console apart piece member)

theorem text_passes (plain : console.style.interactive = false) {item : Item} {outcome : Outcome}
    (passed : outcome.passed = true) :
    (console.call (.finished item outcome)).text =
      if (console.call (.finished item outcome)).refusal.isNone ∧ console.style.quiet = false then
        passedLine console.style item
      else [] := by
  rw [reply_text, (call_standing console _).1]
  have unlit : ¬ console.style.interactive = true := Bool.eq_false_iff.mp plain
  cases fits : console.standing.accepts (.finished item outcome) with
  | false =>
      rw [pieces, fits, if_neg Bool.false_ne_true, if_neg (fun both => Bool.noConfusion both.1)]
      rfl
  | true =>
      rw [pieces, fits, if_pos rfl, acceptedPieces, if_neg unlit, textOf_single, Piece.text,
        finishedLines, if_pos passed]
      cases console.style.quiet <;> rfl

/-! Along calls. -/

def answered (console : Console) : List Call → List (Call × Reply)
  | [] => []
  | call :: rest => (call, console.call call) :: (console.call call).console.answered rest

/-- What a console prints of a run's course: all but warnings and errors. -/
def course (console : Console) (calls : List Call) : Text :=
  ((console.answered calls).filter fun answer => !answer.1.isMessage).flatMap (·.2.text)

theorem course_cons (console : Console) (call : Call) (rest : List Call) :
    console.course (call :: rest) =
      (if call.isMessage then [] else (console.call call).text) ++
        (console.call call).console.course rest := by
  rw [course, answered, List.filter_cons]
  cases call.isMessage <;> rfl

/-- The warnings and errors that a console prints, which have a stream of their own. -/
def messages (console : Console) (calls : List Call) : Text :=
  ((console.answered calls).filter fun answer => answer.1.isMessage).flatMap (·.2.text)

theorem messages_alike (one other : Console) (calls : List Call) :
    one.messages calls = other.messages calls := by
  induction calls generalizing one other with
  | nil => rfl
  | cons call rest ih =>
      have below := ih (one.call call).console (other.call call).console
      unfold messages at below ⊢
      rw [answered, answered, List.filter_cons, List.filter_cons]
      cases call with
      | warning message | error message => exact congrArg (_ ++ ·) below
      | scanning | found | noBlocks | start | started | finished | tick | summary | close => exact below

theorem answered_alike {one other : Console} (same : one.standing = other.standing)
    (calls : List Call) :
    (one.answered calls).map (fun answer => (answer.2.refusal, answer.2.console.standing)) =
      (other.answered calls).map fun answer => (answer.2.refusal, answer.2.console.standing) := by
  induction calls generalizing one other with
  | nil => rfl
  | cons call rest ih =>
      have moved : (one.call call).console.standing = (other.call call).console.standing := by
        rw [(call_standing one call).2, (call_standing other call).2, same]
      rw [answered, answered, List.map_cons, List.map_cons, call_refusal, call_refusal, same, moved,
        ih moved]

theorem uncolors_course (bright : console.style.color = true) (flying : console.FliesColorless)
    {calls : List Call} (colorless : ∀ call ∈ calls, call.Colorless) :
    Uncolors (console.course calls) ((console.restyled console.style.uncolored).course calls) := by
  induction calls generalizing console with
  | nil => exact uncolors_nil
  | cons call rest ih =>
      obtain ⟨here, later⟩ := List.forall_mem_cons.mp colorless
      have kept := call_style console call
      have alive : console.style.uncolored.interactive = console.style.interactive := rfl
      have below := ih (kept ▸ bright) (flying_call flying here) later
      rw [kept] at below
      rw [course_cons, course_cons, call_restyled alive]
      refine Uncolors.append ?_ below
      cases message : call.isMessage with
      | true => exact uncolors_nil
      | false =>
          rw [if_neg Bool.false_ne_true, if_neg Bool.false_ne_true, reply_text, reply_text]
          exact uncolors_call bright flying here message

theorem course_hushed (plain : console.style.interactive = false) (calls : List Call) :
    (console.restyled console.style.hushed).course calls =
      ((console.answered calls).filter fun answer =>
        !answer.1.isMessage && !answer.1.passes).flatMap (·.2.text) := by
  induction calls generalizing console with
  | nil => rfl
  | cons call rest ih =>
      have kept := call_style console call
      have alive : console.style.hushed.interactive = console.style.interactive := rfl
      have below := ih (kept ▸ plain)
      rw [kept] at below
      rw [course_cons, call_restyled alive, below, answered, List.filter_cons]
      cases passed : call.passes with
      | false => cases call.isMessage <;> simp [text_unheard console passed]
      | true =>
          cases call with
          | finished item outcome =>
              -- Among the calls about items a quiet console is silent on those that passed, and on
              -- no other.
              have silent : ((console.restyled console.style.hushed).call
                  (.finished item outcome)).text = [] := by
                have still : (console.restyled console.style.hushed).style.interactive = false := plain
                rw [text_passes still passed]
                exact if_neg fun both => Bool.noConfusion both.2
              simp [silent]
          | scanning | found | warning | error | noBlocks | start | started | tick | summary | close =>
              cases passed

theorem answered_passes (plain : console.style.interactive = false)
    (loud : console.style.quiet = false) (calls : List Call) :
    ∀ answer ∈ console.answered calls, answer.1.passes = true → ∃ item outcome,
      answer.1 = .finished item outcome ∧
        answer.2.text = if answer.2.refusal.isNone then passedLine console.style item else [] := by
  induction calls generalizing console with
  | nil => exact List.forall_mem_nil _
  | cons call rest ih =>
      have kept := call_style console call
      rw [answered, List.forall_mem_cons]
      refine ⟨fun passes => ?_, kept ▸ ih (kept ▸ plain) (kept ▸ loud)⟩
      cases call with
      | finished item outcome =>
          refine ⟨item, outcome, rfl, (text_passes plain passes).trans ?_⟩
          simp only [loud, and_true]
      | scanning | found | warning | error | noBlocks | start | started | tick | summary | close =>
          cases passes

/-- However consoles are set up, they answer calls in the same way, stand where the others stand and give
the same warnings and errors. As for the course of the run, without a live region a quiet one prints what
a loud one prints, less the line of each item that passed. A coloured one prints what an uncoloured one
prints once the colour codes are taken out, as long as no label and no error as it is shown holds one. -/
theorem styles_only_show (stream : Stream) (calls : List Call) :
    (∀ quiet color interactive quietly colored live : Bool,
      ((new ⟨stream, quiet, color, interactive⟩).answered calls).map (fun answer =>
          (answer.2.refusal, answer.2.console.lifecycle, answer.2.console.progress,
            answer.2.console.labels)) =
        (((new ⟨stream, quietly, colored, live⟩).answered calls).map fun answer =>
          (answer.2.refusal, answer.2.console.lifecycle, answer.2.console.progress,
            answer.2.console.labels)) ∧
      (new ⟨stream, quiet, color, interactive⟩).messages calls =
        (new ⟨stream, quietly, colored, live⟩).messages calls) ∧
    (∀ color, let loud := new ⟨stream, false, color, false⟩
      (new ⟨stream, true, color, false⟩).course calls =
          ((loud.answered calls).filter fun answer =>
            !answer.1.isMessage && !answer.1.passes).flatMap (·.2.text) ∧
        ∀ answer ∈ loud.answered calls, answer.1.passes = true → ∃ item outcome,
          answer.1 = .finished item outcome ∧
            answer.2.text = if answer.2.refusal.isNone then passedLine loud.style item else []) ∧
    ((∀ call ∈ calls, call.Colorless) → ∀ quiet interactive,
      decolor ((new ⟨stream, quiet, true, interactive⟩).course calls) =
        (new ⟨stream, quiet, false, interactive⟩).course calls) := by
  refine ⟨fun quiet color interactive quietly colored live => ?_, fun color => ?_,
    fun colorless quiet interactive => ?_⟩
  · let seen (answer : Option Failure × Standing) :=
      (answer.1, answer.2.lifecycle, answer.2.progress, answer.2.inFlight.inOrder)
    have alike := congrArg (List.map seen) (answered_alike
      (show (new ⟨stream, quiet, color, interactive⟩).standing =
        (new ⟨stream, quietly, colored, live⟩).standing from rfl) calls)
    rw [List.map_map, List.map_map] at alike
    exact ⟨alike, messages_alike _ _ calls⟩
  · have quieter : (new ⟨stream, true, color, false⟩).course calls = _ :=
      course_hushed (show (new ⟨stream, false, color, false⟩).style.interactive = false from rfl) calls
    exact ⟨quieter, answered_passes rfl rfl calls⟩
  · have grounded : (new ⟨stream, quiet, true, interactive⟩).FliesColorless := List.forall_mem_nil _
    have bare := uncolors_course rfl grounded colorless []
    rw [List.append_nil] at bare
    exact bare.trans (List.append_nil _)

def otherItem : Item := ⟨default, "a.md:9", 1⟩

def mixedRun (error : Text) : List Call :=
  [.scanning false, .start [loneItem, otherItem], .started loneItem, .started otherItem,
    .finished loneItem (.pass default [] 7), .finished otherItem (.fail default error 7 false)]

theorem mixedRun_colorless {error : Text} (colorless : Colorless (Diagnostic.clean error)) :
    ∀ call ∈ mixedRun error, call.Colorless := by
  have labels : Colorless loneItem.label ∧ Colorless otherItem.label :=
    ⟨colorless_plain (by decide), colorless_plain (by decide)⟩
  intro call member
  simp only [mixedRun, List.mem_cons, List.not_mem_nil, or_false] at member
  rcases member with rfl | rfl | rfl | rfl | rfl | rfl
  · trivial
  · trivial
  · exact labels.1
  · exact labels.2
  · exact ⟨labels.1, nofun⟩
  · exact ⟨labels.2, fun _ => colorless⟩

theorem styles_only_show_mixed :
    (∀ call ∈ mixedRun "[ERROR] boom", call.Colorless) ∧
      decolor ((new ⟨.output, false, true, false⟩).course (mixedRun "[ERROR] boom")) =
        Text.ofString "✓ a.md:1\n✗ a.md:9\n  boom\n" := by
  have colorless := mixedRun_colorless
    (show Colorless (Diagnostic.clean "[ERROR] boom") by decide +kernel)
  have bare : (new ⟨.output, false, false, false⟩).course (mixedRun "[ERROR] boom") =
      Text.ofString "✓ a.md:1\n✗ a.md:9\n  boom\n" := by decide +kernel
  exact ⟨colorless, ((styles_only_show .output _).2.2 colorless false false).trans bare⟩

/-- A place in the midst of an escape keeps the error free of colour codes until the place is deleted. -/
theorem cleaning_brings_out_color :
    Colorless loneItem.label ∧ Colorless otherItem.label ∧ Colorless "\x1b[stdin]:1[32m" ∧
      decolor ((new ⟨.output, false, true, false⟩).course (mixedRun "\x1b[stdin]:1[32m")) ≠
        (new ⟨.output, false, false, false⟩).course (mixedRun "\x1b[stdin]:1[32m") := by
  decide +kernel

end Console

end FenceCheck
