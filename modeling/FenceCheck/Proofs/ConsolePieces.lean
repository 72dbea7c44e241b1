import FenceCheck.Proofs.ConsoleStanding

/-!
What a console writes, piece by piece: its escapes, the lines of the live region, the lines about items
and the other lines. A label or a message may itself hold any escape; so whether the cursor is hidden
is told by the pieces that the console writes to hide and to show it, and not by the text.
-/

namespace FenceCheck

namespace Console

inductive Piece where
  | eraseLine
  | hideCursor
  | showCursor
  | live (frame : Nat) (label : Text)
  | landed (item : Item) (outcome : Outcome)
  | lines (text : Text)
  deriving DecidableEq, Repr

def Piece.text (style : ConsoleStyle) : Piece → Text
  | .eraseLine => eraseLineUp
  | .hideCursor => Console.hideCursor
  | .showCursor => Console.showCursor
  | .live frame label => liveLine style frame label
  | .landed item outcome => finishedLines style item outcome
  | .lines text => text

def textOf (style : ConsoleStyle) (pieces : List Piece) : Text := pieces.flatMap (Piece.text style)

def erasing (console : Console) : List Piece := List.replicate console.drawn .eraseLine

def drawing (console : Console) : List Piece :=
  if console.inFlight.isEmpty then []
  else (if console.cursorHidden then [] else [.hideCursor]) ++
    console.labels.map (.live console.frame)

def redrawing (console : Console) : List Piece := console.erasing ++ console.erase.1.drawing

def ending (console : Console) : List Piece :=
  if console.style.interactive then
    console.erasing ++ if console.cursorHidden then [.showCursor] else []
  else []

def acceptedPieces (console : Console) : Call → List Piece
  | .scanning directory => [.lines (scanningLine directory)]
  | .found documents workers => [.lines (toldFound documents workers)]
  | .warning message => [.lines (warningLine message)]
  | .error message => [.lines (errorLine message)]
  | .noBlocks => [.lines noBlocksLine]
  | .start _ | .close => []
  | .started item =>
      if console.style.interactive then (console.launched item).redrawing else []
  | .finished item outcome =>
      if console.style.interactive then
        (console.landed item outcome).erasing ++ [.landed item outcome] ++
          (console.landed item outcome).erase.1.drawing
      else [.landed item outcome]
  | .tick =>
      if console.inFlight.isEmpty then []
      else ({ console with frame := console.frame + 1 } : Console).redrawing
  | .summary summary =>
      console.ending ++ [.lines ((Call.summary summary).told (totalsLine console.style summary))]

/-- The pieces that a call writes when it is refused: only the summary ends the live region all the
same. -/
def refusedPieces (console : Console) : Call → List Piece
  | .summary _ => console.ending
  | .scanning _ | .found .. | .warning _ | .error _ | .noBlocks | .start _ | .started _ | .finished ..
  | .tick | .close => []

def pieces (console : Console) (call : Call) : List Piece :=
  if console.standing.accepts call then console.acceptedPieces call
  else console.refusedPieces call

def Call.stream (style : ConsoleStyle) : Call → Stream
  | .warning _ | .error _ => .errors
  | .scanning _ | .found .. | .noBlocks | .start _ | .started _ | .finished .. | .tick
  | .summary _ | .close => style.stream

def spoken (stream : Stream) (text : Text) : List (Stream × Text) :=
  if text.isEmpty then [] else [(stream, text)]

/-- What a piece makes of the cursor: hidden, or not, or as it was. -/
def Piece.cursor? : Piece → Option Bool
  | .hideCursor => some true
  | .showCursor => some false
  | .eraseLine | .live .. | .landed .. | .lines _ => none

/-- The cursor before and after pieces, hidden or not. It is only hidden when it is shown, and only
shown when it is hidden. -/
inductive Toggles : Bool → List Piece → Bool → Prop where
  | nil (hidden : Bool) : Toggles hidden [] hidden
  | keep {hidden later : Bool} {piece : Piece} {rest : List Piece} (still : piece.cursor? = none)
      (toggles : Toggles hidden rest later) : Toggles hidden (piece :: rest) later
  | turn {hidden later : Bool} {piece : Piece} {rest : List Piece}
      (turned : piece.cursor? = some !hidden) (toggles : Toggles (!hidden) rest later) :
      Toggles hidden (piece :: rest) later

section

variable {hidden between later : Bool} {front back : List Piece}

theorem Toggles.append (first : Toggles hidden front between) (second : Toggles between back later) :
    Toggles hidden (front ++ back) later := by
  induction first with
  | nil => exact second
  | keep still _ ih => exact .keep still (ih second)
  | turn turned _ ih => exact .turn turned (ih second)

theorem toggles_still (hidden : Bool) (still : ∀ piece ∈ front, piece.cursor? = none) :
    Toggles hidden front hidden := by
  induction front with
  | nil => exact .nil hidden
  | cons piece rest ih =>
      obtain ⟨here, later⟩ := List.forall_mem_cons.mp still
      exact .keep here (ih later)

theorem Toggles.beginning (toggles : Toggles hidden back later) (begins : front <+: back) :
    ∃ between, Toggles hidden front between := by
  induction toggles generalizing front with
  | nil hidden =>
      rw [List.prefix_nil.mp begins]
      exact ⟨hidden, .nil hidden⟩
  | @keep hidden later piece rest still _ ih =>
      rcases List.prefix_cons_iff.mp begins with rfl | ⟨inner, rfl, shorter⟩
      · exact ⟨hidden, .nil hidden⟩
      · obtain ⟨between, inner⟩ := ih shorter
        exact ⟨between, .keep still inner⟩
  | @turn hidden later piece rest turned _ ih =>
      rcases List.prefix_cons_iff.mp begins with rfl | ⟨inner, rfl, shorter⟩
      · exact ⟨hidden, .nil hidden⟩
      · obtain ⟨between, inner⟩ := ih shorter
        exact ⟨between, .turn turned inner⟩

theorem cursor_hides {piece : Piece} (hides : piece.cursor? = some true) : piece = .hideCursor := by
  cases piece <;> cases hides
  rfl

theorem cursor_shows {piece : Piece} (shows : piece.cursor? = some false) : piece = .showCursor := by
  cases piece <;> cases shows
  rfl

theorem Toggles.count (toggles : Toggles hidden back later) :
    back.count .hideCursor + hidden.toNat = back.count .showCursor + later.toNat := by
  induction toggles with
  | nil => rfl
  | @keep hidden later piece rest still _ ih =>
      have unhiding : piece ≠ .hideCursor := by
        rintro rfl
        cases still
      have unshowing : piece ≠ .showCursor := by
        rintro rfl
        cases still
      rw [List.count_cons_of_ne unhiding, List.count_cons_of_ne unshowing, ih]
  | @turn hidden later piece rest turned _ ih =>
      cases hidden with
      | false =>
          obtain rfl := cursor_hides turned
          rw [List.count_cons_self, List.count_cons_of_ne (by decide), ← ih]
          rfl
      | true =>
          obtain rfl := cursor_shows turned
          rw [List.count_cons_self, List.count_cons_of_ne (by decide), Nat.add_right_comm, ← ih]
          rfl

end

/-! The pieces of a call are what it prints, and the console knows what they make of the cursor. -/

theorem textOf_append (style : ConsoleStyle) (front back : List Piece) :
    textOf style (front ++ back) = textOf style front ++ textOf style back :=
  List.flatMap_append

theorem textOf_single (style : ConsoleStyle) (piece : Piece) :
    textOf style [piece] = piece.text style :=
  List.append_nil _

theorem textOf_erasing (style : ConsoleStyle) (console : Console) :
    textOf style console.erasing = console.erase.2 := by
  rw [textOf, erasing, List.flatMap_replicate]
  rfl

theorem erasing_toggles (console : Console) :
    Toggles console.cursorHidden console.erasing console.cursorHidden := by
  apply toggles_still
  intro piece member
  rw [(List.mem_replicate.mp member).2]
  rfl

theorem textOf_drawing (console : Console) :
    textOf console.style console.drawing = console.draw.2 := by
  unfold drawing draw
  split
  · rfl
  · rw [textOf_append]
    congr 1
    · split
      · rfl
      · exact textOf_single _ _
    · rw [textOf, List.flatMap_map]
      rfl

theorem drawing_toggles (console : Console) :
    Toggles console.cursorHidden console.drawing console.draw.1.cursorHidden := by
  unfold drawing draw
  split
  · exact .nil _
  · have live : Toggles true (console.labels.map (.live console.frame)) true := by
      apply toggles_still
      intro piece member
      obtain ⟨label, -, rfl⟩ := List.mem_map.mp member
      rfl
    cases hidden : console.cursorHidden with
    | true => exact live
    | false => exact .turn rfl live

theorem textOf_redrawing (console : Console) :
    textOf console.style console.redrawing = console.redraw.2 := by
  rw [redrawing, textOf_append, textOf_erasing]
  exact congrArg (console.erase.2 ++ ·) (textOf_drawing console.erase.1)

theorem redrawing_toggles (console : Console) :
    Toggles console.cursorHidden console.redrawing console.redraw.1.cursorHidden :=
  (erasing_toggles console).append (drawing_toggles console.erase.1)

theorem textOf_ending (console : Console) :
    textOf console.style console.ending = console.closing.2 := by
  unfold ending closing
  split
  · rw [textOf_append, textOf_erasing]
    simp only [closeLive]
    congr 1
    split
    · exact textOf_single _ _
    · rfl
  · rfl

theorem ending_toggles (console : Console) :
    Toggles console.cursorHidden console.ending console.closing.1.cursorHidden := by
  unfold ending closing
  split
  · refine (erasing_toggles console).append ?_
    cases hidden : console.cursorHidden with
    | true => exact .turn rfl (.nil false)
    | false => exact .nil false
  · exact .nil _

theorem lines_toggle (hidden : Bool) (text : Text) : Toggles hidden [.lines text] hidden :=
  .keep rfl (.nil hidden)

theorem landed_toggles (hidden : Bool) (item : Item) (outcome : Outcome) :
    Toggles hidden [.landed item outcome] hidden :=
  .keep rfl (.nil hidden)

/-- A call prints its pieces, and the console knows what they make of the cursor. -/
structure Shows (console : Console) (call : Call) : Prop where
  printed : (console.call call).printed =
    spoken (call.stream console.style) (textOf console.style (console.pieces call))
  cursor : Toggles console.cursorHidden (console.pieces call)
    (console.call call).console.cursorHidden

section

variable {console : Console} {call : Call} {shown : List Piece}

theorem shows_reply (next : Console)
    (printed : (console.call call).printed = (Reply.write next (textOf console.style shown)).printed)
    (after : (console.call call).console = next) (pieces : console.pieces call = shown)
    (stream : next.style.stream = call.stream console.style)
    (toggles : Toggles console.cursorHidden shown next.cursorHidden) : Shows console call := by
  constructor
  · rw [printed, pieces, ← stream]
    rfl
  · rw [after, pieces]
    exact toggles

theorem shows_tell (next : Console) {before line : Text}
    (answer : console.call call = .tell next call before line)
    (text : textOf console.style shown = before ++ call.told line)
    (pieces : console.pieces call = shown)
    (stream : next.style.stream = call.stream console.style)
    (toggles : Toggles console.cursorHidden shown next.cursorHidden) : Shows console call :=
  shows_reply next (by rw [answer, text]; rfl) (congrArg Reply.console answer) pieces stream toggles

theorem shows_write (next : Console)
    (answer : console.call call = .write next (textOf console.style shown))
    (pieces : console.pieces call = shown)
    (stream : next.style.stream = call.stream console.style)
    (toggles : Toggles console.cursorHidden shown next.cursorHidden) : Shows console call :=
  shows_reply next (congrArg Reply.printed answer) (congrArg Reply.console answer) pieces stream toggles

theorem shows_nothing (answer : (console.call call).printed = [])
    (kept : (console.call call).console.cursorHidden = console.cursorHidden)
    (pieces : console.pieces call = []) : Shows console call := by
  constructor
  · rw [answer, pieces]
    rfl
  · rw [kept, pieces]
    exact .nil _

theorem shows_refused (unfit : console.standing.accepts call = false) : Shows console call := by
  have refused : console.pieces call = console.refusedPieces call := by simp [pieces, unfit]
  by_cases other : ∀ summary, call ≠ .summary summary
  · obtain ⟨failure, answer⟩ := call_refused unfit other
    refine shows_nothing (by rw [answer]; rfl) (by rw [answer]; rfl) (refused.trans ?_)
    cases call with
    | summary summary => exact absurd rfl (other summary)
    | scanning | found | warning | error | noBlocks | start | started | finished | tick | close =>
        rfl
  · push Not at other
    obtain ⟨summary, rfl⟩ := other
    obtain ⟨failure, answer⟩ := summary_refused unfit
    constructor
    · rw [answer, refused, refusedPieces, textOf_ending, Call.stream, ← (closing_keeps console).1]
      rfl
    · rw [answer, refused]
      exact ending_toggles console

theorem shows_started (item : Item) (fits : console.standing.accepts (.started item) = true) :
    Shows console (.started item) := by
  have accepted : console.pieces (.started item) = console.acceptedPieces (.started item) :=
    if_pos fits
  have answer := call_started (of_decide_eq_true fits)
  by_cases live : console.style.interactive = true
  · rw [if_pos live, ← textOf_redrawing] at answer
    exact shows_write _ answer (accepted.trans (if_pos live))
      (congrArg ConsoleStyle.stream (draw_style _)) (redrawing_toggles (console.launched item))
  · rw [if_neg live] at answer
    exact shows_nothing (by rw [answer]; rfl) (by rw [answer]; rfl) (accepted.trans (if_neg live))

theorem shows_finished (item : Item) (outcome : Outcome)
    (fits : console.standing.accepts (.finished item outcome) = true) :
    Shows console (.finished item outcome) := by
  have accepted : console.pieces (.finished item outcome) =
      console.acceptedPieces (.finished item outcome) := if_pos fits
  have answer := call_finished (of_decide_eq_true fits) outcome
  let landed := console.landed item outcome
  by_cases live : console.style.interactive = true
  · rw [if_pos live] at answer
    refine shows_write _ (answer.trans (congrArg _ ?_)) (accepted.trans (if_pos live))
      (congrArg ConsoleStyle.stream (draw_style _)) ?_
    · rw [textOf_append, textOf_append, textOf_erasing, textOf_single]
      exact congrArg _ (textOf_drawing landed.erase.1).symm
    · exact ((erasing_toggles landed).append (landed_toggles _ item outcome)).append
        (drawing_toggles landed.erase.1)
  · rw [if_neg live] at answer
    refine shows_write _ (answer.trans (congrArg _ ?_)) (accepted.trans (if_neg live)) rfl
      (landed_toggles _ item outcome)
    exact (textOf_single console.style (.landed item outcome)).symm

theorem shows_tick : Shows console .tick := by
  by_cases grounded : console.inFlight.isEmpty = true
  · refine shows_nothing ?_ ?_ (if_pos grounded)
    all_goals
      rw [Console.call, if_pos grounded]
      rfl
  · let next : Console := { console with frame := console.frame + 1 }
    refine shows_write next.redraw.1 ?_ (if_neg grounded)
      (congrArg ConsoleStyle.stream (draw_style _)) (redrawing_toggles next)
    rw [Console.call, if_neg grounded]
    exact congrArg (Reply.write next.redraw.1) (textOf_redrawing next).symm

theorem shows_summary (summary : Summary)
    (fits : console.standing.accepts (.summary summary) = true) :
    Shows console (.summary summary) := by
  refine shows_tell { console.closing.1 with lifecycle := .summarized }
    (summarize_allowed summary fits) ?_ (if_pos fits)
    (congrArg ConsoleStyle.stream (closing_keeps console).1)
    ((ending_toggles console).append (lines_toggle _ _))
  rw [acceptedPieces, textOf_append, textOf_ending, textOf_single]
  rfl

theorem call_shows (console : Console) (call : Call) : Shows console call := by
  cases fits : console.standing.accepts call with
  | false => exact shows_refused fits
  | true =>
      have accepted : console.pieces call = console.acceptedPieces call := if_pos fits
      cases call with
      | scanning directory =>
          refine shows_write { console with lifecycle := .scanning } ?_ accepted rfl
            (lines_toggle _ _)
          rw [acceptedPieces, textOf_single, Console.call, advance_ok fits]
          rfl
      | found documents workers =>
          have answer : console.call (.found documents workers) =
              .tell console (.found documents workers) [] (foundLine documents workers) := rfl
          refine shows_tell console answer ?_ accepted rfl (lines_toggle _ _)
          rw [acceptedPieces, textOf_single]
          rfl
      | noBlocks =>
          refine shows_write console ?_ accepted rfl (lines_toggle _ _)
          rw [acceptedPieces, textOf_single]
          rfl
      | warning | error =>
          constructor
          · rw [accepted, acceptedPieces, textOf_single]
            rfl
          · rw [accepted]
            exact lines_toggle _ _
      | start | close =>
          refine shows_nothing ?_ ?_ accepted
          all_goals
            rw [Console.call, advance_ok fits]
            rfl
      | started item => exact shows_started item fits
      | finished item outcome => exact shows_finished item outcome fits
      | tick => exact shows_tick
      | summary summary => exact shows_summary summary fits

end

/-! Along calls. -/

def printed (console : Console) : List Call → List (Stream × Text)
  | [] => []
  | call :: rest => (console.call call).printed ++ (console.call call).console.printed rest

def wrote (console : Console) : List Call → List Piece
  | [] => []
  | call :: rest => console.pieces call ++ (console.call call).console.wrote rest

theorem spoken_text (stream : Stream) (text : Text) : (spoken stream text).flatMap (·.2) = text := by
  cases text <;> simp [spoken]

theorem printed_wrote (console : Console) (calls : List Call) :
    (console.printed calls).flatMap (·.2) = textOf console.style (console.wrote calls) := by
  induction calls generalizing console with
  | nil => rfl
  | cons call rest ih =>
      have later := ih (console.call call).console
      rw [call_style] at later
      rw [printed, wrote, List.flatMap_append, textOf_append, later, (call_shows console call).printed,
        spoken_text]

theorem wrote_toggles (console : Console) (calls : List Call) :
    Toggles console.cursorHidden (console.wrote calls) (console.reached calls).cursorHidden := by
  induction calls generalizing console with
  | nil => exact .nil _
  | cons call rest ih => exact (call_shows console call).cursor.append (ih _)

/-- Along any calls a console stays consistent with those that it accepted, and all that it printed are
its pieces, among which it hid the cursor once more than it showed it just if it is hidden now, and
never more than once before it was shown again. -/
theorem any_calls_consistent (style : ConsoleStyle) (calls : List Call) :
    let console := (new style).reached calls
    let pieces := (new style).wrote calls
    Consistent console.standing ((new style).accepted calls) ∧
      ((new style).printed calls).flatMap (·.2) = textOf style pieces ∧
      pieces.count .hideCursor = pieces.count .showCursor + console.cursorHidden.toNat ∧
      ∀ front, front <+: pieces →
        ∃ hidden : Bool, front.count .hideCursor = front.count .showCursor + hidden.toNat := by
  intro console pieces
  have toggles : Toggles false pieces console.cursorHidden := wrote_toggles (new style) calls
  refine ⟨consistent_reached (new style) calls [] (consistent_new style),
    printed_wrote (new style) calls, toggles.count, fun front begins => ?_⟩
  obtain ⟨hidden, inner⟩ := toggles.beginning begins
  exact ⟨hidden, inner.count⟩

end Console

end FenceCheck
