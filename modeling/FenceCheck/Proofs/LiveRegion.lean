import FenceCheck.Proofs.ScreenText
import Mathlib.Data.List.Basic

/-!
The live region on a terminal. As long as the console knows how many lines of it are drawn, erasing
takes just these off the screen, and drawing adds a line for each item in flight, in the order of the
indices.
-/

namespace FenceCheck

open Terminal

def liveRow (frame : Nat) (label : Text) : Text :=
  Text.ofString "  " ++ Console.spinner frame ++ .char ' ' :: label

/-- On the terminal the live region stands below the permanent lines, and the console knows its
extent. -/
structure OnScreen (console : Console) (terminal : Terminal) (above live : List Text) : Prop where
  extent : console.drawn = live.length
  lines : terminal = between (above ++ live) (!console.cursorHidden)

namespace Console

variable {console : Console} {terminal : Terminal} {above live : List Text}

theorem spinner_fits (frame : Nat) : Fits (spinner frame) := by
  have frames : ∀ c ∈ spinnerFrames, escape ≠ .char c ∧ lineFeed ≠ .char c := by
    have all : spinnerFrames.all fun c => escape ≠ .char c && lineFeed ≠ .char c := by decide
    simpa using all
  have other (c : CodePoint) (member : c ∈ spinner frame) : escape ≠ c ∧ lineFeed ≠ c := by
    obtain ⟨char, glyph, rfl⟩ := Option.map_eq_some_iff.mp (Option.mem_toList.mp member)
    exact frames char (List.mem_of_getElem? glyph)
  exact ⟨fun member => (other _ member).1 rfl, fun member => (other _ member).2 rfl⟩

theorem adds_liveLine (style : ConsoleStyle) (frame : Nat) {label : Text} (fits : Fits label) :
    Adds (liveLine style frame label) [liveRow frame label] := by
  obtain ⟨glyph, narrow⟩ := spinner_fits frame
  have indent : escape ∉ Text.ofString "  " ∧ lineFeed ∉ Text.ofString "  " := by decide
  have gap : escape ≠ .char ' ' ∧ lineFeed ≠ .char ' ' := by decide
  have tail : escape ∉ .char ' ' :: label := by
    simp only [List.mem_cons, gap, fits.1, or_self, not_false_eq_true]
  have whole : lineFeed ∉ liveRow frame label := by
    simp only [liveRow, List.mem_append, List.mem_cons, gap, indent, narrow, fits.2, or_self,
      not_false_eq_true]
  have shown : Shows (Text.ofString "  " ++ paint style .yellow (spinner frame) ++
      .char ' ' :: label) (liveRow frame label) :=
    shows_append (shows_append (shows_self indent.1) (shows_paint style .yellow (shows_self glyph)))
      (shows_self tail)
  have single : Text.newlineSplit (liveRow frame label) = [liveRow frame label] :=
    Text.splitAt_whole whole
  have added := adds_lines shown
  rw [single] at added
  exact added

theorem erase_onScreen (on : OnScreen console terminal above live) :
    OnScreen console.erase.1 (terminal.after console.erase.2) above [] where
  extent := rfl
  lines := by
    simp only [erase, on.lines, on.extent, after_erase, List.append_nil]

theorem lines_onScreen (on : OnScreen console terminal above []) {t : Text} {lines : List Text}
    (added : Adds t lines) : OnScreen console (terminal.after t) (above ++ lines) [] where
  extent := on.extent
  lines := by
    rw [on.lines, List.append_nil, List.append_nil, added]

theorem draw_onScreen (on : OnScreen console terminal above [])
    (fits : ∀ label ∈ console.labels, Fits label) :
    OnScreen console.draw.1 (terminal.after console.draw.2) above
      (console.labels.map (liveRow console.frame)) := by
  have drawn : Adds (console.labels.map (liveLine console.style console.frame)).flatten
      (console.labels.map (liveRow console.frame)) :=
    adds_each fun label member => adds_liveLine console.style console.frame (fits label member)
  -- The extent is the number of entries, and the lines are as many.
  have count : console.labels.length = console.inFlight.length := by
    simp [labels, Indexed.inOrder]
  unfold draw
  split
  case isTrue grounded =>
      have none : console.labels = [] := by
        rw [List.isEmpty_iff.mp grounded, List.length_nil] at count
        exact List.length_eq_zero_iff.mp count
      rw [none]
      exact on
  case isFalse flying =>
      constructor
      · simp [count]
      · have hidden : (between above (!console.cursorHidden)).after
            (if console.cursorHidden then [] else hideCursor) = between above false := by
          cases console.cursorHidden with
          | true => rfl
          | false => exact after_hideCursor above true
        rw [after_append, on.lines, List.append_nil, hidden, drawn]
        rfl

theorem closeLive_onScreen (on : OnScreen console terminal above live) :
    terminal.after console.closeLive.2 = between above true := by
  have erased := (erase_onScreen on).lines
  rw [List.append_nil] at erased
  simp only [closeLive, after_append, erased]
  -- A cursor that is not hidden needs no showing.
  cases hidden : console.cursorHidden with
  | true =>
      simp only [erase, hidden, if_true]
      exact after_showCursor above _
  | false => simp [erase, hidden, after]

end Console

end FenceCheck
