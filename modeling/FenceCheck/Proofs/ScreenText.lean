import FenceCheck.Proofs.ConsoleAnswer
import FenceCheck.Proofs.DiagnosticText
import FenceCheck.Proofs.LineText
import FenceCheck.Proofs.NumberText
import FenceCheck.Proofs.Terminal

/-!
What a console writes, drawn on a terminal. Its permanent texts consist of whole lines, and so does the
live region: a line for each item in flight, as long as no label holds an escape or a line feed.
-/

namespace FenceCheck

open Terminal

/-- A label that fits in a line. -/
def Fits (label : Text) : Prop := escape ∉ label ∧ lineFeed ∉ label

/-- A text that consists of whole lines. -/
def Settles (t : Text) : Prop := ∃ lines, Adds t lines

namespace Terminal

theorem settles_nil : Settles [] := ⟨[], adds_nil⟩

theorem settles_append {t more : Text} (first : Settles t) (second : Settles more) :
    Settles (t ++ more) := by
  obtain ⟨lines, added⟩ := first
  obtain ⟨moreLines, moreAdded⟩ := second
  exact ⟨_, adds_append added moreAdded⟩

theorem settles_line {t shown : Text} (text : Shows t shown) : Settles (t ++ [lineFeed]) :=
  ⟨_, adds_lines text⟩

end Terminal

namespace Console

/-! The permanent lines. -/

theorem settles_scanning (directory : Bool) : Settles (scanningLine directory) := by
  cases directory
  · exact settles_nil
  · exact settles_line (t := "Scanning for markdown files...") (shows_self (by decide))

theorem escape_number {t : Text} (written : Number.Written t) : escape ∉ t :=
  fun member => absurd (written escape member) (by decide)

theorem escape_ofInt (n : Int) : escape ∉ Text.ofInt n := escape_number (Number.written_ofInt n)

theorem escape_amount (amount : Amount) : escape ∉ amount.toText :=
  escape_number (Number.written_amount amount)

theorem escape_found (documents : Int) (workers : Amount) :
    escape ∉ Text.ofString "Found " ++ Text.ofInt documents ++
      Text.ofString " markdown file(s) (" ++ workers.toText ++ Text.ofString " workers)\n" := by
  have words : escape ∉ Text.ofString "Found " ∧ escape ∉ Text.ofString " markdown file(s) (" ∧
      escape ∉ Text.ofString " workers)\n" := by decide
  simp only [List.mem_append, words, escape_ofInt, escape_amount, or_self, not_false_eq_true]

theorem settles_found (documents : Int) (workers : Amount) :
    Settles (foundLine documents workers) := by
  have line := settles_line (shows_self (escape_found documents workers))
  rw [List.append_assoc] at line
  exact line

theorem escape_counts (summary : Summary) :
    escape ∉ Text.ofString "Results: " ++ Text.ofInt summary.passed ++ .char '/' ::
      Text.ofInt summary.total ++ Text.ofString " passed" := by
  have words : escape ∉ Text.ofString "Results: " ∧ escape ≠ .char '/' ∧
      escape ∉ Text.ofString " passed" := by decide
  simp only [List.mem_append, List.mem_cons, words, escape_ofInt, or_self, not_false_eq_true]

theorem settles_totals (style : ConsoleStyle) (summary : Summary) :
    Settles (totalsLine style summary) := by
  unfold totalsLine
  split
  case isFalse none => exact settles_nil
  case isTrue some =>
      have empty : Settles [lineFeed] := settles_line shows_nil
      change Settles ([lineFeed] ++ (_ ++ [lineFeed]))
      exact settles_append empty
        (settles_line (shows_paint style _ (shows_self (escape_counts summary))))

theorem mem_told {call : Call} {line : Text} {c : CodePoint} (inside : c ∈ call.told line) :
    c ∈ line := by
  unfold Call.told at inside
  split at inside
  case isTrue told => exact inside
  case isFalse untold => cases inside

theorem settles_told (call : Call) {line : Text} (whole : Settles line) : Settles (call.told line) := by
  unfold Call.told
  split
  case isTrue told => exact whole
  case isFalse untold => exact settles_nil

theorem settles_marked (style : ConsoleStyle) (color : Color) (mark : Text) {label : Text}
    (plain : escape ∉ mark) (clear : escape ∉ label) :
    Settles (paint style color mark ++ .char ' ' :: label ++ [lineFeed]) := by
  have blank : escape ∉ .char ' ' :: label := by
    rw [List.mem_cons, not_or]
    exact ⟨by decide, clear⟩
  exact settles_line (shows_append (shows_paint style color (shows_self plain)) (shows_self blank))

theorem settles_finished (style : ConsoleStyle) {item : Item} {outcome : Outcome}
    (label : escape ∉ item.label) (error : escape ∉ outcome.error.getD []) :
    Settles (finishedLines style item outcome) := by
  unfold finishedLines
  split
  case isTrue passed =>
      split
      case isTrue quiet => exact settles_nil
      case isFalse loud => exact settles_marked style .green "✓" (by decide) label
  case isFalse failed =>
      have head := settles_marked style .red "✗" (by decide) label
      -- What is shown of the error is part of it, however many lines it has.
      have clear : escape ∉ Diagnostic.clean (outcome.error.getD []) :=
        fun member => error (Diagnostic.mem_clean member)
      split
      case h_1 none => exact head
      case h_2 error some =>
          have indent := shows_self (t := "  ") (by decide)
          have below := settles_line (shows_append indent
            (shows_paint style .gray (shows_self clear)))
          rw [List.append_cons]
          exact settles_append head below

end Console

end FenceCheck
