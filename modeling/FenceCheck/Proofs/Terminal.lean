import FenceCheck.Console.Basic
import FenceCheck.Text.Line
import Mathlib.Data.List.Induction

/-!
A terminal without edges, which draws what a console writes. A line feed ends a line; the escapes move
the cursor up a line, clear its line, hide it and show it, and colours draw nothing. What is below the
cursor is given up when the cursor moves up.
-/

namespace FenceCheck

/-- The cursor stands at the end of the current line. -/
structure Terminal where
  /-- The lines above the cursor's. -/
  above : List Text
  current : Text
  /-- What was read of an escape sequence that is not complete. -/
  pending : Option Text
  cursorShown : Bool
  deriving DecidableEq, Repr

namespace Terminal

def escape : CodePoint := .char '\x1b'

def lineFeed : CodePoint := .char '\n'

def blank : Terminal := ⟨[], [], none, true⟩

/-- A letter is the last code point of an escape sequence. -/
def endsSequence (c : CodePoint) : Bool :=
  ('A'.toNat ≤ c.val && c.val ≤ 'Z'.toNat) || ('a'.toNat ≤ c.val && c.val ≤ 'z'.toNat)

def obey (terminal : Terminal) (sequence : Text) : Terminal :=
  if sequence = Text.ofString "[1A" then
    { terminal with
      above := terminal.above.dropLast
      current := terminal.above.getLast?.getD terminal.current }
  else if sequence = Text.ofString "[2K" then { terminal with current := [] }
  else if sequence = Text.ofString "[?25l" then { terminal with cursorShown := false }
  else if sequence = Text.ofString "[?25h" then { terminal with cursorShown := true }
  else terminal

def draw (terminal : Terminal) (c : CodePoint) : Terminal :=
  if c = lineFeed then { terminal with above := terminal.above ++ [terminal.current], current := [] }
  else { terminal with current := terminal.current ++ [c] }

def read (terminal : Terminal) (c : CodePoint) : Terminal :=
  match terminal.pending with
  | some sequence =>
      if endsSequence c then obey { terminal with pending := none } (sequence ++ [c])
      else { terminal with pending := some (sequence ++ [c]) }
  | none => if c = escape then { terminal with pending := some [] } else terminal.draw c

def after (terminal : Terminal) (t : Text) : Terminal := t.foldl read terminal

theorem after_append (terminal : Terminal) (t more : Text) :
    terminal.after (t ++ more) = (terminal.after t).after more :=
  List.foldl_append

/-! Between lines the cursor stands in an empty line. -/

/-- A terminal between two lines. -/
def between (above : List Text) (cursorShown : Bool) : Terminal := ⟨above, [], none, cursorShown⟩

theorem after_hideCursor (above : List Text) (shown : Bool) :
    (between above shown).after Console.hideCursor = between above false :=
  rfl

theorem after_showCursor (above : List Text) (shown : Bool) :
    (between above shown).after Console.showCursor = between above true :=
  rfl

theorem after_eraseLineUp (above : List Text) (shown : Bool) :
    (between above shown).after Console.eraseLineUp = between above.dropLast shown :=
  rfl

theorem after_erase (above live : List Text) (shown : Bool) :
    (between (above ++ live) shown).after
      (List.replicate live.length Console.eraseLineUp).flatten = between above shown := by
  -- Each erasure takes the last line, so the lines are removed from the end.
  induction live using List.reverseRecOn with
  | nil => simp [after]
  | append_singleton live last ih =>
      rw [List.length_append, List.length_singleton, List.replicate_succ, List.flatten_cons,
        after_append, after_eraseLineUp, ← List.append_assoc, List.dropLast_concat]
      exact ih

/-! What a text shows: itself without its colours. -/

/-- After the text the terminal is as if the other had been drawn. -/
def Shows (t shown : Text) : Prop :=
  ∀ terminal : Terminal, terminal.pending = none → terminal.after t = shown.foldl draw terminal

theorem draw_pending (terminal : Terminal) (c : CodePoint) :
    (terminal.draw c).pending = terminal.pending := by
  unfold draw
  split <;> rfl

theorem foldl_draw_pending (terminal : Terminal) (t : Text) :
    (t.foldl draw terminal).pending = terminal.pending := by
  induction t generalizing terminal with
  | nil => rfl
  | cons c rest ih =>
      rw [List.foldl_cons, ih, draw_pending]

theorem shows_nil : Shows [] [] := fun _ _ => rfl

theorem shows_append {t more shown moreShown : Text} (first : Shows t shown)
    (second : Shows more moreShown) : Shows (t ++ more) (shown ++ moreShown) := by
  intro terminal ready
  have still := (foldl_draw_pending terminal shown).trans ready
  rw [after_append, first terminal ready, second _ still, List.foldl_append]

theorem shows_self {t : Text} (plain : escape ∉ t) : Shows t t := by
  intro terminal ready
  induction t generalizing terminal with
  | nil => rfl
  | cons c rest ih =>
      have later : escape ∉ rest := fun member => plain (List.mem_cons_of_mem _ member)
      have other : c ≠ escape := fun same => plain (same ▸ List.mem_cons_self)
      have drawn : terminal.read c = terminal.draw c := by
        simp only [read, ready, if_neg other]
      rw [after, List.foldl_cons, drawn]
      exact ih later _ ((draw_pending terminal c).trans ready)

theorem shows_color (color : Console.Color) : Shows color.escape [] := by
  rintro ⟨above, current, pending, shown⟩ ready
  cases ready
  cases color <;> rfl

theorem shows_colorEnd : Shows Console.colorEnd [] := by
  rintro ⟨above, current, pending, shown⟩ ready
  cases ready
  rfl

theorem shows_paint {t shown : Text} (style : ConsoleStyle) (color : Console.Color)
    (text : Shows t shown) : Shows (Console.paint style color t) shown := by
  unfold Console.paint
  split
  case isTrue colored =>
      have whole := shows_append (shows_append (shows_color color) text) shows_colorEnd
      rw [List.nil_append, List.append_nil] at whole
      exact whole
  case isFalse plain => exact text

/-! A text that ends with a line feed adds lines and leaves the terminal between lines. -/

/-- The text adds these lines. -/
def Adds (t : Text) (lines : List Text) : Prop :=
  ∀ above shown, (between above shown).after t = between (above ++ lines) shown

theorem adds_nil : Adds [] [] := by
  intro above shown
  rw [List.append_nil]
  rfl

theorem adds_append {t more : Text} {lines moreLines : List Text} (first : Adds t lines)
    (second : Adds more moreLines) : Adds (t ++ more) (lines ++ moreLines) := by
  intro above shown
  rw [after_append, first, second, List.append_assoc]

theorem adds_each {α : Type} {items : List α} {text line : α → Text}
    (each : ∀ item ∈ items, Adds (text item) [line item]) :
    Adds (items.map text).flatten (items.map line) := by
  induction items with
  | nil => exact adds_nil
  | cons first rest ih =>
      exact adds_append (each first List.mem_cons_self)
        (ih fun item member => each item (List.mem_cons_of_mem _ member))

theorem from_line_start (lines : List Text) : lines.modifyHead (([] : Text) ++ ·) = lines :=
  congrFun List.modifyHead_id lines

theorem foldl_draw_lines (t : Text) (above : List Text) (current : Text) (shown : Bool) :
    (t ++ [lineFeed]).foldl draw ⟨above, current, none, shown⟩ =
      between (above ++ (Text.newlineSplit t).modifyHead (current ++ ·)) shown := by
  -- The current line is what was drawn of the first piece, which a later line feed completes.
  induction t generalizing above current with
  | nil => simp [Text.newlineSplit, Text.splitAt, draw, between]
  | cons c rest ih =>
      rw [Text.newlineSplit] at ih ⊢
      rw [List.cons_append, List.foldl_cons, Text.splitAt, draw]
      split
      case isTrue ends =>
          rw [ih, if_pos (show c = .char '\n' from ends), from_line_start]
          simp
      case isFalse goes =>
          rw [ih, if_neg (show c ≠ .char '\n' from goes), List.modifyHead_modifyHead]
          simp [Function.comp_def]

theorem adds_lines {t shown : Text} (text : Shows t shown) :
    Adds (t ++ [lineFeed]) (Text.newlineSplit shown) := by
  intro above visible
  have whole := shows_append text (shows_self (t := [lineFeed]) (by decide))
  rw [whole _ rfl, between, foldl_draw_lines, from_line_start]

end Terminal

end FenceCheck
