import FenceCheck.Run.Summary
import FenceCheck.Session.Transcript

/-!
The console: what a user sees of a run. Permanent lines tell of its course. On a terminal a live
region below them shows the items in flight, one line each; it is erased before a permanent line is
written and drawn again below it.

This module holds the state and how the live region is drawn and erased.
-/

namespace FenceCheck

/-- How far a run has come. -/
inductive Lifecycle where
  | idle
  | scanning
  | running
  | summarized
  | done
  deriving DecidableEq, Repr

namespace Lifecycle

def name : Lifecycle → Text
  | idle => "idle"
  | scanning => "scanning"
  | running => "running"
  | summarized => "summarized"
  | done => "done"

/-- The steps of a run: forward only, and past running if there is nothing to run. -/
def mayBecome : Lifecycle → Lifecycle → Bool
  | idle, scanning => true
  | scanning, running => true
  | scanning, summarized => true
  | running, summarized => true
  | summarized, done => true
  | _, _ => false

end Lifecycle

inductive Progress where
  | queued
  | running
  | passed
  | failed
  deriving DecidableEq, Repr

namespace Progress

def name : Progress → Text
  | queued => "queued"
  | running => "running"
  | passed => "passed"
  | failed => "failed"

end Progress

/-- Values under whole numbers, each number at most once. -/
abbrev Indexed (α : Type) := List (Int × α)

namespace Indexed

variable {α : Type}

/-- A value put under a number: in the old place, or at the end if the number is new. -/
def put : Indexed α → Int → α → Indexed α
  | [], index, value => [(index, value)]
  | entry :: rest, index, value =>
      if entry.1 = index then (index, value) :: rest else entry :: put rest index value

def remove (entries : Indexed α) (index : Int) : Indexed α :=
  entries.filter fun entry => entry.1 ≠ index

def inOrder (entries : Indexed α) : List α :=
  (entries.mergeSort fun a b => a.1 ≤ b.1).map (·.2)

end Indexed

structure ConsoleStyle where
  stream : Stream
  quiet : Bool
  color : Bool
  interactive : Bool
  deriving DecidableEq, Repr

structure Console where
  style : ConsoleStyle
  lifecycle : Lifecycle
  progress : Indexed Progress
  inFlight : Indexed Text
  frame : Nat
  /-- The lines that the live region has on the screen. -/
  drawn : Nat
  cursorHidden : Bool
  deriving DecidableEq, Repr

namespace Console

def new (style : ConsoleStyle) : Console :=
  { style, lifecycle := .idle, progress := [], inFlight := [], frame := 0, drawn := 0
    cursorHidden := false }

def labels (console : Console) : List Text := console.inFlight.inOrder

inductive Color where
  | green
  | red
  | yellow
  | gray
  deriving DecidableEq, Repr

def Color.escape : Color → Text
  | .green => "\x1b[32m"
  | .red => "\x1b[31m"
  | .yellow => "\x1b[33m"
  | .gray => "\x1b[90m"

def colorEnd : Text := "\x1b[0m"

def eraseLineUp : Text := "\x1b[1A\x1b[2K"

def hideCursor : Text := "\x1b[?25l"

def showCursor : Text := "\x1b[?25h"

def paint (style : ConsoleStyle) (color : Color) (text : Text) : Text :=
  if style.color then color.escape ++ text ++ colorEnd else text

def spinnerFrames : List Char := ['⠋', '⠙', '⠹', '⠸', '⠼', '⠴', '⠦', '⠧', '⠇', '⠏']

def spinner (frame : Nat) : Text :=
  (spinnerFrames[frame % spinnerFrames.length]?.map CodePoint.char).toList

def liveLine (style : ConsoleStyle) (frame : Nat) (label : Text) : Text :=
  Text.ofString "  " ++ paint style .yellow (spinner frame) ++ .char ' ' :: label ++ [.char '\n']

/-- The console without a live region, and the escapes that erase it. -/
def erase (console : Console) : Console × Text :=
  ({ console with drawn := 0 }, (List.replicate console.drawn eraseLineUp).flatten)

/-- The console with the live region drawn, and its text. Without items in flight there is none. -/
def draw (console : Console) : Console × Text :=
  if console.inFlight.isEmpty then (console, [])
  else
    ({ console with drawn := console.inFlight.length, cursorHidden := true },
      (if console.cursorHidden then [] else hideCursor) ++
        (console.labels.map (liveLine console.style console.frame)).flatten)

def redraw (console : Console) : Console × Text :=
  let (erased, erasing) := console.erase
  let (drawn, drawing) := erased.draw
  (drawn, erasing ++ drawing)

def closeLive (console : Console) : Console × Text :=
  let (erased, erasing) := console.erase
  ({ erased with cursorHidden := false },
    erasing ++ if console.cursorHidden then showCursor else [])

end Console

end FenceCheck
