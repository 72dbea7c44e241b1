import FenceCheck.Datum.Basic
import FenceCheck.Number.Shortest
import FenceCheck.Text.Digit
import FenceCheck.Text.Quoted

/-!
Values as messages show them: names for the constants, the shortest text of a number, quoted text,
and brackets around the parts of a container.
-/

namespace FenceCheck

/-- Whether a whole number has few enough digits to be written. The bound is too large to be unfolded
where it does not matter. -/
@[irreducible]
def Integer.isShort (n : Int) : Bool := n.natAbs < tenTo digitLimit

theorem Integer.isShort_iff {n : Int} : isShort n = true ↔ n.natAbs < tenTo digitLimit := by
  unfold isShort
  exact decide_eq_true_iff

namespace Moment

def padded (width n : Nat) : Text := Text.zeroPadded width (Text.ofNat n)

def arguments (parts : List Nat) : Text := Text.join ", " (parts.map Text.ofNat)

/-- The parts of a time of day that are shown: seconds and microseconds only up to the last that
is not zero. -/
def shownTime (hour minute second microsecond : Nat) : List Nat :=
  if microsecond ≠ 0 then [hour, minute, second, microsecond]
  else if second ≠ 0 then [hour, minute, second]
  else [hour, minute]

/-- A span of time by days and seconds, leaving out what is zero. -/
def shownSpan (seconds : Int) : Text :=
  let days := Int.fdiv seconds 86400
  let rest := Int.fmod seconds 86400
  let parts :=
    (if days = 0 then [] else [Text.ofString "days=" ++ Text.ofInt days]) ++
    (if rest = 0 then [] else [Text.ofString "seconds=" ++ Text.ofInt rest])
  Text.ofString "datetime.timedelta(" ++ Text.join ", " parts ++ Text.ofString ")"

def shownOffset (seconds : Int) : Text :=
  if seconds = 0 then "datetime.timezone.utc"
  else Text.ofString "datetime.timezone(" ++ shownSpan seconds ++ Text.ofString ")"

def shown : Moment → Text
  | date year month day =>
      Text.ofString "datetime.date(" ++ arguments [year, month, day] ++ Text.ofString ")"
  | time hour minute second microsecond =>
      Text.ofString "datetime.time(" ++ arguments (shownTime hour minute second microsecond) ++
        Text.ofString ")"
  | dateTime year month day hour minute second microsecond offset =>
      Text.ofString "datetime.datetime(" ++
        arguments ([year, month, day] ++ shownTime hour minute second microsecond) ++
        (match offset with
          | none => []
          | some seconds => Text.ofString ", tzinfo=" ++ shownOffset seconds) ++
        Text.ofString ")"

def plainDate (year month day : Nat) : Text :=
  padded 4 year ++ Text.ofString "-" ++ padded 2 month ++ Text.ofString "-" ++ padded 2 day

def plainTime (hour minute second microsecond : Nat) : Text :=
  padded 2 hour ++ Text.ofString ":" ++ padded 2 minute ++ Text.ofString ":" ++
    padded 2 second ++
    if microsecond = 0 then [] else .char '.' :: padded 6 microsecond

def plainOffset (seconds : Int) : Text :=
  let n := seconds.natAbs
  (if seconds < 0 then Text.ofString "-" else Text.ofString "+") ++ padded 2 (n / 3600) ++
    Text.ofString ":" ++ padded 2 (n / 60 % 60) ++
    if n % 60 = 0 then [] else .char ':' :: padded 2 (n % 60)

def plain : Moment → Text
  | date year month day => plainDate year month day
  | time hour minute second microsecond => plainTime hour minute second microsecond
  | dateTime year month day hour minute second microsecond offset =>
      plainDate year month day ++ Text.ofString " " ++ plainTime hour minute second microsecond ++
        (offset.map plainOffset).getD []

end Moment

namespace Datum

def shownByte (quote b : UInt8) : Text :=
  if b = quote ∨ b = 0x5C then [.char '\\', .char (Char.ofNat b.toNat)]
  else if b = 0x0A then "\\n"
  else if b = 0x0D then "\\r"
  else if b = 0x09 then "\\t"
  else if 0x20 ≤ b ∧ b < 0x7F then [.char (Char.ofNat b.toNat)]
  else Text.ofString "\\x" ++ Text.hexDigits b.toNat 2

def shownBytes (data : List UInt8) : Text :=
  let quote : UInt8 := if data.contains 0x27 && !data.contains 0x22 then 0x22 else 0x27
  let mark : CodePoint := .char (Char.ofNat quote.toNat)
  .char 'b' :: mark :: data.flatMap (shownByte quote) ++ [mark]

def ellipsis : Datum → Text
  | mapping _ => "\x7b...\x7d"
  | tuple _ => "(...)"
  | _ => "[...]"

mutual

/-- The value inside containers that hold themselves, each with its label and its ellipsis. -/
def shownWithin (around : List (Nat × Text)) : Datum → Text
  | null => "None"
  | bool true => "True"
  | bool false => "False"
  | int n => Text.ofInt n
  | float x => x.toText
  | text t => Text.quoted t
  | bytes data => shownBytes data
  | moment m => m.shown
  | list items =>
      Text.ofString "[" ++ Text.join ", " (shownItems around items) ++ Text.ofString "]"
  | tuple items =>
      Text.ofString "(" ++ Text.join ", " (shownItems around items) ++
        (if items.length = 1 then Text.ofString ",)" else Text.ofString ")")
  | set [] => "set()"
  | set (item :: rest) =>
      Text.ofString "\x7b" ++ Text.join ", " (shownWithin around item :: shownItems around rest) ++
        Text.ofString "\x7d"
  | mapping entries =>
      Text.ofString "\x7b" ++ Text.join ", " (shownEntries around entries) ++ Text.ofString "\x7d"
  | knot label whole =>
      match around.lookup label with
      -- It was met before on the way here, so it would be shown without end.
      | some dots => dots
      | none => shownWithin ((label, ellipsis whole) :: around) whole
  | again label => (around.lookup label).getD "[...]"

def shownItems (around : List (Nat × Text)) : List Datum → List Text
  | [] => []
  | item :: rest => shownWithin around item :: shownItems around rest

def shownEntries (around : List (Nat × Text)) : List (Datum × Datum) → List Text
  | [] => []
  | entry :: rest =>
      (shownWithin around entry.1 ++ Text.ofString ": " ++ shownWithin around entry.2) ::
        shownEntries around rest

end

def shown (d : Datum) : Text := shownWithin [] d

mutual

def isShowable : Datum → Bool
  | int n => Integer.isShort n
  | list items => areShowable items
  | tuple items => areShowable items
  | set items => areShowable items
  | mapping entries => hasShowable entries
  | knot _ whole => isShowable whole
  | _ => true

def areShowable : List Datum → Bool
  | [] => true
  | item :: rest => isShowable item && areShowable rest

def hasShowable : List (Datum × Datum) → Bool
  | [] => true
  | entry :: rest => isShowable entry.1 && isShowable entry.2 && hasShowable rest

end

/-- The value as a text of its own: text without quotes, a moment without its kind. -/
def plain : Datum → Text
  | text t => t
  | moment m => m.plain
  | other => shown other

end Datum

/-- Whether each whole number in a value has few enough digits to be written. -/
def Json.isShowable (value : Json) : Bool := (Datum.ofJson value).isShowable

end FenceCheck
