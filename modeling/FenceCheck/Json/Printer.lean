import FenceCheck.Json.Basic
import FenceCheck.Number.Shortest

/-!
Writing JSON: fields in the order of their names, on one line or with an indent, in Unicode or in
ASCII alone. The text depends on the fields of an object and not on the order they were added in.
-/

namespace FenceCheck

namespace Json

/-- How a value is written: the indent of each level, if it is spread over lines, and whether code
points past ASCII are escaped. -/
structure Layout where
  indent : Option Nat
  ascii : Bool

namespace Layout

def compact : Layout := ⟨none, false⟩

/-- Two spaces a level for reports that are kept in files. -/
def spread : Layout := ⟨some 2, false⟩

/-- One line of ASCII for the log and for other programs' input. -/
def log : Layout := ⟨none, true⟩

end Layout

def hexChar (n : Nat) : CodePoint := .char (Nat.digitChar n)

def unitEscape (unit : Nat) : Text :=
  [.char '\\', .char 'u', hexChar (unit / 4096 % 16), hexChar (unit / 256 % 16),
   hexChar (unit / 16 % 16), hexChar (unit % 16)]

/-- The escape of a code point past ASCII: one unit, or a pair of them past 0xFFFF. -/
def wideEscape (n : Nat) : Text :=
  if n < 0x10000 then unitEscape n
  else unitEscape (0xD800 + (n - 0x10000) / 0x400) ++ unitEscape (0xDC00 + (n - 0x10000) % 0x400)

def escape (ascii : Bool) (c : CodePoint) : Text :=
  match c with
  | .char '\x22' => [.char '\\', .char '\x22']
  | .char '\\' => [.char '\\', .char '\\']
  | .char '\n' => [.char '\\', .char 'n']
  | .char '\r' => [.char '\\', .char 'r']
  | .char '\t' => [.char '\\', .char 't']
  | .char '\x08' => [.char '\\', .char 'b']
  | .char '\x0C' => [.char '\\', .char 'f']
  | c =>
      if c.val < 0x20 then unitEscape c.val
      else if ascii ∧ 0x7E < c.val then wideEscape c.val
      else [c]

def quoted (ascii : Bool) (s : Text) : Text :=
  .char '\x22' :: s.flatMap (escape ascii) ++ [.char '\x22']

def floatText (x : Binary64) : Text :=
  match x.value with
  | .notANumber => "NaN"
  | .infinite true => "-Infinity"
  | .infinite false => "Infinity"
  | .finite .. => x.toText

def Layout.lineBreak (layout : Layout) (level : Nat) : Text :=
  match layout.indent with
  | none => []
  | some width => .char '\n' :: List.replicate (width * level) (.char ' ')

def Layout.separator (layout : Layout) (level : Nat) : Text :=
  match layout.indent with
  | none => ", "
  | some _ => .char ',' :: layout.lineBreak level

def Layout.enclose (layout : Layout) (level : Nat) (opening closing : Char) (parts : List Text) :
    Text :=
  match parts with
  | [] => [.char opening, .char closing]
  | parts =>
      .char opening :: layout.lineBreak (level + 1) ++
        Text.join (layout.separator (level + 1)) parts ++ layout.lineBreak level ++
        [.char closing]

def sortedByName (fields : List (Text × α)) : List (Text × α) :=
  fields.mergeSort fun a b => Text.le a.1 b.1

mutual

def writeAt (layout : Layout) (level : Nat) : Json → Text
  | null => "null"
  | bool true => "true"
  | bool false => "false"
  | int n => Text.ofInt n
  | float x => floatText x
  | str s => quoted layout.ascii s
  | list items => layout.enclose level '[' ']' (writeItems layout (level + 1) items)
  | object fields =>
      layout.enclose level '\x7b' '\x7d'
        ((sortedByName (writeFields layout (level + 1) fields)).map fun field =>
          quoted layout.ascii field.1 ++ Text.ofString ": " ++ field.2)

def writeItems (layout : Layout) (level : Nat) : List Json → List Text
  | [] => []
  | item :: rest => writeAt layout level item :: writeItems layout level rest

def writeFields (layout : Layout) (level : Nat) : List (Text × Json) → List (Text × Text)
  | [] => []
  | field :: rest => (field.1, writeAt layout level field.2) :: writeFields layout level rest

end

def write (layout : Layout) (value : Json) : Text := writeAt layout 0 value

end Json

end FenceCheck
