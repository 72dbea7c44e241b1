import FenceCheck.Datum.Basic
import FenceCheck.Datum.Calendar
import FenceCheck.Datum.Fault
import FenceCheck.Text.Digit
import FenceCheck.Text.Hex

/-!
Strings, numbers and moments of TOML.
-/

namespace FenceCheck

namespace Toml

/-- Why a text gives no value: it is no TOML, or a number in it is too long to be one. -/
inductive Fault where
  | malformed
  | scalar (fault : ScalarFault)
  deriving DecidableEq, Repr

def isSpace (c : Char) : Bool := c = ' ' || c = '\t'

def isSpaceOrNewline (c : Char) : Bool := isSpace c || c = '\n'

def isControl (c : Char) : Bool := (c.toNat < 0x20 && c ≠ '\t') || c = '\x7F'

def skipSpace (t : List Char) : List Char := t.dropWhile isSpace

/-- A text up to a mark, which has to come before any character that is refused. -/
def until? (mark : List Char) (refuses : Char → Bool) : List Char → Option (List Char × List Char)
  | [] => none
  | c :: rest =>
      if mark.isPrefixOf (c :: rest) then some ([], (c :: rest).drop mark.length)
      else if refuses c then none
      else (until? mark refuses rest).map fun (taken, rest) => (c :: taken, rest)

def escapes : List (Char × Char) :=
  [('b', '\x08'), ('t', '\t'), ('n', '\n'), ('f', '\x0C'), ('r', '\r'), ('\x22', '\x22'),
   ('\\', '\\')]

def hexChar? (digits : List Char) : Option Char :=
  match Hex.number? digits with
  | some n => if h : n.isValidChar then some (Char.ofNatAux n h) else none
  | none => none

/-- The rest of a string in double quotes. In one of several lines a backslash at a line's end takes
the blanks and line breaks behind it away. -/
def basicRest (several : Bool) : Nat → List Char → Except Fault (List Char × List Char)
  | 0, _ => .error .malformed
  | fuel + 1, t =>
      let continued (read rest : List Char) : Except Fault (List Char × List Char) :=
        match basicRest several fuel rest with
        | .ok (more, rest) => .ok (read ++ more, rest)
        | .error fault => .error fault
      match t with
      | [] => .error .malformed
      | '\x22' :: rest =>
          if !several then .ok ([], rest)
          else
            match rest with
            | '\x22' :: '\x22' :: rest => .ok ([], rest)
            -- Fewer than three quotes are part of the text.
            | _ => continued ['\x22'] rest
      | '\\' :: c :: rest =>
          if several ∧ isSpaceOrNewline c then
            match (c :: rest).dropWhile isSpace with
            | [] => continued [] []
            | '\n' :: rest => continued [] (rest.dropWhile isSpaceOrNewline)
            | _ => .error .malformed
          else if c = 'u' ∨ c = 'U' then
            let count := if c = 'u' then 4 else 8
            match (if rest.length < count then none else hexChar? (rest.take count)) with
            | some c => continued [c] (rest.drop count)
            | none => .error .malformed
          else
            match escapes.lookup c with
            | some c => continued [c] rest
            | none => .error .malformed
      | c :: rest =>
          if c = '\\' then .error .malformed
          else if isControl c && !(several && c = '\n') then .error .malformed
          else continued [c] rest

/-- At most two more quotes in front of what follows a string of several lines. -/
def moreQuotes (quote : Char) (t : List Char) : List Char × List Char :=
  match t with
  | a :: b :: rest =>
      if a = quote ∧ b = quote then ([a, b], rest)
      else if a = quote then ([a], b :: rest)
      else ([], t)
  | [a] => if a = quote then ([a], []) else ([], t)
  | [] => ([], [])

def dropNewline : List Char → List Char
  | '\n' :: rest => rest
  | t => t

def string (quote : Char) (rest : List Char) : Except Fault (List Char × List Char) :=
  let several := [quote, quote].isPrefixOf rest
  if quote = '\x22' then
    if several then
      match basicRest true (rest.length + 1) (dropNewline (rest.drop 2)) with
      | .ok (read, rest) =>
          let (more, rest) := moreQuotes quote rest
          .ok (read ++ more, rest)
      | .error fault => .error fault
    else basicRest false (rest.length + 1) rest
  else if several then
    match until? [quote, quote, quote] (fun c => isControl c && c ≠ '\n')
      (dropNewline (rest.drop 2)) with
    | some (read, rest) =>
        let (more, rest) := moreQuotes quote rest
        .ok (read ++ more, rest)
    | none => .error .malformed
  else
    match until? [quote] isControl rest with
    | some read => .ok read
    | none => .error .malformed

/-- A string on one line behind its opening quote, as keys are. -/
def lineString (quote : Char) (rest : List Char) : Except Fault (List Char × List Char) :=
  if quote = '\x22' then basicRest false (rest.length + 1) rest
  else
    match until? [quote] isControl rest with
    | some read => .ok read
    | none => .error .malformed

def spacedDigits (isDigit : Char → Bool) : List Char → List Char × List Char
  | [] => ([], [])
  | '_' :: d :: rest =>
      if isDigit d then
        let (more, rest) := spacedDigits isDigit rest
        (d :: more, rest)
      else ([], '_' :: d :: rest)
  | c :: rest =>
      if isDigit c then
        let (more, rest) := spacedDigits isDigit rest
        (c :: more, rest)
      else ([], c :: rest)

/-- Digits of which the first is no underscore. -/
def digitRun? (isDigit : Char → Bool) : List Char → Option (List Char × List Char)
  | [] => none
  | c :: rest =>
      if isDigit c then
        let (more, rest) := spacedDigits isDigit rest
        some (c :: more, rest)
      else none

def digitsValue (base : Nat) (digits : List Char) : Nat :=
  digits.foldl (fun n c => n * base + (Hex.value? c).getD 0) 0

def isBinary (c : Char) : Bool := c = '0' || c = '1'

def isOctal (c : Char) : Bool := '0' ≤ c && c ≤ '7'

def isHex (c : Char) : Bool := (Hex.value? c).isSome

def basedNumber? : List Char → Option (Datum × List Char)
  | '0' :: mark :: rest =>
      let read (base : Nat) (isDigit : Char → Bool) : Option (Datum × List Char) :=
        (digitRun? isDigit rest).map fun (digits, rest) =>
          (.int (digitsValue base digits), rest)
      if mark = 'x' then read 16 isHex
      else if mark = 'b' then read 2 isBinary
      else if mark = 'o' then read 8 isOctal
      else none
  | _ => none

def signOf : List Char → Bool × List Char
  | '-' :: rest => (true, rest)
  | '+' :: rest => (false, rest)
  | t => (false, t)

def fraction? : List Char → Option (List Char × List Char)
  | '.' :: rest => digitRun? Char.isDigit rest
  | _ => none

def exponent? : List Char → Option (Int × List Char)
  | c :: rest =>
      if c = 'e' ∨ c = 'E' then
        let (negative, rest) := signOf rest
        (digitRun? Char.isDigit rest).map fun (digits, rest) =>
          let n : Int := digitsValue 10 digits
          (if negative then -n else n, rest)
      else none
  | [] => none

/-- A decimal number. A zero is a whole part of its own. -/
def decimalNumber? (t : List Char) : Option (Except Fault (Datum × List Char)) :=
  let (negative, body) := signOf t
  let whole? : Option (List Char × List Char) := match body with
    | '0' :: rest => some (['0'], rest)
    | _ => digitRun? Char.isDigit body
  whole?.map fun (whole, afterWhole) =>
    let fraction := fraction? afterWhole
    let (places, afterFraction) := fraction.getD ([], afterWhole)
    let power := exponent? afterFraction
    let (exponent, rest) : Int × List Char := power.getD (0, afterFraction)
    if fraction.isSome || power.isSome then
      .ok (.float (Binary64.ofDecimal negative (digitsValue 10 (whole ++ places))
        (exponent - places.length)), rest)
    else if whole.length > Integer.digitLimit then
      .error (.scalar (.longInteger whole.length))
    else
      let n : Int := digitsValue 10 whole
      .ok (.int (if negative then -n else n), rest)

def fixed? (count low high : Nat) (t : List Char) : Option (Nat × List Char) :=
  let digits := t.take count
  let n := digitsValue 10 digits
  if digits.length = count ∧ digits.all Char.isDigit ∧ low ≤ n ∧ n ≤ high then
    some (n, t.drop count)
  else none

def char? (mark : Char) : List Char → Option (List Char)
  | c :: rest => if c = mark then some rest else none
  | [] => none

def time? (t : List Char) : Option ((Nat × Nat × Nat × Nat) × List Char) := do
  let (hour, t) ← fixed? 2 0 23 t
  let t ← char? ':' t
  let (minute, t) ← fixed? 2 0 59 t
  let t ← char? ':' t
  let (second, t) ← fixed? 2 0 59 t
  let (micro, t) : Nat × List Char :=
    match t with
    | '.' :: d :: rest =>
        if d.isDigit then
          let places := (d :: rest).takeWhile Char.isDigit
          (Calendar.microseconds (places.map (·.toNat - 48)), (d :: rest).drop places.length)
        else (0, t)
    | _ => (0, t)
  return ((hour, minute, second, micro), t)

def offset? (t : List Char) : Option Int × List Char :=
  match t with
  | c :: rest =>
      if c = 'Z' ∨ c = 'z' then (some 0, rest)
      else if c = '+' ∨ c = '-' then
        let read : Option (Int × List Char) := do
          let (hours, rest) ← fixed? 2 0 23 rest
          let rest ← char? ':' rest
          let (minutes, rest) ← fixed? 2 0 59 rest
          let seconds : Int := hours * 3600 + minutes * 60
          return (if c = '-' then -seconds else seconds, rest)
        match read with
        | some (seconds, rest) => (some seconds, rest)
        | none => (none, t)
      else (none, t)
  | [] => (none, t)

/-- The parts of a date, which need not exist in the calendar. -/
def date? (t : List Char) : Option ((Nat × Nat × Nat) × List Char) := do
  let (year, t) ← fixed? 4 0 9999 t
  let t ← char? '-' t
  let (month, t) ← fixed? 2 1 12 t
  let t ← char? '-' t
  let (day, t) ← fixed? 2 1 31 t
  return ((year, month, day), t)

def dateTime? (t : List Char) : Option (Except Fault (Datum × List Char)) :=
  (date? t).map fun ((year, month, day), rest) =>
    let timed : Option ((Nat × Nat × Nat × Nat) × List Char) :=
      match rest with
      -- A blank without a time of day behind it is not part of the date.
      | c :: rest => if c = 'T' ∨ c = 't' ∨ c = ' ' then time? rest else none
      | [] => none
    if (Calendar.dateFault? year month day).isSome then .error .malformed
    else
      match timed with
      | none => .ok (.moment (.date year month day), rest)
      | some ((hour, minute, second, micro), rest) =>
          let (offset, rest) := offset? rest
          .ok (.moment (.dateTime year month day hour minute second micro offset), rest)

def names : List (List Char × Datum) :=
  [("true".toList, .bool true), ("false".toList, .bool false),
   ("inf".toList, .float (.infinity false)), ("nan".toList, .float .notANumber),
   ("-inf".toList, .float (.infinity true)), ("+inf".toList, .float (.infinity false)),
   ("-nan".toList, .float .notANumber), ("+nan".toList, .float .notANumber)]

def atom (t : List Char) : Except Fault (Datum × List Char) :=
  -- Dates and times of day begin like numbers, so they are tried first.
  match dateTime? t with
  | some read => read
  | none =>
      match time? t with
      | some ((hour, minute, second, micro), rest) =>
          .ok (.moment (.time hour minute second micro), rest)
      | none =>
          match basedNumber? t with
          | some read => .ok read
          | none =>
              match decimalNumber? t with
              | some read => read
              | none =>
                  match names.find? fun entry => entry.1.isPrefixOf t with
                  | some entry => .ok (entry.2, t.drop entry.1.length)
                  | none => .error .malformed

end Toml

end FenceCheck
