import FenceCheck.Number.Binary64
import FenceCheck.Shell.Token

/-!
Numbers as a shell reads them at the start of a text: whole ones in base sixteen, eight or ten, told
apart by what they begin with, and others with a point and an exponent. What is behind a number is
given back, so that the reader of it can complain.
-/

namespace FenceCheck

namespace Shell

def isOctal (c : CodePoint) : Bool := 0x30 ≤ c.val && c.val ≤ 0x37

def octalNumber (digits : Text) : Nat := digits.foldl (fun n c => 8 * n + (c.val - 0x30)) 0

def numberOf (digits : Text) : Nat := digits.foldl (fun n c => 10 * n + (c.val - 0x30)) 0

def hexNumber (digits : Text) : Nat :=
  digits.foldl (fun n c =>
    16 * n + (if isDigit c then c.val - 0x30 else (c.val ||| 0x20) - 0x57)) 0

def isHexDigit (c : CodePoint) : Bool :=
  isDigit c || (0x41 ≤ c.val && c.val ≤ 0x46) || (0x61 ≤ c.val && c.val ≤ 0x66)

/-- The number at the start of a text, in base sixteen, eight or ten, and the text behind it. -/
def numeral (t : Text) : Nat × Text :=
  match t with
  | .char '0' :: rest =>
      let hex := (rest.drop 1).takeWhile isHexDigit
      if rest.head?.any (isOneOf "xX") && !hex.isEmpty then
        (hexNumber hex, rest.drop (hex.length + 1))
      else (octalNumber (rest.takeWhile isOctal), rest.dropWhile isOctal)
  | t => (numberOf (t.takeWhile isDigit), t.dropWhile isDigit)

def isBlank (c : CodePoint) : Bool := isOneOf " \t\n\x0b\x0c\r" c

def signed (t : Text) : Bool × Text :=
  let start := t.dropWhile isBlank
  (Text.startsWith start "-", if start.head?.any (isOneOf "+-") then start.drop 1 else start)

/-- The number at the start of a value, after blanks and a sign, and the text behind it. Where there is
none nothing is taken. -/
def signedNumeral (t : Text) : Int × Text :=
  let (negative, digits) := signed t
  if digits.head?.any isDigit then
    let (n, rest) := numeral digits
    (if negative then -(n : Int) else n, rest)
  else (0, t)

/-- The decimal whole number at the start of a text, and whether all of the text is part of it. -/
def integerArgument (t : Text) : Int × Bool :=
  let (negative, digits) := signed t
  let run := digits.takeWhile isDigit
  let n : Int := numberOf run
  (if negative then -n else n, t.isEmpty || (!run.isEmpty && run.length = digits.length))

/-- A number that was read, the text behind it, and whether it was too large or too small. -/
structure RealNumeral where
  number : Binary64
  rest : Text
  outOfRange : Bool

def exponentOf (t : Text) : Int × Text :=
  match t with
  | .char c :: rest =>
      let digits := if rest.head?.any (isOneOf "+-") then rest.drop 1 else rest
      let run := digits.takeWhile isDigit
      if (c = 'e' || c = 'E') && !run.isEmpty then
        let n : Int := numberOf run
        (if Text.startsWith rest "-" then -n else n, digits.drop run.length)
      else (0, t)
  | t => (0, t)

/-- The words for what is no finite number, longer ones first. -/
def unboundedWords : List (Text × Bool) :=
  [("infinity", true), ("inf", true), ("nan", false)].map fun (t, b) => (Text.ofString t, b)

def lowered (t : Text) : Text :=
  t.map fun
    | .char c => .char c.toLower
    | c => c

def realNumeral (t : Text) : RealNumeral :=
  let (negative, start) := signed t
  match unboundedWords.find? fun entry => lowered (start.take entry.1.length) = entry.1 with
  | some (word, infinite) =>
      ⟨if infinite then .infinity negative else .notANumber, start.drop word.length, false⟩
  | none =>
      -- In base sixteen only whole numbers are read.
      if lowered (start.take 2) = Text.ofString "0x" && (start.drop 2).head?.any isHexDigit then
        let (n, rest) := numeral start
        ⟨.ofRatio negative n 1, rest, false⟩
      else
        let whole := start.takeWhile isDigit
        let behind := start.drop whole.length
        let places := if Text.startsWith behind "." then (behind.drop 1).takeWhile isDigit else []
        if whole.isEmpty && places.isEmpty then ⟨.zero false, t, false⟩
        else
          let behind :=
            if Text.startsWith behind "." then behind.drop (places.length + 1) else behind
          let (exponent, rest) := exponentOf behind
          let digits := numberOf (whole ++ places)
          let number := Binary64.ofDecimal negative digits (exponent - places.length)
          ⟨number, rest, !number.isFinite || (digits ≠ 0 && number = .zero negative)⟩

end Shell

end FenceCheck
