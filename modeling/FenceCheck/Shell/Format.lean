import FenceCheck.Number.Places
import FenceCheck.Shell.Numeral
import FenceCheck.Text.Form
import FenceCheck.Text.Hex

/-!
What a shell prints by a format: conversions take the arguments one after another, and the format is
used again while arguments are left.
-/

namespace FenceCheck

namespace Shell

/-- The bytes of a text; a surrogate that stands for no byte becomes a question mark. -/
def bytesOf (t : Text) : List UInt8 :=
  t.flatMap fun
    | .char c => Utf8.encodeChar c
    | .surrogate half => [(Text.byteOf? half).getD 0x3F]

def octal (most : Nat) (t : Text) : UInt8 × Text :=
  let digits := (t.take most).takeWhile isOctal
  ((octalNumber digits).toUInt8, t.drop digits.length)

def controls : List (Char × UInt8) :=
  [('a', 7), ('b', 8), ('e', 27), ('f', 12), ('n', 10), ('r', 13), ('t', 9), ('v', 11), ('\\', 92)]

/-- The bytes of an escape and the text behind it. A backslash before anything else stands for
itself. -/
def escaped (t : Text) : List UInt8 × Text :=
  match t with
  | .char c :: rest =>
      match controls.lookup c with
      | some b => ([b], rest)
      | none =>
          if isOctal (.char c) then
            let (b, behind) := octal 3 t
            ([b], behind)
          else ([0x5C], t)
  | t => ([0x5C], t)

/-- The bytes of a text with escapes, and whether `\c` cuts the output short. An octal number may
have a zero in front of its three digits. -/
def unescaped : Nat → Text → List UInt8 × Bool
  | 0, _ => ([], false)
  | _, [] => ([], false)
  | fuel + 1, .char '\\' :: rest =>
      match rest with
      | .char 'c' :: _ => ([], true)
      | .char '0' :: more =>
          let (b, behind) := octal 3 more
          let (bytes, cut) := unescaped fuel behind
          (b :: bytes, cut)
      | rest =>
          let (start, behind) := escaped rest
          let (bytes, cut) := unescaped fuel behind
          (start ++ bytes, cut)
  | fuel + 1, c :: rest =>
      let (bytes, cut) := unescaped fuel rest
      (bytesOf [c] ++ bytes, cut)

inductive FormatEnd where
  | cut
  | failed (complaint : Text)
  deriving DecidableEq, Repr

/-- What is printed so far: bytes, complaints about arguments, and what ends the output if anything
does. -/
structure Printed where
  bytes : List UInt8
  complaints : List Text
  ending : Option FormatEnd

namespace Printed

def empty : Printed := ⟨[], [], none⟩

def ofBytes (bytes : List UInt8) : Printed := ⟨bytes, [], none⟩

def fail (complaint : Text) : Printed := ⟨[], [], some (.failed complaint)⟩

def andThen (first second : Printed) : Printed :=
  if first.ending.isSome then first
  else ⟨first.bytes ++ second.bytes, first.complaints ++ second.complaints, second.ending⟩

end Printed

/-- A conversion: left alignment, padding with zeros, what stands before a number that is not
negative, the other form of a number, width and precision. -/
structure Conversion where
  left : Bool
  zeros : Bool
  plus : Text
  other : Bool
  width : Nat
  precision : Option Nat

def unread (t rest : Text) : List Text :=
  if rest.isEmpty then []
  else if rest = t then [t ++ Text.ofString ": expected numeric value"]
  else [t ++ Text.ofString ": not completely converted"]

def rangeComplaint (t : Text) : Text := t ++ Text.ofString ": Numerical result out of range"

def quotedByte? : Text → Option Nat
  | .char c :: rest =>
      if c = '\x22' || c = '\x27' then some ((bytesOf rest).headD 0).toNat else none
  | _ => none

def wholeArgument (low high : Int) (t : Text) : Int × List Text :=
  match quotedByte? t with
  | some n => (n, [])
  | none =>
      let (n, rest) := signedNumeral t
      let cut := max low (min high n)
      let complaints := unread t rest
      (cut, if complaints.isEmpty && cut ≠ n then [rangeComplaint t] else complaints)

def smallestSigned : Int := -9223372036854775808

def largestSigned : Int := 9223372036854775807

def largestUnsigned : Int := 18446744073709551615

def realArgument (t : Text) : Binary64 × List Text :=
  match quotedByte? t with
  | some n => (.ofRatio false n 1, [])
  | none =>
      let read := realNumeral t
      let complaints := unread t read.rest
      (read.number,
        if complaints.isEmpty && read.outOfRange then [rangeComplaint t] else complaints)

/-- A number at the start of a format, or in the next argument where a star stands for it. The text
and the arguments behind it follow, with the complaints. -/
def setting (t : Text) (arguments : List Text) : Int × Text × List Text × List Text :=
  match t with
  | .char '*' :: rest =>
      let (n, complaints) := wholeArgument (-2147483648) 2147483647 (arguments.headD [])
      (n, rest, arguments.drop 1, complaints)
  | t => (numberOf (t.takeWhile isDigit), t.dropWhile isDigit, arguments, [])

def conversion (t : Text) (arguments : List Text) :
    Conversion × Text × List Text × List Text :=
  let flags := t.takeWhile (isOneOf "-0+ #")
  let plus : Text :=
    if .char '+' ∈ flags then "+" else if .char ' ' ∈ flags then " " else []
  let (width, rest, arguments, complaints) := setting (t.drop flags.length) arguments
  let base : Conversion :=
    { left := .char '-' ∈ flags || width < 0, zeros := .char '0' ∈ flags, plus
      other := .char '#' ∈ flags, width := width.natAbs, precision := none }
  match rest with
  | .char '.' :: more =>
      -- A precision below zero counts as none, while a width below zero aligns to the left.
      let (precision, rest, arguments, others) := setting more arguments
      let precision := if precision < 0 then none else some precision.toNat
      ({ base with precision }, rest, arguments, complaints ++ others)
  | rest => (base, rest, arguments, complaints)

namespace Conversion

def padded (c : Conversion) (bytes : List UInt8) : List UInt8 :=
  let missing := List.replicate (c.width - bytes.length) (0x20 : UInt8)
  if c.left then bytes ++ missing else missing ++ bytes

/-- What stands in front of a number and its digits, with zeros between them up to the width if
they are asked for. -/
def paddedNumber (c : Conversion) (zeros : Bool) (start digits : Text) : List UInt8 :=
  let missing := c.width - start.length - digits.length
  let filling := if zeros && !c.left then List.replicate missing (.char '0') else []
  c.padded (bytesOf (start ++ filling ++ digits))

def whole (c : Conversion) (letter : Char) (n : Int) : List UInt8 :=
  let base := if letter = 'x' || letter = 'X' then 16 else if letter = 'o' then 8 else 10
  let digits := Text.ofChars (Nat.toDigits base n.natAbs)
  -- Zero without any digits asked for is written as nothing.
  let digits := if c.precision = some 0 && n = 0 then [] else digits
  let digits := List.replicate (c.precision.getD 1 - digits.length) (.char '0') ++ digits
  let digits := if c.other && letter = 'o' && !Text.startsWith digits "0" then .char '0' :: digits
    else digits
  let start : Text :=
    if n < 0 then "-"
    else if letter = 'd' || letter = 'i' then c.plus
    else if c.other && base = 16 && n ≠ 0 then "0x"
    else []
  let upper (t : Text) : Text :=
    if letter = 'X' then t.map fun
      | .char c => .char c.toUpper
      | c => c
    else t
  c.paddedNumber (c.zeros && c.precision.isNone) (upper start) (upper digits)

def real (c : Conversion) (letter : Char) (x : Binary64) : List UInt8 :=
  let count := c.precision.getD 6
  let places : Places :=
    match letter.toLower with
    | 'e' => .scaled count
    | 'g' => .significant count
    | _ => .fixed count
  let (negative, digits, finite) : Bool × List Char × Bool :=
    match x.value with
    | .finite negative significand exponent =>
        let (num, den) := Binary64.ratio significand exponent
        (negative, places.text c.other num den, true)
    | .infinite negative => (negative, ['i', 'n', 'f'], false)
    | .notANumber => (x.negative, ['n', 'a', 'n'], false)
  let digits := if letter = letter.toUpper then digits.map Char.toUpper else digits
  c.paddedNumber (c.zeros && finite) (if negative then "-" else c.plus) (Text.ofChars digits)

def converted (c : Conversion) (letter : Char) (argument : Option Text) : Printed :=
  let t := argument.getD []
  let limited (bytes : List UInt8) : List UInt8 :=
    match c.precision with
    | some n => bytes.take n
    | none => bytes
  if letter = 's' then .ofBytes (c.padded (limited (bytesOf t)))
  else if letter = 'b' then
    let (bytes, cut) := unescaped (t.length + 1) t
    ⟨c.padded (limited bytes), [], if cut then some .cut else none⟩
  else if letter = 'c' then .ofBytes (c.padded [(bytesOf t).headD 0])
  else if letter = 'd' || letter = 'i' then
    let (n, complaints) := wholeArgument smallestSigned largestSigned t
    ⟨c.whole letter n, complaints, none⟩
  else if isOneOf "ouxX" (.char letter) then
    let (n, complaints) := wholeArgument (-largestUnsigned) largestUnsigned t
    ⟨c.whole letter (n % (largestUnsigned + 1)), complaints, none⟩
  else
    let (x, complaints) := realArgument t
    ⟨c.real letter x, complaints, none⟩

end Conversion

/-- What a format prints once, with the arguments that are left and whether it took any. -/
def formatOnce : Nat → Text → List Text → Bool → Printed × List Text × Bool
  | 0, _, arguments, took => (.empty, arguments, took)
  | _, [], arguments, took => (.empty, arguments, took)
  | fuel + 1, .char '\\' :: rest, arguments, took =>
      let (bytes, behind) := escaped rest
      let (more, left, took) := formatOnce fuel behind arguments took
      (Printed.andThen (.ofBytes bytes) more, left, took)
  | fuel + 1, .char '%' :: .char '%' :: rest, arguments, took =>
      let (more, left, took) := formatOnce fuel rest arguments took
      (Printed.andThen (.ofBytes [0x25]) more, left, took)
  | fuel + 1, .char '%' :: rest, arguments, took =>
      match conversion rest arguments with
      | (settings, .char letter :: behind, arguments, complaints) =>
          if isOneOf "sbcdiouxXeEfFgG" (.char letter) then
            let first := settings.converted letter arguments.head?
            let first := { first with complaints := complaints ++ first.complaints }
            let (more, left, _) := formatOnce fuel behind (arguments.drop 1) true
            (first.andThen more, left, true)
          else
            let shown := rest.take (rest.length - behind.length)
            (.fail (.char '%' :: shown ++ Text.ofString ": invalid directive"), arguments, took)
      | (_, [], _, _) => (.fail "missing format character", arguments, took)
      | (_, c :: _, _, _) =>
          (.fail (.char '%' :: c :: Text.ofString ": invalid directive"), arguments, took)
  | fuel + 1, c :: rest, arguments, took =>
      let (more, left, took) := formatOnce fuel rest arguments took
      (Printed.andThen (.ofBytes (bytesOf [c])) more, left, took)

def formatAll (format : Text) : Nat → List Text → Printed
  | 0, _ => .empty
  | fuel + 1, arguments =>
      match formatOnce (format.length + 1) format arguments false with
      | (printed, left, took) =>
          if took && !left.isEmpty then printed.andThen (formatAll format fuel left) else printed

def format (format : Text) (arguments : List Text) : Printed :=
  formatAll format (arguments.length + 1) arguments

end Shell

end FenceCheck
