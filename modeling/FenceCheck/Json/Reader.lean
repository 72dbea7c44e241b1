import FenceCheck.Json.Basic
import FenceCheck.Text.Digit
import FenceCheck.Text.Hex

/-!
Reading JSON. Beside the standard's values the names `NaN`, `Infinity` and `-Infinity` are numbers.
A fault says what was wrong and how much of the text was still unread there.
-/

namespace FenceCheck

namespace Json

inductive FaultKind where
  | byteOrderMark
  | expectedValue
  | expectedName
  | expectedColon
  | expectedComma
  | extraData
  | unterminatedString
  | controlCharacter
  | badEscape
  | badUnicodeEscape
  | longInteger (digits : Nat)
  | deepList
  | deepObject
  deriving DecidableEq, Repr

structure Fault where
  kind : FaultKind
  unread : Nat
  deriving DecidableEq, Repr

/-- Texts that a fault is reported with; an integer that is too long is refused as a number, after
it was accepted as JSON, and so are containers that are too deep in one another. -/
def FaultKind.description : FaultKind → Text
  | byteOrderMark => "Unexpected UTF-8 BOM (decode using utf-8-sig)"
  | expectedValue => "Expecting value"
  | expectedName => "Expecting property name enclosed in double quotes"
  | expectedColon => "Expecting ':' delimiter"
  | expectedComma => "Expecting ',' delimiter"
  | extraData => "Extra data"
  | unterminatedString => "Unterminated string starting at"
  | controlCharacter => "Invalid control character at"
  | badEscape => "Invalid \\escape"
  | badUnicodeEscape => "Invalid \\uXXXX escape"
  | longInteger digits =>
      Text.ofString "Exceeds the limit (" ++ Text.ofNat Integer.digitLimit ++
        Text.ofString " digits) for integer string conversion: value has " ++ Text.ofNat digits ++
        Text.ofString " digits; use sys.set_int_max_str_digits() to increase the limit"
  | deepList =>
      "maximum recursion depth exceeded while decoding a JSON array from a unicode string"
  | deepObject =>
      "maximum recursion depth exceeded while decoding a JSON object from a unicode string"

/-- Whether a fault is one of syntax, so that a reader of several candidates may go on. -/
def FaultKind.isSyntax : FaultKind → Bool
  | longInteger _ => false
  | deepList => false
  | deepObject => false
  | _ => true

/-- The message about a fault in `t`: lines and columns count from one, characters from zero. -/
def Fault.message (t : Text) (fault : Fault) : Text :=
  if !fault.kind.isSyntax then fault.kind.description
  else
    let position := t.length - fault.unread
    let before := t.take position
    let column := (before.reverse.takeWhile (· ≠ .char '\n')).length + 1
    fault.kind.description ++ Text.ofString ": line " ++
      Text.ofNat (before.count (.char '\n') + 1) ++ Text.ofString " column " ++
      Text.ofNat column ++ Text.ofString " (char " ++ Text.ofNat position ++ Text.ofString ")"

def Fault.isSyntax (fault : Fault) : Bool := fault.kind.isSyntax

def isSpace (c : CodePoint) : Bool :=
  c = .char ' ' || c = .char '\t' || c = .char '\n' || c = .char '\r'

def skipSpace (t : Text) : Text := t.dropWhile isSpace

def hexDigit? : CodePoint → Option Nat
  | .char c => Hex.value? c
  | .surrogate _ => none

def hexUnit? (a b c d : CodePoint) : Option Nat := do
  let a ← hexDigit? a
  let b ← hexDigit? b
  let c ← hexDigit? c
  let d ← hexDigit? d
  return ((a * 16 + b) * 16 + c) * 16 + d

def simpleEscape? : CodePoint → Option CodePoint
  | .char '\x22' => some (.char '\x22')
  | .char '\\' => some (.char '\\')
  | .char '/' => some (.char '/')
  | .char 'b' => some (.char '\x08')
  | .char 'f' => some (.char '\x0C')
  | .char 'n' => some (.char '\n')
  | .char 'r' => some (.char '\r')
  | .char 't' => some (.char '\t')
  | _ => none

def isHighSurrogate (unit : Nat) : Bool := 0xD800 ≤ unit && unit < 0xDC00

def isLowSurrogate (unit : Nat) : Bool := 0xDC00 ≤ unit && unit < 0xE000

def ofUnit (unit : Nat) : CodePoint := (CodePoint.ofVal? unit).getD .replacement

/-- The character that two halves denote together. -/
def ofPair (high low : Nat) : CodePoint :=
  ofUnit (0x10000 + (high - 0xD800) * 0x400 + (low - 0xDC00))

inductive StringPart where
  | plain (c : CodePoint)
  | unit (n : Nat)
  deriving DecidableEq, Repr

/-- The text of string parts, after a first half of a character that still waits for its second.
Two halves in a row, both given by number, are joined; any other half stands alone. -/
def joinParts : Option Nat → List StringPart → Text
  | none, [] => []
  | some high, [] => [ofUnit high]
  | none, .plain c :: rest => c :: joinParts none rest
  | some high, .plain c :: rest => ofUnit high :: c :: joinParts none rest
  | none, .unit n :: rest =>
      if isHighSurrogate n then joinParts (some n) rest else ofUnit n :: joinParts none rest
  | some high, .unit n :: rest =>
      if isLowSurrogate n then ofPair high n :: joinParts none rest
      else
        ofUnit high ::
          -- No second half came, so the waiting half stands alone and this part is looked at anew.
          if isHighSurrogate n then joinParts (some n) rest else ofUnit n :: joinParts none rest

def consPart (part : StringPart) :
    Except Fault (List StringPart × Text) → Except Fault (List StringPart × Text)
  | .ok (parts, rest) => .ok (part :: parts, rest)
  | .error fault => .error fault

/-- The parts of a string up to its closing quote; its opening quote had `opening` code points from
it to the end. An escape by number needs four digits and something after them. -/
def stringParts (opening : Nat) : Text → Except Fault (List StringPart × Text)
  | [] => .error ⟨.unterminatedString, opening⟩
  | .char '\x22' :: rest => .ok ([], rest)
  | .char '\\' :: [] => .error ⟨.unterminatedString, opening⟩
  | .char '\\' :: .char 'u' :: a :: b :: c :: d :: rest =>
      match hexUnit? a b c d, rest.isEmpty with
      | some n, false => consPart (.unit n) (stringParts opening rest)
      -- A fault is placed by the number of code points from it to the end.
      | _, _ => .error ⟨.badUnicodeEscape, rest.length + 5⟩
  | .char '\\' :: .char 'u' :: rest => .error ⟨.badUnicodeEscape, rest.length + 1⟩
  | .char '\\' :: c :: rest =>
      match simpleEscape? c with
      | some meant => consPart (.plain meant) (stringParts opening rest)
      | none => .error ⟨.badEscape, rest.length + 2⟩
  | c :: rest =>
      if c.val < 0x20 then .error ⟨.controlCharacter, rest.length + 1⟩
      else consPart (.plain c) (stringParts opening rest)

def stringBody (opening : Nat) (t : Text) : Except Fault (Text × Text) :=
  match stringParts opening t with
  | .ok (parts, rest) => .ok (joinParts none parts, rest)
  | .error fault => .error fault

def isDigit : CodePoint → Bool
  | .char c => c.isDigit
  | .surrogate _ => false

def digitValues (digits : Text) : List Nat := digits.map (·.val - 48)

structure NumberText where
  negative : Bool
  whole : Text
  fraction : Text
  exponent : Option Int
  isFloat : Bool

def readFraction : Text → Option (Text × Text)
  | .char '.' :: rest =>
      if (rest.takeWhile isDigit).isEmpty then none
      else some (rest.takeWhile isDigit, rest.dropWhile isDigit)
  | _ => none

def readExponent : Text → Option (Int × Text)
  | .char mark :: rest =>
      if mark = 'e' ∨ mark = 'E' then
        let (negative, digits) := match rest with
          | .char '-' :: more => (true, more)
          | .char '+' :: more => (false, more)
          | _ => (false, rest)
        let power := digits.takeWhile isDigit
        if power.isEmpty then none
        else
          let n : Nat := Integer.ofDigits (digitValues power)
          some (if negative then -(n : Int) else n, digits.dropWhile isDigit)
      else none
  | _ => none

/-- A number at the start of a text. A zero is a whole part of its own. -/
def readNumber (t : Text) : Option (NumberText × Text) :=
  let (negative, body) := match t with
    | .char '-' :: more => (true, more)
    | _ => (false, t)
  let whole : Text := match body with
    | .char '0' :: _ => [.char '0']
    | _ => body.takeWhile isDigit
  if whole.isEmpty then none
  else
    let afterWhole := body.drop whole.length
    let (fraction, afterFraction) := (readFraction afterWhole).getD ([], afterWhole)
    let power := readExponent afterFraction
    let (exponent, rest) : Option Int × Text := match power with
      | some (n, rest) => (some n, rest)
      | none => (none, afterFraction)
    some ({ negative, whole, fraction, exponent
            isFloat := !fraction.isEmpty || power.isSome }, rest)

def NumberText.toJson (number : NumberText) : Except FaultKind Json :=
  if number.isFloat then
    let digits := Integer.ofDigits (digitValues (number.whole ++ number.fraction))
    .ok (.float (Binary64.ofDecimal number.negative digits
      (number.exponent.getD 0 - number.fraction.length)))
  else if number.whole.length > Integer.digitLimit then .error (.longInteger number.whole.length)
  else
    let n := Integer.ofDigits (digitValues number.whole)
    .ok (.int (if number.negative then -(n : Int) else n))

def constants : List (Text × Json) :=
  [("null", .null), ("true", .bool true), ("false", .bool false), ("NaN", .float .notANumber),
   ("Infinity", .float (.infinity false)), ("-Infinity", .float (.infinity true))]

def readAtom (t : Text) : Except Fault (Json × Text) :=
  match constants.findSome? fun entry => (Text.dropStart? t entry.1).map (entry.2, ·) with
  | some read => .ok read
  | none =>
      match readNumber t with
      | none => .error ⟨.expectedValue, t.length⟩
      | some (number, rest) =>
          match number.toJson with
          | .ok value => .ok (value, rest)
          | .error kind => .error ⟨kind, t.length⟩

mutual

/-- A value at the start of a text, in which at most `room` containers stand in one another. Every
call uses one unit of `fuel` and reads at least one code point or hands on to one that does, so twice
the length of the text is enough. -/
def readValue (room : Nat) : Nat → Text → Except Fault (Json × Text)
  | 0, t => .error ⟨.expectedValue, t.length⟩
  | fuel + 1, t =>
      match t with
      | .char '\x22' :: rest =>
          match stringBody t.length rest with
          | .ok (s, rest) => .ok (.str s, rest)
          | .error fault => .error fault
      | .char '[' :: rest =>
          if room = 0 then .error ⟨.deepList, t.length⟩ else
          match skipSpace rest with
          | .char ']' :: rest => .ok (.list [], rest)
          | rest =>
              match readItems (room - 1) fuel rest with
              | .ok (items, rest) => .ok (.list items, rest)
              | .error fault => .error fault
      | .char '\x7b' :: rest =>
          if room = 0 then .error ⟨.deepObject, t.length⟩ else
          match skipSpace rest with
          | .char '\x7d' :: rest => .ok (.object [], rest)
          | rest =>
              match readMembers (room - 1) fuel rest with
              | .ok (members, rest) => .ok (.object (Fields.ofMembers members), rest)
              | .error fault => .error fault
      | _ => readAtom t
  termination_by structural fuel => fuel

def readItems (room : Nat) : Nat → Text → Except Fault (List Json × Text)
  | 0, t => .error ⟨.expectedValue, t.length⟩
  | fuel + 1, t =>
      match readValue room fuel t with
      | .error fault => .error fault
      | .ok (item, rest) =>
          match skipSpace rest with
          | .char ']' :: rest => .ok ([item], rest)
          | .char ',' :: rest =>
              match readItems room fuel (skipSpace rest) with
              | .ok (items, rest) => .ok (item :: items, rest)
              | .error fault => .error fault
          | rest => .error ⟨.expectedComma, rest.length⟩
  termination_by structural fuel => fuel

def readMembers (room : Nat) : Nat → Text → Except Fault (List (Text × Json) × Text)
  | 0, t => .error ⟨.expectedValue, t.length⟩
  | fuel + 1, t =>
      match t with
      | .char '\x22' :: rest =>
          match stringBody t.length rest with
          | .error fault => .error fault
          | .ok (name, rest) =>
              match skipSpace rest with
              | .char ':' :: rest =>
                  match readValue room fuel (skipSpace rest) with
                  | .error fault => .error fault
                  | .ok (value, rest) =>
                      match skipSpace rest with
                      | .char '\x7d' :: rest => .ok ([(name, value)], rest)
                      | .char ',' :: rest =>
                          match readMembers room fuel (skipSpace rest) with
                          | .ok (members, rest) => .ok ((name, value) :: members, rest)
                          | .error fault => .error fault
                      | rest => .error ⟨.expectedComma, rest.length⟩
              | rest => .error ⟨.expectedColon, rest.length⟩
      | rest => .error ⟨.expectedName, rest.length⟩
  termination_by structural fuel => fuel

end

/-- The most containers in one another that are followed. -/
def nestingLimit : Nat := 975

/-- The value that a whole text denotes. -/
def read (t : Text) : Except Fault Json :=
  match t with
  | .char '\uFEFF' :: _ => .error ⟨.byteOrderMark, t.length⟩
  | _ =>
      match readValue nestingLimit (2 * t.length + 2) (skipSpace t) with
      | .error fault => .error fault
      | .ok (value, rest) =>
          match skipSpace rest with
          | [] => .ok value
          | rest => .error ⟨.extraData, rest.length⟩

end Json

end FenceCheck
