import FenceCheck.Text.Pattern

/-!
Plain scalars. Their text alone tells what they are: a truth value, a number in one of several
notations, nothing, a moment, or else text.
-/

namespace FenceCheck

namespace Yaml

def coreTag (name : String) : List Char := ("tag:yaml.org,2002:" ++ name).toList

def nullTag : List Char := coreTag "null"
def boolTag : List Char := coreTag "bool"
def intTag : List Char := coreTag "int"
def floatTag : List Char := coreTag "float"
def mergeTag : List Char := coreTag "merge"
def valueTag : List Char := coreTag "value"
def timestampTag : List Char := coreTag "timestamp"
def yamlTag : List Char := coreTag "yaml"
def stringTag : List Char := coreTag "str"
def sequenceTag : List Char := coreTag "seq"
def mappingTag : List Char := coreTag "map"

def isDigit : CodePoint → Bool
  | .char c => c.isDigit
  | .surrogate _ => false

def isSpacedDigit (c : CodePoint) : Bool := isDigit c || c = .char '_'

def isSign (c : CodePoint) : Bool := c = .char '-' || c = .char '+'

def sign : Pattern := .optional (.one isSign)

def digits : Pattern := .seq (.one isDigit) (.many isSpacedDigit)

def isOneOf (chars : String) : CodePoint → Bool
  | .char c => chars.toList.contains c
  | .surrogate _ => false

def anyWord (words : List String) : Pattern := .anyOf (words.map fun word => Pattern.literal (Text.ofString word))

def isWhole (parts : List Pattern) (t : Text) : Bool :=
  ((Pattern.sequence (parts ++ [.textEnd])).match? (Cursor.start t)).isSome &&
    t.getLast? ≠ some (.char '\n')

def isBool : Text → Bool :=
  isWhole [anyWord ["yes", "Yes", "YES", "no", "No", "NO", "true", "True", "TRUE", "false", "False",
    "FALSE", "on", "On", "ON", "off", "Off", "OFF"]]

/-- A number in base sixty behind its first part: a colon and at most two digits each. -/
def isSixtieth (part : Text) : Bool :=
  match part with
  | [c] => isDigit c
  | [c, d] => isOneOf "012345" c && isDigit d
  | _ => false

def isSexagesimal (first : Text → Bool) (t : Text) : Bool :=
  let unsigned := match t with
    | c :: rest => if isSign c then rest else t
    | [] => t
  match Text.splitAt (.char ':') unsigned with
  | head :: next :: rest => first head && (next :: rest).all isSixtieth
  | _ => false

def exponent : Pattern :=
  .optional (.sequence [.one (isOneOf "eE"), .one isSign, .oneOrMore isDigit])

def isFloat (t : Text) : Bool :=
  isWhole [sign, digits, .literal ".", .many isSpacedDigit, exponent] t ||
  isWhole [.literal ".", digits, exponent] t ||
  (let whole := t.takeWhile (· ≠ .char '.')
   isSexagesimal (isWhole [digits]) whole &&
     isWhole [.literal ".", .many isSpacedDigit] (t.drop whole.length)) ||
  isWhole [sign, anyWord [".inf", ".Inf", ".INF"]] t ||
  isWhole [anyWord [".nan", ".NaN", ".NAN"]] t

def startsAtOne : List Pattern := [.one (isOneOf "123456789"), .many isSpacedDigit]

def isInt (t : Text) : Bool :=
  isWhole [sign, .literal "0b", .oneOrMore (isOneOf "01_")] t ||
  isWhole [sign, .literal "0", .oneOrMore (isOneOf "01234567_")] t ||
  isWhole [sign, .literal "0"] t ||
  isWhole (sign :: startsAtOne) t ||
  isWhole [sign, .literal "0x", .oneOrMore (isOneOf "0123456789abcdefABCDEF_")] t ||
  isSexagesimal (isWhole startsAtOne) t

def digit : Pattern := .one isDigit

def oneOrTwoDigits : List Pattern := [digit, .optional digit]

def blank : CodePoint → Bool := isOneOf " \t"

def zone : Pattern :=
  .optional (.seq (.many blank)
    (.either (.literal "Z")
      (.sequence ([.one isSign] ++ oneOrTwoDigits ++
        [.optional (.sequence [.literal ":", digit, digit])]))))

def isDateTime (t : Text) : Bool :=
  isWhole ([digit, digit, digit, digit, .literal "-"] ++ oneOrTwoDigits ++ [.literal "-"] ++
    oneOrTwoDigits ++ [.either (.one (isOneOf "Tt")) (.oneOrMore blank)] ++ oneOrTwoDigits ++
    [.literal ":", digit, digit, .literal ":", digit, digit,
     .optional (.seq (.literal ".") (.many isDigit)), zone]) t

/-- A date by itself has two digits for month and day. -/
def isTimestamp (t : Text) : Bool :=
  isWhole [digit, digit, digit, digit, .literal "-", digit, digit, .literal "-", digit, digit] t ||
  isDateTime t

/-- The text of a scalar as its form is judged: one line feed at its end does not count. -/
def judged (t : Text) : Text :=
  if t.getLast? = some (.char '\n') then t.dropLast else t

def tagWords : List (String × List Char) :=
  [("~", nullTag), ("null", nullTag), ("Null", nullTag), ("NULL", nullTag), ("<<", mergeTag),
   ("=", valueTag), ("!", yamlTag), ("&", yamlTag), ("*", yamlTag)]

def plainTag (t : Text) : List Char :=
  let form := judged t
  match tagWords.find? fun word => Text.ofString word.1 = form with
  | some word => word.2
  | none =>
      if t.isEmpty then nullTag
      else if isBool form then boolTag
      else if isFloat form then floatTag
      else if isInt form then intTag
      else if isTimestamp form then timestampTag
      else stringTag

end Yaml

end FenceCheck
