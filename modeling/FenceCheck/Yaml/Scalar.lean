import FenceCheck.Datum.Calendar
import FenceCheck.Datum.Shown
import FenceCheck.Text.LowerCase
import FenceCheck.Text.Numeral
import FenceCheck.Yaml.Cursor
import FenceCheck.Yaml.Plain

/-!
The values of scalars by their tags. A tag may be given to a text that does not look like a value of
its kind; what a text stands for is more than what a plain scalar may look like, and where it stands
for nothing there are faults of several kinds.
-/

namespace FenceCheck

namespace Yaml

def refuse (fault : ScalarFault) : Except Fault α := .error (.scalar fault)

def withoutUnderscores (t : Text) : Text := t.filter (· ≠ .char '_')

/-- The sign of a number, which has to have one character at least, and the text behind it. -/
def signed (t : Text) : Except Fault (Bool × Text) :=
  if t.isEmpty then refuse .noCharacters else .ok (Integer.signOf t)

def ofNumeral (base : Nat) (t : Text) : Except Fault Int :=
  match Integer.ofNumeral base t with
  | .ok n => .ok n
  | .error .malformed => refuse (.notInteger base t)
  | .error (.tooLong digits) => refuse (.longInteger digits)

/-- Whole parts in base sixty, the last counting ones. -/
def ofSixtieths (parts : List Int) : Int := parts.foldl (fun n part => n * 60 + part) 0

def intOf (t : Text) : Except Fault Int := do
  let (negative, body) ← signed (withoutUnderscores t)
  let n : Int ←
    match body with
    | [] => refuse .noCharacters
    | [.char '0'] => .ok 0
    | .char '0' :: .char 'b' :: rest => ofNumeral 2 rest
    | .char '0' :: .char 'x' :: rest => ofNumeral 16 rest
    | .char '0' :: _ => ofNumeral 8 body
    | _ =>
        if .char ':' ∈ body then do
          pure (ofSixtieths (← (Text.splitAt (.char ':') body).mapM (ofNumeral 10)))
        else ofNumeral 10 body
  return if negative then -n else n

def nonFinite : List (Text × Binary64) :=
  [("inf", .infinity false), ("infinity", .infinity false), ("nan", .notANumber)]

def decimal? (t : Text) : Option Binary64 := do
  let digitsOf (t : Text) : List Nat :=
    (t.takeWhile fun c => c.decimalDigit?.isSome).filterMap CodePoint.decimalDigit?
  let whole := digitsOf t
  let afterWhole := t.drop whole.length
  let (fraction, afterFraction) := match afterWhole with
    | .char '.' :: rest => (digitsOf rest, rest.drop (digitsOf rest).length)
    | _ => ([], afterWhole)
  let n := Integer.ofDigits (whole ++ fraction)
  if whole.isEmpty && fraction.isEmpty then none
  else
    match afterFraction with
    | [] => some (Binary64.ofDecimal false n (-(fraction.length : Int)))
    | .char 'e' :: rest =>
        let (negative, power) := Integer.signOf rest
        let digits := digitsOf power
        if digits.isEmpty || digits.length ≠ power.length then none
        else
          let e : Int := Integer.ofDigits digits
          some (Binary64.ofDecimal false n ((if negative then -e else e) - fraction.length))
    | _ => none

/-- The number with its sign turned; what is no number has none. -/
def withSign (negative : Bool) (x : Binary64) : Binary64 :=
  if negative ∧ x ≠ Binary64.notANumber then x.neg else x

/-- The floating-point number that a text in lower case denotes, blanks around it left aside. -/
def floatPart (t : Text) : Except Fault Binary64 :=
  let (negative, body) := Integer.signOf (Integer.trimmed t)
  match (nonFinite.lookup body).or (decimal? body) with
  | some x => .ok (withSign negative x)
  | none => refuse (.notFloat t)

/-- Parts in base sixty, added from the last, which counts ones. The weight of every part has to be
a number itself. -/
def ofFloatSixtieths (parts : List Binary64) : Except Fault Binary64 := do
  let (sum, _) ← parts.reverse.foldlM
    (fun (state : Binary64 × Nat) part =>
      match Binary64.ofInt? state.2 with
      | some weight => pure (state.1.add (part.mul weight), state.2 * 60)
      | none => refuse .weightTooLarge)
    (Binary64.zero false, 1)
  return sum

def floatOf (t : Text) : Except Fault Binary64 := do
  let (negative, body) ← signed (Text.lower (withoutUnderscores t))
  if body = Text.ofString ".nan" then return .notANumber
  let x ←
    if body = Text.ofString ".inf" then .ok (Binary64.infinity false)
    else if .char ':' ∈ body then do
      ofFloatSixtieths (← (Text.splitAt (.char ':') body).mapM floatPart)
    else floatPart body
  return withSign negative x

def boolWords : List (String × Bool) :=
  [("yes", true), ("no", false), ("true", true), ("false", false), ("on", true), ("off", false)]

def boolOf (t : Text) : Except Fault Bool :=
  match boolWords.find? fun word => Text.ofString word.1 = Text.lower t with
  | some word => .ok word.2
  | none => refuse (.unknownName (Text.lower t))

def numberAt (t : Text) : Nat × Text :=
  (Integer.ofDigits ((t.takeWhile isDigit).map (·.val - 48)), t.dropWhile isDigit)

/-- The offset that a zone stands for, in seconds. -/
def zoneOffset (t : Text) : Except Fault (Option Int) :=
  match t.dropWhile blank with
  | [] => .ok none
  | .char 'Z' :: _ => .ok (some 0)
  | c :: rest =>
      let (hours, afterHours) := numberAt rest
      let (minutes, _) := numberAt (afterHours.drop 1)
      let seconds : Int := hours * 3600 + minutes * 60
      let offset := if c = .char '-' then -seconds else seconds
      if seconds < 86400 then .ok (some offset)
      else
        refuse (.noSuchMoment (Text.ofString
          "offset must be a timedelta strictly between -timedelta(hours=24) and " ++
          Text.ofString "timedelta(hours=24), not " ++ Moment.shownSpan offset ++ Text.ofString "."))

def isDate (t : Text) : Bool :=
  isWhole ([digit, digit, digit, digit, .literal "-"] ++ oneOrTwoDigits ++ [.literal "-"] ++
    oneOrTwoDigits) t

def demandMoment (reason : Option Text) : Except Fault Unit :=
  match reason with
  | some reason => refuse (.noSuchMoment reason)
  | none => .ok ()

def momentOf (t : Text) : Except Fault Moment := do
  let form := judged t
  if !isDate form && !isDateTime form then refuse .notMoment
  let (year, rest) := numberAt form
  let (month, rest) := numberAt (rest.drop 1)
  let (day, rest) := numberAt (rest.drop 1)
  if rest.isEmpty then
    demandMoment (Calendar.dateFault? year month day)
    return .date year month day
  let (hour, rest) := numberAt (rest.dropWhile fun c => !isDigit c)
  let (minute, rest) := numberAt (rest.drop 1)
  let (second, rest) := numberAt (rest.drop 1)
  let (micro, rest) : Nat × Text := match rest with
    | .char '.' :: more =>
        (Calendar.microseconds ((more.takeWhile isDigit).map (·.val - 48)), more.dropWhile isDigit)
    | _ => (0, rest)
  -- The zone is looked at before the calendar is asked whether the moment exists.
  let offset ← zoneOffset rest
  demandMoment ((Calendar.dateFault? year month day).or (Calendar.timeFault? hour minute second))
  return .dateTime year month day hour minute second micro offset

def base64Digit? : CodePoint → Option Nat
  | .char c =>
      if 'A' ≤ c ∧ c ≤ 'Z' then some (c.toNat - 65)
      else if 'a' ≤ c ∧ c ≤ 'z' then some (c.toNat - 71)
      else if c.isDigit then some (c.toNat + 4)
      else if c = '+' then some 62
      else if c = '/' then some 63
      else none
  | .surrogate _ => none

/-- The digits up to the padding that ends them, and whether such padding came. Signs of padding
end a group of four only behind two digits of it and if they fill it up; `pads` of them were read
in a row behind `count` digits. What is neither digit nor padding is passed over. -/
def base64Digits (count pads : Nat) : Text → List Nat × Bool
  | [] => ([], false)
  | c :: rest =>
      if c = .char '=' then
        if count % 4 < 2 then base64Digits count pads rest
        else if count % 4 + pads + 1 < 4 then base64Digits count (pads + 1) rest
        else ([], true)
      else
        match base64Digit? c with
        | none => base64Digits count pads rest
        | some d =>
            let (digits, padded) := base64Digits (count + 1) 0 rest
            (d :: digits, padded)

def base64Bytes : List Nat → List UInt8
  | [] => []
  | [_] => []
  | [a, b] => [UInt8.ofNat (a * 4 + b / 16)]
  | [a, b, c] => [UInt8.ofNat (a * 4 + b / 16), UInt8.ofNat (b % 16 * 16 + c / 4)]
  | a :: b :: c :: d :: rest =>
      UInt8.ofNat (a * 4 + b / 16) :: UInt8.ofNat (b % 16 * 16 + c / 4) ::
        UInt8.ofNat (c % 4 * 64 + d) :: base64Bytes rest

/-- The bytes that a scalar in base 64 denotes. Digits that are no group of four need padding. -/
def bytesOf (t : Text) : Except Fault (List UInt8) := do
  demand (t.all fun c => c.val < 0x80)
  let (digits, padded) := base64Digits 0 0 t
  demand (padded || digits.length % 4 = 0)
  return base64Bytes digits

def scalarValue (tag : List Char) (t : Text) : Except Fault Datum :=
  if tag = stringTag then .ok (.text t)
  else if tag = nullTag then .ok .null
  else if tag = boolTag then (boolOf t).map .bool
  else if tag = intTag then (intOf t).map .int
  else if tag = floatTag then (floatOf t).map .float
  else if tag = timestampTag then (momentOf t).map .moment
  else if tag = coreTag "binary" then (bytesOf t).map .bytes
  else .error .malformed

end Yaml

end FenceCheck
