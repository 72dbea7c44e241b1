import FenceCheck.Number.Binary64

/-!
The shortest decimal that reads back as a given number, and the number's texts: positional between
1e-4 and 1e16, with an exponent outside, and with a fixed count of places for reports.
-/

namespace FenceCheck

namespace Binary64

/-- The decimal `digits * 10 ^ exponent`. -/
structure Decimal where
  digits : Nat
  exponent : Int
  deriving DecidableEq, Repr

/-- The real numbers that round to a number: `low / den` to `high / den`, around `mid / den`; the
ends belong to it or not. -/
structure Interval where
  low : Nat
  mid : Nat
  high : Nat
  den : Nat
  closed : Bool
  deriving DecidableEq, Repr

/-- Below a power of two the neighbours are half as far apart as above it. -/
def interval (significand : Nat) (exponent : Int) : Interval :=
  let narrow := significand = twoTo 52 ∧ exponent > -1074
  let (unit, den) := ratio 1 (exponent - 2)
  { low := (4 * significand - (if narrow then 1 else 2)) * unit
    mid := 4 * significand * unit
    high := (4 * significand + 2) * unit
    den
    closed := significand % 2 = 0 }

/-- Whether `digits * 10 ^ exponent` lies in the interval. -/
def Interval.holds (i : Interval) (d : Decimal) : Bool :=
  let (up, down) := match d.exponent with
    | .ofNat e => (tenTo e, 1)
    | .negSucc e => (1, tenTo (e + 1))
  let point := d.digits * up * i.den
  if i.closed then i.low * down ≤ point && point ≤ i.high * down
  else i.low * down < point && point < i.high * down

/-- The point of a decimal grid at or below the middle of the interval, and whether the next one
comes before it: if it is nearer, or as near and even. -/
def Interval.below (i : Interval) (exponent : Int) : Nat × Bool :=
  let (num, den) := match exponent with
    | .ofNat e => (i.mid, i.den * tenTo e)
    | .negSucc e => (i.mid * tenTo (e + 1), i.den)
  (num / den, 2 * (num % den) > den || 2 * (num % den) = den && num / den % 2 = 1)

/-- The point of one grid that reads back; of two the nearer one, and the even one of a tie. -/
def Interval.onGrid? (i : Interval) (exponent : Int) : Option Decimal :=
  let (low, upperFirst) := i.below exponent
  let first : Decimal := ⟨if upperFirst then low + 1 else low, exponent⟩
  let second : Decimal := ⟨if upperFirst then low else low + 1, exponent⟩
  if i.holds first && first.digits ≠ 0 then some first
  else if i.holds second && second.digits ≠ 0 then some second
  else none

/-- The coarsest of `count` grids, each ten times finer than the one before, that has a point in
the interval. -/
def Interval.search (i : Interval) : Nat → Int → Decimal
  | 0, exponent => ⟨(i.below exponent).1, exponent⟩
  | count + 1, exponent => (i.onGrid? exponent).getD (i.search count (exponent - 1))

/-- Trailing zeros move from the digits into the exponent. -/
def Decimal.trimmed (d : Decimal) : Nat → Decimal
  | 0 => d
  | fuel + 1 =>
      if d.digits ≠ 0 ∧ d.digits % 10 = 0 then
        Decimal.trimmed ⟨d.digits / 10, d.exponent + 1⟩ fuel
      else d

/-- The largest power of ten that is at most `num / den`, found from above. -/
def powerOfTen (num den : Nat) : Int :=
  let places : Int := (Nat.toDigits 10 num).length - (Nat.toDigits 10 den).length
  let atMost : Bool := match places with
    | .ofNat e => den * tenTo e ≤ num
    | .negSucc e => den ≤ num * tenTo (e + 1)
  if atMost then places else places - 1

/-- The shortest decimal of a finite number that is not zero. -/
def shortest (significand : Nat) (exponent : Int) : Decimal :=
  let i := interval significand exponent
  (i.search 17 (powerOfTen i.mid i.den)).trimmed 20

/-- Digits with a point after `places` of them, zeros filling both sides. -/
def positional (digits : List Char) (point : Int) : List Char :=
  match point with
  | .ofNat p =>
      if digits.length ≤ p then digits ++ List.replicate (p - digits.length) '0' ++ ['.', '0']
      else
        (if p = 0 then ['0'] else digits.take p) ++ '.' :: digits.drop p
  | .negSucc p => '0' :: '.' :: List.replicate (p + 1) '0' ++ digits

def scientific (digits : List Char) (exponent : Int) : List Char :=
  let power := Nat.toDigits 10 exponent.natAbs
  let mantissa := match digits with
    | first :: more@(_ :: _) => first :: '.' :: more
    | single => single
  mantissa ++ 'e' :: (if exponent < 0 then '-' else '+') ::
    (if power.length < 2 then '0' :: power else power)

/-- The text of a number: the shortest digits that read back, positional where the point falls
less than four zeros before or at most sixteen digits into them. -/
def toText (x : Binary64) : Text :=
  let signed (negative : Bool) (body : List Char) : Text :=
    Text.ofChars (if negative then '-' :: body else body)
  match x.value with
  | .notANumber => "nan"
  | .infinite negative => signed negative ['i', 'n', 'f']
  | .finite negative significand exponent =>
      if significand = 0 then signed negative ['0', '.', '0']
      else
        let d := shortest significand exponent
        let digits := Nat.toDigits 10 d.digits
        let point := digits.length + d.exponent
        signed negative
          (if -4 < point ∧ point ≤ 16 then positional digits point
           else scientific digits (point - 1))

/-- A finite number with six places after the point, rounded from its exact value. -/
def sixPlaces (x : Binary64) : Text :=
  match x.value with
  | .finite negative significand exponent =>
      let (num, den) := ratio significand exponent
      let millionths := roundHalfEven (num * tenTo 6) den
      (if negative then [.char '-'] else []) ++ Text.ofNat (millionths / tenTo 6) ++
        .char '.' :: Text.zeroPadded 6 (Text.ofNat (millionths % tenTo 6))
  | _ => x.toText

end Binary64

end FenceCheck
