import FenceCheck.Number.Shortest

/-!
Numbers with a given count of digits: places after the point, or digits before an exponent. They are
rounded once, from the exact value, with ties to the even digit.
-/

namespace FenceCheck

inductive Places where
  | fixed (count : Nat)
  /-- One digit before the point, places after it, and an exponent. -/
  | scaled (count : Nat)
  /-- Significant digits, with an exponent where the number is very small or has more digits. -/
  | significant (count : Nat)
  deriving DecidableEq, Repr

namespace Places

/-- The nearest whole number to `num / den` in units of `10 ^ exponent`. -/
def unitsOf (num den : Nat) : Int → Nat
  | .ofNat e => Binary64.roundHalfEven num (den * tenTo e)
  | .negSucc e => Binary64.roundHalfEven (num * tenTo (e + 1)) den

/-- The digits of a number with a count of places after the first one, and the exponent of that
one. -/
def scaledDigits (num den count : Nat) : List Char × Int :=
  if num = 0 then (List.replicate (count + 1) '0', 0)
  else
    let power := Binary64.powerOfTen num den
    let digits := Nat.toDigits 10 (unitsOf num den (power - count))
    if digits.length = count + 2 then (digits.dropLast, power + 1) else (digits, power)

/-- Digits with a point before the last ones, which is left out if nothing follows it. -/
def pointed (always : Bool) (whole places : List Char) : List Char :=
  if places.isEmpty && !always then whole else whole ++ '.' :: places

def fixedText (always : Bool) (num den count : Nat) : List Char :=
  let digits := Nat.toDigits 10 (unitsOf num den (-(count : Int)))
  let digits := List.replicate (count + 1 - digits.length) '0' ++ digits
  pointed always (digits.take (digits.length - count)) (digits.drop (digits.length - count))

def exponentText (exponent : Int) : List Char :=
  let digits := Nat.toDigits 10 exponent.natAbs
  'e' :: (if exponent < 0 then '-' else '+') ::
    (List.replicate (2 - digits.length) '0' ++ digits)

def dropZeros (digits : List Char) : List Char := (digits.reverse.dropWhile (· = '0')).reverse

/-- The digits of the amount `num / den`. `full` keeps the point and the zeros at the end. -/
def text (full : Bool) (num den : Nat) : Places → List Char
  | fixed count => fixedText full num den count
  | scaled count =>
      let (digits, exponent) := scaledDigits num den count
      pointed full (digits.take 1) (digits.drop 1) ++ exponentText exponent
  | significant count =>
      let count := max count 1
      let (digits, exponent) := scaledDigits num den (count - 1)
      let kept (places : List Char) : List Char := if full then places else dropZeros places
      if -4 ≤ exponent && exponent < count then
        let places := (count - 1 - exponent).toNat
        let shown := fixedText true num den places
        pointed full (shown.takeWhile (· ≠ '.')) (kept ((shown.dropWhile (· ≠ '.')).drop 1))
      else pointed full (digits.take 1) (kept (digits.drop 1)) ++ exponentText exponent

end Places

end FenceCheck
