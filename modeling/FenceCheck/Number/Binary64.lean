import FenceCheck.Number.Power
import FenceCheck.Text.CodePoint

/-!
Floating-point numbers by their 64 bits. A finite one is a whole number of units `2 ^ exponent`;
arithmetic is done exactly on such values and rounded once, to the nearest number with ties to the
even one.
-/

namespace FenceCheck

structure Binary64 where
  bits : UInt64
  deriving DecidableEq, Repr, Inhabited

namespace Binary64

/-- A finite value is `significand * 2 ^ exponent`, negative or not. -/
inductive Value where
  | finite (negative : Bool) (significand : Nat) (exponent : Int)
  | infinite (negative : Bool)
  | notANumber
  deriving DecidableEq, Repr

def negative (x : Binary64) : Bool := x.bits.toNat ≥ twoTo 63

def value (x : Binary64) : Value :=
  let magnitude : Nat := x.bits.toNat % twoTo 63
  let biased : Nat := magnitude / twoTo 52
  let fraction : Nat := magnitude % twoTo 52
  if biased = 2047 then if fraction = 0 then .infinite x.negative else .notANumber
  else if biased = 0 then .finite x.negative fraction (-1074)
  else .finite x.negative (twoTo 52 + fraction) ((biased : Int) - 1075)

def ofMagnitude (negative : Bool) (magnitude : Nat) : Binary64 :=
  ⟨UInt64.ofNat ((if negative then twoTo 63 else 0) + magnitude)⟩

def infinity (negative : Bool) : Binary64 := ofMagnitude negative (2047 * twoTo 52)

def notANumber : Binary64 := ⟨0x7FF8000000000000⟩

def zero (negative : Bool) : Binary64 := ofMagnitude negative 0

/-- The nearest whole number to a quotient, the even one of two. -/
def roundHalfEven (num den : Nat) : Nat :=
  let low := num / den
  let rest := num % den
  if 2 * rest < den then low
  else if den < 2 * rest then low + 1
  else if low % 2 = 0 then low else low + 1

/-- `num / den` in units of `2 ^ exponent`, rounded. -/
def unitsOf (num den : Nat) (exponent : Int) : Nat :=
  match exponent with
  | .ofNat e => roundHalfEven num (den * twoTo e)
  | .negSucc e => roundHalfEven (num * twoTo (e + 1)) den

def ltPower (num den : Nat) (exponent : Int) : Bool :=
  match exponent with
  | .ofNat e => num < den * twoTo e
  | .negSucc e => num * twoTo (e + 1) < den

/-- The nearest number to `num / den`; past the largest finite one it is infinite. The bits of a
number are its significand, counted from the lowest binade, so a carry needs no care. -/
def ofRatio (negative : Bool) (num den : Nat) : Binary64 :=
  if num = 0 ∨ den = 0 then zero negative
  else
    let estimate : Int := (Nat.log2 num : Int) - Nat.log2 den
    let binade := if ltPower num den estimate then estimate - 1 else estimate
    let exponent := max (binade - 52) (-1074)
    let magnitude := (exponent + 1074).toNat * twoTo 52 + unitsOf num den exponent
    if magnitude ≥ 2047 * twoTo 52 then infinity negative else ofMagnitude negative magnitude

/-- The exact value `significand * 2 ^ exponent` as a fraction. -/
def ratio (significand : Nat) (exponent : Int) : Nat × Nat :=
  match exponent with
  | .ofNat e => (significand * twoTo e, 1)
  | .negSucc e => (significand, twoTo (e + 1))

def isFinite (x : Binary64) : Bool :=
  match x.value with
  | .finite .. => true
  | _ => false

def ofInt? (n : Int) : Option Binary64 :=
  let x := ofRatio (n < 0) n.natAbs 1
  if x.isFinite then some x else none

def toInt? (x : Binary64) : Option Int :=
  match x.value with
  | .finite negative significand exponent =>
      let (num, den) := ratio significand exponent
      if num % den = 0 then
        some (if negative then -((num / den : Nat) : Int) else (num / den : Nat))
      else none
  | _ => none

/-- Whether a number lies below an integer; a value that is no number lies below none. -/
def ltInt (x : Binary64) (n : Int) : Bool :=
  match x.value with
  | .finite negative significand exponent =>
      let (num, den) := ratio significand exponent
      (if negative then -(num : Int) else num) < n * den
  | .infinite negative => negative
  | .notANumber => false

def div (x y : Binary64) : Binary64 :=
  match x.value, y.value with
  | .finite nx mx ex, .finite ny my ey =>
      let (a, b) := ratio mx ex
      let (c, d) := ratio my ey
      ofRatio (nx != ny) (a * d) (b * c)
  | .infinite nx, .finite ny _ _ => infinity (nx != ny)
  | .finite nx _ _, .infinite ny => zero (nx != ny)
  | _, _ => notANumber

def mul (x y : Binary64) : Binary64 :=
  match x.value, y.value with
  | .finite nx mx ex, .finite ny my ey =>
      let (a, b) := ratio mx ex
      let (c, d) := ratio my ey
      ofRatio (nx != ny) (a * c) (b * d)
  | .infinite nx, .infinite ny => infinity (nx != ny)
  | .infinite nx, .finite ny m _ => if m = 0 then notANumber else infinity (nx != ny)
  | .finite nx m _, .infinite ny => if m = 0 then notANumber else infinity (nx != ny)
  | _, _ => notANumber

def neg (x : Binary64) : Binary64 := ⟨x.bits ^^^ 0x8000000000000000⟩

def add (x y : Binary64) : Binary64 :=
  match x.value, y.value with
  | .finite nx mx ex, .finite ny my ey =>
      let (a, b) := ratio mx ex
      let (c, d) := ratio my ey
      let signed (negative : Bool) (n : Nat) : Int := if negative then -(n : Int) else n
      let sum := signed nx (a * d) + signed ny (c * b)
      -- The sum is exact and rounded once; a zero is negative only if both summands are.
      if sum = 0 then zero (nx && ny) else ofRatio (sum < 0) sum.natAbs (b * d)
  | .infinite nx, .infinite ny => if nx = ny then x else notANumber
  | .infinite _, .finite .. => x
  | .finite .., .infinite _ => y
  | _, _ => notANumber

/-- The nearest number to `digits * 10 ^ exponent`. Exponents far outside the range of the type are
settled by the number of digits alone. -/
def ofDecimal (negative : Bool) (digits : Nat) (exponent : Int) : Binary64 :=
  let places : Int := (Nat.toDigits 10 digits).length
  if digits = 0 then zero negative
  else if exponent + places > 400 then infinity negative
  else if exponent + places < -400 then zero negative
  else
    match exponent with
    | .ofNat e => ofRatio negative (digits * tenTo e) 1
    | .negSucc e => ofRatio negative digits (tenTo (e + 1))

end Binary64

end FenceCheck
