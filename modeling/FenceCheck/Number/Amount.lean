import FenceCheck.Json.Printer

/-!
Amounts from a configuration: whole numbers of any size, or floating-point numbers, which a file may
give where a whole number is meant.
-/

namespace FenceCheck

inductive Amount where
  | whole (n : Int)
  | real (x : Binary64)
  deriving DecidableEq, Repr, Inhabited

namespace Amount

instance : OfNat Amount n := ⟨whole n⟩

def toText : Amount → Text
  | whole n => Text.ofInt n
  | real x => x.toText

def toJson : Amount → Json
  | whole n => .int n
  | real x => .float x

def isPositive : Amount → Bool
  | whole n => 0 < n
  | real x =>
      match x.value with
      | .finite negative significand _ => !negative && significand ≠ 0
      | .infinite negative => !negative
      | .notANumber => false

/-- Whether an amount lies below a whole number; one that is no number lies below none. -/
def isBelow : Amount → Int → Bool
  | whole m, n => m < n
  | real x, n => x.ltInt n

/-- Whether an amount lies above a whole number; one that is no number lies above none. -/
def isAbove : Amount → Int → Bool
  | whole m, n => n < m
  | real x, n => x.neg.ltInt (-n)

/-- The sum of an amount and a whole number; nothing if a floating-point sum has no such summand. -/
def addWhole : Amount → Int → Option Amount
  | whole m, n => some (whole (m + n))
  | real x, n => (Binary64.ofInt? n).map fun y => real (x.add y)

def float? : Amount → Option Binary64
  | whole n => Binary64.ofInt? n
  | real x => some x

/-- A thousandth of an amount; nothing if a whole number is too large to be divided. -/
def thousandth (amount : Amount) : Option Binary64 :=
  amount.float?.map fun x => x.div (Binary64.ofRatio false 1000 1)

end Amount

end FenceCheck
