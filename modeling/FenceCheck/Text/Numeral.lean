import FenceCheck.Text.Digit

/-!
Integers in a base, as a scalar with a tag may be written: digits of any script, blanks around
them, a sign and the mark of the base in front. Unlike elsewhere no underscores are passed over.
-/

namespace FenceCheck

namespace Integer

inductive Misread where
  | malformed
  | tooLong (digits : Nat)
  deriving DecidableEq, Repr

/-- The value of a digit of a base: decimal digits of every script, then the letters of ASCII. -/
def digitOf? (base : Nat) (c : CodePoint) : Option Nat :=
  let value : Option Nat :=
    match c.decimalDigit? with
    | some d => some d
    | none =>
        match c with
        | .char letter =>
            if 'a' ≤ letter ∧ letter ≤ 'z' then some (letter.toNat - 87)
            else if 'A' ≤ letter ∧ letter ≤ 'Z' then some (letter.toNat - 55)
            else none
        | .surrogate _ => none
  value.filter (· < base)

def signOf : Text → Bool × Text
  | .char '-' :: rest => (true, rest)
  | .char '+' :: rest => (false, rest)
  | t => (false, t)

def baseMark? (base : Nat) : Option Char :=
  if base = 2 then some 'b' else if base = 8 then some 'o' else if base = 16 then some 'x' else none

def dropMark (base : Nat) (t : Text) : Text :=
  match t, baseMark? base with
  | .char '0' :: .char c :: rest, some mark => if c.toLower = mark then rest else t
  | _, _ => t

/-- The integer that a text denotes in a base. Only in base ten the number of digits is limited,
and the limit is looked at before what stands behind them. -/
def ofNumeral (base : Nat) (t : Text) : Except Misread Int :=
  let (negative, unsigned) := signOf (trimmed t)
  let body := dropMark base unsigned
  let digits := (body.takeWhile fun c => (digitOf? base c).isSome).filterMap (digitOf? base)
  if base = 10 ∧ digitLimit < digits.length then .error (.tooLong digits.length)
  else if digits.isEmpty ∨ digits.length ≠ body.length then .error .malformed
  else
    let n : Nat := digits.foldl (fun n d => base * n + d) 0
    .ok (if negative then -(n : Int) else n)

end Integer

end FenceCheck
