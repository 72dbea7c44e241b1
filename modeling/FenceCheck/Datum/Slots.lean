import FenceCheck.Datum.Basic
import FenceCheck.Number.Power

/-!
The order of the numbers in a set. They are kept in a table of slots, and a number's remainder by
a Mersenne prime says where its search for a free slot begins; a set is shown slot by slot.
-/

namespace FenceCheck

namespace Slots

/-- The prime by which numbers are reduced. -/
def modulus : Nat := twoTo 61 - 1

/-- A remainder with a sign; minus one is kept free. -/
def signedKey (negative : Bool) (n : Nat) : Int :=
  let key : Int := if negative then -(n : Int) else n
  if key = -1 then -2 else key

/-- The key of a number; equal numbers of different kinds have the same one. Other values have keys
that are not the same from run to run. -/
def keyOf? : Datum → Option Int
  | .bool b => some (if b then 1 else 0)
  | .int n => some (signedKey (n < 0) (n.natAbs % modulus))
  | .float x =>
      match x.value with
      | .finite negative significand exponent =>
          let power := twoTo (Int.emod exponent 61).toNat
          some (signedKey negative (significand * power % modulus))
      | .infinite negative => some (if negative then -314159 else 314159)
      | .notANumber => none
  | _ => none

/-- The number of slots for a count of values. Small tables have eight; a larger one doubles until
it is more than twice the count. -/
def tableSize (count : Nat) : Nat :=
  if count < 5 then 8
  else (List.range 64).foldl (fun size _ => if size ≤ 2 * count then 2 * size else size) 8

def runLength : Nat := 9

/-- The first free slot of a run that begins at one, if the run lies inside the table. -/
def freeInRun (slots : Array (Option Datum)) (first : Nat) : Option Nat :=
  let count := if first + runLength < slots.size then runLength + 1 else 1
  (List.range count).findSome? fun i =>
    if (slots[first + i]?.join).isNone then some (first + i) else none

/-- The search for a free slot. What is left of the key spreads the jumps. -/
def search (slots : Array (Option Datum)) (first spread : Nat) : Nat → Option Nat
  | 0 => none
  | fuel + 1 =>
      match freeInRun slots first with
      | some slot => some slot
      | none => search slots ((first * 5 + 1 + spread / 32) % slots.size) (spread / 32) fuel

def insert (slots : Array (Option Datum)) (value : Datum) (key : Int) : Array (Option Datum) :=
  let spread := (Int.emod key (twoTo 64)).toNat
  match search slots (spread % slots.size) spread (16 + slots.size) with
  | some slot => slots.setIfInBounds slot (some value)
  | none => slots

/-- Numbers in the order of their slots. A set that holds anything else keeps the order in which
it was filled. -/
def arrange (values : List Datum) : List Datum :=
  match values.mapM fun value => (keyOf? value).map (value, ·) with
  | none => values
  | some keyed =>
      let slots := keyed.foldl (fun slots entry => insert slots entry.1 entry.2)
        (Array.replicate (tableSize values.length) none)
      slots.toList.filterMap id

end Slots

end FenceCheck
