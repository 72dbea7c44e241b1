import FenceCheck.Json.Basic

/-!
Values that configuration files hold. Beside what JSON has there are moments in time, bytes, pairs
and sets, a mapping may have keys of any kind that can be looked up, and a container may hold itself.
-/

namespace FenceCheck

inductive Moment where
  | date (year month day : Nat)
  | time (hour minute second microsecond : Nat)
  | dateTime (year month day hour minute second microsecond : Nat) (offset : Option Int)
  deriving DecidableEq, Repr

inductive Datum where
  | null
  | bool (b : Bool)
  | int (n : Int)
  | float (x : Binary64)
  | text (t : Text)
  | bytes (data : List UInt8)
  | moment (m : Moment)
  | list (items : List Datum)
  | tuple (items : List Datum)
  | set (items : List Datum)
  | mapping (entries : List (Datum × Datum))
  /-- A container that holds itself: inside it, `again label` stands for the whole. -/
  | knot (label : Nat) (whole : Datum)
  | again (label : Nat)
  deriving Repr, Inhabited

namespace Datum

mutual

/-- The value with another one in every place that a label stands for. -/
def graft (label : Nat) (scion : Datum) : Datum → Datum
  | again l => if l = label then scion else again l
  | list items => list (graftItems label scion items)
  | tuple items => tuple (graftItems label scion items)
  | mapping entries => mapping (graftEntries label scion entries)
  | knot l whole => if l = label then knot l whole else knot l (graft label scion whole)
  | value => value

def graftItems (label : Nat) (scion : Datum) : List Datum → List Datum
  | [] => []
  | item :: rest => graft label scion item :: graftItems label scion rest

def graftEntries (label : Nat) (scion : Datum) : List (Datum × Datum) → List (Datum × Datum)
  | [] => []
  | entry :: rest => (entry.1, graft label scion entry.2) :: graftEntries label scion rest

end

/-- The value with its own parts at hand: a container that holds itself is opened once, so that
each of its parts is a value of its own again. -/
def opened : Datum → Datum
  | knot label whole => graft label (knot label whole) whole
  | value => value

mutual

def ofJson : Json → Datum
  | .null => null
  | .bool b => bool b
  | .int n => int n
  | .float x => float x
  | .str s => text s
  | .list items => list (ofJsonItems items)
  | .object fields => mapping (ofJsonFields fields)

def ofJsonItems : List Json → List Datum
  | [] => []
  | item :: rest => ofJson item :: ofJsonItems rest

def ofJsonFields : List (Text × Json) → List (Datum × Datum)
  | [] => []
  | field :: rest => (text field.1, ofJson field.2) :: ofJsonFields rest

end

/-- The number that a value counts as when values are compared: truth values are numbers here. -/
inductive Quantity where
  | whole (n : Int)
  | other (x : Binary64)
  deriving DecidableEq, Repr

def quantity? : Datum → Option Quantity
  | bool b => some (.whole (if b then 1 else 0))
  | int n => some (.whole n)
  | float x =>
      match x.toInt? with
      | some n => some (.whole n)
      | none => some (.other x)
  | _ => none

mutual

/-- Whether two values are the same key or the same constant: numbers of different kinds are equal
if their values are. -/
def same : Datum → Datum → Bool
  | null, null => true
  | text s, text t => s = t
  | bytes a, bytes b => a = b
  | moment a, moment b => a = b
  | list a, list b => sameItems a b
  | tuple a, tuple b => sameItems a b
  | set a, set b => sameItems a b
  | mapping a, mapping b => sameEntries a b
  | a, b =>
      match a.quantity?, b.quantity? with
      | some x, some y => x = y
      | _, _ => false

def sameItems : List Datum → List Datum → Bool
  | [], [] => true
  | a :: s, b :: t => same a b && sameItems s t
  | _, _ => false

def sameEntries : List (Datum × Datum) → List (Datum × Datum) → Bool
  | [], [] => true
  | a :: s, b :: t => same a.1 b.1 && same a.2 b.2 && sameEntries s t
  | _, _ => false

end

/-- Entries with one set: in its old place and with its old key, or at the end if it is new. -/
def putEntry : List (Datum × α) → Datum → α → List (Datum × α)
  | [], key, value => [(key, value)]
  | entry :: rest, key, value =>
      if entry.1.same key then (entry.1, value) :: rest else entry :: putEntry rest key value

def lookupName : List (Datum × Datum) → Text → Option Datum
  | [], _ => none
  | (text t, value) :: rest, name => if t = name then some value else lookupName rest name
  | _ :: rest, name => lookupName rest name

end Datum

end FenceCheck
