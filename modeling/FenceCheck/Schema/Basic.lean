import FenceCheck.Datum.Basic
import FenceCheck.Text.Pattern

/-!
Schemas: lists of demands on a value. A demand on values of one kind says nothing about values of
other kinds.
-/

namespace FenceCheck

/-- Kinds of values. A floating-point number without a fraction is an integer, and a truth value is
no number. -/
inductive Kind where
  | null
  | boolean
  | integer
  | number
  | string
  | array
  | object
  deriving DecidableEq, Repr

namespace Kind

def name : Kind → Text
  | null => "null"
  | boolean => "boolean"
  | integer => "integer"
  | number => "number"
  | string => "string"
  | array => "array"
  | object => "object"

def admits : Kind → Datum → Bool
  | null, .null => true
  | boolean, .bool _ => true
  | integer, .int _ => true
  | integer, .float x => x.toInt?.isSome
  | number, .int _ => true
  | number, .float _ => true
  | string, .text _ => true
  | array, .list _ => true
  | object, .mapping _ => true
  | _, _ => false

end Kind

/-- A pattern for whole texts, with the form in which messages show it. -/
structure TextForm where
  shown : Text
  pattern : Pattern

namespace TextForm

def admits (form : TextForm) (t : Text) : Bool :=
  (form.pattern.match? (Cursor.start t)).isSome

end TextForm

inductive Demand where
  | kinds (allowed : List Kind)
  | closed (named : List Text)
  | fields (schemas : List (Text × List Demand))
  | required (names : List Text)
  | items (schema : List Demand)
  | minItems (count : Nat)
  | minLength (count : Nat)
  | minimum (limit : Int)
  | form (wanted : TextForm)
  | constant (value : Datum)
  | among (values : List Datum)

abbrev Schema := List Demand

inductive Step where
  | index (n : Nat)
  | name (t : Text)
  deriving DecidableEq, Repr

namespace Step

def toText : Step → Text
  | index n => Text.ofNat n
  | name t => t

/-- Indices in the order of numbers and names in the order of code points. -/
def le : Step → Step → Bool
  | index m, index n => m ≤ n
  | name s, name t => Text.le s t
  | index _, name _ => true
  | name _, index _ => false

def pathLe : List Step → List Step → Bool
  | [], _ => true
  | _ :: _, [] => false
  | a :: s, b :: t => if a = b then pathLe s t else le a b

end Step

inductive Lack where
  | wrongKind (value : Datum) (allowed : List Kind)
  | unexpected (names : List Datum)
  | missing (name : Text)
  | short (value : Datum) (count : Nat)
  | small (value : Datum) (limit : Int)
  | misformed (value : Datum) (form : Text)
  | otherThan (constant : Datum)
  | notAmong (value : Datum) (values : List Datum)
  deriving Repr

structure Violation where
  path : List Step
  /-- Whether the value is of the kind that its schema asks for. -/
  rightKind : Bool
  lack : Lack
  deriving Repr

end FenceCheck
