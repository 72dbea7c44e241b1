import FenceCheck.Number.Binary64

/-!
JSON values. Whole numbers of any size are kept apart from floating-point numbers, and the fields of
an object keep the order in which their names came first.
-/

namespace FenceCheck

inductive Json where
  | null
  | bool (b : Bool)
  | int (n : Int)
  | float (x : Binary64)
  | str (s : Text)
  | list (items : List Json)
  | object (fields : List (Text × Json))
  deriving Repr, Inhabited

namespace Json

abbrev Fields := List (Text × Json)

/-- A field set to a value: in its old place, or at the end if it is new. -/
def Fields.put : Fields → Text → Json → Fields
  | [], name, value => [(name, value)]
  | field :: rest, name, value =>
      if field.1 = name then (name, value) :: rest else field :: Fields.put rest name value

/-- The fields of an object written with these members: of two with one name the later counts. -/
def Fields.ofMembers (members : List (Text × Json)) : Fields :=
  members.foldl (fun fields member => fields.put member.1 member.2) []

def Fields.get? (fields : Fields) (name : Text) : Option Json := fields.lookup name

def get? : Json → Text → Option Json
  | object fields, name => fields.lookup name
  | _, _ => none

/-- Whether a value counts as present: neither null, false, zero nor empty. -/
def truthy : Json → Bool
  | null => false
  | bool b => b
  | int n => n ≠ 0
  | float x => x.value ≠ .finite x.negative 0 (-1074)
  | str s => !s.isEmpty
  | list items => !items.isEmpty
  | object fields => !fields.isEmpty

def ofOption (f : α → Json) : Option α → Json
  | none => null
  | some a => f a

end Json

end FenceCheck
