import FenceCheck.Datum.Basic

/-!
The table that a TOML document builds up, and what has been said about its parts: which tables were
declared, and which values may not be added to.
-/

namespace FenceCheck

namespace Toml

abbrev Key := List Text

abbrev Table := List (Datum × Datum)

def Table.get? (table : Table) (name : Text) : Option Datum := Datum.lookupName table name

def Table.put (table : Table) (name : Text) (value : Datum) : Table :=
  Datum.putEntry table (.text name) value

/-- A change of the table at the end of a key. Missing tables are made, and with `throughLists` a
list of tables stands for its last one. -/
def Table.modifyAt (throughLists : Bool) (change : Table → Option Table) :
    Key → Table → Option Table
  | [], table => change table
  | name :: rest, table =>
      match table.get? name with
      | none => (modifyAt throughLists change rest []).map fun inner =>
          table.put name (.mapping inner)
      | some (.mapping inner) => (modifyAt throughLists change rest inner).map fun inner =>
          table.put name (.mapping inner)
      | some (.list items) =>
          match throughLists, items.getLast? with
          | true, some (.mapping inner) =>
              (modifyAt throughLists change rest inner).map fun inner =>
                table.put name (.list (items.dropLast ++ [.mapping inner]))
          | _, _ => none
      | some _ => none

def Table.insert? (throughLists : Bool) (parent : Key) (name : Text) (value : Datum)
    (table : Table) : Option Table :=
  table.modifyAt throughLists
    (fun inner => if (inner.get? name).isSome then none else some (inner.put name value)) parent

/-- A new empty table at the end of the list of tables at a key. -/
def Table.appendTable? (key : Key) (table : Table) : Option Table :=
  match key.getLast? with
  | none => none
  | some name =>
      table.modifyAt true
        (fun inner =>
          match inner.get? name with
          | none => some (inner.put name (.list [.mapping []]))
          | some (.list items) => some (inner.put name (.list (items ++ [.mapping []])))
          | some _ => none)
        key.dropLast

/-- What has been said about keys. -/
structure Marks where
  /-- Tables that were declared, by a header or by a dotted key. -/
  declared : List Key
  /-- Values that stay as they are, with everything in them. -/
  frozen : List Key
  /-- Tables that dotted keys of the current section made. -/
  pending : List Key

namespace Marks

def none : Marks := ⟨[], [], []⟩

def isDeclared (marks : Marks) (key : Key) : Bool := marks.declared.contains key

def isFrozen (marks : Marks) (key : Key) : Bool := marks.frozen.any fun k => k.isPrefixOf key

def declare (marks : Marks) (key : Key) : Marks := { marks with declared := key :: marks.declared }

def freeze (marks : Marks) (key : Key) : Marks := { marks with frozen := key :: marks.frozen }

def forget (marks : Marks) (key : Key) : Marks :=
  { marks with
    declared := marks.declared.filter fun k => !key.isPrefixOf k
    frozen := marks.frozen.filter fun k => !key.isPrefixOf k }

/-- At the end of a section the tables that its dotted keys made count as declared. -/
def endSection (marks : Marks) : Marks :=
  { marks with declared := marks.pending ++ marks.declared, pending := [] }

end Marks

end Toml

end FenceCheck
