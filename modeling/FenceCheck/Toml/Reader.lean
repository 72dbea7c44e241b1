import FenceCheck.Toml.Literal
import FenceCheck.Toml.Table

/-!
Reading TOML: statements line by line, each of which adds to the table of the document.
-/

namespace FenceCheck

namespace Toml

def isBareKeyChar (c : Char) : Bool := c.isAlphanum || c = '-' || c = '_'

def keyPart (t : List Char) : Except Fault (Text × List Char) :=
  match t with
  | [] => .error .malformed
  | c :: rest =>
      if isBareKeyChar c then
        .ok (Text.ofChars (t.takeWhile isBareKeyChar), t.dropWhile isBareKeyChar)
      else if c = '\x22' ∨ c = '\x27' then
        match lineString c rest with
        | .ok (read, rest) => .ok (Text.ofChars read, rest)
        | .error fault => .error fault
      else .error .malformed

def key (t : List Char) : Nat → Except Fault (Key × List Char)
  | 0 => .error .malformed
  | fuel + 1 =>
      match keyPart t with
      | .error fault => .error fault
      | .ok (part, rest) =>
          match skipSpace rest with
          | '.' :: rest =>
              match key (skipSpace rest) fuel with
              | .ok (parts, rest) => .ok (part :: parts, rest)
              | .error fault => .error fault
          | rest => .ok ([part], rest)

def skipComment (t : List Char) : Except Fault (List Char) :=
  match t with
  | '#' :: rest =>
      if (rest.takeWhile (· ≠ '\n')).any isControl then .error .malformed
      else .ok (rest.dropWhile (· ≠ '\n'))
  | _ => .ok t

def skipFiller (t : List Char) : Nat → Except Fault (List Char)
  | 0 => .ok t
  | fuel + 1 =>
      match t.dropWhile isSpaceOrNewline with
      | '#' :: rest =>
          match skipComment ('#' :: rest) with
          | .ok rest => skipFiller rest fuel
          | .error fault => .error fault
      | rest => .ok rest

def isContainer : Datum → Bool
  | .list _ => true
  | .mapping _ => true
  | _ => false

def orMalformed : Option α → Except Fault α
  | some a => .ok a
  | none => .error .malformed

/-- How deep containers may stand in one another: a list takes two steps of this, a table three. -/
def nestingLimit : Nat := 975

/-- What is left of the depth in a container that takes some steps of it. -/
def deeper (room steps : Nat) : Except Fault Nat :=
  if steps ≤ room then .ok (room - steps) else .error (.scalar .tooDeep)

mutual

def value (room : Nat) (t : List Char) : Nat → Except Fault (Datum × List Char)
  | 0 => .error .malformed
  | fuel + 1 =>
      match t with
      | '\x22' :: rest => do
          let (read, rest) ← string '\x22' rest
          return (.text (Text.ofChars read), rest)
      | '\x27' :: rest => do
          let (read, rest) ← string '\x27' rest
          return (.text (Text.ofChars read), rest)
      | '[' :: rest => do
          let room ← deeper room 2
          let (read, rest) ← items room (← skipFiller rest rest.length) fuel
          return (.list read, rest)
      | '\x7b' :: rest => do
          match skipSpace rest with
          | '\x7d' :: rest => return (.mapping [], rest)
          | rest => do
              let (read, rest) ← fields (← deeper room 3) [] .none rest fuel
              return (.mapping read, rest)
      | _ => atom t
  termination_by structural fuel => fuel

def items (room : Nat) (t : List Char) : Nat → Except Fault (List Datum × List Char)
  | 0 => .error .malformed
  | fuel + 1 =>
      match t with
      | ']' :: rest => .ok ([], rest)
      | _ => do
          let (item, rest) ← value room t fuel
          match ← skipFiller rest rest.length with
          | ']' :: rest => return ([item], rest)
          | ',' :: rest => do
              let (more, rest) ← items room (← skipFiller rest rest.length) fuel
              return (item :: more, rest)
          | _ => .error .malformed
  termination_by structural fuel => fuel

def fields (room : Nat) (table : Table) (marks : Marks) (t : List Char) :
    Nat → Except Fault (Table × List Char)
  | 0 => .error .malformed
  | fuel + 1 => do
      let (path, rest) ← key t (t.length + 1)
      match rest with
      | '=' :: rest => do
          let (read, rest) ← value room (skipSpace rest) fuel
          if marks.isFrozen path then .error .malformed
          else
            let table ← orMalformed
              (table.insert? false path.dropLast (path.getLastD []) read)
            match skipSpace rest with
            | '\x7d' :: rest => return (table, rest)
            | ',' :: rest =>
                -- Nothing can be added to a container that was given as a value.
                let marks := if isContainer read then marks.freeze path else marks
                fields room table marks (skipSpace rest) fuel
            | _ => .error .malformed
      | _ => .error .malformed
  termination_by structural fuel => fuel

end

structure Document where
  table : Table
  marks : Marks
  /-- The table that statements add to. -/
  current : Key

/-- The keys on the way to the last part of a key. -/
def containers (key : Key) : List Key :=
  (List.range (key.length - 1)).map fun i => key.take (i + 1)

def Document.add (doc : Document) (path : Key) (read : Datum) : Except Fault Document :=
  let around := (containers path).map (doc.current ++ ·)
  let parent := doc.current ++ path.dropLast
  if around.any doc.marks.isDeclared || doc.marks.isFrozen parent then .error .malformed
  else do
    let table ← orMalformed (doc.table.insert? true parent (path.getLastD []) read)
    let marks := { doc.marks with pending := around ++ doc.marks.pending }
    return { doc with
      table
      marks := if isContainer read then marks.freeze (doc.current ++ path) else marks }

def Document.openTable (doc : Document) (path : Key) : Except Fault Document :=
  let marks := doc.marks.endSection
  if marks.isDeclared path || marks.isFrozen path then .error .malformed
  else do
    let table ← orMalformed (doc.table.modifyAt true some path)
    return ⟨table, marks.declare path, path⟩

def Document.openListed (doc : Document) (path : Key) : Except Fault Document :=
  let marks := doc.marks.endSection
  if marks.isFrozen path then .error .malformed
  else do
    let table ← orMalformed (doc.table.appendTable? path)
    return ⟨table, (marks.forget path).declare path, path⟩

def statement (doc : Document) (t : List Char) : Except Fault (Document × List Char) :=
  match t with
  | '[' :: '[' :: rest => do
      let (path, rest) ← key (skipSpace rest) (rest.length + 1)
      match rest with
      | ']' :: ']' :: rest => return (← doc.openListed path, rest)
      | _ => .error .malformed
  | '[' :: rest => do
      let (path, rest) ← key (skipSpace rest) (rest.length + 1)
      match rest with
      | ']' :: rest => return (← doc.openTable path, rest)
      | _ => .error .malformed
  | '#' :: _ => .ok (doc, t)
  | _ => do
      let (path, rest) ← key t (t.length + 1)
      match rest with
      | '=' :: rest => do
          let (read, rest) ← value nestingLimit (skipSpace rest) (2 * rest.length + 2)
          return (← doc.add path read, rest)
      | _ => .error .malformed

def statements (doc : Document) (t : List Char) : Nat → Except Fault Document
  | 0 => .error .malformed
  | fuel + 1 =>
      match skipSpace t with
      | [] => .ok doc
      | '\n' :: rest => statements doc rest fuel
      | line => do
          let (doc, rest) ← statement doc line
          match ← skipComment (skipSpace rest) with
          | [] => return doc
          | '\n' :: rest => statements doc rest fuel
          | _ => .error .malformed

def read (t : Text) : Except Fault Table := do
  let chars ← orMalformed t.toChars?
  let doc ← statements ⟨[], .none, []⟩ chars (chars.length + 1)
  return doc.table

end Toml

end FenceCheck
