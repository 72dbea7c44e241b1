import FenceCheck.Text.CodePoint

/-!
File paths as text. A path is a root and the names below it: repeated slashes and single dots carry
no meaning and are dropped, two dots are kept, and exactly two leading slashes are a root of their
own.
-/

namespace FenceCheck

structure Path where
  /-- Empty for a relative path, otherwise one slash or two. -/
  root : Text
  names : List Text
  deriving DecidableEq, Repr, Inhabited

namespace Path

def slash : CodePoint := .char '/'

def leadingSlashes (t : Text) : Nat := (t.takeWhile (· = slash)).length

def ofText (t : Text) : Path :=
  { root := match leadingSlashes t with
      | 0 => []
      | 2 => [slash, slash]
      | _ => [slash]
    names := (Text.splitAt slash t).filter fun name => !name.isEmpty && name ≠ [.char '.'] }

def here : Path := ⟨[], []⟩

def isAbsolute (p : Path) : Bool := !p.root.isEmpty

def toText (p : Path) : Text :=
  if p.root.isEmpty && p.names.isEmpty then "." else p.root ++ Text.join [slash] p.names

def name (p : Path) : Text := p.names.getLastD []

/-- The path without its last name; a path without names is its own parent. -/
def parent (p : Path) : Path := { p with names := p.names.dropLast }

def child (p : Path) (name : Text) : Path := { p with names := p.names ++ [name] }

/-- The second path seen from the first: an absolute one replaces it. -/
def append (p q : Path) : Path :=
  if q.isAbsolute then q else { p with names := p.names ++ q.names }

instance : Append Path := ⟨append⟩

/-- The path from `base` to `p`, if `base` is the start of `p`. -/
def relativeTo? (p base : Path) : Option Path :=
  if p.root = base.root ∧ base.names.isPrefixOf p.names then
    some ⟨[], p.names.drop base.names.length⟩
  else none

/-- The place of the last dot in a name that has something on both sides of it. -/
def dotIndex? (name : Text) : Option Nat :=
  let after := (name.reverse.takeWhile (· ≠ .char '.')).length
  if 0 < after ∧ after + 1 < name.length then some (name.length - after - 1) else none

def suffix (p : Path) : Text :=
  match dotIndex? p.name with
  | some i => p.name.drop i
  | none => []

def stem (p : Path) : Text :=
  match dotIndex? p.name with
  | some i => p.name.take i
  | none => p.name

end Path

end FenceCheck
