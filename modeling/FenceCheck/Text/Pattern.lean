import FenceCheck.Text.Word

/-!
Patterns over text, in which only single code points repeat. A pattern is matched from a cursor, a
place in the text that knows the code point before it; alternatives are tried in order and the
first that lets the rest of the pattern match counts.
-/

namespace FenceCheck

structure Cursor where
  previous : Option CodePoint
  rest : Text
  deriving DecidableEq, Repr

inductive Pattern where
  | empty
  | one (accepts : CodePoint → Bool)
  /-- As many code points of a class as possible. -/
  | many (accepts : CodePoint → Bool)
  /-- As few code points of a class as possible. -/
  | few (accepts : CodePoint → Bool)
  | lineStart
  /-- The end of the text, or the place before a line feed that ends it. -/
  | textEnd
  | wordEdge
  | notAfter (rejects : CodePoint → Bool)
  | notBefore (rejects : CodePoint → Bool)
  | seq (first second : Pattern)
  | either (first second : Pattern)

namespace Cursor

def start (t : Text) : Cursor := ⟨none, t⟩

def isAfter (accepts : CodePoint → Bool) (cursor : Cursor) : Bool := cursor.previous.any accepts

def isBefore (accepts : CodePoint → Bool) (cursor : Cursor) : Bool := cursor.rest.head?.any accepts

end Cursor

namespace Pattern

/-- Consumes code points of a class, most first, until `next` succeeds. -/
def manyThen (accepts : CodePoint → Bool) (next : Cursor → Option α) (previous : Option CodePoint) :
    Text → Option α
  | [] => next ⟨previous, []⟩
  | c :: rest =>
      if accepts c then
        (manyThen accepts next (some c) rest).or (next ⟨previous, c :: rest⟩)
      else next ⟨previous, c :: rest⟩

/-- Consumes code points of a class, fewest first, until `next` succeeds. -/
def fewThen (accepts : CodePoint → Bool) (next : Cursor → Option α) (previous : Option CodePoint) :
    Text → Option α
  | [] => next ⟨previous, []⟩
  | c :: rest =>
      match next ⟨previous, c :: rest⟩ with
      | some a => some a
      | none => if accepts c then fewThen accepts next (some c) rest else none

def oneThen (accepts : CodePoint → Bool) (next : Cursor → Option α) (cursor : Cursor) : Option α :=
  match cursor.rest with
  | [] => none
  | c :: rest => if accepts c then next ⟨some c, rest⟩ else none

/-- The answer of `next` at the end of the first match of the pattern from which it has one. -/
def runThen : Pattern → (Cursor → Option α) → Cursor → Option α
  | empty, next, cursor => next cursor
  | one accepts, next, cursor => oneThen accepts next cursor
  | many accepts, next, cursor => manyThen accepts next cursor.previous cursor.rest
  | few accepts, next, cursor => fewThen accepts next cursor.previous cursor.rest
  | lineStart, next, cursor =>
      if cursor.isAfter (· ≠ .char '\n') then none else next cursor
  | textEnd, next, cursor =>
      if cursor.rest = [] ∨ cursor.rest = [.char '\n'] then next cursor else none
  | wordEdge, next, cursor =>
      if cursor.isAfter CodePoint.isWord = cursor.isBefore CodePoint.isWord then none
      else next cursor
  | notAfter rejects, next, cursor => if cursor.isAfter rejects then none else next cursor
  | notBefore rejects, next, cursor => if cursor.isBefore rejects then none else next cursor
  | seq first second, next, cursor => runThen first (runThen second next) cursor
  | either first second, next, cursor =>
      (runThen first next cursor).or (runThen second next cursor)

def match? (pattern : Pattern) (cursor : Cursor) : Option Cursor := pattern.runThen some cursor

def firstFrom (answer : Cursor → Option α) (previous : Option CodePoint) : Text → Option α
  | [] => answer ⟨previous, []⟩
  | c :: rest => (answer ⟨previous, c :: rest⟩).or (firstFrom answer (some c) rest)

def occursIn (pattern : Pattern) (t : Text) : Bool :=
  (firstFrom pattern.match? none t).isSome

/-- The answers found from left to right, the search for each starting behind the one before:
`answer` gives an answer and what is unread behind it, and `skip` code points are still to be passed. -/
def allFrom (answer : Cursor → Option (α × Text)) (previous : Option CodePoint) :
    Nat → Text → List α
  | _, [] => []
  | skip + 1, c :: rest => allFrom answer (some c) skip rest
  | 0, c :: rest =>
      match answer ⟨previous, c :: rest⟩ with
      | none => allFrom answer (some c) 0 rest
      | some (a, unread) => a :: allFrom answer (some c) (rest.length - unread.length) rest

/-- The text without the matches of a pattern; `skip` code points of a match are still to go. -/
def deleteFrom (pattern : Pattern) (previous : Option CodePoint) : Nat → Text → Text
  | _, [] => []
  | skip + 1, c :: rest => deleteFrom pattern (some c) skip rest
  | 0, c :: rest =>
      match pattern.match? ⟨previous, c :: rest⟩ with
      | none => c :: deleteFrom pattern (some c) 0 rest
      | some behind => deleteFrom pattern (some c) (rest.length - behind.rest.length) rest

/-- The text without the matches of a pattern that matches no empty text. -/
def deleteAll (pattern : Pattern) (t : Text) : Text := deleteFrom pattern none 0 t

def sequence : List Pattern → Pattern
  | [] => empty
  | [pattern] => pattern
  | pattern :: rest => seq pattern (sequence rest)

/-- The first of the patterns that matches. -/
def anyOf : List Pattern → Pattern
  | [] => one fun _ => false
  | [pattern] => pattern
  | pattern :: rest => either pattern (anyOf rest)

def literal (t : Text) : Pattern := sequence (t.map fun c => one (· = c))

def oneOrMore (accepts : CodePoint → Bool) : Pattern := seq (one accepts) (many accepts)

def optional (pattern : Pattern) : Pattern := either pattern empty

def blanks : Pattern := many CodePoint.isBlank

def someBlanks : Pattern := oneOrMore CodePoint.isBlank

end Pattern

end FenceCheck
