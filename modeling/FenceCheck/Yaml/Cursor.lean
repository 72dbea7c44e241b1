import FenceCheck.Datum.Fault

/-!
Places in a YAML text, with the line and column that indentation is measured by.
-/

namespace FenceCheck

namespace Yaml

/-- Why a text gives no value: it is no YAML, or something in it that was written well stands for
nothing. -/
inductive Fault where
  | malformed
  | scalar (fault : ScalarFault)
  deriving DecidableEq, Repr

structure Mark where
  rest : List Char
  index : Nat
  line : Nat
  column : Nat
  deriving Repr

def isBreak (c : Char) : Bool :=
  c = '\x00' || c = '\r' || c = '\n' || c = '\x85' || c = '\u2028' || c = '\u2029'

def isSpaceOrBreak (c : Char) : Bool := c = ' ' || isBreak c

def isBlank (c : Char) : Bool := c = '\t' || isSpaceOrBreak c

def isPrintable (c : Char) : Bool :=
  let n := c.toNat
  n = 0x9 || n = 0xA || n = 0xD || (0x20 ≤ n && n ≤ 0x7E) || n = 0x85 ||
    (0xA0 ≤ n && n ≠ 0xFFFE && n ≠ 0xFFFF)

namespace Mark

def start (t : List Char) : Mark := ⟨t, 0, 0, 0⟩

/-- The character `k` places on, NUL past the end. -/
def peek (m : Mark) (k : Nat) : Char := m.rest.getD k '\x00'

def head (m : Mark) : Char := m.peek 0

/-- Passes one character. A byte order mark takes no column. -/
def step (m : Mark) : Mark :=
  match m.rest with
  | [] => m
  | c :: rest =>
      if c = '\n' || c = '\x85' || c = '\u2028' || c = '\u2029' ||
          (c = '\r' && rest.head? ≠ some '\n') then
        ⟨rest, m.index + 1, m.line + 1, 0⟩
      else ⟨rest, m.index + 1, m.line, if c = '\uFEFF' then m.column else m.column + 1⟩

def advance (m : Mark) : Nat → Mark
  | 0 => m
  | n + 1 => m.step.advance n

def takeWhile (m : Mark) (p : Char → Bool) : List Char × Mark :=
  let taken := m.rest.takeWhile p
  (taken, m.advance taken.length)

def skipWhile (m : Mark) (p : Char → Bool) : Mark := (m.takeWhile p).2

def skipSpaces (m : Mark) : Mark := m.skipWhile (· = ' ')

/-- Passes a line break, if there is one; all but the two Unicode separators count as line feeds. -/
def lineBreak (m : Mark) : List Char × Mark :=
  match m.rest with
  | '\r' :: '\n' :: _ => (['\n'], m.advance 2)
  | c :: _ =>
      if c = '\r' || c = '\n' || c = '\x85' then (['\n'], m.step)
      else if c = '\u2028' || c = '\u2029' then ([c], m.step)
      else ([], m)
  | [] => ([], m)

def isComment (m : Mark) : Bool := m.head = '#'

def skipComment (m : Mark) : Mark := if m.isComment then m.skipWhile (!isBreak ·) else m

/-- Whether three signs that bound a document stand here, with nothing glued to them. -/
def isBound (m : Mark) (sign : Char) : Bool :=
  m.peek 0 = sign && m.peek 1 = sign && m.peek 2 = sign && isBlank (m.peek 3)

def isDocumentBound (m : Mark) : Bool := m.isBound '-' || m.isBound '.'

end Mark

def demand (condition : Bool) : Except Fault Unit :=
  if condition then .ok () else .error .malformed

end Yaml

end FenceCheck
