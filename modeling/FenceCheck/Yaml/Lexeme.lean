import FenceCheck.Number.Power
import FenceCheck.Text.Hex
import FenceCheck.Text.Utf8
import FenceCheck.Yaml.Cursor

/-!
The longer tokens of YAML: directives, anchors, tags and the five styles of scalars.
-/

namespace FenceCheck

namespace Yaml

def isNameChar (c : Char) : Bool := c.isAlphanum || c = '-' || c = '_'

def isAddressChar (c : Char) : Bool :=
  c.isAlphanum || "-;/?:@&=+$,_.!~*'()[]%".toList.contains c

def escapedBytes (m : Mark) : Nat → Except Fault (List UInt8 × Mark)
  | 0 => .ok ([], m)
  | fuel + 1 =>
      if m.head ≠ '%' then .ok ([], m)
      else
        match Hex.number? [m.peek 1, m.peek 2] with
        | none => .error .malformed
        | some n =>
            match escapedBytes (m.advance 3) fuel with
            | .ok (bytes, m) => .ok (UInt8.ofNat n :: bytes, m)
            | .error fault => .error fault

/-- The parts of an address: runs of its characters and runs of escaped bytes. -/
def addressParts (m : Mark) : Nat → Except Fault (List Char × Mark)
  | 0 => .ok ([], m)
  | fuel + 1 =>
      if m.head = '%' then
        match escapedBytes m m.rest.length with
        | .error fault => .error fault
        | .ok (bytes, m) =>
            match Utf8.decode bytes with
            | .error _ => .error .malformed
            | .ok decoded =>
                match addressParts m fuel with
                | .ok (more, m) => .ok ((Text.toChars? decoded).getD [] ++ more, m)
                | .error fault => .error fault
      else if isAddressChar m.head then
        match addressParts m.step fuel with
        | .ok (more, after) => .ok (m.head :: more, after)
        | .error fault => .error fault
      else .ok ([], m)

def address (m : Mark) : Except Fault (List Char × Mark) := do
  let (chars, after) ← addressParts m m.rest.length
  demand (after.index ≠ m.index)
  return (chars, after)

def tagHandle (m : Mark) : Except Fault (List Char × Mark) := do
  demand (m.head = '!')
  if m.peek 1 = ' ' then return (['!'], m.step)
  let (name, after) := m.step.takeWhile isNameChar
  demand (after.head = '!')
  return ('!' :: name ++ ['!'], after.step)

inductive Directive where
  | version (major : Nat)
  | handle (name address : List Char)
  | unknown
  deriving DecidableEq, Repr

def decimal (m : Mark) : Except Fault (Nat × Mark) := do
  let (digits, after) := m.takeWhile Char.isDigit
  demand (!digits.isEmpty)
  if Integer.digitLimit < digits.length then throw (.scalar (.longInteger digits.length))
  return (digits.foldl (fun n c => n * 10 + (c.toNat - 48)) 0, after)

def restOfLine (m : Mark) : Except Fault Mark := do
  let m := m.skipSpaces.skipComment
  demand (isBreak m.head)
  return m.lineBreak.2

def directive (m : Mark) : Except Fault (Directive × Mark) := do
  let (name, m) := m.step.takeWhile isNameChar
  demand (!name.isEmpty && isSpaceOrBreak m.head)
  let (value, m) : Directive × Mark ←
    if name = "YAML".toList then do
      let (major, m) ← decimal m.skipSpaces
      demand (m.head = '.')
      let (_, m) ← decimal m.step
      demand (isSpaceOrBreak m.head)
      pure (.version major, m)
    else if name = "TAG".toList then do
      let (handle, m) ← tagHandle m.skipSpaces
      demand (m.head = ' ')
      let (address, m) ← address m.skipSpaces
      demand (isSpaceOrBreak m.head)
      pure (.handle handle address, m)
    else pure (.unknown, m.skipWhile (!isBreak ·))
  let m ← restOfLine m
  return (value, m)

def anchorName (m : Mark) : Except Fault (List Char × Mark) := do
  let (name, m) := m.step.takeWhile isNameChar
  demand (!name.isEmpty && (isBlank m.head || "?:,]\x7d%@\x60".toList.contains m.head))
  return (name, m)

def tag (m : Mark) : Except Fault ((Option (List Char) × List Char) × Mark) := do
  let (value, m) : (Option (List Char) × List Char) × Mark ←
    if m.peek 1 = '<' then do
      let (suffix, m) ← address (m.advance 2)
      demand (m.head = '>')
      pure ((none, suffix), m.step)
    else if isBlank (m.peek 1) then pure ((none, ['!']), m.step)
    else do
      let word := m.rest.tail.takeWhile (!isSpaceOrBreak ·)
      -- A name between exclamation marks needs the second one.
      let (handle, m) ← if word.contains '!' then tagHandle m else pure (['!'], m.step)
      let (suffix, m) ← address m
      pure ((some handle, suffix), m)
  demand (isSpaceOrBreak m.head)
  return (value, m)

inductive Chomping where
  | strip
  | clip
  | keep
  deriving DecidableEq, Repr

structure BlockHeader where
  chomping : Chomping
  increment : Option Nat

def chompingOf? (c : Char) : Option Chomping :=
  if c = '+' then some .keep else if c = '-' then some .strip else none

def incrementOf (m : Mark) : Except Fault (Option Nat × Mark) :=
  if m.head.isDigit then
    if m.head = '0' then .error .malformed else .ok (some (m.head.toNat - 48), m.step)
  else .ok (none, m)

/-- The signs of a block scalar, in either order. -/
def blockHeader (m : Mark) : Except Fault (BlockHeader × Mark) := do
  let (header, m) : BlockHeader × Mark ←
    match chompingOf? m.head with
    | some chomping => do
        let (increment, m) ← incrementOf m.step
        pure (⟨chomping, increment⟩, m)
    | none => do
        let (increment, after) ← incrementOf m
        match increment, chompingOf? after.head with
        | some _, some chomping => pure (⟨chomping, increment⟩, after.step)
        | _, _ => pure (⟨.clip, increment⟩, after)
  demand (isSpaceOrBreak m.head)
  return (header, m)

/-- The breaks in front of a block scalar and the deepest indentation among them. -/
def blockIndentation (m : Mark) (deepest : Nat) : Nat → List Char × Nat × Mark
  | 0 => ([], deepest, m)
  | fuel + 1 =>
      if m.rest.isEmpty then ([], deepest, m)
      else if m.head = ' ' then blockIndentation m.step (max deepest m.step.column) fuel
      else if isBreak m.head then
        let (chars, m) := m.lineBreak
        let (more, deepest, m) := blockIndentation m deepest fuel
        (chars ++ more, deepest, m)
      else ([], deepest, m)

def skipIndent (m : Mark) (indent : Nat) : Mark :=
  m.advance (min (indent - m.column) (m.rest.takeWhile (· = ' ')).length)

/-- Empty lines and the indentation of the next line. -/
def blockBreaks (m : Mark) (indent : Nat) : Nat → List Char × Mark
  | 0 => ([], m)
  | fuel + 1 =>
      let m := skipIndent m indent
      -- A backslash at the end of a line joins it with the next one without a blank.
      if !m.rest.isEmpty && isBreak m.head then
        let (chars, m) := m.lineBreak
        let (more, m) := blockBreaks m indent fuel
        (chars ++ more, m)
      else ([], m)

def isSpaceOrTab (c : Char) : Bool := c = ' ' || c = '\t'

/-- The lines of a block scalar from its first, and the breaks behind the last. A break between two
lines that start with no blank is folded. -/
def blockLines (folded : Bool) (indent : Nat) (breaks : List Char) (m : Mark) :
    Nat → List Char × List Char × List Char × Mark
  | 0 => ([], [], breaks, m)
  | fuel + 1 =>
      if m.column = indent ∧ !m.rest.isEmpty then
        let plainStart := !isSpaceOrTab m.head
        let (line, afterLine) := m.takeWhile (!isBreak ·)
        let (lineEnd, afterEnd) := afterLine.lineBreak
        let (following, next) := blockBreaks afterEnd indent afterEnd.rest.length
        if next.column = indent ∧ !next.rest.isEmpty then
          let joint :=
            if folded && lineEnd = ['\n'] && plainStart && !isSpaceOrTab next.head then
              if following.isEmpty then [' '] else []
            else lineEnd
          let (more, last, trailing, m) := blockLines folded indent following next fuel
          (breaks ++ line ++ joint ++ more, last, trailing, m)
        else (breaks ++ line, lineEnd, following, next)
      else ([], [], breaks, m)

/-- A literal or folded scalar inside a block that is indented by `outer`. -/
def blockScalar (folded : Bool) (outer : Int) (m : Mark) : Except Fault (List Char × Mark) := do
  let (header, m) ← blockHeader m.step
  let m ← restOfLine m
  let least := max (outer + 1) 1 |>.toNat
  let (breaks, indent, m) : List Char × Nat × Mark :=
    match header.increment with
    | none =>
        let (breaks, deepest, m) := blockIndentation m 0 m.rest.length
        (breaks, max least deepest, m)
    | some increment =>
        let indent := least + increment - 1
        let (breaks, m) := blockBreaks m indent (m.rest.length + 1)
        (breaks, indent, m)
  let (body, last, trailing, m) := blockLines folded indent breaks m (m.rest.length + 1)
  let ending :=
    match header.chomping with
    | .strip => []
    | .clip => last
    | .keep => last ++ trailing
  return (body ++ ending, m)

def escapes : List (Char × Char) :=
  [('0', '\x00'), ('a', '\x07'), ('b', '\x08'), ('t', '\t'), ('\t', '\t'), ('n', '\n'),
   ('v', '\x0B'), ('f', '\x0C'), ('r', '\r'), ('e', '\x1B'), (' ', ' '), ('\x22', '\x22'),
   ('\\', '\\'), ('/', '/'), ('N', '\x85'), ('_', '\xA0'), ('L', '\u2028'), ('P', '\u2029')]

def escapeLength? (c : Char) : Option Nat :=
  if c = 'x' then some 2 else if c = 'u' then some 4 else if c = 'U' then some 8 else none

/-- Breaks and blanks between the lines of a quoted scalar, which no document bound may cross. -/
def quotedBreaks (m : Mark) : Nat → Except Fault (List Char × Mark)
  | 0 => .ok ([], m)
  | fuel + 1 => do
      demand (!m.isDocumentBound)
      let m := m.skipWhile isSpaceOrTab
      if !m.rest.isEmpty && isBreak m.head then
        let (chars, m) := m.lineBreak
        let (more, m) ← quotedBreaks m fuel
        return (chars ++ more, m)
      else return ([], m)

def escaped (m : Mark) : Except Fault (Text × Mark) :=
  match escapes.lookup m.head with
  | some c => if m.rest.isEmpty then .error .malformed else .ok ([.char c], m.step)
  | none =>
      match escapeLength? m.head with
      | some count =>
          match Hex.number? ((List.range count).map fun k => m.peek (k + 1)) with
          | none => .error .malformed
          | some n =>
              match CodePoint.ofVal? n with
              | some c => .ok ([c], m.advance (count + 1))
              | none =>
                  .error (.scalar (if n < twoTo 31 then .noSuchCodePoint else .codePointTooLarge))
      | none =>
          if !m.rest.isEmpty && isBreak m.head then
            match quotedBreaks m.lineBreak.2 m.rest.length with
            | .ok (chars, m) => .ok (Text.ofChars chars, m)
            | .error fault => .error fault
          else .error .malformed

def quotedRest (quote : Char) (m : Mark) : Nat → Except Fault (Text × Mark)
  | 0 => .error .malformed
  | fuel + 1 =>
      let c := m.head
      let continued (read : Text) (m : Mark) : Except Fault (Text × Mark) :=
        match quotedRest quote m fuel with
        | .ok (more, m) => .ok (read ++ more, m)
        | .error fault => .error fault
      if m.rest.isEmpty then .error .malformed
      else if c = quote then
        -- A single quote stands for itself if it is doubled.
        if quote = '\x27' ∧ m.peek 1 = '\x27' then continued [.char '\x27'] (m.advance 2)
        else .ok ([], m.step)
      else if c = '\\' ∧ quote = '\x22' then
        match escaped m.step with
        | .ok (read, m) => continued read m
        | .error fault => .error fault
      else if isBlank c then
        let (blanks, after) := m.takeWhile isSpaceOrTab
        if after.rest.isEmpty then .error .malformed
        else if isBreak after.head then
          let (lineEnd, next) := after.lineBreak
          match quotedBreaks next (next.rest.length + 1) with
          | .error fault => .error fault
          | .ok (breaks, m) =>
              let joint :=
                if lineEnd ≠ ['\n'] then lineEnd else if breaks.isEmpty then [' '] else []
              continued (Text.ofChars (joint ++ breaks)) m
        else continued (Text.ofChars blanks) after
      else continued [.char c] m.step

def quotedScalar (m : Mark) : Except Fault (Text × Mark) :=
  quotedRest m.head m.step (m.rest.length + 1)

/-- Whether a plain scalar ends before a character, by the one behind it. -/
def plainStops (inFlow : Bool) (c next : Char) : Bool :=
  isBlank c ||
    (c = ':' && (isBlank next || (inFlow && ",[]\x7b\x7d".toList.contains next))) ||
    (inFlow && ",?[]\x7b\x7d".toList.contains c)

def plainLength (inFlow : Bool) : List Char → Nat
  | [] => 0
  | c :: rest =>
      if plainStops inFlow c (rest.headD '\x00') then 0 else plainLength inFlow rest + 1

/-- Empty lines inside a plain scalar; `none` where a document ends. -/
def plainBreaks (m : Mark) : Nat → Option (List Char) × Mark
  | 0 => (some [], m)
  | fuel + 1 =>
      if m.rest.isEmpty then (some [], m)
      else if m.head = ' ' then plainBreaks m.step fuel
      else if isBreak m.head then
        let (chars, m) := m.lineBreak
        if m.isDocumentBound then (none, m)
        else
          let (more, m) := plainBreaks m fuel
          (more.map (chars ++ ·), m)
      else (some [], m)

/-- Blanks behind a run of a plain scalar, as they count if the scalar goes on, and whether they
held a line break. -/
def plainSpaces (m : Mark) : List Char × Bool × Mark :=
  let (spaces, m) := m.takeWhile (· = ' ')
  if !m.rest.isEmpty && isBreak m.head then
    let (lineEnd, m) := m.lineBreak
    if m.isDocumentBound then ([], true, m)
    else
      match plainBreaks m (m.rest.length + 1) with
      | (none, m) => ([], true, m)
      | (some breaks, m) =>
          let joint := if lineEnd ≠ ['\n'] then lineEnd else if breaks.isEmpty then [' '] else []
          (joint ++ breaks, true, m)
  else (spaces, false, m)

/-- A plain scalar, and whether a simple key may follow it. -/
def plainRuns (inFlow : Bool) (indent : Int) (before : List Char) (m : Mark) (keyAllowed : Bool) :
    Nat → List Char × Bool × Mark
  | 0 => ([], keyAllowed, m)
  | fuel + 1 =>
      if m.isComment then ([], keyAllowed, m)
      else
        match plainLength inFlow m.rest with
        | 0 => ([], keyAllowed, m)
        | length =>
            let run := m.rest.take length
            -- The blanks are kept back until it is known that the scalar goes on behind them.
            let (spaces, broken, after) := plainSpaces (m.advance length)
            if spaces.isEmpty || after.isComment || (!inFlow && after.column < indent) then
              (before ++ run, broken, after)
            else
              let (more, keyAllowed, m) := plainRuns inFlow indent spaces after broken fuel
              (before ++ run ++ more, keyAllowed, m)

end Yaml

end FenceCheck
