import FenceCheck.Yaml.Lexeme

/-!
YAML tokens, scanned as they are asked for. Indentation becomes tokens that open and close block
collections. A key is recognised only at the colon behind it, so every place where a key could start
is remembered until a colon confirms it, the line ends, or too much text has passed.
-/

namespace FenceCheck

namespace Yaml

inductive Token where
  | directive (d : Directive)
  | documentStart
  | documentEnd
  | streamEnd
  | blockSequenceStart
  | blockMappingStart
  | blockEnd
  | flowSequenceStart
  | flowSequenceEnd
  | flowMappingStart
  | flowMappingEnd
  | blockEntry
  | flowEntry
  | key
  | value
  | alias (name : List Char)
  | anchor (name : List Char)
  | tag (handle : Option (List Char)) (suffix : List Char)
  | scalar (text : Text) (plain : Bool)
  deriving DecidableEq, Repr

structure SimpleKey where
  token : Nat
  required : Bool
  index : Nat
  line : Nat
  column : Nat

structure Scanner where
  mark : Mark
  size : Nat
  /-- Tokens that were scanned and not taken yet. -/
  tokens : List Token
  taken : Nat
  /-- How many flow collections are open; below zero if more were closed than opened. -/
  flowLevel : Int
  indent : Int
  outerIndents : List Int
  keyAllowed : Bool
  /-- The possible key of each flow level that has one. -/
  keys : List (Int × SimpleKey)
  ended : Bool

namespace Scanner

def start (t : List Char) : Scanner :=
  let t := if t.head? = some '\uFEFF' then t.tail else t
  { mark := Mark.start t, size := t.length, tokens := [], taken := 0, flowLevel := 0, indent := -1
    outerIndents := [], keyAllowed := true, keys := [], ended := false }

def inFlow (s : Scanner) : Bool := s.flowLevel ≠ 0

def emit (s : Scanner) (token : Token) : Scanner := { s with tokens := s.tokens ++ [token] }

/-- A token at a place among all tokens, those taken included. -/
def insertAt (s : Scanner) (place : Nat) (token : Token) : Scanner :=
  let place := place - s.taken
  { s with tokens := s.tokens.take place ++ token :: s.tokens.drop place }

def place (s : Scanner) : Nat := s.taken + s.tokens.length

/-- The most characters that a key and what belongs to it may take. -/
def keyReach : Nat := 1024

/-- Gives up possible keys that the text has left behind. -/
def dropStaleKeys (s : Scanner) : Except Fault Scanner := do
  let stale (key : SimpleKey) : Bool :=
    key.line ≠ s.mark.line || s.mark.index - key.index > keyReach
  demand (!s.keys.any fun entry => stale entry.2 && entry.2.required)
  return { s with keys := s.keys.filter fun entry => !stale entry.2 }

def dropKey (s : Scanner) : Except Fault Scanner := do
  demand (!((s.keys.lookup s.flowLevel).any (·.required)))
  return { s with keys := s.keys.filter (·.1 ≠ s.flowLevel) }

/-- Remembers that a key may start here. -/
def saveKey (s : Scanner) : Except Fault Scanner :=
  if s.keyAllowed then do
    let s ← s.dropKey
    let key : SimpleKey :=
      { token := s.place, required := !s.inFlow && s.indent = s.mark.column
        index := s.mark.index, line := s.mark.line, column := s.mark.column }
    return { s with keys := (s.flowLevel, key) :: s.keys }
  else return s

/-- Closes the block collections that are indented deeper than a column. -/
def unwind (s : Scanner) (column : Int) : Nat → Scanner
  | 0 => s
  | fuel + 1 =>
      if s.inFlow || s.indent ≤ column then s
      else
        match s.outerIndents with
        | [] => s
        | outer :: rest =>
            unwind ({ s with indent := outer, outerIndents := rest }.emit .blockEnd) column fuel

def unwindTo (s : Scanner) (column : Int) : Scanner := s.unwind column s.outerIndents.length

def openBlock (s : Scanner) (column : Nat) (place : Nat) (token : Token) : Scanner :=
  if s.indent < column then
    { s with outerIndents := s.indent :: s.outerIndents, indent := column }.insertAt place token
  else s

def allow (s : Scanner) (allowed : Bool) : Scanner := { s with keyAllowed := allowed }

def passing (s : Scanner) (count : Nat) : Scanner := { s with mark := s.mark.advance count }

def skipToToken (s : Scanner) : Nat → Scanner
  | 0 => s
  | fuel + 1 =>
      let m := s.mark.skipSpaces.skipComment
      let (lineEnd, after) := m.lineBreak
      if lineEnd.isEmpty then { s with mark := m }
      else skipToToken { s with mark := after, keyAllowed := s.keyAllowed || !s.inFlow } fuel

def bound (s : Scanner) (token : Token) : Except Fault Scanner := do
  let s ← (s.unwindTo (-1)).dropKey
  return ((s.allow false).passing 3).emit token

def flowStart (s : Scanner) (token : Token) : Except Fault Scanner := do
  let s ← s.saveKey
  return (({ s with flowLevel := s.flowLevel + 1 }.allow true).passing 1).emit token

/-- The end of a flow collection, even if none is open. -/
def flowEnd (s : Scanner) (token : Token) : Except Fault Scanner := do
  let s ← s.dropKey
  return (({ s with flowLevel := s.flowLevel - 1 }.allow false).passing 1).emit token

def flowEntry (s : Scanner) : Except Fault Scanner := do
  let s ← (s.allow true).dropKey
  return (s.passing 1).emit .flowEntry

def blockEntry (s : Scanner) : Except Fault Scanner := do
  demand (s.inFlow || s.keyAllowed)
  let s := if s.inFlow then s
    else s.openBlock s.mark.column s.place .blockSequenceStart
  let s ← (s.allow true).dropKey
  return (s.passing 1).emit .blockEntry

def explicitKey (s : Scanner) : Except Fault Scanner := do
  demand (s.inFlow || s.keyAllowed)
  let s := if s.inFlow then s
    else s.openBlock s.mark.column s.place .blockMappingStart
  let s ← (s.allow !s.inFlow).dropKey
  return (s.passing 1).emit .key

/-- A colon. If a key may have started on this level, it did. -/
def valueSign (s : Scanner) : Except Fault Scanner :=
  match s.keys.lookup s.flowLevel with
  | some key =>
      let s := { s with keys := s.keys.filter (·.1 ≠ s.flowLevel) }.insertAt key.token .key
      let s := if s.inFlow then s else s.openBlock key.column key.token .blockMappingStart
      return ((s.allow false).passing 1).emit .value
  | none => do
      demand (s.inFlow || s.keyAllowed)
      let s := if s.inFlow then s
        else s.openBlock s.mark.column s.place .blockMappingStart
      let s ← (s.allow !s.inFlow).dropKey
      return (s.passing 1).emit .value

/-- A token that may be a key or stand in front of one. -/
def node (s : Scanner) (read : Mark → Except Fault (Token × Mark)) : Except Fault Scanner := do
  let s ← s.saveKey
  let (token, m) ← read s.mark
  return { s.allow false with mark := m }.emit token

def blockScalarToken (s : Scanner) (folded : Bool) : Except Fault Scanner := do
  let s ← (s.allow true).dropKey
  let (chars, m) ← blockScalar folded s.indent s.mark
  return { s with mark := m }.emit (.scalar (Text.ofChars chars) false)

def plainScalar (s : Scanner) : Except Fault Scanner := do
  let s ← s.saveKey
  let (chars, allowed, m) :=
    plainRuns s.inFlow (s.indent + 1) [] s.mark false (s.size + 1)
  return { s.allow allowed with mark := m }.emit (.scalar (Text.ofChars chars) true)

/-- Whether a plain scalar may start here. -/
def plainStarts (s : Scanner) : Bool :=
  let c := s.mark.head
  !(isBlank c || "-?:,[]\x7b\x7d#&*!|>'\x22%@\x60".toList.contains c) ||
    (!isBlank (s.mark.peek 1) && (c = '-' || (!s.inFlow && (c = '?' || c = ':'))))

def token (s : Scanner) : Except Fault Scanner :=
  let c := s.mark.head
  -- Signs of a key or a value need a blank behind them only outside of flow collections.
  let loose := s.inFlow || isBlank (s.mark.peek 1)
  if c = '%' ∧ s.mark.column = 0 then do
    let s ← (s.unwindTo (-1)).dropKey
    let (d, m) ← directive s.mark
    return { s.allow false with mark := m }.emit (.directive d)
  else if s.mark.column = 0 ∧ s.mark.isBound '-' then s.bound .documentStart
  else if s.mark.column = 0 ∧ s.mark.isBound '.' then s.bound .documentEnd
  else if c = '[' then s.flowStart .flowSequenceStart
  else if c = '\x7b' then s.flowStart .flowMappingStart
  else if c = ']' then s.flowEnd .flowSequenceEnd
  else if c = '\x7d' then s.flowEnd .flowMappingEnd
  else if c = ',' then s.flowEntry
  else if c = '-' ∧ isBlank (s.mark.peek 1) then s.blockEntry
  else if c = '?' ∧ loose then s.explicitKey
  else if c = ':' ∧ loose then s.valueSign
  else if c = '*' then s.node fun m => (anchorName m).map fun (name, m) => (.alias name, m)
  else if c = '&' then s.node fun m => (anchorName m).map fun (name, m) => (.anchor name, m)
  else if c = '!' then s.node fun m => (tag m).map fun ((handle, suffix), m) => (.tag handle suffix, m)
  else if c = '|' ∧ !s.inFlow then s.blockScalarToken false
  else if c = '>' ∧ !s.inFlow then s.blockScalarToken true
  else if c = '\x27' ∨ c = '\x22' then
    s.node fun m => (quotedScalar m).map fun (t, m) => (.scalar t false, m)
  else if s.plainStarts then s.plainScalar
  else .error .malformed

def finish (s : Scanner) : Except Fault Scanner := do
  let s ← (s.unwindTo (-1)).dropKey
  return { s.allow false with keys := [], ended := true }.emit .streamEnd

/-- Scans on by one token and those that indentation puts before it. -/
def fetch (s : Scanner) : Except Fault Scanner := do
  let s ← (s.skipToToken (s.size + 1)).dropStaleKeys
  let s := s.unwindTo s.mark.column
  if s.mark.rest.isEmpty then s.finish else s.token

/-- Scans until the next token is known: as long as a key may start at it, a colon behind it could
still put other tokens before it. -/
def settle (s : Scanner) : Nat → Except Fault Scanner
  | 0 => .error .malformed
  | fuel + 1 =>
      if s.ended then .ok s
      else if s.tokens.isEmpty then do
        let s ← s.fetch
        s.settle fuel
      else do
        let s ← s.dropStaleKeys
        if s.keys.any (·.2.token = s.taken) then
          let s ← s.fetch
          s.settle fuel
        else return s

/-- The scanner with its next token known. Every scan but the last takes a character. -/
def ready (s : Scanner) : Except Fault Scanner := s.settle (s.size + 2)

def next (s : Scanner) : Token := s.tokens.headD .streamEnd

def take (s : Scanner) : Scanner := { s with tokens := s.tokens.drop 1, taken := s.taken + 1 }

end Scanner

end Yaml

end FenceCheck
