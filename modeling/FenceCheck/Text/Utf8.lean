import FenceCheck.Text.CodePoint

/-!
UTF-8. Reading turns bytes into pieces: characters, and malformed runs, each of which is the longest
start of a character that the following byte does not continue. A lossy reader writes one
replacement character per malformed run; a strict one stops at the first.
-/

namespace FenceCheck

namespace Utf8

inductive Fault where
  | invalidStart
  | invalidContinuation
  | unexpectedEnd
  deriving DecidableEq, Repr

/-- Bytes that are no character: where they stand, what they are and why. -/
structure Malformed where
  position : Nat
  bytes : List UInt8
  fault : Fault
  deriving DecidableEq, Repr

inductive Piece where
  | scalar (c : Char)
  | malformed (m : Malformed)
  deriving DecidableEq, Repr

/-- A character whose first bytes were read: how many bytes it still needs, between which bounds
the next one lies, and the value of the bits so far. -/
structure Partial where
  bytes : List UInt8
  needed : Nat
  low : UInt8
  high : UInt8
  value : Nat
  deriving DecidableEq, Repr

/-- What a byte at the start of a character means. -/
inductive Start where
  | complete (c : Char)
  | begun (part : Partial)
  | invalid
  deriving DecidableEq, Repr

/-- The bounds on the second byte leave out overlong forms, surrogates and numbers past the last
code point. -/
def start (b : UInt8) : Start :=
  let opened (needed : Nat) (low high : UInt8) (value : Nat) : Start :=
    .begun { bytes := [b], needed, low, high, value }
  if b < 0x80 then .complete (Char.ofNat b.toNat)
  else if b < 0xC2 then .invalid
  else if b < 0xE0 then opened 1 0x80 0xBF (b.toNat - 0xC0)
  else if b = 0xE0 then opened 2 0xA0 0xBF 0
  else if b = 0xED then opened 2 0x80 0x9F 0xD
  else if b < 0xF0 then opened 2 0x80 0xBF (b.toNat - 0xE0)
  else if b = 0xF0 then opened 3 0x90 0xBF 0
  else if b < 0xF4 then opened 3 0x80 0xBF (b.toNat - 0xF0)
  else if b = 0xF4 then opened 3 0x80 0x8F 4
  else .invalid

/-- The pieces of `bytes`, the first of which stands at `position`; `part` was read before it. -/
def piecesFrom (position : Nat) : Option Partial → List UInt8 → List Piece
  | none, [] => []
  | some part, [] =>
      [.malformed ⟨position - part.bytes.length, part.bytes, .unexpectedEnd⟩]
  | none, b :: rest =>
      match start b with
      | .complete c => .scalar c :: piecesFrom (position + 1) none rest
      | .begun part => piecesFrom (position + 1) (some part) rest
      | .invalid =>
          .malformed ⟨position, [b], .invalidStart⟩ :: piecesFrom (position + 1) none rest
  | some part, b :: rest =>
      if part.low ≤ b ∧ b ≤ part.high then
        let value := part.value * 64 + (b.toNat - 0x80)
        if part.needed ≤ 1 then
          .scalar (Char.ofNat value) :: piecesFrom (position + 1) none rest
        else
          piecesFrom (position + 1)
            (some ⟨part.bytes ++ [b], part.needed - 1, 0x80, 0xBF, value⟩) rest
      else
        .malformed ⟨position - part.bytes.length, part.bytes, .invalidContinuation⟩ ::
          match start b with
          | .complete c => .scalar c :: piecesFrom (position + 1) none rest
          | .begun next => piecesFrom (position + 1) (some next) rest
          | .invalid =>
              .malformed ⟨position, [b], .invalidStart⟩ :: piecesFrom (position + 1) none rest

def pieces (bytes : List UInt8) : List Piece := piecesFrom 0 none bytes

/-- Every malformed run becomes one replacement character. -/
def decodeLossy (bytes : List UInt8) : Text :=
  (pieces bytes).map fun
    | .scalar c => .char c
    | .malformed _ => .replacement

def decode (bytes : List UInt8) : Except Malformed Text :=
  (pieces bytes).mapM fun
    | .scalar c => .ok (.char c)
    | .malformed m => .error m

namespace Malformed

/-- The bytes that a stream hands on at a time. -/
def chunkSize : Nat := 8192

/-- The bytes in front of a boundary of a character that goes on behind it. -/
def carried (bytes : List UInt8) (boundary : Nat) : Nat :=
  let before := (bytes.take boundary).reverse
  let more := (before.takeWhile fun b => 0x80 ≤ b && b < 0xC0).length
  match before[more]? with
  | some lead =>
      let length := if lead < 0xC0 then 1 else if lead < 0xE0 then 2 else if lead < 0xF0 then 3 else 4
      if more + 1 < length then more + 1 else 0
  | none => 0

/-- Malformed bytes as a reader of a stream counts them: from the start of the chunk in which they
show, together with what was carried into it. Bytes that only the next chunk or the end shows to be
malformed were carried themselves. -/
def inStream (bytes : List UInt8) (m : Malformed) : Malformed :=
  let shows := if m.fault = .invalidStart then m.position else m.position + m.bytes.length
  let boundary := shows / chunkSize * chunkSize
  let base :=
    if m.fault = .unexpectedEnd ∨ m.position < boundary then m.position
    else boundary - carried bytes boundary
  { m with position := m.position - base }

end Malformed

def encodeChar (c : Char) : List UInt8 := (String.singleton c).toUTF8.toList

structure Unwritable where
  position : Nat
  first : Fin 2048
  length : Nat
  deriving DecidableEq, Repr

def surrogateRun : Text → Nat
  | .surrogate _ :: rest => surrogateRun rest + 1
  | _ => 0

def encodeFrom (position : Nat) : Text → Except Unwritable (List UInt8)
  | [] => .ok []
  | .char c :: rest =>
      match encodeFrom (position + 1) rest with
      | .ok bytes => .ok (encodeChar c ++ bytes)
      | .error fault => .error fault
  | .surrogate half :: rest => .error ⟨position, half, surrogateRun rest + 1⟩

def encode (t : Text) : Except Unwritable (List UInt8) := encodeFrom 0 t

end Utf8

end FenceCheck
