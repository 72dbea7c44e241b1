import FenceCheck.Text.Quoted
import FenceCheck.Text.Utf8

/-!
Texts in the form that the operating system takes for paths, words and variables: bytes that end
before the first null. Bytes that are no UTF-8 stand in a text as surrogates and become bytes again;
other surrogates have no form. What is said about texts and bytes without a form is here as well.
-/

namespace FenceCheck

namespace Utf8

namespace Malformed

def hex (b : UInt8) : Text := Text.hexDigits b.toNat 2

def reason : Fault → Text
  | .invalidStart => "invalid start byte"
  | .invalidContinuation => "invalid continuation byte"
  | .unexpectedEnd => "unexpected end of data"

/-- A strict reader's message about bytes that are not UTF-8. -/
def message (m : Malformed) : Text :=
  let place := match m.bytes with
    | [b] => Text.ofString "byte 0x" ++ hex b ++ Text.ofString " in position " ++
        Text.ofNat m.position
    | bytes => Text.ofString "bytes in position " ++ Text.ofNat m.position ++ Text.ofString "-" ++
        Text.ofNat (m.position + bytes.length - 1)
  Text.ofString "'utf-8' codec can't decode " ++ place ++ Text.ofString ": " ++ reason m.fault

end Malformed

namespace Unwritable

/-- A writer's message about surrogates, which have no UTF-8 form. -/
def message (fault : Unwritable) : Text :=
  let place :=
    if fault.length = 1 then
      Text.ofString "character '\\u" ++ Text.hexDigits (0xD800 + fault.first.val) 4 ++
        Text.ofString "' in position " ++ Text.ofNat fault.position
    else
      Text.ofString "characters in position " ++ Text.ofNat fault.position ++
        Text.ofString "-" ++ Text.ofNat (fault.position + fault.length - 1)
  Text.ofString "'utf-8' codec can't encode " ++ place ++ Text.ofString ": surrogates not allowed"

end Unwritable

end Utf8

inductive FormFault where
  | null
  | unwritable (fault : Utf8.Unwritable)
  deriving DecidableEq, Repr

namespace FormFault

def message : FormFault → Text
  | null => "embedded null byte"
  | unwritable fault => fault.message

end FormFault

namespace Text

/-- The byte that stands in a text as a surrogate. -/
def byteOf? (half : Fin 2048) : Option UInt8 :=
  if 0x480 ≤ half.val ∧ half.val < 0x500 then some (UInt8.ofNat (half.val - 0x400)) else none

def bytesFrom (position : Nat) : Text → Except Utf8.Unwritable (List UInt8)
  | [] => .ok []
  | .char c :: rest => (bytesFrom (position + 1) rest).map (Utf8.encodeChar c ++ ·)
  | .surrogate half :: rest =>
      match byteOf? half with
      | some b => (bytesFrom (position + 1) rest).map (b :: ·)
      | none => .error ⟨position, half, Utf8.surrogateRun rest + 1⟩

/-- The bytes of a text, in which surrogates may stand for bytes. -/
def bytes (t : Text) : Except Utf8.Unwritable (List UInt8) := bytesFrom 0 t

def ofBytes (bytes : List UInt8) : Text :=
  (Utf8.pieces bytes).flatMap fun
    | .scalar c => [.char c]
    | .malformed m => m.bytes.map fun b => CodePoint.surrogateAt (0x400 + b.toNat)

def formFault? (t : Text) : Option FormFault :=
  match t.bytes with
  | .error fault => some (.unwritable fault)
  | .ok _ => if .char '\x00' ∈ t then some .null else none

def size (t : Text) : Nat :=
  (t.map fun
    | .char c => c.utf8Size
    | .surrogate _ => 1).foldl (· + ·) 0

end Text

end FenceCheck
