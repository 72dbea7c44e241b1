/-!
Text as the program meets it: a list of code points. Decoded bytes hold characters only, but an
escape inside a JSON or YAML string can leave one half of a surrogate pair, which counts as a unit
of text everywhere and has no UTF-8 form.
-/

namespace FenceCheck

/-- A unit of text: a character, or a surrogate that stands alone. -/
inductive CodePoint where
  | char (c : Char)
  | surrogate (half : Fin 2048)
  deriving DecidableEq, Repr, Inhabited

namespace CodePoint

def val : CodePoint → Nat
  | char c => c.toNat
  | surrogate half => 0xD800 + half.val

def surrogateAt (place : Nat) : CodePoint := .surrogate (Fin.ofNat 2048 place)

def ofVal? (n : Nat) : Option CodePoint :=
  if h : n.isValidChar then some (.char (Char.ofNatAux n h))
  else if 0xD800 ≤ n ∧ n < 0xE000 then some (surrogateAt (n - 0xD800))
  else none

/-- The replacement character, which stands for bytes that are not UTF-8. -/
def replacement : CodePoint := .char '\uFFFD'

end CodePoint

instance : Coe Char CodePoint := ⟨.char⟩

abbrev Text := List CodePoint

namespace Text

def ofChars (chars : List Char) : Text := chars.map .char

def ofString (s : String) : Text := ofChars s.toList

instance : Coe String Text := ⟨ofString⟩

def ofNat (n : Nat) : Text := ofChars (Nat.toDigits 10 n)

def ofInt : Int → Text
  | .ofNat n => ofNat n
  | .negSucc n => .char '-' :: ofNat (n + 1)

def toChars? (t : Text) : Option (List Char) :=
  t.mapM fun
    | .char c => some c
    | .surrogate _ => none

/-- Code points in order of their numbers, a shorter text before its extensions. -/
def le : Text → Text → Bool
  | [], _ => true
  | _ :: _, [] => false
  | a :: s, b :: t => if a.val = b.val then le s t else a.val < b.val

def startsWith (t start : Text) : Bool := start.isPrefixOf t

def endsWith (t ending : Text) : Bool := ending.isSuffixOf t

def contains (t part : Text) : Bool :=
  match t with
  | [] => part.isEmpty
  | c :: rest => part.isPrefixOf (c :: rest) || contains rest part

/-- The text after `start`, if it begins with it. -/
def dropStart? : Text → Text → Option Text
  | t, [] => some t
  | [], _ :: _ => none
  | c :: t, s :: start => if c = s then dropStart? t start else none

/-- The pieces between occurrences of `mark`: one more than there are marks. -/
def splitAt (mark : CodePoint) : Text → List Text
  | [] => [[]]
  | c :: rest =>
      if c = mark then [] :: splitAt mark rest
      else (splitAt mark rest).modifyHead (c :: ·)

def join (separator : Text) : List Text → Text
  | [] => []
  | [piece] => piece
  | piece :: pieces => piece ++ separator ++ join separator pieces

def zeroPadded (width : Nat) (digits : Text) : Text :=
  List.replicate (width - digits.length) (.char '0') ++ digits

end Text

end FenceCheck
