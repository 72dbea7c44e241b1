import FenceCheck.Text.Digit
import FenceCheck.Text.Quoted

/-!
Why a scalar of a well-formed document has no value.
-/

namespace FenceCheck

inductive ScalarFault where
  | notInteger (base : Nat) (t : Text)
  /-- More digits than an integer may be read from. -/
  | longInteger (digits : Nat)
  | hugeInteger
  | notFloat (t : Text)
  | noSuchMoment (reason : Text)
  | notMoment
  /-- Where text has to be matched there is a container of a kind. -/
  | notText (kind : Text)
  | noSuchCodePoint
  | codePointTooLarge
  /-- The weight of a part in base sixty exceeds every floating-point number. -/
  | weightTooLarge
  | noCharacters
  | unknownName (name : Text)
  | tooDeep
  deriving DecidableEq, Repr

namespace ScalarFault

/-- The most code points of a text that a message about an integer shows. -/
def shownLimit : Nat := 200

def message : ScalarFault → Text
  | notInteger base t =>
      Text.ofString "invalid literal for int() with base " ++ Text.ofNat base ++
        Text.ofString ": " ++ (Text.quoted t).take shownLimit
  | longInteger digits =>
      Text.ofString "Exceeds the limit (" ++ Text.ofNat Integer.digitLimit ++
        Text.ofString " digits) for integer string conversion: value has " ++ Text.ofNat digits ++
        Text.ofString " digits; use sys.set_int_max_str_digits() to increase the limit"
  | hugeInteger =>
      Text.ofString "Exceeds the limit (" ++ Text.ofNat Integer.digitLimit ++
        Text.ofString (" digits) for integer string conversion; " ++
          "use sys.set_int_max_str_digits() to increase the limit")
  | notFloat t => Text.ofString "could not convert string to float: " ++ Text.quoted t
  | noSuchMoment reason => reason
  | notMoment => "'NoneType' object has no attribute 'groupdict'"
  | notText kind =>
      Text.ofString "expected string or bytes-like object, got '" ++ kind ++ Text.ofString "'"
  | noSuchCodePoint => "chr() arg not in range(0x110000)"
  | codePointTooLarge => "Python int too large to convert to C int"
  | weightTooLarge => "int too large to convert to float"
  | noCharacters => "string index out of range"
  | unknownName name => Text.quoted name
  | tooDeep => "maximum recursion depth exceeded"

end ScalarFault

end FenceCheck
