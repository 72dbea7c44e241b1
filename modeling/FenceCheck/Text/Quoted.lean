import FenceCheck.Text.Printable

/-!
Text between quotes as messages show it: single quotes, or double ones where that saves escapes;
code points that are not printable are given by their numbers.
-/

namespace FenceCheck

namespace Text

/-- The lowest `count` hexadecimal digits of a number. -/
def hexDigits (n : Nat) : Nat → Text
  | 0 => []
  | count + 1 => hexDigits (n / 16) count ++ [.char (Nat.digitChar (n % 16))]

def quotedPoint (quote : CodePoint) (c : CodePoint) : Text :=
  if c = quote ∨ c = .char '\\' then [.char '\\', c]
  else if c = .char '\n' then "\\n"
  else if c = .char '\r' then "\\r"
  else if c = .char '\t' then "\\t"
  else if c.isPrintable then [c]
  else if c.val < 0x100 then Text.ofString "\\x" ++ hexDigits c.val 2
  else if c.val < 0x10000 then Text.ofString "\\u" ++ hexDigits c.val 4
  else Text.ofString "\\U" ++ hexDigits c.val 8

def quoted (t : Text) : Text :=
  let quote : CodePoint :=
    if .char '\x27' ∈ t ∧ .char '\x22' ∉ t then .char '\x22' else .char '\x27'
  quote :: t.flatMap (quotedPoint quote) ++ [quote]

end Text

end FenceCheck
