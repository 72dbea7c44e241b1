import FenceCheck.Text.CodePoint

/-!
XML elements: attributes in their order, text, and elements after the text. An element with neither
text nor elements is written as one tag.
-/

namespace FenceCheck

namespace Xml

inductive Element where
  | mk (name : Text) (attributes : List (Text × Text)) (text : Text) (children : List Element)
  deriving Repr

def escapeInText : CodePoint → Text
  | .char '&' => "&amp;"
  | .char '<' => "&lt;"
  | .char '>' => "&gt;"
  | c => [c]

/-- A code point as it is written in an attribute, where line breaks and tabs would become blanks. -/
def escapeInAttribute : CodePoint → Text
  | .char '\x22' => "&quot;"
  | .char '\r' => "&#13;"
  | .char '\n' => "&#10;"
  | .char '\t' => "&#09;"
  | c => escapeInText c

def writeAttribute (entry : Text × Text) : Text :=
  .char ' ' :: entry.1 ++ Text.ofString "=\x22" ++ entry.2.flatMap escapeInAttribute ++
    [.char '\x22']

mutual

def Element.write : Element → Text
  | .mk name attributes text children =>
      .char '<' :: name ++ attributes.flatMap writeAttribute ++
        if text.isEmpty && children.isEmpty then Text.ofString " />"
        else
          .char '>' :: text.flatMap escapeInText ++ writeAll children ++ Text.ofString "</" ++
            name ++ [.char '>']

def writeAll : List Element → Text
  | [] => []
  | element :: rest => element.write ++ writeAll rest

end

end Xml

end FenceCheck
