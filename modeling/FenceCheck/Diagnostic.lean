import FenceCheck.Text.Digit
import FenceCheck.Text.Line
import FenceCheck.Text.Pattern

/-!
Error dumps of other programs, reduced to their first line that says something: places inside the
harness are deleted, lines about its own machinery and stack frames are passed over, and the label
of the bundler is taken off.
-/

namespace FenceCheck

namespace Diagnostic

def isDigit (c : CodePoint) : Bool := c.decimalDigit?.isSome

def hostScriptName : Text := "sandbox_host.js"

def evaluatedPlace : Pattern :=
  .sequence [.literal "file://", .oneOrMore (fun c => !c.isBlank), .literal "[eval", .many isDigit,
    .literal "]:", .oneOrMore isDigit]

def inputPlace : Pattern := .sequence [.literal "[stdin]:", .oneOrMore isDigit]

def noiseMarkers : List Text := ["node:internal", "node:vm", "file://", hostScriptName]

def stackFrame : Pattern :=
  .sequence [.blanks, .literal "at", .one CodePoint.isBlank]

def bundlerLabel : Pattern :=
  .sequence [.optional (.seq (.literal "✘") .blanks), .literal "[ERROR]", .blanks]

def isNoise (line : Text) : Bool :=
  noiseMarkers.any (Text.contains line) || (stackFrame.match? (Cursor.start line)).isSome

def meaningOf (line : Text) : Text :=
  let stripped := Text.strip line
  match bundlerLabel.match? (Cursor.start stripped) with
  | some behind => behind.rest
  | none => stripped

/-- The lines of a dump once places inside the harness are deleted. -/
def dumpLines (dump : Text) : List Text :=
  Text.lines (inputPlace.deleteAll (evaluatedPlace.deleteAll dump))

def firstMeaning : List Text → Text
  | [] => []
  | line :: rest =>
      if isNoise line then firstMeaning rest
      else
        match meaningOf line with
        | [] => firstMeaning rest
        | meaning => meaning

/-- The first line of a dump that says something, or nothing. -/
def clean (dump : Text) : Text := firstMeaning (dumpLines dump)

end Diagnostic

end FenceCheck
