import FenceCheck.Json.Reader
import FenceCheck.Text.Line

/-!
The line by which the sandbox host reports: the last line of its output that holds a JSON object
with a `success` field. What a block prints around it does no harm.
-/

namespace FenceCheck

namespace HostLine

/-- The object on one line, if the line holds one that reports. A line that is no JSON is passed
over; an integer too long to be a number ends the reading. -/
def ofLine (line : Text) : Except Json.Fault (Option Json.Fields) :=
  let stripped := Text.strip line
  if !Text.startsWith stripped "\x7b" then .ok none
  else
    match Json.read stripped with
    | .ok (.object fields) =>
        .ok (if (fields.lookup ↑"success").isSome then some fields else none)
    | .ok _ => .ok none
    | .error fault => if fault.isSyntax then .ok none else .error fault

def firstOf : List Text → Except Json.Fault (Option Json.Fields)
  | [] => .ok none
  | line :: rest =>
      match ofLine line with
      | .ok none => firstOf rest
      | answer => answer

def ofOutput (output : Text) : Except Json.Fault (Option Json.Fields) :=
  firstOf (Text.lines output).reverse

end HostLine

end FenceCheck
