import FenceCheck.Json.Reader
import FenceCheck.Machine.Basic
import FenceCheck.Text.Utf8

/-!
A machine told in JSON: its files, its variables, its processors, its clock and the ways in which
programs end on it. On such a scene the command can be tried without the programs that it starts.
What a scene leaves out is empty, and values of another shape are taken as left out.
-/

namespace FenceCheck

/-- The end of the programs that are started with some words and a part of an input. -/
structure Rehearsal where
  words : List Text
  part : Text
  ending : Ending

structure Scene where
  machine : Machine
  screen : Bool

namespace Rehearsal

def covers (rehearsal : Rehearsal) (launch : Launch) : Bool :=
  rehearsal.words.all launch.words.contains && Text.contains launch.input rehearsal.part

/-- The end of a start: that of the first rehearsal which covers it. A program without one is not on
the machine. -/
def endingOf (rehearsals : List Rehearsal) (launch : Launch) : Ending :=
  match rehearsals.find? (covers · launch) with
  | some rehearsal => rehearsal.ending
  | none => .unstarted (.file .missing (launch.words.headD []))

end Rehearsal

namespace Scene

def field (j : Json) (name : String) : Json := (j.get? (Text.ofString name)).getD .null

def asText : Json → Text
  | .str s => s
  | _ => []

def asList : Json → List Json
  | .list items => items
  | _ => []

def asFields : Json → List (Text × Json)
  | .object fields => fields
  | _ => []

def asNat? : Json → Option Nat
  | .int n => if 0 ≤ n then some n.toNat else none
  | _ => none

def isTrue : Json → Bool
  | .bool b => b
  | _ => false

def bytesOf (text : Text) : List UInt8 := (Utf8.encode text).toOption.getD []

def nodeOf : Json → FileNode
  | .str text => .file (bytesOf text) false
  | .object fields =>
      match fields.lookup (Text.ofString "link") with
      | some target => .link (asText target)
      | none =>
          .file (bytesOf (asText (field (.object fields) "text")))
            (isTrue (field (.object fields) "executable"))
  | _ => .directory []

def filesOf (j : Json) : Files :=
  let cwd := (Path.ofText (asText (field j "directory"))).names
  let add (root : FileNode) (entry : Text × Json) : FileNode :=
    root.put (cwd ++ (Path.ofText entry.1).names) (nodeOf entry.2)
  { root := (asFields (field j "files")).foldl add ((FileNode.directory []).put cwd (.directory []))
    cwd }

def rehearsalOf (j : Json) : Rehearsal :=
  let output := asText (field j "output")
  let errors := asText (field j "errors")
  { words := (asList (field j "words")).map asText
    part := asText (field j "input")
    ending :=
      if isTrue (field j "stopped") then .stopped output errors
      else .exited (((asNat? (field j "code")).getD 0 : Nat) : Int) output errors }

def clockOf (j : Json) : Clock :=
  match (asList j).filterMap asNat? with
  | [year, month, day, hour, minute, second, microsecond] =>
      ⟨year, month, day, hour, minute, second, microsecond⟩
  | _ => ⟨1970, 1, 1, 0, 0, 0, 0⟩

def ofJson (j : Json) : Scene :=
  { machine :=
      { files := filesOf j
        environment := (asFields (field j "environment")).map fun entry => (entry.1, asText entry.2)
        processors := asNat? (field j "processors")
        clock := clockOf (field j "clock")
        elapsed := (asNat? (field j "elapsed")).getD 0
        hostScript := asText (field j "host")
        launch := Rehearsal.endingOf ((asList (field j "programs")).map rehearsalOf) }
    screen := isTrue (field j "screen") }

end Scene

end FenceCheck
