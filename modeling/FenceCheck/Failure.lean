import FenceCheck.Config.Basic
import FenceCheck.Json.Reader

/-!
Why an operation ends without its result. Three kinds are addressed to the user and have an exit code
of their own; a failure to bundle concerns one block; all others are internal errors.
-/

namespace FenceCheck

inductive Failure where
  | config (error : ConfigError)
  | contract (error : ContractError)
  | noPath (path : Path)
  | bundling (message : Text)
  | unstarted (fault : StartFault)
  | file (error : FileError)
  | undecodable (malformed : Utf8.Malformed)
  | unwritable (fault : Utf8.Unwritable)
  /-- A text is no JSON, or holds a number that is too long. -/
  | unreadable (text : Text) (fault : Json.Fault)
  | numberTooLarge
  | scalar (fault : ScalarFault)
  | noTable (kind : Text)
  | fewWorkers (concurrency : Amount)
  | brokenWorkers
  | emptySlots (slots : List Nat)
  | lifecycle (current next : Text)
  | itemOrder (index : Int) (current next : Text)
  deriving Repr

namespace Failure

def ofContract : ContractError → Failure
  | .untold => scalar .hugeInteger
  | error => contract error

def ofConfig : ConfigError → Failure
  | .invalid _ .untold => scalar .hugeInteger
  | error => config error

/-- What is told by numbers is told as a whole, or not at all if one of them has too many digits. -/
def showing (told : Bool) (value : α) : Except Failure α :=
  if told then .ok value else .error (scalar .hugeInteger)

def ofFewWorkers (concurrency : Amount) : Failure :=
  if concurrency.toJson.isShowable then fewWorkers concurrency else scalar .hugeInteger

def ofItemOrder (index : Int) (current next : Text) : Failure :=
  if Integer.isShort index then itemOrder index current next else scalar .hugeInteger

def message : Failure → Text
  | config error => error.message
  | contract error => error.message
  | noPath path => Text.ofString "Path not found: " ++ path.toText
  | bundling text => text
  | unstarted fault => fault.message
  | file error => error.message
  | undecodable malformed => malformed.message
  | unwritable fault => fault.message
  | unreadable text fault => fault.message text
  | numberTooLarge => "int too large to convert to float"
  | scalar fault => fault.message
  | noTable kind => Text.ofString "'" ++ kind ++ Text.ofString "' object has no attribute 'get'"
  | fewWorkers concurrency => Text.ofString "concurrency must be >= 1, got " ++ concurrency.toText
  | brokenWorkers => "'float' object cannot be interpreted as an integer"
  | emptySlots slots =>
      Text.ofString "scheduler finished with unfilled result slots: [" ++
        Text.join ", " (slots.map Text.ofNat) ++ Text.ofString "]"
  | lifecycle current next =>
      Text.ofString "invalid reporter transition: " ++ current ++ Text.ofString " -> " ++ next
  | itemOrder index current next =>
      Text.ofString "invalid item transition for #" ++ Text.ofInt index ++ Text.ofString ": " ++
        current ++ Text.ofString " -> " ++ next

def isRefusal : Failure → Bool
  | unstarted fault => fault.isRefusal
  | file (.refused ..) => true
  | _ => false

/-- The exit codes of the failures that are addressed to the user. -/
def userCode? : Failure → Option Nat
  | noPath _ => some 1
  | config _ => some 3
  | contract _ => some 4
  | _ => none

end Failure

end FenceCheck
