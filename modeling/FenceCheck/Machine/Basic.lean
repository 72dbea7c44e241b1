import FenceCheck.Files.Lookup
import FenceCheck.Number.Amount
import FenceCheck.Text.LowerCase

/-!
What the program finds around it: files, variables, processors, a clock, and other programs, of
which only the way they end matters. Nothing of it changes on its own.
-/

namespace FenceCheck

/-- Universal time, to the microsecond. -/
structure Clock where
  year : Nat
  month : Nat
  day : Nat
  hour : Nat
  minute : Nat
  second : Nat
  microsecond : Nat
  deriving DecidableEq, Repr

/-- The start of another program: its words, its working directory, the seconds it may take and what
it reads. -/
structure Launch where
  words : List Text
  directory : Path
  /-- An amount that is not positive sets no limit. -/
  limit : Amount
  input : Text
  deriving DecidableEq, Repr

inductive LimitFault where
  /-- More milliseconds than a wait can be told. -/
  | tooLong
  /-- More nanoseconds than a clock counts. -/
  | beyondClock
  | endless
  | tooLarge
  deriving DecidableEq, Repr

namespace LimitFault

def message : LimitFault → Text
  | tooLong => "timeout is too large"
  | beyondClock => "timestamp too large to convert to C _PyTime_t"
  | endless => "cannot convert float infinity to integer"
  | tooLarge => "int too large to convert to float"

end LimitFault

inductive StartFault where
  | wordless
  | misnamed
  | formless (fault : FormFault)
  | file (fault : FileFault) (name : Text)
  | directory (fault : FileFault) (path : Path)
  | limit (fault : LimitFault)
  | other (reason : Text)
  deriving DecidableEq, Repr

namespace StartFault

/-- Whether it was the operating system that refused the start. -/
def isRefusal : StartFault → Bool
  | file .. | directory .. | other _ => true
  | _ => false

def message : StartFault → Text
  | wordless => "list index out of range"
  | misnamed => "illegal environment variable name"
  | formless fault => fault.message
  | file fault name => (FileError.refused fault name).message
  | limit fault => fault.message
  | directory fault path =>
      Text.ofString "[Errno " ++ Text.ofNat fault.number ++ Text.ofString "] " ++
        fault.description ++ Text.ofString ": PosixPath(" ++ Text.quoted path.toText ++
        Text.ofString ")"
  | other reason => reason

end StartFault

/-- How a program ends: by itself with a code, which is a machine word, by being stopped when its time
was up, or before it began. -/
inductive Ending where
  | exited (code : Int) (output errors : Text)
  | stopped (output errors : Text)
  | unstarted (fault : StartFault)
  deriving DecidableEq, Repr

abbrev Variables := List (Text × Text)

structure Machine where
  files : Files
  environment : Variables
  processors : Option Nat
  clock : Clock
  /-- The milliseconds that a piece of work is measured to take. -/
  elapsed : Nat
  /-- The script that hosts a block. -/
  hostScript : Text
  launch : Launch → Ending

namespace Variables

def nonEmpty? (environment : Variables) (name : Text) : Option Text :=
  match environment.lookup name with
  | some [] => none
  | value => value

def isTrue (value : Text) : Bool :=
  value = Text.ofString "1" || value = Text.ofString "true" || value = Text.ofString "yes"

/-- Whether the program runs in a build service, which makes itself known by a variable. -/
def inBuildService (environment : Variables) : Bool :=
  let valueOf (name : String) : Text :=
    Text.lower (Text.strip ((environment.lookup (Text.ofString name)).getD []))
  isTrue (valueOf "CI") || valueOf "GITHUB_ACTIONS" = Text.ofString "true"

/-- Whether output may be coloured. -/
def allowColor (environment : Variables) : Bool := (environment.nonEmpty? "NO_COLOR").isNone

end Variables

end FenceCheck
