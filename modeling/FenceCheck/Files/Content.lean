import FenceCheck.Failure
import FenceCheck.Files.Change

/-!
Files as text and as JSON. Bytes that are not UTF-8 are refused, and so are surrogates in what is
written.
-/

namespace FenceCheck

namespace Files

/-- The text of a file that has to be UTF-8, with line feeds for all line ends. -/
def readText (files : Files) (p : Path) : Except Failure Text :=
  match files.read p with
  | .error error => .error (.file error)
  | .ok bytes =>
      match Utf8.decode bytes with
      | .error malformed => .error (.undecodable malformed)
      | .ok t => .ok (Text.universalNewlines t)

/-- The text of a file that is read as a stream, which counts malformed bytes chunk by chunk. -/
def readStream (files : Files) (p : Path) : Except Failure Text :=
  match files.read p with
  | .error error => .error (.file error)
  | .ok bytes =>
      match Utf8.decode bytes with
      | .error malformed => .error (.undecodable (malformed.inStream bytes))
      | .ok t => .ok (Text.universalNewlines t)

def readJson (files : Files) (p : Path) : Except Failure Json := do
  let t ← files.readText p
  (Json.read t).mapError (.unreadable t)

/-- Makes the directories above a path and writes a text there. A text that cannot be written leaves
the file empty. -/
def store (files : Files) (p : Path) (t : Text) : Files × Except Failure Unit :=
  match files.makeDirectories p.parent (p.parent.names.length + 1) with
  | .error error => (files, .error (.file error))
  | .ok files =>
      match files.write p ((Utf8.encode t).toOption.getD []) with
      | .error error => (files, .error (.file error))
      | .ok files => (files, ((Utf8.encode t).mapError .unwritable).map fun _ => ())

end Files

def Contract.checkFile (files : Files) (name : Text) (p : Path) : Except Failure Unit := do
  let value ← files.readJson p
  (Contract.checkNamed name (.ofJson value)).mapError .ofContract

end FenceCheck
