import FenceCheck.Failure
import FenceCheck.Machine.Program

/-!
Where the bundler is. One that is named in the configuration or by a variable is taken or nothing
is; otherwise the nearest one that a package installed at or above a directory, or else the one on the
search path.
-/

namespace FenceCheck

namespace Bundler

def locationVariable : Text := "SCRIBE_ESBUILD"

def programName : Text := "esbuild"

/-- Where a package manager puts the bundler of a project. -/
def installed (directory : Path) : Path :=
  ((directory.child "node_modules").child ".bin").child programName

def upward (root : Text) : List Text → List Path
  | [] => [⟨root, []⟩]
  | names@(_ :: _) => ⟨root, names⟩ :: upward root names.dropLast
  termination_by names => names.length
  decreasing_by simp_all

/-- A directory and those above it, the nearest first. -/
def ancestors (directory : Path) : List Path := upward directory.root directory.names

/-- The bundler of a name that the user chose: a program of this name, or a file. -/
def chosen? (machine : Machine) (name : Text) : Except FileError (Option Text) := do
  match Program.find? machine.files machine.environment name with
  | some program => return some program
  | none => return if ← machine.files.isFile (Path.ofText name) then some name else none

/-- The bundler of the project that a directory belongs to, or else the one on the search path. -/
def nearest? (machine : Machine) (directory : Path) : Except FileError (Option Text) := do
  match ← machine.files.firstFile? ((ancestors directory).map installed) with
  | some program => return some program.toText
  | none => return Program.find? machine.files machine.environment programName

/-- The bundler for a directory; a directory that cannot be resolved is no place to look from. -/
def locate (machine : Machine) (directory : Path) (configured : Option Text) :
    Except Failure (Option Text) :=
  match (configured.filter (!·.isEmpty)).or (machine.environment.nonEmpty? locationVariable) with
  | some name => (chosen? machine name).mapError .file
  | none => ((machine.files.resolve? directory).bind (nearest? machine)).mapError .file

end Bundler

end FenceCheck
