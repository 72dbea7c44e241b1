import FenceCheck.Machine.Basic

/-!
Finding a program by its name, in the directories that the search path lists, and starting it. A name
with a slash in it is looked up as it is. A program that is started looks from its own working
directory.
-/

namespace FenceCheck

namespace Program

/-- The directories that are searched where no search path is set. -/
def usualDirectories : List Text := ["/bin", "/usr/bin"]

/-- The directories of the search path; an empty path lists none. -/
def searchDirectories (environment : Variables) : List Text :=
  match environment.lookup (Text.ofString "PATH") with
  | none => usualDirectories
  | some [] => []
  | some path => Text.splitAt (.char ':') path

/-- A name in a directory, as text: an empty directory is the working directory. -/
def inDirectory (directory name : Text) : Text :=
  if directory.isEmpty || Text.endsWith directory "/" then directory ++ name
  else directory ++ Path.slash :: name

def find? (files : Files) (environment : Variables) (name : Text) : Option Text :=
  if Path.slash ∈ name then
    if files.isProgram name then some name else none
  else
    ((searchDirectories environment).map (inDirectory · name)).find? files.isProgram

/-- The files as a program finds them that is started in a directory. -/
def enter (files : Files) (directory : Path) : Except FileFault Files :=
  match files.place directory with
  | .error fault => .error fault
  | .ok place =>
      match files.root.at? place.names with
      | some (.directory _) => .ok { files with cwd := place.names }
      | _ => .error .notDirectory

/-- The directories in which a start looks: an empty search path lists the working directory there. -/
def startDirectories (environment : Variables) : List Text :=
  match environment.lookup (Text.ofString "PATH") with
  | none => usualDirectories
  | some path => Text.splitAt (.char ':') path

/-- Where a start looks for a program, one place after another. -/
def startPlaces (environment : Variables) (name : Text) : List Text :=
  if Path.slash ∈ name then [name] else (startDirectories environment).map (inDirectory · name)

/-- The file that is started by a name: the first of its places that is a program. -/
def started? (files : Files) (environment : Variables) (name : Text) : Option Text :=
  (startPlaces environment name).find? files.isProgram

end Program

end FenceCheck
