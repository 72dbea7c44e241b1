import FenceCheck.Path
import FenceCheck.Text.Form

/-!
A tree of files. Directories hold named entries; a symbolic link holds the text of its target,
which means something only from the place of the link.
-/

namespace FenceCheck

inductive FileNode where
  | file (bytes : List UInt8) (executable : Bool)
  | directory (entries : List (Text × FileNode))
  | link (target : Text)
  deriving Inhabited

abbrev Entries := List (Text × FileNode)

namespace FileNode

def isDirectory : FileNode → Bool
  | directory _ => true
  | _ => false

def isFile : FileNode → Bool
  | file .. => true
  | _ => false

def entry? : FileNode → Text → Option FileNode
  | directory entries, name => entries.lookup name
  | _, _ => none

/-- The node below a node at the end of a list of names; links are not followed. -/
def at? : FileNode → List Text → Option FileNode
  | node, [] => some node
  | node, name :: rest => (node.entry? name).bind (at? · rest)

/-- Entries with one set: in its old place, or at the end if it is new. -/
def setEntry : Entries → Text → FileNode → Entries
  | [], name, node => [(name, node)]
  | entry :: rest, name, node =>
      if entry.1 = name then (name, node) :: rest else entry :: setEntry rest name node

def put : FileNode → List Text → FileNode → FileNode
  | _, [], node => node
  | directory entries, name :: rest, node =>
      directory (setEntry entries name
        (put ((entries.lookup name).getD (directory [])) rest node))
  | _, name :: rest, node => directory [(name, put (directory []) rest node)]

end FileNode

inductive FileFault where
  | missing
  | notDirectory
  | isDirectory
  | occupied
  | forbidden
  | linkLoop
  | nameTooLong
  | noProgram
  deriving DecidableEq, Repr

namespace FileFault

def number : FileFault → Nat
  | missing => 2
  | forbidden => 13
  | occupied => 17
  | notDirectory => 20
  | isDirectory => 21
  | nameTooLong => 36
  | linkLoop => 40
  | noProgram => 8

def description : FileFault → Text
  | missing => "No such file or directory"
  | forbidden => "Permission denied"
  | occupied => "File exists"
  | notDirectory => "Not a directory"
  | isDirectory => "Is a directory"
  | nameTooLong => "File name too long"
  | linkLoop => "Too many levels of symbolic links"
  | noProgram => "Exec format error"

end FileFault

inductive FileError where
  | refused (fault : FileFault) (path : Text)
  | circular (path : Path)
  | formless (fault : FormFault)
  deriving DecidableEq, Repr

namespace FileError

def message : FileError → Text
  | refused fault path =>
      Text.ofString "[Errno " ++ Text.ofNat fault.number ++ Text.ofString "] " ++
        fault.description ++ Text.ofString ": " ++ Text.quoted path
  | circular path => Text.ofString "Symlink loop from " ++ Text.quoted path.toText
  | formless fault => fault.message

end FileError

/-- A tree of files together with the working directory, given by the names that lead to it from
the root; there are no links among them. -/
structure Files where
  root : FileNode
  cwd : List Text
  deriving Inhabited

end FenceCheck
