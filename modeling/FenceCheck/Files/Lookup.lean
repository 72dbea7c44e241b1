import FenceCheck.Files.Node

/-!
Finding files. A path is followed name by name from the working directory or the root; a link leads
on from the place it stands in, and one lookup follows at most forty links. Neither a path nor a name
may be too long. A resolved path holds no links: loops are an error there, and names that do not exist
stay as they are.
-/

namespace FenceCheck

namespace Files

/-- The most links that one lookup follows. -/
def linkLimit : Nat := 40

/-- The most bytes that a name may take. -/
def nameLimit : Nat := 255

def pathLimit : Nat := 4095

/-- The names in a path as it was typed; a slash at its end asks for a directory. -/
def typedNames (t : Text) : List Text :=
  let names := (Text.splitAt Path.slash t).filter (!·.isEmpty)
  if Text.endsWith t "/" then names ++ [[.char '.']] else names

/-- Where a lookup has come to: a place without links, and how many links it may still follow. -/
structure Place where
  names : List Text
  links : Nat
  deriving DecidableEq, Repr

/-- Follows names from a place up to a link, from which `onward` leads. With `mayMiss` the last name need
not exist. -/
def walkNames (root : FileNode) (mayMiss : Bool) (links : Nat)
    (onward : List Text → Text → List Text → Except FileFault Place) :
    List Text → List Text → Except FileFault Place
  | place, [] => .ok ⟨place, links⟩
  | place, name :: rest =>
      match root.at? place with
      | some (.directory entries) =>
          if name = [.char '.'] then walkNames root mayMiss links onward place rest
          else if name = [.char '.', .char '.'] then
            walkNames root mayMiss links onward place.dropLast rest
          else if nameLimit < name.size then .error .nameTooLong
          else
            match entries.lookup name with
            | none => if mayMiss && rest.isEmpty then .ok ⟨place ++ [name], links⟩ else .error .missing
            | some (.link target) => onward place target rest
            | some _ => walkNames root mayMiss links onward (place ++ [name]) rest
      | some _ => .error .notDirectory
      | none => .error .missing

/-- Follows names from a place, and a link as long as there are links left to follow. -/
def walk (root : FileNode) (mayMiss : Bool) (links : Nat) :
    List Text → List Text → Except FileFault Place :=
  walkNames root mayMiss links fun place target rest =>
    match links with
    | 0 => .error .linkLoop
    | links + 1 =>
        -- An absolute target starts over at the root, another one where the link stands.
        if target.isEmpty then .error .missing
        else
          walk root mayMiss links (if Text.startsWith target "/" then [] else place)
            (typedNames target ++ rest)

def origin (files : Files) (p : Path) : List Text := if p.isAbsolute then [] else files.cwd

def place (files : Files) (p : Path) : Except FileFault Place :=
  if pathLimit < p.toText.size then .error .nameTooLong
  else walk files.root false linkLimit (files.origin p) p.names

def nodeAt (files : Files) : Except FileFault Place → Except FileFault FileNode
  | .error fault => .error fault
  | .ok place =>
      match files.root.at? place.names with
      | some node => .ok node
      | none => .error .missing

def find (files : Files) (p : Path) : Except FileFault FileNode := files.nodeAt (files.place p)

/-- The place that a path as it was typed leads to. With `mayMiss` its last name need not exist. -/
def placeTyped (files : Files) (mayMiss : Bool) (t : Text) : Except FileFault Place :=
  if t.isEmpty then .error .missing
  else if pathLimit < t.size then .error .nameTooLong
  else
    walk files.root mayMiss linkLimit (if Text.startsWith t "/" then [] else files.cwd)
      (typedNames t)

def findTyped (files : Files) (t : Text) : Except FileFault FileNode :=
  files.nodeAt (files.placeTyped false t)

/-- The node that a path leads to, if it leads to one. Only a name that is too long is refused. -/
def probe (files : Files) (p : Path) : Except FileError (Option FileNode) :=
  match files.find p with
  | .ok node => .ok (some node)
  | .error .nameTooLong => .error (.refused .nameTooLong p.toText)
  | .error _ => .ok none

def pathExists (files : Files) (p : Path) : Except FileError Bool :=
  (files.probe p).map Option.isSome

def isFile (files : Files) (p : Path) : Except FileError Bool :=
  (files.probe p).map (·.any FileNode.isFile)

def isDirectory (files : Files) (p : Path) : Except FileError Bool :=
  (files.probe p).map (·.any FileNode.isDirectory)

/-- The first of some paths that is a file. -/
def firstFile? (files : Files) : List Path → Except FileError (Option Path)
  | [] => .ok none
  | p :: rest => do if ← files.isFile p then return some p else files.firstFile? rest

def isProgram (files : Files) (t : Text) : Bool :=
  match files.findTyped t with
  | .ok (.file _ executable) => executable
  | _ => false

def bytesOf : Except FileFault FileNode → Except FileFault (List UInt8)
  | .ok (.file bytes _) => .ok bytes
  | .ok (.directory _) => .error .isDirectory
  | .ok (.link _) => .error .linkLoop
  | .error fault => .error fault

def readTyped (files : Files) (t : Text) : Except FileFault (List UInt8) :=
  bytesOf (files.findTyped t)

/-- A path that the operating system can be asked about. -/
def formed (p : Path) : Except FileError Unit :=
  match p.toText.formFault? with
  | some fault => .error (.formless fault)
  | none => .ok ()

def read (files : Files) (p : Path) : Except FileError (List UInt8) := do
  formed p
  (bytesOf (files.find p)).mapError (.refused · p.toText)

def countLinks : FileNode → Nat
  | .file .. => 0
  | .link _ => 1
  | .directory entries => countEntries entries
where
  countEntries : Entries → Nat
    | [] => 0
    | entry :: rest => countLinks entry.2 + countEntries rest

/-- Follows names by their spelling alone, whatever they lead to. -/
def follow (place : List Text) (names : List Text) : List Text :=
  names.foldl
    (fun place name =>
      if name = [.char '.'] then place
      else if name = [.char '.', .char '.'] then place.dropLast
      else place ++ [name])
    place

/-- Resolves names from a place, with `resolveLink` for the links among them: what they come to, and
whether every link on the way was resolved. A link that was not is left as it is, and the names after it
are followed by their spelling. -/
def resolveNames (root : FileNode) (resolveLink : List Text → Text → Text → List Text × Bool) :
    List Text → List Text → List Text × Bool
  | place, [] => (place, true)
  | place, name :: rest =>
      if name = [.char '.'] then resolveNames root resolveLink place rest
      else if name = [.char '.', .char '.'] then
        resolveNames root resolveLink place.dropLast rest
      else
        match root.at? (place ++ [name]) with
        | some (.link target) =>
            -- A link is resolved by itself: the names behind it go on from where it leads.
            match resolveLink place name target with
            | (names, true) => resolveNames root resolveLink names rest
            | (names, false) => (follow names rest, false)
        | _ => resolveNames root resolveLink (place ++ [name]) rest

/-- A path without links. `pending` are the links that are being resolved; a link among them is not
resolved again. -/
def resolveFrom (root : FileNode) (fuel : Nat) (pending : List (List Text)) :
    List Text → List Text → List Text × Bool :=
  resolveNames root fun place name target =>
    match fuel with
    | 0 => (place ++ [name], false)
    | fuel + 1 =>
        if pending.contains (place ++ [name]) then (place ++ [name], false)
        else
          resolveFrom root fuel ((place ++ [name]) :: pending)
            (if Text.startsWith target "/" then [] else place) (typedNames target)

/-- The absolute path without links that a path stands for. -/
def resolve (files : Files) (p : Path) : Path :=
  { root := [Path.slash]
    names := (resolveFrom files.root (countLinks files.root + 1) [] (files.origin p) p.names).1 }

/-- The resolved path, unless its links lead in a circle. -/
def resolve? (files : Files) (p : Path) : Except FileError Path := do
  formed p
  let resolved := files.resolve p
  match files.place resolved with
  | .error .linkLoop => .error (.circular resolved)
  | _ => .ok resolved

def cwdPath (files : Files) : Path := ⟨[Path.slash], files.cwd⟩

end Files

end FenceCheck
