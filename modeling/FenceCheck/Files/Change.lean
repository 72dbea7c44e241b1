import FenceCheck.Files.Lookup

/-!
Changes to a file tree: making directories and writing files.
-/

namespace FenceCheck

namespace Files

def makeDirectory (files : Files) (p : Path) : Except FileFault Files :=
  match p.names.getLast? with
  | none => .error .occupied
  | some name =>
      if pathLimit < p.toText.size then .error .nameTooLong
      else
        -- Links are followed on the way to the parent. The last name is never followed.
        match walk files.root false linkLimit (files.origin p) p.names.dropLast with
        | .error fault => .error fault
        | .ok place =>
            match files.root.at? place.names with
            | some (.directory entries) =>
                if name = [.char '.', .char '.'] then .error .occupied
                else if nameLimit < name.size then .error .nameTooLong
                else if (entries.lookup name).isSome then .error .occupied
                else
                  .ok { files with root := files.root.put (place.names ++ [name]) (.directory []) }
            | some _ => .error .notDirectory
            | none => .error .missing

/-- Makes a directory and the missing ones above it; one that exists is left alone. -/
def makeDirectories (files : Files) (p : Path) : Nat → Except FileError Files
  | 0 => .error (.refused .missing p.toText)
  | depth + 1 => do
      formed p
      match files.makeDirectory p with
      | .ok files => return files
      | .error .missing =>
          if p.names.isEmpty then throw (.refused .missing p.toText)
          -- The parent is made first, and then the directory is tried again.
          let files ← files.makeDirectories p.parent depth
          match files.makeDirectory p with
          | .ok files => return files
          | .error fault =>
              if fault ≠ .missing && (← files.isDirectory p) then return files
              else throw (.refused fault p.toText)
      | .error fault =>
          if ← files.isDirectory p then return files else throw (.refused fault p.toText)

/-- Writes the file at the end of names that lead to it from the root: a new one, or another content
of the one that is there. -/
def put (files : Files) (names : List Text) (bytes : List UInt8) : Except FileFault Files :=
  match files.root.at? names with
  | some (.directory _) => .error .isDirectory
  | some (.file _ executable) =>
      .ok { files with root := files.root.put names (.file bytes executable) }
  | _ => .ok { files with root := files.root.put names (.file bytes false) }

def write (files : Files) (p : Path) (bytes : List UInt8) : Except FileError Files := do
  formed p
  let written :=
    if pathLimit < p.toText.size then .error .nameTooLong
    else do
      let place ← walk files.root true linkLimit (files.origin p) p.names
      files.put place.names bytes
  written.mapError (.refused · p.toText)

end Files

end FenceCheck
