import FenceCheck.Document.Fence
import FenceCheck.Files.Lookup
import FenceCheck.Text.Utf8

/-!
The documents below a target. A directory is walked entry by entry in the order of names, and a
subdirectory is entered where its name comes; hidden directories and those to skip are left out.
Links to files and directories count as what they lead to, as long as a lookup of the whole path
follows few enough of them. No path and no name on the way may be too long.
-/

namespace FenceCheck

namespace Document

def defaultExtensions : List Text := [".md", ".mdx"]

def defaultSkipped : List Text := ["node_modules"]

structure Filter where
  extensions : List Text
  skipped : List Text

namespace Filter

def keepsFile (filter : Filter) (p : Path) : Bool := filter.extensions.contains p.suffix

def entersDirectory (filter : Filter) (name : Text) : Bool :=
  !Text.startsWith name "." && !filter.skipped.contains name

end Filter

def ordered (entries : Entries) : Entries := entries.mergeSort fun a b => Text.le a.1 b.1

/-- The documents in a directory at `place`, which was reached as `shown` with `links` links left
to follow. -/
def walk (root : FileNode) (filter : Filter) (links : Nat) (place : List Text) (shown : Path)
    (entries : Entries) : Except FileError (List Path) := do
  let found ← (ordered entries).attach.mapM fun ⟨(name, node), _⟩ =>
    let path := shown.child name
    if Files.pathLimit < path.toText.size then .error (.refused .nameTooLong path.toText)
    else
      match node with
      | .file .. => .ok (if filter.keepsFile path then [path] else [])
      | .directory inner =>
          if filter.entersDirectory name then
            walk root filter links (place ++ [name]) path inner
          else .ok []
      | .link _ =>
          -- What a link leads to is judged under the name of the link.
          match Files.walk root false links place [name] with
          | .error .nameTooLong => .error (.refused .nameTooLong path.toText)
          | .error _ => .ok []
          | .ok target =>
              match root.at? target.names with
              | some (.file ..) => .ok (if filter.keepsFile path then [path] else [])
              | some (.directory inner) =>
                  -- A link that was followed has used up one at least, so the check never fails; it
                  -- ends the walk.
                  if _ : target.links < links then
                    if filter.entersDirectory name then
                      walk root filter target.links target.names path inner
                    else .ok []
                  else .ok []
              | _ => .ok []
  return found.flatten
  termination_by (links, sizeOf entries)
  decreasing_by
    · have member : (name, FileNode.directory inner) ∈ entries := List.mem_mergeSort.1 ‹_›
      have smaller := List.sizeOf_lt_of_mem member
      apply Prod.Lex.right
      simp only [Prod.mk.sizeOf_spec, FileNode.directory.sizeOf_spec] at smaller
      omega
    · apply Prod.Lex.left
      assumption

/-- The documents that a target stands for: itself if it is a file, or those below it. A target that
does not exist stands for none. -/
def find (files : Files) (filter : Filter) (target : Path) :
    Except FileError (Option (List Path)) :=
  match files.place target with
  | .error .nameTooLong => .error (.refused .nameTooLong target.toText)
  | .error _ => .ok none
  | .ok place =>
      match files.root.at? place.names with
      | none => .ok none
      | some (.directory entries) =>
          (walk files.root filter place.links place.names target entries).map some
      | some _ => .ok (some [target])

/-- The directory that labels are relative to. -/
def labelBase (files : Files) (target : Path) : Except FileError Path := do
  if ← files.isFile target then return target.parent else return target

/-- A document's name below a base, or its whole path if it lies elsewhere. -/
def label (document base : Path) : Text := ((document.relativeTo? base).getD document).toText

/-- A document's text. Bytes that are not UTF-8 become replacement characters, and all line ends
line feeds. -/
def textOf (bytes : List UInt8) : Text := Text.universalNewlines (Utf8.decodeLossy bytes)

def extract (files : Files) : List Path → Except FileError Extraction
  | [] => .ok .empty
  | document :: rest =>
      match files.read document with
      | .error error => .error error
      | .ok bytes =>
          match extract files rest with
          | .error error => .error error
          | .ok extraction => .ok (Extraction.ofText document (textOf bytes) ++ extraction)

end Document

end FenceCheck
