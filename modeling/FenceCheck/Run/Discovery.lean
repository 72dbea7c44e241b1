import FenceCheck.Console.Call
import FenceCheck.Document.Selection
import FenceCheck.Document.Walk
import FenceCheck.Session.Log

/-!
The blocks that a run is about: those in the documents of a target that are in a language asked for
and not opted out, numbered in the order of documents and of lines.
-/

namespace FenceCheck

structure Discovery where
  documents : List Path
  items : List Item
  deriving Repr

namespace Discovery

def filterOf (config : Config) : Document.Filter := ⟨config.extensions, config.skipped⟩

def documentsOf (files : Files) (filter : Document.Filter) (target : Path) :
    Except Failure (List Path) :=
  match Document.find files filter target with
  | .error error => .error (.file error)
  | .ok none => .error (.noPath target)
  | .ok (some documents) => .ok documents

def placeLabel (base document : Path) (line : Int) : Text :=
  placeText (Document.label document base) line

def number (base : Path) (blocks : List Block) : List Item :=
  blocks.mapIdx fun index block =>
    { block, label := placeLabel base block.origin block.line, index }

def report (machine : Machine) (context : Option Context) (warns : Bool) (base : Path)
    (fence : OpenFence) : Work Unit := do
  let label := placeLabel base fence.origin fence.line
  if warns then
    Work.print .errors (Console.warningLine (Text.ofString "unterminated code fence at " ++ label))
  Log.event machine context
    { level := "warning", component := "extractor", action := "unterminated-fence"
      fields := [("label", .str label)] }

def extract (files : Files) (documents : List Path) : Except Failure Extraction :=
  (Document.extract files documents).mapError .file

def foundEntry (discovery : Discovery) : Log.Entry :=
  { level := "info", component := "scanner", action := "discover"
    fields := [("documents", Log.word discovery.documents.length),
      ("blocks", Log.word discovery.items.length)] }

/-- The documents and items of a target. Fences that are not closed are warned of if `warns`, and
logged. -/
def ofTarget (machine : Machine) (config : Config) (context : Option Context) (warns : Bool)
    (target : Path) : Work Discovery := do
  let documents ← Work.ofExcept (documentsOf machine.files (filterOf config) target)
  let base ← Work.ofExcept ((Document.labelBase machine.files target).mapError .file)
  let extraction ← Work.ofExcept (extract machine.files documents)
  extraction.unclosed.forM (report machine context warns base)
  let items := number base (Selection.select config.languages config.marker extraction.blocks)
  let discovery : Discovery := { documents, items }
  Log.event machine context (foundEntry discovery)
  return discovery

end Discovery

end FenceCheck
