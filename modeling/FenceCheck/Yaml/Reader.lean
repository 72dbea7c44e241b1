import FenceCheck.Datum.Slots
import FenceCheck.Yaml.Node
import FenceCheck.Yaml.Scalar

/-!
The value of a YAML document. Scalars have their values as soon as they are met; collections are
filled later, round by round, in the order in which they were met, so that the first fault of a
document is the first in that order. Mappings take in the entries of those they merge, which their
own entries override; keys have to be values that can be looked up.
-/

namespace FenceCheck

namespace Yaml

namespace Graph

def tagOf (graph : Graph) (n : Nat) : List Char := (graph.getD n default).tag

def contentOf (graph : Graph) (n : Nat) : Content := (graph.getD n default).content

def entriesOf (graph : Graph) (n : Nat) : List (Nat × Nat) :=
  match graph.contentOf n with
  | .mapping entries => entries
  | _ => []

def setEntries (graph : Graph) (n : Nat) (entries : List (Nat × Nat)) : Graph :=
  graph.setIfInBounds n ⟨graph.tagOf n, .mapping entries⟩

def retag (graph : Graph) (n : Nat) (tag : List Char) : Graph :=
  graph.setIfInBounds n ⟨tag, graph.contentOf n⟩

/-- The text of a scalar. A mapping with a default entry has the text of that one. -/
def textOf (graph : Graph) : Nat → Nat → Except Fault Text
  | 0, _ => refuse .tooDeep
  | fuel + 1, n =>
      match graph.contentOf n with
      | .scalar t => .ok t
      | .mapping entries =>
          match entries.find? fun entry => graph.tagOf entry.1 = valueTag with
          | some entry => graph.textOf fuel entry.2
          | none => .error .malformed
      | .sequence _ => .error .malformed

end Graph

abbrev Merge := StateT Graph (Except Fault)

namespace Merge

def isPending (graph : Graph) (n : Nat) : Bool :=
  (graph.entriesOf n).any fun entry => graph.tagOf entry.1 = mergeTag

def dropFirst (graph : Graph) (n : Nat) : Graph :=
  graph.setEntries n ((graph.entriesOf n).eraseP fun entry => graph.tagOf entry.1 = mergeTag)

/-- The entries that a merged node brings, once `flatten` has been done to it: those of a mapping,
or of several in a sequence, the first of which counts most. -/
def broughtBy (flatten : Nat → Merge Unit) (n : Nat) : Merge (List (Nat × Nat)) := do
  let entriesOfMapping (n : Nat) : Merge (List (Nat × Nat)) := do
    match (← get).contentOf n with
    | .mapping _ => do
        flatten n
        return (← get).entriesOf n
    | _ => throw .malformed
  match (← get).contentOf n with
  | .sequence items => return (← items.mapM entriesOfMapping).reverse.flatten
  | _ => entriesOfMapping n

/-- One entry of a mapping: a merging one is replaced by what it brings, which is put after
`brought`; the key of a default entry becomes a text. Merging may come back to the mapping itself,
which leaves nothing pending in it. -/
def entry (flatten : Nat → Merge Unit) (n : Nat) (brought : List (Nat × Nat))
    (entry : Nat × Nat) : Merge (List (Nat × Nat)) := do
  let graph ← get
  if graph.tagOf entry.1 = mergeTag then
    if isPending graph n then
      set (dropFirst graph n)
      return brought ++ (← broughtBy flatten entry.2)
    else return brought
  else
    if graph.tagOf entry.1 = valueTag then set (graph.retag entry.1 stringTag)
    return brought

/-- Replaces the merging entries of a mapping by those they bring, in front of its own. -/
def flatten : Nat → Nat → Merge Unit
  | 0, _ => throw .malformed
  | fuel + 1, n => do
      let brought ← ((← get).entriesOf n).foldlM (entry (flatten fuel) n) []
      if !brought.isEmpty then
        modify fun graph => graph.setEntries n (brought ++ graph.entriesOf n)

end Merge

/-- What a node stands for: a value, or the collection of that number. -/
inductive Built where
  | plain (value : Datum)
  | part (node : Nat)

inductive Filled where
  | list (items : List Built)
  | pairs (items : List (Built × Built))
  | mapping (entries : List (Datum × Built))
  | set (keys : List Datum)

structure Builder where
  graph : Graph
  /-- What the nodes that were met stand for. -/
  built : Array (Option Built)
  filled : Array (Option Filled)
  pending : List Nat

abbrev Build := StateT Builder (Except Fault)

namespace Build

def omapTag : List Char := coreTag "omap"
def pairsTag : List Char := coreTag "pairs"
def setTag : List Char := coreTag "set"

def isCollectionTag (tag : List Char) : Bool :=
  [sequenceTag, mappingTag, omapTag, pairsTag, setTag].contains tag

def isScalarTag (tag : List Char) : Bool :=
  [nullTag, boolTag, intTag, floatTag, timestampTag, stringTag, coreTag "binary"].contains tag

/-- The value of a node with the tag of a scalar. A moment is read from a scalar only. -/
def scalarOf (graph : Graph) (n : Nat) : Except Fault Datum := do
  let tag := graph.tagOf n
  demand (isScalarTag tag)
  let t ← graph.textOf (graph.size + 1) n
  match graph.contentOf n with
  | .mapping _ => if tag = timestampTag then refuse (.notText "list") else scalarValue tag t
  | _ => scalarValue tag t

/-- What a node stands for; one that is met again stands for the same. -/
def meet (n : Nat) : Build Built := do
  let b ← get
  match b.built.getD n none with
  | some known => return known
  | none => do
      let collection := isCollectionTag (b.graph.tagOf n)
      let built ← if collection then pure (.part n) else .plain <$> scalarOf b.graph n
      set { b with
        built := b.built.setIfInBounds n (some built)
        pending := if collection then n :: b.pending else b.pending }
      return built

def flatten (n : Nat) : Build Unit := do
  let b ← get
  let weight := (b.graph.toList.map fun node =>
    match node.content with
    | .mapping entries => entries.length
    | _ => 0).foldl (· + ·) 0
  let ((), graph) ← ((Merge.flatten (weight + 2) n).run b.graph : Except Fault (Unit × Graph))
  set { b with graph }

def entries (n : Nat) : Build (List (Datum × Built)) := do
  match (← get).graph.contentOf n with
  | .mapping _ => do
      flatten n
      let b ← get
      (b.graph.entriesOf n).foldlM
        (fun entries entry => do
          match ← meet entry.1 with
          | .part _ => throw .malformed
          | .plain key => do
              let value ← meet entry.2
              return Datum.putEntry entries key value)
        []
  | _ => throw .malformed

def pairsOf (items : List Nat) : Build (List (Built × Built)) :=
  items.mapM fun item => do
    match (← get).graph.contentOf item with
    | .mapping [(key, value)] => do
        let key ← meet key
        return (key, ← meet value)
    | _ => throw .malformed

def sequenceItems (n : Nat) : Build (List Nat) := do
  match (← get).graph.contentOf n with
  | .sequence items => return items
  | _ => throw .malformed

def fill (n : Nat) : Build Unit := do
  let tag := (← get).graph.tagOf n
  let filled : Filled ←
    if tag = sequenceTag then do
      let items ← sequenceItems n
      pure (.list (← items.mapM meet))
    else if tag = mappingTag then do pure (.mapping (← entries n))
    else if tag = setTag then do pure (.set ((← entries n).map (·.1)))
    else do
      let items ← sequenceItems n
      pure (.pairs (← pairsOf items))
  modify fun b => { b with filled := b.filled.setIfInBounds n (some filled) }

/-- Fills the collections that are pending, then those met on the way, and so on. -/
def rounds : Nat → Build Unit
  | 0 => throw .malformed
  | fuel + 1 => do
      let pending := (← get).pending.reverse
      if pending.isEmpty then return
      modify fun b => { b with pending := [] }
      pending.forM fill
      rounds fuel

end Build

/-- A value taken out of the collections, with the labels in it that stand for collections around
it. -/
structure Unfolded where
  value : Datum
  loose : List Nat

/-- Values that were taken out before and stand for themselves. -/
abbrev Unfold := StateM (Array (Option Datum))

namespace Unfold

def joined (a b : List Nat) : List Nat := a ++ b.filter (!a.contains ·)

def allOf (unfold : α → Unfold Unfolded) (parts : List α) : Unfold (List Datum × List Nat) :=
  parts.foldrM
    (fun part (values, loose) => do
      let read ← unfold part
      return (read.value :: values, joined read.loose loose))
    ([], [])

/-- A pair, with a label of its own if it is on a circle. -/
def pair (unfold : Built → Unfold Unfolded) (label : Nat) (parts : Built × Built) :
    Unfold Unfolded := do
  let (values, loose) ← allOf unfold [parts.1, parts.2]
  return ⟨if loose.isEmpty then .tuple values else .knot label (.tuple values), loose⟩

/-- A collection as a value, its parts taken out by `unfold`. Its pairs are labelled by `labelOf`
their places. -/
def collection (unfold : Built → Unfold Unfolded) (labelOf : Nat → Nat) :
    Filled → Unfold Unfolded
  | .list items => do
      let (values, loose) ← allOf unfold items
      return ⟨.list values, loose⟩
  | .pairs items => do
      let (values, loose) ← allOf (fun item => pair unfold (labelOf item.2) item.1) items.zipIdx
      return ⟨.list values, loose⟩
  | .mapping entries => do
      let (values, loose) ← allOf unfold (entries.map (·.2))
      return ⟨.mapping ((entries.map (·.1)).zip values), loose⟩
  | .set keys => return ⟨.set (Slots.arrange keys), []⟩

/-- The value that a node stands for inside the collections `around`. A collection that comes back
to itself or to one of those is on a circle and carries its own label, by which it is known wherever
the circle is entered; any other is kept. -/
def value (filled : Array (Option Filled)) : Nat → List Nat → Built → Unfold Unfolded
  | _, _, .plain value => return ⟨value, []⟩
  | 0, _, .part n => return ⟨.again n, [n]⟩
  | fuel + 1, around, .part n => do
      if around.contains n then return ⟨.again n, [n]⟩
      else
        match (← get).getD n none with
        | some value => return ⟨value, []⟩
        | none => do
            let read ← collection (value filled fuel (n :: around))
              (fun place => filled.size * (place + 1) + n)
              ((filled.getD n none).getD (.list []))
            if read.loose.isEmpty then
              modify (·.setIfInBounds n (some read.value))
              return read
            else return ⟨.knot n read.value, read.loose.filter (· ≠ n)⟩

end Unfold

def build (graph : Graph) (root : Nat) : Except Fault Datum := do
  let empty : Builder :=
    { graph, built := Array.replicate graph.size none, filled := Array.replicate graph.size none
      pending := [] }
  let (built, b) ←
    (do
      let built ← Build.meet root
      Build.rounds (graph.size + 1)
      return built : Build Built).run empty
  let (read, _) := (Unfold.value b.filled (graph.size + 1) [] built).run
    (Array.replicate graph.size none)
  return read.value

/-- The value of a text: nothing if it holds no document. -/
def read (t : Text) : Except Fault Datum := do
  match t.toChars? with
  | none => .error .malformed
  | some chars =>
      match ← compose chars with
      | (_, none) => return .null
      | (graph, some root) => build graph root

end Yaml

end FenceCheck
