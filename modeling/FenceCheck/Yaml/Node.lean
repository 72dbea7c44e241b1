import FenceCheck.Yaml.Plain
import FenceCheck.Yaml.Token

/-!
The nodes of a YAML document, composed from its tokens. Nodes are numbered and name the nodes they
contain by number, so that an alias is the number of an earlier node and a node can contain itself.
Every node carries its full tag.
-/

namespace FenceCheck

namespace Yaml

inductive Content where
  | scalar (text : Text)
  | sequence (items : List Nat)
  | mapping (entries : List (Nat × Nat))
  deriving Repr, Inhabited

structure Node where
  tag : List Char
  content : Content
  deriving Repr, Inhabited

/-- Nodes by their numbers. -/
abbrev Graph := Array Node

structure Composer where
  scanner : Scanner
  /-- Tag handles with the addresses they stand for. -/
  handles : List (List Char × List Char)
  anchors : List (List Char × Nat)
  graph : Graph

abbrev Compose := StateT Composer (Except Fault)

namespace Compose

def fail : Compose α := fun _ => .error .malformed

/-- The next token. Only here the text is read on. -/
def peek : Compose Token := do
  let c ← get
  let scanner ← c.scanner.ready
  set { c with scanner }
  return scanner.next

def skip : Compose Unit := modify fun c => { c with scanner := c.scanner.take }

def expect (token : Token) : Compose Unit := do
  if (← peek) = token then skip else fail

/-- The properties in front of a node: an anchor and a tag in either order. -/
structure Properties where
  anchor : Option (List Char)
  tag : Option (Option (List Char) × List Char)

def properties : Compose Properties := do
  match ← peek with
  | .anchor name => do
      skip
      match ← peek with
      | .tag handle suffix => do skip; return ⟨some name, some (handle, suffix)⟩
      | _ => return ⟨some name, none⟩
  | .tag handle suffix => do
      skip
      match ← peek with
      | .anchor name => do skip; return ⟨some name, some (handle, suffix)⟩
      | _ => return ⟨none, some (handle, suffix)⟩
  | _ => return ⟨none, none⟩

def fullTag : Option (Option (List Char) × List Char) → Compose (Option (List Char))
  | none => return none
  | some (none, suffix) => return some suffix
  | some (some handle, suffix) => do
      match (← get).handles.lookup handle with
      | some address => return some (address ++ suffix)
      | none => fail

/-- A new node, known by its anchor if it has one, which no other node may have. -/
def add (anchor : Option (List Char)) (node : Node) : Compose Nat := do
  let c ← get
  let n := c.graph.size
  match anchor with
  | none => set { c with graph := c.graph.push node }
  | some name =>
      if (c.anchors.lookup name).isSome then fail
      else set { c with graph := c.graph.push node, anchors := (name, n) :: c.anchors }
  return n

/-- A new node that is known before its content, in which it may occur. -/
def addAround (anchor : Option (List Char)) (tag : List Char) (empty : Content)
    (content : Compose Content) : Compose Nat := do
  let n ← add anchor ⟨tag, empty⟩
  let content ← content
  modify fun c => { c with graph := c.graph.setIfInBounds n ⟨tag, content⟩ }
  return n

/-- The tag of a scalar: its own, or one by its text if it is plain. A lone exclamation mark asks
for the tag that a plain scalar would have. -/
def scalarTag (tag : Option (List Char)) (plain : Bool) (t : Text) : List Char :=
  match tag with
  | some ['!'] => plainTag t
  | some tag => tag
  | none => if plain then plainTag t else stringTag

def collectionTag (tag : Option (List Char)) (default : List Char) : List Char :=
  match tag with
  | none => default
  | some ['!'] => default
  | some tag => tag

def emptyNode : Compose Nat := add none ⟨nullTag, .scalar []⟩

/-- The most collections in one another that are followed. -/
def nestingLimit : Nat := 485

def deeper (depth : Nat) : Compose Nat :=
  if depth < nestingLimit then return depth + 1 else throw (.scalar .tooDeep)

mutual

/-- A node. In block context it may be a block collection, and below a key its sequence may stand at
the indentation of the key. -/
def node (block indentless : Bool) (depth : Nat) : Nat → Compose Nat
  | 0 => fail
  | fuel + 1 => do
      match ← peek with
      | .alias name => do
          skip
          match (← get).anchors.lookup name with
          | some n => return n
          | none => fail
      | _ => do
          let properties ← properties
          let anchor := properties.anchor
          let tag ← fullTag properties.tag
          let sequenceOf (items : Compose (List Nat)) : Compose Nat :=
            addAround anchor (collectionTag tag sequenceTag) (.sequence [])
              (do return .sequence (← items))
          let mappingOf (entries : Compose (List (Nat × Nat))) : Compose Nat :=
            addAround anchor (collectionTag tag mappingTag) (.mapping [])
              (do return .mapping (← entries))
          let scalarOf (plain : Bool) (t : Text) : Compose Nat :=
            add anchor ⟨scalarTag tag plain t, .scalar t⟩
          match ← peek with
          | .scalar t plain => do skip; scalarOf plain t
          | .flowSequenceStart =>
              sequenceOf do skip; flowItems true (← deeper depth) fuel
          | .flowMappingStart =>
              mappingOf do skip; flowEntries true (← deeper depth) fuel
          | .blockEntry =>
              if indentless then sequenceOf do indentlessItems (← deeper depth) fuel
              else if anchor.isSome || tag.isSome then scalarOf true []
              else fail
          | .blockSequenceStart =>
              if block then sequenceOf do skip; blockItems (← deeper depth) fuel
              else if anchor.isSome || tag.isSome then scalarOf true []
              else fail
          | .blockMappingStart =>
              if block then mappingOf do skip; blockEntries (← deeper depth) fuel
              else if anchor.isSome || tag.isSome then scalarOf true []
              else fail
          -- Properties with nothing behind them belong to an empty scalar.
          | _ => if anchor.isSome || tag.isSome then scalarOf true [] else fail
  termination_by structural fuel => fuel

def blockItems (depth : Nat) : Nat → Compose (List Nat)
  | 0 => fail
  | fuel + 1 => do
      match ← peek with
      | .blockEntry => do
          skip
          let item ←
            match ← peek with
            | .blockEntry => emptyNode
            | .blockEnd => emptyNode
            | _ => node true false depth fuel
          return item :: (← blockItems depth fuel)
      | .blockEnd => do skip; return []
      | _ => fail
  termination_by structural fuel => fuel

def indentlessItems (depth : Nat) : Nat → Compose (List Nat)
  | 0 => fail
  | fuel + 1 => do
      match ← peek with
      | .blockEntry => do
          skip
          let item ←
            match ← peek with
            | .blockEntry => emptyNode
            | .key => emptyNode
            | .value => emptyNode
            | .blockEnd => emptyNode
            | _ => node true false depth fuel
          return item :: (← indentlessItems depth fuel)
      | _ => return []
  termination_by structural fuel => fuel

/-- What stands behind a key or value sign in a block mapping. -/
def blockPart (depth : Nat) : Nat → Compose Nat
  | 0 => fail
  | fuel + 1 => do
      match ← peek with
      | .key => emptyNode
      | .value => emptyNode
      | .blockEnd => emptyNode
      | _ => node true true depth fuel
  termination_by structural fuel => fuel

def blockEntries (depth : Nat) : Nat → Compose (List (Nat × Nat))
  | 0 => fail
  | fuel + 1 => do
      match ← peek with
      | .key => do
          skip
          let key ← blockPart depth fuel
          let value ←
            match ← peek with
            | .value => do skip; blockPart depth fuel
            | _ => emptyNode
          return (key, value) :: (← blockEntries depth fuel)
      | .blockEnd => do skip; return []
      | _ => fail
  termination_by structural fuel => fuel

def flowItems (first : Bool) (depth : Nat) : Nat → Compose (List Nat)
  | 0 => fail
  | fuel + 1 => do
      match ← peek with
      | .flowSequenceEnd => do skip; return []
      | _ => do
          if !first then expect .flowEntry
          match ← peek with
          | .flowSequenceEnd => do skip; return []
          | .key => do
              let pair ← addAround none mappingTag (.mapping []) (flowPair (← deeper depth) fuel)
              return pair :: (← flowItems false depth fuel)
          | _ => do
              let item ← node false false depth fuel
              return item :: (← flowItems false depth fuel)
  termination_by structural fuel => fuel

/-- A pair in a flow sequence, which is a mapping of one entry. -/
def flowPair (depth : Nat) : Nat → Compose Content
  | 0 => fail
  | fuel + 1 => do
      skip
      let key ←
        match ← peek with
        | .value => emptyNode
        | .flowEntry => emptyNode
        | .flowSequenceEnd => emptyNode
        | _ => node false false depth fuel
      let value ←
        match ← peek with
        | .value => do
            skip
            match ← peek with
            | .flowEntry => emptyNode
            | .flowSequenceEnd => emptyNode
            | _ => node false false depth fuel
        | _ => emptyNode
      return .mapping [(key, value)]
  termination_by structural fuel => fuel

def flowEntries (first : Bool) (depth : Nat) : Nat → Compose (List (Nat × Nat))
  | 0 => fail
  | fuel + 1 => do
      match ← peek with
      | .flowMappingEnd => do skip; return []
      | _ => do
          if !first then expect .flowEntry
          match ← peek with
          | .flowMappingEnd => do skip; return []
          | .key => do
              skip
              let key ←
                match ← peek with
                | .value => emptyNode
                | .flowEntry => emptyNode
                | .flowMappingEnd => emptyNode
                | _ => node false false depth fuel
              let value ←
                match ← peek with
                | .value => do
                    skip
                    match ← peek with
                    | .flowEntry => emptyNode
                    | .flowMappingEnd => emptyNode
                    | _ => node false false depth fuel
                | _ => emptyNode
              return (key, value) :: (← flowEntries false depth fuel)
          | _ => do
              let key ← node false false depth fuel
              let value ← emptyNode
              return (key, value) :: (← flowEntries false depth fuel)
  termination_by structural fuel => fuel

end

/-- The directives in front of a document: at most one version, which has to be 1, and no handle
declared twice. -/
def directives (versionSeen : Bool) : Nat → Compose Unit
  | 0 => fail
  | fuel + 1 => do
      match ← peek with
      | .directive d => do
          skip
          match d with
          | .version major =>
              if versionSeen || major ≠ 1 then fail else directives true fuel
          | .handle name address => do
              if ((← get).handles.lookup name).isSome then fail
              modify fun c => { c with handles := (name, address) :: c.handles }
              directives versionSeen fuel
          | .unknown => directives versionSeen fuel
      | _ => return

def defaultHandles : List (List Char × List Char) :=
  [(['!'], ['!']), (['!', '!'], coreTag "")]

def skipDocumentEnds : Nat → Compose Unit
  | 0 => return
  | fuel + 1 => do
      match ← peek with
      | .documentEnd => do skip; skipDocumentEnds fuel
      | _ => return

/-- The document of a stream that has to be its only one, if it has one. -/
def document (fuel : Nat) : Compose (Option Nat) := do
  let explicit ←
    match ← peek with
    | .directive _ => pure true
    | .documentStart => pure true
    | .streamEnd => pure true
    | _ => pure false
  if explicit then skipDocumentEnds fuel
  if (← peek) = .streamEnd then return none
  if explicit then
    directives false fuel
    expect .documentStart
  modify fun c => { c with handles := c.handles ++ defaultHandles }
  let empty ←
    match ← peek with
    | .directive _ => pure explicit
    | .documentStart => pure explicit
    | .documentEnd => pure explicit
    | .streamEnd => pure explicit
    | _ => pure false
  let root ← if empty then emptyNode else node true false 0 fuel
  match ← peek with
  | .documentEnd => skip
  | _ => pure ()
  skipDocumentEnds fuel
  if (← peek) = .streamEnd then return some root
  -- A second document is refused, though its directives are looked at first.
  modify fun c => { c with handles := [] }
  directives false fuel
  fail

end Compose

/-- The nodes of a text, and the number of its root if it holds a document. -/
def compose (t : List Char) : Except Fault (Graph × Option Nat) := do
  demand (t.all isPrintable)
  let (root, composed) ←
    (Compose.document (8 * t.length + 16)).run ⟨Scanner.start t, [], [], #[]⟩
  return (composed.graph, root)

end Yaml

end FenceCheck
