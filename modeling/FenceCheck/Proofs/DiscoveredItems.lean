import FenceCheck.Proofs.DocumentWalk
import FenceCheck.Proofs.FencePairing
import FenceCheck.Proofs.WorkRecord

/-!
What a discovery of a target finds: every block of its documents that is to be checked, once and in
order, each under a label of its own that leads back to its document.
-/

namespace FenceCheck

variable {files : Files} {config : Config} {base : Path} {documents : List Path}
  {pages : List Extraction}

/-- What documents hold, one extraction for each of them. -/
def Pages (files : Files) (documents : List Path) (pages : List Extraction) : Prop :=
  List.Forall₂ (fun document page => ∃ bytes, files.read document = .ok bytes ∧
    page = Extraction.ofText document (Document.textOf bytes)) documents pages

theorem pages_of_read (read : ∀ document ∈ documents, ∃ bytes, files.read document = .ok bytes) :
    ∃ pages extraction, Pages files documents pages ∧
      Document.extract files documents = .ok extraction ∧
      extraction.blocks = pages.flatMap (·.blocks) := by
  induction documents with
  | nil => exact ⟨[], .empty, .nil, rfl, rfl⟩
  | cons document rest ih =>
      obtain ⟨⟨bytes, here⟩, later⟩ := List.forall_mem_cons.mp read
      obtain ⟨pages, extraction, others, extracted, blocks⟩ := ih later
      refine ⟨_ :: pages, Extraction.ofText document (Document.textOf bytes) ++ extraction,
        .cons ⟨bytes, here, rfl⟩ others, ?_, ?_⟩
      · rw [Document.extract, here, extracted]
      · rw [List.flatMap_cons, ← blocks]
        rfl

theorem pages_ascending (held : Pages files documents pages) :
    ∀ page ∈ pages, (page.blocks.map (·.line)).Pairwise (· < ·) := by
  induction held with
  | nil => exact List.forall_mem_nil _
  | cons here others ih =>
      obtain ⟨bytes, -, rfl⟩ := here
      exact List.forall_mem_cons.mpr ⟨Fence.blocks_ascending _ _, ih⟩

theorem pages_origin (held : Pages files documents pages) :
    ∀ block ∈ pages.flatMap (·.blocks), block.origin ∈ documents := by
  induction held with
  | nil => exact List.forall_mem_nil _
  | cons here others ih =>
      obtain ⟨bytes, -, rfl⟩ := here
      intro block member
      rw [List.flatMap_cons] at member
      rcases List.mem_append.mp member with first | later
      · rw [Fence.origin_of_block first]
        exact List.mem_cons_self
      · exact List.mem_cons_of_mem _ (ih block later)

theorem pages_places (once : documents.Nodup) (held : Pages files documents pages) :
    ((pages.flatMap (·.blocks)).map fun block => (block.origin, block.line)).Nodup := by
  induction held with
  | nil => exact List.nodup_nil
  | @cons document page documents pages here others ih =>
      obtain ⟨fresh, apart⟩ := List.nodup_cons.mp once
      obtain ⟨bytes, -, rfl⟩ := here
      rw [List.flatMap_cons, List.map_append]
      refine List.nodup_append.mpr ⟨?_, ih apart, ?_⟩
      · refine List.Nodup.of_map Prod.snd ?_
        rw [List.map_map]
        exact (Fence.blocks_ascending document _).imp fun lower => Int.ne_of_lt lower
      · rintro place first other later rfl
        obtain ⟨block, inside, rfl⟩ := List.mem_map.mp first
        obtain ⟨further, behind, same⟩ := List.mem_map.mp later
        have origin : further.origin = document :=
          (congrArg Prod.fst same).trans (Fence.origin_of_block inside)
        exact fresh (origin ▸ pages_origin others further behind)

/-- A block in a language asked for, whatever its case, and not opted out. -/
def Eligible (config : Config) (block : Block) : Prop :=
  (∃ language ∈ config.languages, Text.lower language = Text.lower block.language) ∧
    Selection.optedOut block.info config.marker = false

instance (config : Config) : DecidablePred (Eligible config) := fun _ =>
  inferInstanceAs (Decidable (_ ∧ _))

theorem admits_eligible (block : Block) :
    Selection.admits config.languages config.marker block = decide (Eligible config block) := by
  rw [Bool.eq_iff_iff, decide_eq_true_eq, Selection.admits, Bool.and_eq_true,
    List.contains_iff_mem, List.mem_map, Bool.not_eq_true']
  rfl

namespace Discovery

theorem number_map {α : Type} {f : Item → α} {g : Block → α} {base : Path}
    (same : ∀ block index, f ⟨block, placeLabel base block.origin block.line, index⟩ = g block)
    (blocks : List Block) : (number base blocks).map f = blocks.map g := by
  apply List.ext_getElem?
  intro position
  rw [number, List.getElem?_map, List.getElem?_mapIdx, List.getElem?_map]
  cases blocks[position]? with
  | none => rfl
  | some block => exact congrArg some (same block position)

theorem labels_apart {blocks : List Block}
    (seen : ∀ block ∈ blocks, Document.Seen files base block.origin)
    (places : (blocks.map fun block => (block.origin, block.line)).Nodup) :
    ((number base blocks).map (·.label)).Nodup := by
  rw [number_map (g := fun block => placeLabel base block.origin block.line) fun _ _ => rfl]
  have labels : blocks.map (fun block => placeLabel base block.origin block.line) =
      (blocks.map fun block => (block.origin, block.line)).map fun place =>
        placeLabel base place.1 place.2 := by
    rw [List.map_map]
    rfl
  rw [labels]
  refine List.Nodup.map_on ?_ places
  rintro place first other second same
  obtain ⟨block, here, rfl⟩ := List.mem_map.mp first
  obtain ⟨further, there, rfl⟩ := List.mem_map.mp second
  obtain ⟨name, line⟩ := placeText_inj.mp same
  refine Prod.ext ?_ line
  calc block.origin
    _ = base ++ Path.ofText (Document.label block.origin base) :=
        (Document.label_leads (seen block here)).symm
    _ = base ++ Path.ofText (Document.label further.origin base) := by rw [name]
    _ = further.origin := Document.label_leads (seen further there)

/-- What was found in a target: the blocks to be checked of its documents, each numbered and named by
its place. -/
structure Complete (files : Files) (config : Config) (target base : Path) (discovery : Discovery) :
    Prop where
  scanned : Document.find files (filterOf config) target = .ok (some discovery.documents)
  once : discovery.documents.Nodup
  based : Document.labelBase files target = .ok base
  blocks : ∃ pages, Pages files discovery.documents pages ∧
    (∀ page ∈ pages, (page.blocks.map (·.line)).Pairwise (· < ·)) ∧
    discovery.items.map (·.block) = (pages.flatMap (·.blocks)).filter (Eligible config ·)
  numbered : ∀ (position : Nat) item, discovery.items[position]? = some item →
    item.index = position
  apart : (discovery.items.map (·.label)).Nodup
  named : ∀ item ∈ discovery.items, ∃ name,
    item.label = name ++ .char ':' :: Text.ofInt item.block.line ∧
      base ++ Path.ofText name = item.block.origin

/-- A discovery of a target that exists is complete, unless a path or a name in the tree is too long
for the operating system. -/
theorem ofTarget_complete (machine : Machine) (config : Config) (context : Option Context)
    (warns : Bool) (typed : Text) (sound : machine.files.Sound)
    (present : machine.files.pathExists (Path.ofText typed) = .ok true) :
    match (ofTarget machine config context warns (Path.ofText typed)).perform.1 with
    | .ok discovery => ∃ base, Complete machine.files config (Path.ofText typed) base discovery
    | .error failure => ∃ error, failure = .file error ∧
        Document.TooLong machine.files.root error := by
  rcases Document.find_seen (filterOf config) sound (Path.ofText_root typed)
      (Path.ofText_names typed) present with
    ⟨error, refused, long⟩ | ⟨documents, base, scanned, based, once, seen⟩
  · rw [ofTarget_result, documentsOf, refused]
    exact ⟨error, rfl, long⟩
  · obtain ⟨pages, extraction, held, extracted, blocks⟩ :=
      pages_of_read fun document member => (seen document member).2
    have result : (ofTarget machine config context warns (Path.ofText typed)).perform.1 =
        .ok ⟨documents,
          number base (Selection.select config.languages config.marker extraction.blocks)⟩ := by
      rw [ofTarget_result]
      refine Except.bind_ok.mpr ⟨documents, ?_, Except.bind_ok.mpr ⟨base, ?_,
        Except.bind_ok.mpr ⟨extraction, ?_, rfl⟩⟩⟩
      · rw [documentsOf, scanned]
      · exact Except.mapError_ok.mpr based
      · exact Except.mapError_ok.mpr extracted
    rw [result]
    have selected : Selection.select config.languages config.marker extraction.blocks =
        (pages.flatMap (·.blocks)).filter (Eligible config ·) := by
      rw [Selection.select, blocks]
      exact List.filter_congr fun block _ => admits_eligible block
    rw [selected]
    -- What is selected keeps the places it had in its document.
    have origins (block : Block)
        (member : block ∈ (pages.flatMap (·.blocks)).filter (Eligible config ·)) :
        Document.Seen machine.files base block.origin :=
      seen _ (pages_origin held block (List.mem_of_mem_filter member))
    refine ⟨base, scanned, once, based, ⟨pages, held, pages_ascending held, ?_⟩, number_index base _,
      labels_apart origins ((pages_places once held).sublist (List.filter_sublist.map _)), ?_⟩
    · rw [number_map (g := id) fun _ _ => rfl, List.map_id]
    · intro item member
      obtain ⟨position, here⟩ := List.mem_iff_getElem?.mp member
      rw [number, List.getElem?_mapIdx] at here
      obtain ⟨block, inside, rfl⟩ := Option.map_eq_some_iff.mp here
      exact ⟨_, rfl, Document.label_leads (origins block (List.mem_of_getElem? inside))⟩

def shelf : Machine :=
  { files := ⟨.directory [("docs", .directory
      [("b.md", .file "```JS\nx\n```\n```ts nocheck\ny\n```".toUTF8.data.toList false),
       ("a", .directory [("c:1.md", .file "\n```ts\n```\n```py\n```".toUTF8.data.toList false)]),
       ("l.md", .link "b.md")])], []⟩
    environment := [], processors := none, clock := ⟨2024, 1, 1, 0, 0, 0, 0⟩, elapsed := 3
    hostScript := [], launch := fun _ => .exited 0 [] [] }

theorem shelf_sound : shelf.files.Sound := by
  refine ⟨?_, _, rfl⟩
  refine .directory (by decide) (by decide) (List.forall_mem_singleton.mpr ?_)
  refine .directory (by decide) (by decide) (List.forall_mem_cons.mpr ⟨.file _ _,
    List.forall_mem_cons.mpr ⟨?_, List.forall_mem_singleton.mpr (.link _)⟩⟩)
  exact .directory (by decide) (by decide) (List.forall_mem_singleton.mpr (.file _ _))

def shelfDocuments : List Path :=
  [⟨[], ["docs", "a", "c:1.md"]⟩, ⟨[], ["docs", "b.md"]⟩, ⟨[], ["docs", "l.md"]⟩]

theorem find_shelf :
    Document.find shelf.files (filterOf .defaults) (Path.ofText "docs") =
      .ok (some shelfDocuments) := by
  have below (content : FileNode) (file : content.isFile = true) :
      Document.walk shelf.files.root (filterOf .defaults) Files.linkLimit ["docs", "a"]
        ⟨[], ["docs", "a"]⟩ [("c:1.md", content)] = .ok [⟨[], ["docs", "a", "c:1.md"]⟩] := by
    refine Document.walk_of_visits [[_]] ?_
    rw [Document.ordered, List.mergeSort_singleton]
    cases content with
    | file => exact .cons rfl .nil
    | directory | link => cases file
  refine congrArg (Except.map some) (Document.walk_of_visits [[_], [_], [_]] ?_)
  rw [Document.ordered_insertion (by decide)]
  exact .cons (below _ rfl) (.cons rfl (.cons rfl .nil))

theorem shelf_found :
    ∃ discovery,
      (ofTarget shelf .defaults none false (Path.ofText "docs")).perform.1 = .ok discovery ∧
      discovery.items.map (·.label) = ["a/c:1.md:2", "b.md:1", "l.md:1"] := by
  have listed : documentsOf shelf.files (filterOf .defaults) (Path.ofText "docs") =
      .ok shelfDocuments := by rw [documentsOf, find_shelf]
  rw [ofTarget_result, listed]
  exact ⟨_, rfl, rfl⟩

theorem ofTarget_complete_shelf :
    shelf.files.Sound ∧ shelf.files.pathExists (Path.ofText "docs") = .ok true ∧
      ∃ discovery base,
        (ofTarget shelf .defaults none false (Path.ofText "docs")).perform.1 = .ok discovery ∧
        discovery.items.map (·.label) = ["a/c:1.md:2", "b.md:1", "l.md:1"] ∧
        Complete shelf.files .defaults (Path.ofText "docs") base discovery := by
  have present : shelf.files.pathExists (Path.ofText "docs") = .ok true := rfl
  have complete := ofTarget_complete shelf .defaults none false "docs" shelf_sound present
  obtain ⟨discovery, found, labels⟩ := shelf_found
  rw [found] at complete
  obtain ⟨base, complete⟩ := complete
  exact ⟨shelf_sound, present, discovery, base, found, labels, complete⟩

end Discovery

end FenceCheck
