import FenceCheck.Proofs.DiscoveredItems
import FenceCheck.Proofs.DocumentOrder

/-!
The documents in a tree with links. A link counts as the file or directory that it leads to, and it is
followed as long as a lookup may follow links. So a walk ends also where links lead back up, and it lists
all that is reached in this way. A document is then listed once for every way that leads to it, and only
ways without a link are one for each file.
-/

namespace FenceCheck

namespace Files

/-- Two paths lead to one place. -/
def Same (files : Files) (p q : Path) : Prop :=
  ∃ there here, files.place p = .ok there ∧ files.place q = .ok here ∧ there.names = here.names

def Detours (files : Files) (base p : Path) : Prop :=
  ∃ spot there, files.place base = .ok spot ∧ files.place p = .ok there ∧ there.links < spot.links

end Files

namespace Document

variable {root : FileNode} {filter : Filter} {spot : Files.Place} {entries : Entries} {name : Text}
  {names : List Text}

/-- Names that lead from a place to a document, each of them an entry of the directory to which the ones
before it lead. Links count as what they lead to, as long as they may be followed. -/
inductive Wanders (root : FileNode) (filter : Filter) : Files.Place → List Text → Prop where
  | file {spot there : Files.Place} {name : Text} {node : FileNode} {bytes : List UInt8}
      {executable : Bool} (entry : root.at? (spot.names ++ [name]) = some node)
      (leads : Files.Leads root spot [name] there)
      (here : root.at? there.names = some (.file bytes executable))
      (kept : Path.suffix ⟨[], [name]⟩ ∈ filter.extensions) : Wanders root filter spot [name]
  | directory {spot there : Files.Place} {name : Text} {names : List Text} {node : FileNode}
      {inner : Entries} (entry : root.at? (spot.names ++ [name]) = some node)
      (leads : Files.Leads root spot [name] there)
      (here : root.at? there.names = some (.directory inner)) (enters : filter.Enters name)
      (below : Wanders root filter there names) : Wanders root filter spot (name :: names)

theorem Wanders.first (wanders : Wanders root filter spot names) :
    ∃ name rest, names = name :: rest ∧ ∃ node, root.at? (spot.names ++ [name]) = some node := by
  cases wanders with
  | file entry => exact ⟨_, _, rfl, _, entry⟩
  | directory entry => exact ⟨_, _, rfl, _, entry⟩

theorem wanders_cons {there : Files.Place} {node : FileNode}
    (entry : root.at? (spot.names ++ [name]) = some node) (leads : Files.Leads root spot [name] there) :
    Wanders root filter spot (name :: names) ↔
      (names = [] ∧ Path.suffix ⟨[], [name]⟩ ∈ filter.extensions ∧
        ∃ bytes executable, root.at? there.names = some (.file bytes executable)) ∨
      (filter.Enters name ∧ Wanders root filter there names ∧
        ∃ inner, root.at? there.names = some (.directory inner)) := by
  constructor
  · intro wanders
    cases wanders with
    | file _ again here kept =>
        cases leads.unique again
        exact Or.inl ⟨rfl, kept, _, _, here⟩
    | directory _ again here enters below =>
        cases leads.unique again
        exact Or.inr ⟨enters, below, _, here⟩
  · rintro (⟨rfl, kept, bytes, executable, here⟩ | ⟨enters, below, inner, here⟩)
    · exact .file entry leads here kept
    · exact .directory entry leads here enters below

theorem Visited.finds (sound : root.Sound) (here : root.at? spot.names = some (.directory entries))
    {shown : Path} {node : FileNode} (member : (name, node) ∈ entries) {part : List Path}
    (visited : Visited root filter spot entries (shown.child name) name (.ok part))
    (inside : ∀ (there : Files.Place) inner found,
      Prod.Lex (· < ·) (· < ·) (there.links, sizeOf inner) (spot.links, sizeOf entries) →
      root.at? there.names = some (.directory inner) →
      walk root filter there.links there.names (shown.child name) inner = .ok found →
      ∀ p, p ∈ found ↔
        ∃ names, p = shown.child name ++ (⟨[], names⟩ : Path) ∧ Wanders root filter there names)
    (p : Path) : p ∈ part ↔
      ∃ names, p = shown.child name ++ (⟨[], names⟩ : Path) ∧
        Wanders root filter spot (name :: names) := by
  have entry : root.at? (spot.names ++ [name]) = some node := sound.at_member here member
  -- A directory that is entered asks for the walk below it. Elsewhere the first name decides alone.
  cases visited with
  | file leads final short =>
      simp only [wanders_cons entry leads, final]
      rw [Filter.keepsFile, Path.suffix_child]
      by_cases kept : Path.suffix ⟨[], [name]⟩ ∈ filter.extensions
      · rw [if_pos (List.contains_iff_mem.mpr kept)]
        simp [kept, Path.append_relative]
      · rw [if_neg (mt List.contains_iff_mem.mp kept)]
        simp [kept]
  | entered leads final enters below nearer =>
      rw [inside _ _ _ nearer final below]
      simp only [wanders_cons entry leads, final]
      simp [entersDirectory_iff.mp enters]
  | skipped leads final skips =>
      simp only [wanders_cons entry leads, final]
      simp [mt entersDirectory_iff.mpr skips]
  | lost nowhere =>
      refine iff_of_false List.not_mem_nil ?_
      rintro ⟨names, -, wanders⟩
      cases wanders with
      | file _ leads => exact nowhere _ leads
      | directory _ leads => exact nowhere _ leads

theorem walk_finds (sound : root.Sound) {links : Nat} {place : List Text} {shown : Path}
    {entries : Entries} (here : root.at? place = some (.directory entries)) {found : List Path}
    (walked : walk root filter links place shown entries = .ok found) (p : Path) :
    p ∈ found ↔
      ∃ names, p = shown ++ (⟨[], names⟩ : Path) ∧ Wanders root filter ⟨place, links⟩ names := by
  rw [walk_visits] at walked
  obtain ⟨parts, visited, done⟩ := Except.bind_ok.mp walked
  cases done
  have each (name node part) (member : (name, node) ∈ entries)
      (made : visit root filter links place shown (name, node) = .ok part) : p ∈ part ↔
        ∃ names, p = shown.child name ++ (⟨[], names⟩ : Path) ∧
          Wanders root filter ⟨place, links⟩ (name :: names) := by
    refine (visit_visited sound here member made).finds sound here member ?_ p
    intro there inner found nearer final below
    exact walk_finds sound final below
  have parted := Except.mapM_ok.mp visited
  rw [List.mem_flatten]
  constructor
  · rintro ⟨part, among, inside⟩
    obtain ⟨⟨name, node⟩, member, made⟩ := forall₂_right parted among
    obtain ⟨names, path, wanders⟩ := (each name node part (mem_ordered.mp member) made).mp inside
    exact ⟨name :: names, path.trans (child_append shown name names), wanders⟩
  · rintro ⟨names, path, wanders⟩
    obtain ⟨name, rest, rfl, node, entry⟩ := wanders.first
    have member := FileNode.mem_of_lookup ((FileNode.at_entry here name).symm.trans entry)
    obtain ⟨part, among, made⟩ := forall₂_right parted.flip (mem_ordered.mpr member)
    refine ⟨part, among, (each name node part member made).mpr ⟨rest, ?_, wanders⟩⟩
    exact path.trans (child_append shown name rest).symm
termination_by (links, sizeOf entries)
decreasing_by exact nearer

theorem Wanders.ends (sound : root.Sound)
    (stands : ∃ entries, root.at? spot.names = some (.directory entries))
    (wanders : Wanders root filter spot names) :
    ∃ there bytes executable, Files.Leads root spot names there ∧
      root.at? there.names = some (.file bytes executable) ∧
      (there.names = spot.names ++ names ∨ there.links < spot.links) := by
  induction wanders with
  | @file spot there name node bytes executable entry leads here kept =>
      obtain ⟨entries, stands⟩ := stands
      have member := FileNode.mem_of_lookup ((FileNode.at_entry stands name).symm.trans entry)
      refine ⟨there, bytes, executable, leads, here, ?_⟩
      rcases leads.of_entry sound stands member with ⟨-, rfl⟩ | ⟨-, fewer⟩
      · exact Or.inl rfl
      · exact Or.inr fewer
  | @directory spot there name names node inner entry leads here enters below ih =>
      obtain ⟨entries, stands⟩ := stands
      have member := FileNode.mem_of_lookup ((FileNode.at_entry stands name).symm.trans entry)
      obtain ⟨last, bytes, executable, further, final, ends⟩ := ih ⟨inner, here⟩
      refine ⟨last, bytes, executable, leads.append further, final, ?_⟩
      rcases leads.of_entry sound stands member with ⟨-, rfl⟩ | ⟨-, fewer⟩
      · rwa [List.append_assoc, List.singleton_append] at ends
      · exact Or.inr (Nat.lt_of_le_of_lt further.links_le fewer)

variable {files : Files} {target p : Path}

/-- What is listed for a target. A file is listed alone, and of a directory all that names below it lead
to. No path is listed twice, and two paths lead to one file only if a link was followed. -/
structure Listing (files : Files) (filter : Filter) (target : Path) (documents : List Path) : Prop where
  once : documents.Nodup
  real : ∀ p ∈ documents, ∃ there bytes executable, files.place p = .ok there ∧
    files.root.at? there.names = some (.file bytes executable)
  alone : ∀ spot bytes executable, files.place target = .ok spot →
    files.root.at? spot.names = some (.file bytes executable) → documents = [target]
  complete : ∀ spot entries, files.place target = .ok spot →
    files.root.at? spot.names = some (.directory entries) →
      ∀ p, p ∈ documents ↔
        ∃ names, p = target ++ (⟨[], names⟩ : Path) ∧ Wanders files.root filter spot names
  apart : ∀ p ∈ documents, ∀ q ∈ documents, p ≠ q → files.Same p q →
    files.Detours target p ∨ files.Detours target q

theorem listing_file {bytes : List UInt8} {executable : Bool} (found : files.place target = .ok spot)
    (here : files.root.at? spot.names = some (.file bytes executable)) :
    Listing files filter target [target] where
  once := List.nodup_singleton _
  real := List.forall_mem_singleton.mpr ⟨spot, bytes, executable, found, here⟩
  alone _ _ _ _ _ := rfl
  complete other entries again there := by
    cases found.symm.trans again
    cases here.symm.trans there
  apart p one q two other _ :=
    absurd ((List.mem_singleton.mp one).trans (List.mem_singleton.mp two).symm) other

theorem listing_walk {documents : List Path} (sound : files.root.Sound)
    (found : files.place target = .ok spot)
    (here : files.root.at? spot.names = some (.directory entries))
    (walked : walk files.root filter spot.links spot.names target entries = .ok documents) :
    Listing files filter target documents := by
  obtain ⟨once, below⟩ := walk_lists sound here walked
  have reached (p : Path) (member : p ∈ documents) :
      ∃ names there bytes executable, p = target ++ (⟨[], names⟩ : Path) ∧
        files.place p = .ok there ∧ files.root.at? there.names = some (.file bytes executable) ∧
        (there.names = spot.names ++ names ∨ there.links < spot.links) := by
    obtain ⟨names, path, wanders⟩ := (walk_finds sound here walked p).mp member
    obtain ⟨there, bytes, executable, leads, final, ends⟩ := wanders.ends sound ⟨entries, here⟩
    obtain ⟨_, behind⟩ := below p member
    exact ⟨names, there, bytes, executable, path, place_below found path behind.short leads, final,
      ends⟩
  refine ⟨once, fun p member => ?_, ?_, ?_, fun p one q two other same => ?_⟩
  · obtain ⟨names, there, bytes, executable, -, placed, final, -⟩ := reached p member
    exact ⟨there, bytes, executable, placed, final⟩
  · intro other bytes executable again file
    cases found.symm.trans again
    cases here.symm.trans file
  · intro other inner again directory p
    cases found.symm.trans again
    cases here.symm.trans directory
    exact walk_finds sound here walked p
  · obtain ⟨first, there, _, _, path, placed, -, ends⟩ := reached p one
    obtain ⟨second, last, _, _, route, stands, -, stops⟩ := reached q two
    obtain ⟨_, _, again, further, same⟩ := same
    cases placed.symm.trans again
    cases stands.symm.trans further
    -- Names that are followed without a link are those of the place, so two such ways are one path.
    rcases ends with straight | fewer
    · rcases stops with level | fewer
      · rw [straight, level] at same
        rw [path, route, List.append_cancel_left same] at other
        exact absurd rfl other
      · exact Or.inr ⟨spot, _, found, stands, fewer⟩
    · exact Or.inl ⟨spot, _, found, placed, fewer⟩

/-- A target that exists is listed, unless something is too long. -/
theorem find_listing (filter : Filter) (sound : files.Sound)
    (present : files.pathExists target = .ok true) :
    (∃ error, find files filter target = .error error ∧ TooLong files.root error) ∨
      ∃ documents, find files filter target = .ok (some documents) ∧
        Listing files filter target documents := by
  obtain ⟨spot, node, found, here, real⟩ := Files.exists_at sound present
  cases node with
  | link text => exact absurd trivial real
  | file bytes executable =>
      exact Or.inr ⟨[target], find_file found here, listing_file found here⟩
  | directory entries =>
      rw [find_directory found here]
      cases walked : walk files.root filter spot.links spot.names target entries with
      | error error => exact Or.inl ⟨error, rfl, walk_refused sound.tree here walked⟩
      | ok documents => exact Or.inr ⟨documents, rfl, listing_walk sound.tree found here walked⟩

end Document

namespace Discovery

variable {machine : Machine} {config : Config} {context : Option Context} {warns : Bool}
  {typed : Text} {discovery : Discovery}

theorem places_apart (sound : machine.files.Sound)
    (present : machine.files.pathExists (Path.ofText typed) = .ok true)
    (found : (ofTarget machine config context warns (Path.ofText typed)).perform.1 = .ok discovery) :
    (discovery.items.map fun item => (item.block.origin, item.block.line)).Nodup ∧
      ∀ item ∈ discovery.items, item.block.origin ∈ discovery.documents := by
  obtain ⟨documents, base, extraction, listed, -, extracted, rfl⟩ := ofTarget_found found
  obtain ⟨once, read⟩ : documents.Nodup ∧
      ∀ document ∈ documents, ∃ bytes, machine.files.read document = .ok bytes := by
    rcases Document.find_seen (filterOf config) sound (Path.ofText_root typed)
        (Path.ofText_names typed) present with
      ⟨error, refused, -⟩ | ⟨others, origin, scanned, based, once, seen⟩
    · rw [documentsOf, refused] at listed
      cases listed
    · rw [documentsOf, scanned] at listed
      obtain rfl : others = documents := Except.ok.inj listed
      exact ⟨once, fun document member => (seen document member).2⟩
  obtain ⟨pages, whole, held, again, blocks⟩ := pages_of_read read
  obtain rfl : whole = extraction := by
    rw [extract, again] at extracted
    exact Except.ok.inj extracted
  have chosen : (Selection.select config.languages config.marker whole.blocks).Sublist
      (pages.flatMap (·.blocks)) := by
    rw [← blocks]
    exact List.filter_sublist
  constructor
  · rw [number_map (g := fun block => (block.origin, block.line)) fun _ _ => rfl]
    exact (pages_places once held).sublist (chosen.map _)
  · intro item member
    have inside : item.block ∈ Selection.select config.languages config.marker whole.blocks := by
      have blocks : (number base (Selection.select config.languages config.marker whole.blocks)).map
          Item.block = Selection.select config.languages config.marker whole.blocks := by
        rw [number_map (g := id) fun _ _ => rfl, List.map_id]
      exact blocks ▸ List.mem_map_of_mem member
    exact pages_origin held _ (chosen.subset inside)

/-- A search of a target ends with a list, with links among its files too, unless a path or a name is too
long. No path is listed twice. The same file is listed again, and a block of it found again, only if a
link below the target was followed to it. -/
theorem repeats_follow_links (machine : Machine) (config : Config) (context : Option Context)
    (warns : Bool) (typed : Text) (sound : machine.files.Sound)
    (present : machine.files.pathExists (Path.ofText typed) = .ok true) :
    ((∃ error, Document.find machine.files (filterOf config) (Path.ofText typed) = .error error ∧
        Document.TooLong machine.files.root error) ∨
      ∃ documents,
        Document.find machine.files (filterOf config) (Path.ofText typed) = .ok (some documents) ∧
        Document.Listing machine.files (filterOf config) (Path.ofText typed) documents) ∧
    ∀ discovery,
      (ofTarget machine config context warns (Path.ofText typed)).perform.1 = .ok discovery →
      discovery.items.Pairwise fun item other =>
        machine.files.Same item.block.origin other.block.origin →
        item.block.line = other.block.line →
          machine.files.Detours (Path.ofText typed) item.block.origin ∨
            machine.files.Detours (Path.ofText typed) other.block.origin := by
  have listing := Document.find_listing (filterOf config) sound present
  refine ⟨listing, fun discovery found => ?_⟩
  obtain ⟨places, within⟩ := places_apart sound present found
  have listed : Document.Listing machine.files (filterOf config) (Path.ofText typed)
      discovery.documents := by
    obtain ⟨documents, base, extraction, asked, -, -, rfl⟩ := ofTarget_found found
    rcases listing with ⟨error, refused, -⟩ | ⟨others, scanned, listed⟩
    · rw [documentsOf, refused] at asked
      cases asked
    · rw [documentsOf, scanned] at asked
      cases asked
      exact listed
  -- On one line of one file two blocks differ in their paths, and both paths are listed.
  refine (List.pairwise_map.mp places).imp_of_mem fun {item other} one two differ same line => ?_
  refine listed.apart _ (within item one) _ (within other two) (fun origin => ?_) same
  exact differ (Prod.ext origin line)

theorem repeats_follow_links_shelf :
    shelf.files.Sound ∧ shelf.files.pathExists (Path.ofText "docs") = .ok true ∧
      Document.Listing shelf.files (filterOf .defaults) (Path.ofText "docs") shelfDocuments ∧
      ∃ discovery,
        (ofTarget shelf .defaults none false (Path.ofText "docs")).perform.1 = .ok discovery ∧
        discovery.items.map (·.label) = ["a/c:1.md:2", "b.md:1", "l.md:1"] ∧
        discovery.items.Pairwise fun item other =>
          shelf.files.Same item.block.origin other.block.origin →
          item.block.line = other.block.line →
            shelf.files.Detours (Path.ofText "docs") item.block.origin ∨
              shelf.files.Detours (Path.ofText "docs") other.block.origin := by
  have present : shelf.files.pathExists (Path.ofText "docs") = .ok true := rfl
  obtain ⟨listing, apart⟩ :=
    repeats_follow_links shelf .defaults none false "docs" shelf_sound present
  refine ⟨shelf_sound, present, ?_, ?_⟩
  · rw [find_shelf] at listing
    rcases listing with ⟨error, never, -⟩ | ⟨documents, same, listing⟩
    · cases never
    · cases same
      exact listing
  · obtain ⟨discovery, found, labels⟩ := shelf_found
    exact ⟨discovery, found, labels, apart discovery found⟩

/-- Two paths that are listed may be one file. -/
theorem link_listed_beside_target :
    shelf.files.Sound ∧ ∃ documents,
      Document.find shelf.files (filterOf .defaults) (Path.ofText "docs") = .ok (some documents) ∧
        ¬ documents.Pairwise fun p q => ¬ shelf.files.Same p q := by
  refine ⟨shelf_sound, shelfDocuments, find_shelf, fun apart => ?_⟩
  have differ : ¬ shelf.files.Same ⟨[], ["docs", "b.md"]⟩ ⟨[], ["docs", "l.md"]⟩ :=
    List.rel_of_pairwise_cons (List.pairwise_cons.mp apart).2 List.mem_cons_self
  refine differ ⟨⟨["docs", "b.md"], 40⟩, ⟨["docs", "b.md"], 39⟩, ?_, ?_, rfl⟩
  · rfl
  · rfl

end Discovery

end FenceCheck
