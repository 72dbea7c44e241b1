import FenceCheck.Proofs.DocumentWalk
import FenceCheck.Proofs.JsonOrder
import Mathlib.Data.List.Lex

/-!
The documents in a tree without links. A walk lists just the files of the extensions asked for that lie
below directories which it enters, and it lists them in the order of the names that lead to them: names
are compared one by one and not as parts of a path, in which a slash would count as a letter.
-/

namespace FenceCheck

/-- Code points compared by their numbers, a text coming before its extensions. -/
def Text.Before : Text → Text → Prop := List.Lex fun c d => c.val < d.val

theorem Text.before_of_le {s t : Text} (below : le s t = true) (other : s ≠ t) : Before s t := by
  fun_induction le s t with
  | case1 t =>
      cases t with
      | nil => exact absurd rfl other
      | cons => exact .nil
  | case2 => cases below
  | case3 c s d t same ih =>
      cases CodePoint.val_inj same
      exact .cons (ih below fun equal => other (equal ▸ rfl))
  | case4 c s d t different => exact .rel (of_decide_eq_true below)

/-- Names compared one by one, so that the first two that differ decide. -/
def Path.Before : List Text → List Text → Prop := List.Lex Text.Before

instance : Std.Asymm Text.Before :=
  have : Std.Asymm fun c d : CodePoint => c.val < d.val := ⟨fun _ _ => Nat.lt_asymm⟩
  inferInstanceAs (Std.Asymm (List.Lex _))

instance : Std.Asymm Path.Before := inferInstanceAs (Std.Asymm (List.Lex _))

theorem Path.ne_of_before {names others : List Text} (before : Before names others) :
    names ≠ others := by
  rintro rfl
  exact Std.Asymm.asymm _ _ before before

theorem Path.suffix_cons (name : Text) {names : List Text} (nonempty : names ≠ []) :
    suffix ⟨[], name :: names⟩ = suffix ⟨[], names⟩ := by
  obtain ⟨next, rest, rfl⟩ := List.exists_cons_of_ne_nil nonempty
  rfl

theorem Path.suffix_child (p : Path) (name : Text) : (p.child name).suffix = suffix ⟨[], [name]⟩ := by
  have last : (p.child name).name = name := List.getLastD_concat
  rw [suffix, last]
  rfl

theorem Files.place_of_find {files : Files} {p : Path} {node : FileNode}
    (found : files.find p = .ok node) :
    ∃ spot, files.place p = .ok spot ∧ files.root.at? spot.names = some node := by
  rw [find] at found
  cases placed : files.place p with
  | error fault =>
      rw [placed] at found
      cases found
  | ok spot =>
      rw [placed, nodeAt] at found
      split at found
      case h_1 node here =>
          cases found
          exact ⟨spot, rfl, here⟩
      case h_2 => cases found

theorem Files.countLinks_entry {entries : Entries} (linkless : countLinks (.directory entries) = 0) :
    ∀ entry ∈ entries, countLinks entry.2 = 0 := by
  rw [countLinks] at linkless
  induction entries with
  | nil => exact List.forall_mem_nil _
  | cons entry rest ih =>
      rw [countLinks.countEntries, Nat.add_eq_zero_iff] at linkless
      exact List.forall_mem_cons.mpr ⟨linkless.1, ih linkless.2⟩

namespace Document

def Filter.Enters (filter : Filter) (name : Text) : Prop :=
  ¬ Text.ofString "." <+: name ∧ name ∉ filter.skipped

/-- Names that lead to a node of a tree by way of directories that a walk enters. -/
structure Reaches (filter : Filter) (tree : FileNode) (names : List Text) (node : FileNode) : Prop where
  nonempty : names ≠ []
  leads : tree.at? names = some node
  entered : ∀ name ∈ names.dropLast, filter.Enters name

/-- Names that lead to a document: a file with one of the extensions asked for. -/
def IsDocument (filter : Filter) (tree : FileNode) (names : List Text) : Prop :=
  (∃ bytes executable, Reaches filter tree names (.file bytes executable)) ∧
    Path.suffix ⟨[], names⟩ ∈ filter.extensions

variable {filter : Filter} {tree node last : FileNode} {entries : Entries} {name : Text}
  {names start : List Text} {shown : Path}

theorem entersDirectory_iff : filter.entersDirectory name = true ↔ filter.Enters name := by
  simp [Filter.entersDirectory, Filter.Enters, Text.startsWith, ← List.isPrefixOf_iff_prefix]

theorem document_file {bytes : List UInt8} {executable : Bool} :
    ¬ IsDocument filter (.file bytes executable) names := by
  rintro ⟨⟨_, _, nonempty, leads, -⟩, -⟩
  obtain ⟨name, rest, rfl⟩ := List.exists_cons_of_ne_nil nonempty
  cases leads

theorem reaches_entry (here : entries.lookup name = some node) :
    Reaches filter (.directory entries) (name :: names) last ↔
      (names = [] ∧ last = node) ∨ (filter.Enters name ∧ Reaches filter node names last) := by
  have through : (FileNode.directory entries).at? (name :: names) = node.at? names := by
    rw [FileNode.at?, FileNode.entry?, here, Option.bind_some]
  constructor
  · rintro ⟨-, leads, entered⟩
    rw [through] at leads
    by_cases none : names = []
    · rw [none, FileNode.at?] at leads
      exact Or.inl ⟨none, (Option.some.inj leads).symm⟩
    · rw [List.dropLast_cons_of_ne_nil none, List.forall_mem_cons] at entered
      exact Or.inr ⟨entered.1, none, leads, entered.2⟩
  · rintro (⟨rfl, rfl⟩ | ⟨enters, nonempty, leads, entered⟩)
    · refine ⟨List.cons_ne_nil _ _, ?_, List.forall_mem_nil _⟩
      rw [through, FileNode.at?]
    · refine ⟨List.cons_ne_nil _ _, through.trans leads, ?_⟩
      rw [List.dropLast_cons_of_ne_nil nonempty]
      exact List.forall_mem_cons.mpr ⟨enters, entered⟩

theorem document_entry (here : entries.lookup name = some node) :
    IsDocument filter (.directory entries) (name :: names) ↔
      (names = [] ∧ node.isFile = true ∧ Path.suffix ⟨[], [name]⟩ ∈ filter.extensions) ∨
        (filter.Enters name ∧ IsDocument filter node names) := by
  unfold IsDocument
  simp only [reaches_entry here]
  constructor
  · rintro ⟨⟨bytes, executable, ⟨rfl, rfl⟩ | ⟨enters, reaches⟩⟩, kept⟩
    · exact Or.inl ⟨rfl, rfl, kept⟩
    · rw [Path.suffix_cons name reaches.nonempty] at kept
      exact Or.inr ⟨enters, ⟨bytes, executable, reaches⟩, kept⟩
  · rintro (⟨rfl, file, kept⟩ | ⟨enters, ⟨bytes, executable, reaches⟩, kept⟩)
    · cases node with
      | file bytes executable => exact ⟨⟨bytes, executable, Or.inl ⟨rfl, rfl⟩⟩, kept⟩
      | directory | link => cases file
    · rw [Path.suffix_cons name reaches.nonempty]
      exact ⟨⟨bytes, executable, Or.inr ⟨enters, reaches⟩⟩, kept⟩

/-- What a walk of the names behind `start` comes to: the documents in their order, or the first path
that is too long. -/
inductive Explored (filter : Filter) (tree : FileNode) (start : List Text) (shown : Path) :
    Except FileError (List Path) → Prop where
  | listed {places : List (List Text)} (ordered : places.Pairwise Path.Before)
      (complete : ∀ names, names ∈ places ↔ IsDocument filter tree (start ++ names)) :
      Explored filter tree start shown
        (.ok (places.map fun names => shown ++ (⟨[], start ++ names⟩ : Path)))
  | tooLong {names : List Text} {node : FileNode}
      (reaches : Reaches filter tree (start ++ names) node)
      (long : Files.pathLimit < (shown ++ (⟨[], start ++ names⟩ : Path)).toText.size) :
      Explored filter tree start shown
        (.error (.refused .nameTooLong (shown ++ (⟨[], start ++ names⟩ : Path)).toText))

theorem Explored.none (empty : ∀ names, ¬ IsDocument filter tree (start ++ names)) :
    Explored filter tree start shown (.ok []) :=
  @Explored.listed _ _ _ _ [] .nil fun names => iff_of_false List.not_mem_nil (empty names)

theorem child_append (shown : Path) (name : Text) (names : List Text) :
    shown.child name ++ (⟨[], names⟩ : Path) = shown ++ (⟨[], [name] ++ names⟩ : Path) := by
  rw [Path.append_relative, Path.append_relative, Path.child, List.append_assoc]

theorem Explored.around {result : Except FileError (List Path)} {inner : Entries}
    (here : entries.lookup name = some (.directory inner)) (enters : filter.Enters name)
    (explored : Explored filter (.directory inner) [] (shown.child name) result) :
    Explored filter (.directory entries) [name] shown result := by
  cases explored with
  | listed ordered complete =>
      simp only [List.nil_append, child_append] at complete ⊢
      refine .listed ordered fun names => ?_
      rw [complete, List.singleton_append, document_entry here]
      exact ⟨fun document => Or.inr ⟨enters, document⟩, fun either =>
        either.elim (fun ⟨_, file, _⟩ => Bool.noConfusion file) And.right⟩
  | tooLong reaches long =>
      simp only [List.nil_append, child_append] at reaches long ⊢
      exact .tooLong ((reaches_entry here).mpr (Or.inr ⟨enters, reaches⟩)) long

variable {root : FileNode} {links : Nat} {place : List Text}

theorem visit_explored (apart : (entries.map (·.1)).Nodup) (linkless : Files.countLinks node = 0)
    (member : (name, node) ∈ entries)
    (inside : ∀ inner, node = .directory inner → Explored filter node [] (shown.child name)
      (walk root filter links (place ++ [name]) (shown.child name) inner)) :
    Explored filter (.directory entries) [name] shown
      (visit root filter links place shown (name, node)) := by
  have here := FileNode.lookup_of_mem apart member
  have path : shown ++ (⟨[], [name] ++ []⟩ : Path) = shown.child name := by
    rw [Path.append_relative, Path.child, List.append_nil]
  rw [visit]
  dsimp only
  -- The length is checked for every entry, whatever it is.
  by_cases long : Files.pathLimit < (shown.child name).toText.size
  · rw [if_pos long, ← path]
    rw [← path] at long
    exact .tooLong ((reaches_entry here).mpr (Or.inl ⟨rfl, rfl⟩)) long
  · rw [if_neg long]
    cases node with
    | file bytes executable =>
        dsimp only
        rw [Filter.keepsFile, Path.suffix_child]
        by_cases kept : Path.suffix ⟨[], [name]⟩ ∈ filter.extensions
        · rw [if_pos (List.contains_iff_mem.mpr kept), ← path]
          refine @Explored.listed _ _ _ _ [[]] (List.pairwise_singleton _ _) fun names => ?_
          rw [List.mem_singleton, List.singleton_append, document_entry here]
          constructor
          · exact fun ends => Or.inl ⟨ends, rfl, kept⟩
          · rintro (⟨ends, -, -⟩ | ⟨-, within⟩)
            · exact ends
            · exact absurd within document_file
        · rw [if_neg (mt List.contains_iff_mem.mp kept)]
          refine .none fun names => ?_
          rw [List.singleton_append, document_entry here]
          rintro (⟨-, -, other⟩ | ⟨-, within⟩)
          · exact kept other
          · exact document_file within
    | directory inner =>
        dsimp only
        by_cases enters : filter.Enters name
        · rw [if_pos (entersDirectory_iff.mpr enters)]
          exact (inside inner rfl).around here enters
        · rw [if_neg (mt entersDirectory_iff.mp enters)]
          refine .none fun names => ?_
          rw [List.singleton_append, document_entry here]
          rintro (⟨-, file, -⟩ | ⟨other, -⟩)
          · cases file
          · exact enters other
    | link target => cases linkless

theorem explored_flatten {held : Entries} {parts : List (List Path)}
    (sorted : held.Pairwise fun a b => Text.Before a.1 b.1)
    (each : List.Forall₂ (fun entry part => Explored filter tree [entry.1] shown (.ok part))
      held parts) :
    ∃ places : List (List Text), places.Pairwise Path.Before ∧
      parts.flatten = places.map (fun names => shown ++ (⟨[], names⟩ : Path)) ∧
      ∀ names, names ∈ places ↔
        IsDocument filter tree names ∧ ∃ entry ∈ held, ∃ below, names = entry.1 :: below := by
  induction each with
  | nil => exact ⟨[], .nil, rfl, fun names => ⟨nofun, nofun⟩⟩
  | @cons entry part rest parts here others ih =>
      obtain ⟨least, sorted⟩ := List.pairwise_cons.mp sorted
      obtain ⟨later, increasing, paths, complete⟩ := ih sorted
      cases here with
      | @listed places ordered found =>
          refine ⟨places.map (entry.1 :: ·) ++ later, ?_, ?_, fun names => ?_⟩
          · -- All that begins with the least name comes before whatever begins with a later one.
            refine List.pairwise_append.mpr ⟨?_, increasing, ?_⟩
            · exact List.pairwise_map.mpr (ordered.imp List.Lex.cons)
            · intro names inside others behind
              obtain ⟨below, -, rfl⟩ := List.mem_map.mp inside
              obtain ⟨-, other, member, deeper, rfl⟩ := (complete others).mp behind
              exact .rel (least other member)
          · rw [List.flatten_cons, paths, List.map_append, List.map_map]
            rfl
          · rw [List.mem_append, complete, List.mem_map]
            constructor
            · rintro (⟨below, inside, rfl⟩ | ⟨document, other, member, split⟩)
              · exact ⟨(found below).mp inside, entry, List.mem_cons_self, below, rfl⟩
              · exact ⟨document, other, List.mem_cons_of_mem _ member, split⟩
            · rintro ⟨document, other, member, below, rfl⟩
              rcases List.mem_cons.mp member with rfl | member
              · exact Or.inl ⟨below, (found below).mpr document, rfl⟩
              · exact Or.inr ⟨document, other, member, below, rfl⟩

theorem ordered_before (apart : (entries.map (·.1)).Nodup) :
    (ordered entries).Pairwise fun a b => Text.Before a.1 b.1 := by
  have sorted : (ordered entries).Pairwise fun a b => Text.le a.1 b.1 = true := by
    apply List.pairwise_mergeSort
    · exact fun _ _ _ => Text.le_trans
    · exact fun _ _ => Text.le_total _ _
  have distinct := List.pairwise_map.mp (ordered_names apart)
  exact sorted.imp₂ (fun _ _ below other => Text.before_of_le below other) distinct

theorem walk_explored {place : List Text} {shown : Path} {entries : Entries}
    (sound : (FileNode.directory entries).Sound)
    (linkless : Files.countLinks (.directory entries) = 0) :
    Explored filter (.directory entries) [] shown (walk root filter links place shown entries) := by
  obtain _ | _ | @⟨_, proper, apart, inner⟩ := sound
  have each (entry) (member : entry ∈ ordered entries) :
      Explored filter (.directory entries) [entry.1] shown
        (visit root filter links place shown entry) := by
    obtain ⟨name, node⟩ := entry
    rw [mem_ordered] at member
    have within := Files.countLinks_entry linkless _ member
    -- The induction is on the tree: an entry that is a directory holds less than the one around it.
    refine visit_explored apart within member ?_
    rintro below rfl
    exact walk_explored (inner _ member) within
  rw [walk_visits]
  cases visited : (ordered entries).mapM (visit root filter links place shown) with
  | error error =>
      obtain ⟨entry, member, made⟩ := Except.mapM_error visited
      have part := each entry member
      rw [made] at part
      cases part with
      | tooLong reaches long => exact .tooLong reaches long
  | ok parts =>
      have parted := (List.forall₂_and_left _ _).mpr ⟨each, Except.mapM_ok.mp visited⟩
      obtain ⟨places, increasing, paths, complete⟩ := explored_flatten (ordered_before apart)
        (parted.imp fun entry part ⟨explored, made⟩ => made ▸ explored)
      have all (names) : names ∈ places ↔ IsDocument filter (.directory entries) names := by
        rw [complete]
        refine ⟨And.left, fun document => ⟨document, ?_⟩⟩
        obtain ⟨⟨bytes, executable, reaches⟩, -⟩ := document
        obtain ⟨name, below, rfl⟩ := List.exists_cons_of_ne_nil reaches.nonempty
        obtain ⟨node, here, -⟩ := Option.bind_eq_some_iff.mp reaches.leads
        exact ⟨(name, node), mem_ordered.mpr (FileNode.mem_of_lookup here), below, rfl⟩
      refine (congrArg _ (congrArg Except.ok paths)).mpr ?_
      exact .listed increasing all
termination_by sizeOf entries
decreasing_by
  have smaller := List.sizeOf_lt_of_mem member
  simp only [Prod.mk.sizeOf_spec, FileNode.directory.sizeOf_spec] at smaller
  omega

/-- What a search of a target without links comes to. A file is its own document. The documents of a
directory are listed in the order of the names that lead to them from it, unless a path to something in
it, or in a directory that is entered, is too long. -/
theorem find_exact (files : Files) (filter : Filter) (target : Path) (node : FileNode)
    (sound : files.Sound) (found : files.find target = .ok node)
    (linkless : Files.countLinks node = 0) :
    (node.isFile = true → find files filter target = .ok (some [target])) ∧
      (node.isDirectory = true →
        (∃ names last, Reaches filter node names last ∧
          Files.pathLimit < (target ++ (⟨[], names⟩ : Path)).toText.size ∧
          find files filter target =
            .error (.refused .nameTooLong (target ++ (⟨[], names⟩ : Path)).toText)) ∨
        ∃ places : List (List Text),
          find files filter target =
            .ok (some (places.map fun names => target ++ (⟨[], names⟩ : Path))) ∧
          places.Pairwise Path.Before ∧
          (places.map fun names => target ++ (⟨[], names⟩ : Path)).Nodup ∧
          ∀ names, names ∈ places ↔ IsDocument filter node names) := by
  obtain ⟨place, placed, here⟩ := Files.place_of_find found
  rw [find, placed]
  simp only [here]
  cases node with
  | link text => exact ⟨Bool.noConfusion, Bool.noConfusion⟩
  | file bytes executable => exact ⟨fun _ => rfl, Bool.noConfusion⟩
  | directory entries =>
      refine ⟨Bool.noConfusion, fun _ => ?_⟩
      dsimp only
      have explored : Explored filter (.directory entries) [] target
          (walk files.root filter place.links place.names target entries) :=
        walk_explored (sound.tree.at here) linkless
      generalize walk files.root filter place.links place.names target entries = result at explored ⊢
      cases explored with
      | @tooLong names last reaches long => exact Or.inl ⟨names, last, reaches, long, rfl⟩
      | @listed places increasing complete =>
          refine Or.inr ⟨places, rfl, increasing, ?_, complete⟩
          -- The names are in order, so they differ, and a path gives the names below the target
          -- back.
          refine List.Nodup.map (fun names others same => ?_) (increasing.imp Path.ne_of_before)
          rw [Path.append_relative, Path.append_relative] at same
          exact List.append_cancel_left (congrArg Path.names same)

/-- Directories and documents side by side. The name `a-b` comes after `a`, though a hyphen comes before
a slash. -/
def shelves : FileNode := .directory
  [("a.md", .file [] false), ("a-b", .directory [("x.mdx", .file [] false)]),
   ("a", .directory [("x.txt", .file [] false), (".d.md", .file [] false)]),
   ("node_modules", .directory [("y.md", .file [] false)]),
   (".git", .directory [("y.md", .file [] false)])]

theorem shelves_sound : shelves.Sound := by
  refine .directory (by decide) (by decide) ?_
  simp only [List.forall_mem_cons]
  refine ⟨.file _ _, ?_, ?_, ?_, ?_, List.forall_mem_nil _⟩
  all_goals
    refine .directory (by decide) (by decide) ?_
    simp only [List.forall_mem_cons]
    first
      | exact ⟨.file _ _, List.forall_mem_nil _⟩
      | exact ⟨.file _ _, .file _ _, List.forall_mem_nil _⟩

theorem find_shelves :
    let names : List (List Text) := [["a", ".d.md"], ["a-b", "x.mdx"], ["a.md"]]
    find ⟨.directory [("docs", shelves)], []⟩ ⟨defaultExtensions, defaultSkipped⟩ (Path.ofText "docs") =
      .ok (some (names.map fun below => ⟨[], "docs" :: below⟩)) := by
  have first (place : List Text) : walk (.directory [("docs", shelves)])
      ⟨defaultExtensions, defaultSkipped⟩ Files.linkLimit place ⟨[], ["docs", "a"]⟩
      [("x.txt", .file [] false), (".d.md", .file [] false)] = .ok [⟨[], ["docs", "a", ".d.md"]⟩] := by
    refine walk_of_visits [[_], []] ?_
    rw [ordered_insertion (by decide)]
    exact .cons rfl (.cons rfl .nil)
  have second (place : List Text) : walk (.directory [("docs", shelves)])
      ⟨defaultExtensions, defaultSkipped⟩ Files.linkLimit place ⟨[], ["docs", "a-b"]⟩
      [("x.mdx", .file [] false)] = .ok [⟨[], ["docs", "a-b", "x.mdx"]⟩] := by
    refine walk_of_visits [[_]] ?_
    rw [ordered, List.mergeSort_singleton]
    exact .cons rfl .nil
  refine congrArg (Except.map some) (walk_of_visits [[], [_], [_], [_], []] ?_)
  rw [ordered_insertion (by decide)]
  exact .cons rfl (.cons (first _) (.cons (second _) (.cons rfl (.cons rfl .nil))))

theorem find_exact_shelves :
    let files : Files := ⟨.directory [("docs", shelves)], []⟩
    let names : List (List Text) := [["a", ".d.md"], ["a-b", "x.mdx"], ["a.md"]]
    files.Sound ∧ files.find (Path.ofText "docs") = .ok shelves ∧ Files.countLinks shelves = 0 ∧
      find files ⟨defaultExtensions, defaultSkipped⟩ (Path.ofText "docs") =
        .ok (some (names.map fun below => ⟨[], "docs" :: below⟩)) ∧
      ∀ below, below ∈ names ↔ IsDocument ⟨defaultExtensions, defaultSkipped⟩ shelves below := by
  intro files names
  have sound : files.Sound :=
    ⟨.directory (by decide) (by decide) (List.forall_mem_singleton.mpr shelves_sound), _, rfl⟩
  have found : files.find (Path.ofText "docs") = .ok shelves := rfl
  have linkless : Files.countLinks shelves = 0 := rfl
  have listed : find files ⟨defaultExtensions, defaultSkipped⟩ (Path.ofText "docs") =
      .ok (some (names.map fun below => ⟨[], "docs" :: below⟩)) := find_shelves
  refine ⟨sound, found, linkless, listed, ?_⟩
  obtain ⟨-, complete⟩ := find_exact files ⟨defaultExtensions, defaultSkipped⟩ (Path.ofText "docs")
    shelves sound found linkless
  rw [listed] at complete
  obtain ⟨_, _, _, _, never⟩ | ⟨places, same, -, -, complete⟩ := complete rfl
  · cases never
  · have spelled : names = places := by
      refine List.map_injective_iff.mpr ?_ (Option.some.inj (Except.ok.inj same))
      exact fun below other same => (List.cons.inj (congrArg Path.names same)).2
    rw [spelled]
    exact complete

end Document

end FenceCheck
