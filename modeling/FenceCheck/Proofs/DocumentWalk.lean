import FenceCheck.Document.Walk
import FenceCheck.Proofs.FileLookup
import FenceCheck.Proofs.Fallible
import FenceCheck.Proofs.JsonOrder
import Mathlib.Data.List.Sort

/-!
The documents of a target. A walk makes of each entry of a directory nothing, the entry itself or what
is found below it; so every path it lists leads to a file over names below the target, and no path is
listed twice. Only a name or a path that is too long ends a walk.
-/

namespace FenceCheck

namespace Document

variable {root : FileNode} {filter : Filter} {links : Nat} {place : List Text} {shown : Path}
  {entries : Entries}

def visit (root : FileNode) (filter : Filter) (links : Nat) (place : List Text) (shown : Path)
    (entry : Text × FileNode) : Except FileError (List Path) :=
  let path := shown.child entry.1
  if Files.pathLimit < path.toText.size then .error (.refused .nameTooLong path.toText)
  else
    match entry.2 with
    | .file .. => .ok (if filter.keepsFile path then [path] else [])
    | .directory inner =>
        if filter.entersDirectory entry.1 then
          walk root filter links (place ++ [entry.1]) path inner
        else .ok []
    | .link _ =>
        match Files.walk root false links place [entry.1] with
        | .error .nameTooLong => .error (.refused .nameTooLong path.toText)
        | .error _ => .ok []
        | .ok target =>
            match root.at? target.names with
            | some (.file ..) => .ok (if filter.keepsFile path then [path] else [])
            | some (.directory inner) =>
                if target.links < links then
                  if filter.entersDirectory entry.1 then
                    walk root filter target.links target.names path inner
                  else .ok []
                else .ok []
            | _ => .ok []

theorem walk_visits : walk root filter links place shown entries =
    (do
      let found ← (ordered entries).mapM (visit root filter links place shown)
      return found.flatten) := by
  rw [walk, ← Except.mapM_attach (visit root filter links place shown)]
  congr
  funext ⟨⟨name, node⟩, member⟩
  cases node <;> rfl

/-- What a visit of an entry comes to. The file or directory that the name leads to decides, and a name
that leads nowhere adds nothing; only a path or a name that is too long is refused. -/
inductive Visited (root : FileNode) (filter : Filter) (spot : Files.Place) (entries : Entries)
    (path : Path) (name : Text) : Except FileError (List Path) → Prop where
  | tooLong (long : Files.pathLimit < path.toText.size ∨ Files.Overlong root) :
      Visited root filter spot entries path name (.error (.refused .nameTooLong path.toText))
  | file {there : Files.Place} {bytes : List UInt8} {executable : Bool}
      (leads : Files.Leads root spot [name] there)
      (here : root.at? there.names = some (.file bytes executable))
      (short : path.toText.size ≤ Files.pathLimit) :
      Visited root filter spot entries path name (.ok (if filter.keepsFile path then [path] else []))
  | entered {there : Files.Place} {inner : Entries} {result : Except FileError (List Path)}
      (leads : Files.Leads root spot [name] there)
      (here : root.at? there.names = some (.directory inner))
      (enters : filter.entersDirectory name = true)
      (below : walk root filter there.links there.names path inner = result)
      (nearer : Prod.Lex (· < ·) (· < ·) (there.links, sizeOf inner) (spot.links, sizeOf entries)) :
      Visited root filter spot entries path name result
  | skipped {there : Files.Place} {inner : Entries} (leads : Files.Leads root spot [name] there)
      (here : root.at? there.names = some (.directory inner))
      (skips : ¬ filter.entersDirectory name = true) :
      Visited root filter spot entries path name (.ok [])
  | lost (nowhere : ∀ there, ¬ Files.Leads root spot [name] there) :
      Visited root filter spot entries path name (.ok [])

theorem visit_visited (sound : root.Sound) (here : root.at? place = some (.directory entries))
    {entry : Text × FileNode} (member : entry ∈ entries)
    {result : Except FileError (List Path)}
    (visited : visit root filter links place shown entry = result) :
    Visited root filter ⟨place, links⟩ entries (shown.child entry.1) entry.1 result := by
  obtain ⟨name, node⟩ := entry
  subst visited
  rw [visit]
  dsimp only
  split
  case isTrue long => exact .tooLong (Or.inl long)
  case isFalse short =>
      replace short := Nat.le_of_not_lt short
      have held := sound.at_member here member
      cases node with
      | file bytes executable => exact .file (Files.leads_entry sound here member id) held short
      | directory inner =>
          have leads : Files.Leads root ⟨place, links⟩ [name] ⟨place ++ [name], links⟩ :=
            Files.leads_entry sound here member id
          dsimp only
          split
          case isTrue enters =>
              refine .entered leads held enters rfl ?_
              have smaller := List.sizeOf_lt_of_mem member
              simp only [Prod.mk.sizeOf_spec, FileNode.directory.sizeOf_spec] at smaller
              exact .right _ (by omega)
          case isFalse skips => exact .skipped leads held skips
      | link target =>
          dsimp only
          split
          case h_1 tooLong =>
              -- The entry's own name is short enough, so the long one is in a link.
              refine .tooLong (Or.inr ((Files.walk_tooLong tooLong).resolve_left ?_))
              rintro ⟨other, own, long⟩
              cases List.mem_singleton.mp own
              cases sound.at here with
              | directory names apart inner =>
                  exact absurd long (Nat.not_lt.mpr (names _ member).short)
          case h_2 fault failed =>
              refine .lost fun there leads => ?_
              rw [Files.walk_of_leads leads] at failed
              cases failed
          case h_3 there walked =>
              have leads := Files.leads_of_walk walked
              -- A link costs one, so the guard that makes the walk end never holds it up.
              have fewer : there.links < links := by
                rcases leads.of_entry sound here member with ⟨real, -⟩ | ⟨-, fewer⟩
                · exact absurd trivial real
                · exact fewer
              split
              case h_1 bytes executable final => exact .file leads final short
              case h_2 inner final =>
                  rw [if_pos fewer]
                  split
                  case isTrue enters => exact .entered leads final enters rfl (.left _ _ fewer)
                  case isFalse skips => exact .skipped leads final skips
              case h_3 noFile noDirectory =>
                  obtain ⟨final, stands, real⟩ := leads.ends_real here id
                  cases final with
                  | file bytes executable => exact absurd stands (noFile bytes executable)
                  | directory inner => exact absurd stands (noDirectory inner)
                  | link target => exact absurd trivial real

/-- What an entry reached as `path` adds to the documents of its directory: nothing, itself if its
name leads to a file, or what is `below` the directory that its name leads to. -/
inductive Adds (root : FileNode) (spot : Files.Place) (path : Path) (name : Text)
    (below : Files.Place → Entries → List Path → Prop) : List Path → Prop where
  | nothing : Adds root spot path name below []
  | file {there : Files.Place} {bytes : List UInt8} {executable : Bool}
      (leads : Files.Leads root spot [name] there)
      (here : root.at? there.names = some (.file bytes executable))
      (short : path.toText.size ≤ Files.pathLimit) : Adds root spot path name below [path]
  | directory {there : Files.Place} {inner : Entries} {found : List Path}
      (leads : Files.Leads root spot [name] there)
      (here : root.at? there.names = some (.directory inner)) (inside : below there inner found) :
      Adds root spot path name below found

theorem visit_adds (sound : root.Sound) (here : root.at? place = some (.directory entries))
    {entry : Text × FileNode} (member : entry ∈ entries) {part : List Path}
    (visited : visit root filter links place shown entry = .ok part) :
    Adds root ⟨place, links⟩ (shown.child entry.1) entry.1
      (fun there inner found =>
        walk root filter there.links there.names (shown.child entry.1) inner = .ok found ∧
          Prod.Lex (· < ·) (· < ·) (there.links, sizeOf inner) (links, sizeOf entries)) part := by
  cases visit_visited sound here member visited with
  | file leads final short =>
      split
      · exact .file leads final short
      · exact .nothing
  | entered leads final enters below nearer => exact .directory leads final ⟨below, nearer⟩
  | skipped leads final skips => exact .nothing
  | lost nowhere => exact .nothing

theorem mem_ordered {entry : Text × FileNode} : entry ∈ ordered entries ↔ entry ∈ entries :=
  List.mem_mergeSort

theorem ordered_names (apart : (entries.map (·.1)).Nodup) :
    ((ordered entries).map (·.1)).Nodup :=
  ((List.mergeSort_perm entries _).map (·.1)).nodup_iff.mpr apart

/-- Names are sorted in one way only, so an insertion sort gives the same order. -/
theorem ordered_insertion (apart : (entries.map (·.1)).Nodup) :
    ordered entries = entries.insertionSort fun a b => Text.le a.1 b.1 = true := by
  have sorted : (entries.insertionSort fun a b => Text.le a.1 b.1 = true).Pairwise
      fun a b => Text.le a.1 b.1 = true := by
    have : Std.Total fun a b : Text × FileNode => Text.le a.1 b.1 = true :=
      ⟨fun a b => by simpa using Text.le_total a.1 b.1⟩
    have : IsTrans (Text × FileNode) fun a b => Text.le a.1 b.1 = true :=
      ⟨fun _ _ _ => Text.le_trans⟩
    exact List.pairwise_insertionSort _ entries
  exact (Json.sortedByName_eq apart (List.perm_insertionSort _ entries).symm).trans
    (List.mergeSort_of_pairwise sorted)

theorem walk_of_visits (parts : List (List Path))
    (visited : List.Forall₂
      (fun entry part => visit root filter links place shown entry = .ok part)
      (ordered entries) parts) :
    walk root filter links place shown entries = .ok parts.flatten := by
  rw [walk_visits, Except.mapM_ok.mpr visited]
  rfl

/-- What holds of a walk if it holds whenever it holds below all entries that are directories. -/
theorem walk_rule (sound : root.Sound)
    {motive : Files.Place → Path → Entries → List Path → Prop}
    (step : ∀ spot shown entries parts, root.at? spot.names = some (.directory entries) →
      List.Forall₂ (fun entry part =>
        Adds root spot (shown.child entry.1) entry.1 (motive · (shown.child entry.1)) part)
        (ordered entries) parts →
      motive spot shown entries parts.flatten)
    {links : Nat} {place : List Text} {shown : Path} {entries : Entries} {found : List Path}
    (here : root.at? place = some (.directory entries))
    (walked : walk root filter links place shown entries = .ok found) :
    motive ⟨place, links⟩ shown entries found := by
  rw [walk_visits] at walked
  obtain ⟨parts, visited, done⟩ := Except.bind_ok.mp walked
  cases done
  have each := (List.forall₂_and_left _ _).mpr
    ⟨fun entry => mem_ordered.mp, Except.mapM_ok.mp visited⟩
  refine step ⟨place, links⟩ shown entries parts here (each.imp ?_)
  rintro entry part ⟨member, made⟩
  cases visit_adds sound here member made with
  | nothing => exact .nothing
  | file leads final short => exact .file leads final short
  | @directory there inner found leads final inside =>
      obtain ⟨below, nearer⟩ := inside
      -- The walk below is a shorter one: a link was used up, or the directory is a part of this
      -- one.
      exact .directory leads final (walk_rule sound step final below)
termination_by (links, sizeOf entries)
decreasing_by exact nearer

/-- A fault that stands for a path or a name that is too long. -/
def TooLong (root : FileNode) (error : FileError) : Prop :=
  ∃ path, error = .refused .nameTooLong path ∧
    (Files.pathLimit < path.size ∨ Files.Overlong root)

theorem walk_refused (sound : root.Sound) {links : Nat} {place : List Text} {shown : Path}
    {entries : Entries} {error : FileError} (here : root.at? place = some (.directory entries))
    (refused : walk root filter links place shown entries = .error error) : TooLong root error := by
  rw [walk_visits] at refused
  rcases Except.bind_error.mp refused with failed | ⟨parts, -, never⟩
  · obtain ⟨entry, member, made⟩ := Except.mapM_error failed
    cases visit_visited sound here (mem_ordered.mp member) made with
    | tooLong long => exact ⟨_, rfl, long⟩
    | entered leads final enters below nearer => exact walk_refused sound final below
  · cases never
termination_by (links, sizeOf entries)
decreasing_by exact nearer

structure Below (root : FileNode) (spot : Files.Place) (shown p : Path) (names : List Text) :
    Prop where
  path : p = shown ++ (⟨[], names⟩ : Path)
  proper : ∀ name ∈ names, Path.IsName name
  short : p.toText.size ≤ Files.pathLimit
  file : ∃ there bytes executable, Files.Leads root spot names there ∧
    root.at? there.names = some (.file bytes executable)

variable {spot : Files.Place}

theorem below_cons {there : Files.Place} {name : Text} {names : List Text} {p : Path}
    (proper : Path.IsName name) (leads : Files.Leads root spot [name] there)
    (below : Below root there (shown.child name) p names) : Below root spot shown p (name :: names) := by
  obtain ⟨last, bytes, executable, further, here⟩ := below.file
  refine ⟨?_, List.forall_mem_cons.mpr ⟨proper, below.proper⟩, below.short, last, bytes, executable,
    leads.append further, here⟩
  rw [below.path, Path.append_relative, Path.append_relative]
  simp [Path.child]

/-- Different paths for different names, each with a file behind it. -/
def Lists (root : FileNode) (spot : Files.Place) (shown : Path) (found : List Path) : Prop :=
  found.Nodup ∧ ∀ p ∈ found, ∃ names, Below root spot shown p names

theorem adds_lists {name : Text} {part : List Path} (proper : Path.IsName name)
    (adds : Adds root spot (shown.child name) name
      (fun there _ => Lists root there (shown.child name)) part) :
    part.Nodup ∧ ∀ p ∈ part, ∃ names, Below root spot shown p (name :: names) := by
  cases adds with
  | nothing => exact ⟨List.nodup_nil, List.forall_mem_nil _⟩
  | @file there bytes executable leads here short =>
      refine ⟨List.nodup_singleton _, List.forall_mem_singleton.mpr ⟨[], below_cons proper leads ?_⟩⟩
      refine ⟨?_, List.forall_mem_nil _, short, there, bytes, executable, .done there, here⟩
      rw [Path.append_relative, List.append_nil]
  | directory leads here inside =>
      refine ⟨inside.1, fun p member => ?_⟩
      obtain ⟨names, below⟩ := inside.2 p member
      exact ⟨names, below_cons proper leads below⟩

theorem below_entry {name other : Text} {names others : List Text} {p : Path}
    (below : Below root spot shown p (name :: names))
    (again : Below root spot shown p (other :: others)) : name = other := by
  have same := below.path.symm.trans again.path
  rw [Path.append_relative, Path.append_relative] at same
  exact (List.cons.inj (List.append_cancel_left (congrArg Path.names same))).1

theorem lists_flatten {entries : Entries} {parts : List (List Path)}
    (apart : (entries.map (·.1)).Nodup)
    (each : List.Forall₂ (fun entry part =>
      part.Nodup ∧ ∀ p ∈ part, ∃ names, Below root spot shown p (entry.1 :: names)) entries parts) :
    parts.flatten.Nodup ∧
      ∀ p ∈ parts.flatten, ∃ entry ∈ entries, ∃ names, Below root spot shown p (entry.1 :: names) := by
  induction each with
  | nil => exact ⟨List.nodup_nil, List.forall_mem_nil _⟩
  | @cons entry part entries parts here others ih =>
      obtain ⟨once, below⟩ := here
      obtain ⟨fresh, apart⟩ := List.nodup_cons.mp apart
      obtain ⟨distinct, later⟩ := ih apart
      rw [List.flatten_cons]
      constructor
      · refine List.nodup_append.mpr ⟨once, distinct, ?_⟩
        -- A path leads through one entry, and no two entries have one name.
        rintro p inside q behind rfl
        obtain ⟨names, first⟩ := below p inside
        obtain ⟨other, member, others, second⟩ := later p behind
        exact fresh (List.mem_map.mpr ⟨other, member, (below_entry first second).symm⟩)
      · intro p member
        rcases List.mem_append.mp member with inside | behind
        · exact ⟨entry, List.mem_cons_self, below p inside⟩
        · obtain ⟨other, inner, rest⟩ := later p behind
          exact ⟨other, List.mem_cons_of_mem _ inner, rest⟩

theorem walk_lists (sound : root.Sound) (here : root.at? place = some (.directory entries))
    {found : List Path} (walked : walk root filter links place shown entries = .ok found) :
    Lists root ⟨place, links⟩ shown found := by
  refine walk_rule sound (motive := fun spot shown _ found => Lists root spot shown found) ?_ here
    walked
  intro spot shown entries parts here each
  cases sound.at here with
  | directory proper apart inner =>
      obtain ⟨once, below⟩ := lists_flatten (ordered_names apart)
        (((List.forall₂_and_left _ _).mpr ⟨fun entry => mem_ordered.mp, each⟩).imp
          fun entry part made => adds_lists (proper entry made.1).toIsName made.2)
      refine ⟨once, fun p member => ?_⟩
      obtain ⟨entry, -, names, path⟩ := below p member
      exact ⟨_, path⟩

variable {files : Files} {target : Path}

/-- A document that can be read and is seen from a base by its names. -/
def Seen (files : Files) (base document : Path) : Prop :=
  (∃ names, (∀ name ∈ names, Path.IsName name) ∧ document = base ++ (⟨[], names⟩ : Path)) ∧
    ∃ bytes, files.read document = .ok bytes

theorem label_leads {base document : Path} (seen : Seen files base document) :
    base ++ Path.ofText (label document base) = document := by
  obtain ⟨⟨names, proper, path⟩, -⟩ := seen
  have below : document.relativeTo? base = some ⟨[], names⟩ := by
    apply Path.relativeTo_below
    · rw [path, Path.append_relative]
    · rw [path, Path.append_relative]
  rw [label, below, Option.getD_some, Path.ofText_toText proper, path]

theorem labelBase_at {node : FileNode} (found : files.place target = .ok spot)
    (here : files.root.at? spot.names = some node) :
    labelBase files target = .ok (if node.isFile then target.parent else target) := by
  have file : files.isFile target = .ok node.isFile := by
    rw [Files.isFile, Files.probe_at found here]
    rfl
  rw [labelBase, file]
  cases node <;> rfl

theorem parent_append (p : Path) : p.parent ++ (⟨[], p.names.getLast?.toList⟩ : Path) = p := by
  obtain ⟨root, names⟩ := p
  rw [Path.append_relative, Path.parent]
  rcases List.eq_nil_or_concat names with rfl | ⟨above, name, rfl⟩
  · rfl
  · simp

theorem place_below {there : Files.Place} {names : List Text} {p : Path}
    (found : files.place target = .ok spot) (path : p = target ++ (⟨[], names⟩ : Path))
    (short : p.toText.size ≤ Files.pathLimit) (further : Files.Leads files.root spot names there) :
    files.place p = .ok there := by
  have spelled : p.root = target.root ∧ p.names = target.names ++ names := by
    rw [path, Path.append_relative]
    exact ⟨rfl, rfl⟩
  have start : files.start p = files.start target := by
    rw [Files.start, Files.start, Files.origin, Files.origin, Path.isAbsolute, Path.isAbsolute,
      spelled.1]
  refine Files.place_ok.mpr ⟨short, ?_⟩
  rw [start, spelled.2]
  exact (Files.place_ok.mp found).2.append further

theorem find_file {bytes : List UInt8} {executable : Bool} (found : files.place target = .ok spot)
    (here : files.root.at? spot.names = some (.file bytes executable)) :
    find files filter target = .ok (some [target]) := by
  rw [find, found]
  simp only [here]

theorem find_directory (found : files.place target = .ok spot)
    (here : files.root.at? spot.names = some (.directory entries)) :
    find files filter target =
      (walk files.root filter spot.links spot.names target entries).map some := by
  rw [find, found]
  simp only [here]

theorem find_seen (filter : Filter) (sound : files.Sound)
    (rooted : ∀ c ∈ target.root, c = Path.slash)
    (proper : ∀ name ∈ target.names, Path.IsName name)
    (present : files.pathExists target = .ok true) :
    (∃ error, find files filter target = .error error ∧ TooLong files.root error) ∨
      ∃ documents base, find files filter target = .ok (some documents) ∧
        labelBase files target = .ok base ∧ documents.Nodup ∧
        ∀ document ∈ documents, Seen files base document := by
  obtain ⟨spot, node, found, here, real⟩ := Files.exists_at sound present
  have based := labelBase_at found here
  cases node with
  | link text => exact absurd trivial real
  | file bytes executable =>
      refine Or.inr ⟨[target], target.parent, find_file found here, based, List.nodup_singleton _,
        List.forall_mem_singleton.mpr ⟨⟨_, ?_, (parent_append target).symm⟩, bytes, ?_⟩⟩
      · intro name last
        exact proper name (List.mem_of_getLast? (Option.mem_toList.mp last))
      · exact Files.read_at sound rooted found here
  | directory entries =>
      rw [find_directory found here]
      cases walked : walk files.root filter spot.links spot.names target entries with
      | error error => exact Or.inl ⟨error, rfl, walk_refused sound.tree here walked⟩
      | ok documents =>
          obtain ⟨once, below⟩ := walk_lists sound.tree here walked
          refine Or.inr ⟨documents, target, rfl, based, once, fun document member => ?_⟩
          obtain ⟨names, path⟩ := below document member
          obtain ⟨there, bytes, executable, further, final⟩ := path.file
          refine ⟨⟨names, path.proper, path.path⟩, bytes, ?_⟩
          have rooted : ∀ c ∈ document.root, c = Path.slash := by
            rw [path.path, Path.append_relative]
            exact rooted
          exact Files.read_at sound rooted (place_below found path.path path.short further) final

end Document

end FenceCheck
