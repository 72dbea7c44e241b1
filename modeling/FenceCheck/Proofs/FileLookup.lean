import FenceCheck.Files.Lookup
import FenceCheck.Proofs.PathText

/-!
Lookups in a tree of files. A lookup that succeeds is followed name by name; it comes to a file or a
directory, it can be continued from there, and all its names are names that a directory can hold. The
tree holds nothing that the operating system would not take.
-/

namespace FenceCheck

/-- A code point that a path given to the operating system can hold. -/
def CodePoint.IsFormed : CodePoint → Prop
  | .char c => c ≠ '\x00'
  | .surrogate half => (Text.byteOf? half).isSome

instance : DecidablePred CodePoint.IsFormed := fun c =>
  match c with
  | .char c => inferInstanceAs (Decidable (c ≠ '\x00'))
  | .surrogate half => inferInstanceAs (Decidable ((Text.byteOf? half).isSome = true))

namespace Text

theorem bytesFrom_exists {t : Text} (formed : ∀ c ∈ t, c.IsFormed) (position : Nat) :
    ∃ bytes, bytesFrom position t = .ok bytes := by
  induction t generalizing position with
  | nil => exact ⟨[], rfl⟩
  | cons c rest ih =>
      obtain ⟨here, later⟩ := List.forall_mem_cons.mp formed
      obtain ⟨bytes, written⟩ := ih later (position + 1)
      cases c with
      | char c =>
          rw [bytesFrom, written]
          exact ⟨_, rfl⟩
      | surrogate half =>
          obtain ⟨b, byte⟩ := Option.isSome_iff_exists.mp here
          rw [bytesFrom, byte]
          simp only [written]
          exact ⟨_, rfl⟩

theorem formFault_none {t : Text} (formed : ∀ c ∈ t, c.IsFormed) : t.formFault? = none := by
  obtain ⟨bytes, written⟩ := bytesFrom_exists formed 0
  have plain : .char '\x00' ∉ t := fun member => formed _ member rfl
  rw [formFault?, Text.bytes, written]
  exact if_neg plain

end Text

namespace Path

theorem mem_toText {p : Path} {c : CodePoint} (member : c ∈ p.toText) :
    c = .char '.' ∨ c = slash ∨ c ∈ p.root ∨ ∃ name ∈ p.names, c ∈ name := by
  rw [toText] at member
  split at member
  case isTrue empty => exact Or.inl (List.mem_singleton.mp member)
  case isFalse some =>
      rcases List.mem_append.mp member with root | joined
      · exact Or.inr (Or.inr (Or.inl root))
      · rcases Text.mem_join joined with between | name
        · exact Or.inr (Or.inl (List.mem_singleton.mp between))
        · exact Or.inr (Or.inr (Or.inr name))

theorem ofText_root (t : Text) : ∀ c ∈ (ofText t).root, c = slash := by
  rw [ofText]
  dsimp only
  split <;> simp

end Path

namespace FileNode

/-- A name that a directory can hold. -/
structure IsName (name : Text) : Prop extends Path.IsName name where
  down : name ≠ [.char '.', .char '.']
  short : name.size ≤ Files.nameLimit
  formed : ∀ c ∈ name, c.IsFormed

instance (name : Text) : Decidable (IsName name) :=
  decidable_of_iff ((name ≠ [] ∧ Path.slash ∉ name ∧ name ≠ [.char '.']) ∧
      name ≠ [.char '.', .char '.'] ∧ name.size ≤ Files.nameLimit ∧ ∀ c ∈ name, c.IsFormed)
    ⟨fun held => ⟨⟨held.1.1, held.1.2.1, held.1.2.2⟩, held.2.1, held.2.2.1, held.2.2.2⟩,
      fun held => ⟨⟨held.nonempty, held.whole, held.counts⟩, held.down, held.short, held.formed⟩⟩

/-- A tree as the operating system keeps it: every directory holds proper names, each of them once. -/
inductive Sound : FileNode → Prop where
  | file (bytes : List UInt8) (executable : Bool) : Sound (.file bytes executable)
  | link (target : Text) : Sound (.link target)
  | directory {entries : Entries} (names : ∀ entry ∈ entries, IsName entry.1)
      (apart : (entries.map (·.1)).Nodup) (inner : ∀ entry ∈ entries, entry.2.Sound) :
      Sound (.directory entries)

/-- What stands in a tree itself, not somewhere else. -/
def IsLink : FileNode → Prop
  | link _ => True
  | _ => False

theorem at_append (node : FileNode) (first rest : List Text) :
    node.at? (first ++ rest) = (node.at? first).bind (·.at? rest) := by
  induction first generalizing node with
  | nil => rfl
  | cons name first ih =>
      rw [List.cons_append, at?, at?]
      cases node.entry? name with
      | none => rfl
      | some inner => exact ih inner

theorem at_entry {root : FileNode} {place : List Text} {entries : Entries}
    (here : root.at? place = some (.directory entries)) (name : Text) :
    root.at? (place ++ [name]) = entries.lookup name := by
  rw [at_append, here, Option.bind_some, at?, entry?]
  cases entries.lookup name <;> rfl

theorem at_dropLast {root : FileNode} {place : List Text} {entries : Entries}
    (here : root.at? place = some (.directory entries)) :
    ∃ around, root.at? place.dropLast = some (.directory around) := by
  rcases List.eq_nil_or_concat place with rfl | ⟨above, name, rfl⟩
  · exact ⟨entries, here⟩
  · rw [List.concat_eq_append] at here ⊢
    rw [at_append] at here
    rw [List.dropLast_concat]
    obtain ⟨node, there, entry⟩ := Option.bind_eq_some_iff.mp here
    cases node with
    | directory around => exact ⟨around, there⟩
    | file bytes executable => cases entry
    | link target => cases entry

theorem at_root {root : FileNode} {place : List Text} {entries : Entries}
    (here : root.at? place = some (.directory entries)) :
    ∃ around, root.at? [] = some (.directory around) := by
  cases root with
  | directory around => exact ⟨around, rfl⟩
  | file bytes executable => cases place <;> cases here
  | link target => cases place <;> cases here

theorem mem_of_lookup {entries : Entries} {name : Text} {node : FileNode}
    (here : entries.lookup name = some node) : (name, node) ∈ entries := by
  obtain ⟨before, after, rfl, -⟩ := List.lookup_eq_some_iff.mp here
  exact List.mem_append_right _ List.mem_cons_self

theorem lookup_of_mem {entries : Entries} (apart : (entries.map (·.1)).Nodup) {name : Text}
    {node : FileNode} (member : (name, node) ∈ entries) : entries.lookup name = some node := by
  obtain ⟨before, after, rfl⟩ := List.append_of_mem member
  refine List.lookup_eq_some_iff.mpr ⟨before, after, rfl, ?_⟩
  intro entry earlier
  rw [List.map_append, List.nodup_append] at apart
  have other := apart.2.2 entry.1 (List.mem_map_of_mem earlier) name List.mem_cons_self
  simpa using Ne.symm other

theorem Sound.at {node inner : FileNode} (sound : node.Sound) {place : List Text}
    (here : node.at? place = some inner) : inner.Sound := by
  induction place generalizing node with
  | nil =>
      cases here
      exact sound
  | cons name rest ih =>
      obtain ⟨next, entry, there⟩ := Option.bind_eq_some_iff.mp here
      cases sound with
      | file => cases entry
      | link => cases entry
      | directory names apart inner => exact ih (inner _ (mem_of_lookup entry)) there

theorem Sound.at_member {root node : FileNode} (sound : root.Sound) {place : List Text}
    {entries : Entries} (here : root.at? place = some (.directory entries)) {name : Text}
    (member : (name, node) ∈ entries) : root.at? (place ++ [name]) = some node := by
  cases sound.at here with
  | directory names apart inner => exact (at_entry here name).trans (lookup_of_mem apart member)

end FileNode

namespace Files

variable {root : FileNode}

/-- How a lookup that succeeds goes on from a place, name by name. -/
inductive Leads (root : FileNode) : Place → List Text → Place → Prop where
  | done (spot : Place) : Leads root spot [] spot
  | stay {spot last : Place} {entries : Entries} {rest : List Text}
      (here : root.at? spot.names = some (.directory entries)) (next : Leads root spot rest last) :
      Leads root spot ([.char '.'] :: rest) last
  | up {spot last : Place} {entries : Entries} {rest : List Text}
      (here : root.at? spot.names = some (.directory entries))
      (next : Leads root ⟨spot.names.dropLast, spot.links⟩ rest last) :
      Leads root spot ([.char '.', .char '.'] :: rest) last
  | entry {spot last : Place} {entries : Entries} {name : Text} {node : FileNode} {rest : List Text}
      (here : root.at? spot.names = some (.directory entries)) (counts : name ≠ [.char '.'])
      (down : name ≠ [.char '.', .char '.']) (short : name.size ≤ nameLimit)
      (held : entries.lookup name = some node) (real : ¬ node.IsLink)
      (next : Leads root ⟨spot.names ++ [name], spot.links⟩ rest last) :
      Leads root spot (name :: rest) last
  | link {place : List Text} {links : Nat} {last : Place} {entries : Entries} {name target : Text}
      {rest : List Text} (here : root.at? place = some (.directory entries))
      (counts : name ≠ [.char '.']) (down : name ≠ [.char '.', .char '.'])
      (short : name.size ≤ nameLimit) (held : entries.lookup name = some (.link target))
      (some : target.isEmpty = false)
      (next : Leads root ⟨if Text.startsWith target "/" then [] else place, links⟩
        (typedNames target ++ rest) last) :
      Leads root ⟨place, links + 1⟩ (name :: rest) last

/-- What following names from a place comes to, name by name. -/
inductive Walks (root : FileNode) (mayMiss : Bool) :
    Nat → List Text → List Text → Except FileFault Place → Prop where
  | done (links : Nat) (place : List Text) : Walks root mayMiss links place [] (.ok ⟨place, links⟩)
  | stay {links : Nat} {place rest : List Text} {entries : Entries} {result : Except FileFault Place}
      (here : root.at? place = some (.directory entries))
      (next : Walks root mayMiss links place rest result) :
      Walks root mayMiss links place ([.char '.'] :: rest) result
  | up {links : Nat} {place rest : List Text} {entries : Entries} {result : Except FileFault Place}
      (here : root.at? place = some (.directory entries))
      (next : Walks root mayMiss links place.dropLast rest result) :
      Walks root mayMiss links place ([.char '.', .char '.'] :: rest) result
  | tooLong {links : Nat} {place rest : List Text} {name : Text} (long : nameLimit < name.size) :
      Walks root mayMiss links place (name :: rest) (.error .nameTooLong)
  | vacant {links : Nat} {place : List Text} {entries : Entries} {name : Text}
      (here : root.at? place = some (.directory entries)) (counts : name ≠ [.char '.'])
      (down : name ≠ [.char '.', .char '.']) (short : name.size ≤ nameLimit)
      (absent : entries.lookup name = none) (missing : mayMiss = true) :
      Walks root mayMiss links place [name] (.ok ⟨place ++ [name], links⟩)
  | entry {links : Nat} {place rest : List Text} {entries : Entries} {name : Text} {node : FileNode}
      {result : Except FileFault Place}
      (here : root.at? place = some (.directory entries)) (counts : name ≠ [.char '.'])
      (down : name ≠ [.char '.', .char '.']) (short : name.size ≤ nameLimit)
      (held : entries.lookup name = some node) (real : ¬ node.IsLink)
      (next : Walks root mayMiss links (place ++ [name]) rest result) :
      Walks root mayMiss links place (name :: rest) result
  | link {links : Nat} {place rest : List Text} {entries : Entries} {name target : Text}
      {result : Except FileFault Place}
      (here : root.at? place = some (.directory entries)) (counts : name ≠ [.char '.'])
      (down : name ≠ [.char '.', .char '.']) (short : name.size ≤ nameLimit)
      (held : entries.lookup name = some (.link target)) (some : target.isEmpty = false)
      (next : Walks root mayMiss links (if Text.startsWith target "/" then [] else place)
        (typedNames target ++ rest) result) :
      Walks root mayMiss (links + 1) place (name :: rest) result
  | lost {links : Nat} {place names : List Text} {fault : FileFault} (other : fault ≠ .nameTooLong) :
      Walks root mayMiss links place names (.error fault)

theorem walkNames_walks {mayMiss : Bool} {links : Nat}
    {onward : List Text → Text → List Text → Except FileFault Place}
    (further : ∀ {place rest : List Text} {entries : Entries} {name target : Text},
      root.at? place = some (.directory entries) → name ≠ [.char '.'] →
      name ≠ [.char '.', .char '.'] → name.size ≤ nameLimit →
      entries.lookup name = some (.link target) →
        Walks root mayMiss links place (name :: rest) (onward place target rest))
    (place names : List Text) :
    Walks root mayMiss links place names (walkNames root mayMiss links onward place names) := by
  fun_induction walkNames root mayMiss links onward place names with
  | case1 place => exact .done links place
  | case2 place rest entries here ih => exact .stay here ih
  | case3 place rest entries here counts ih => exact .up here ih
  | case4 place name rest entries here counts down long => exact .tooLong long
  | case5 place name rest entries here counts down short absent missing =>
      obtain ⟨mayMiss, last⟩ := Bool.and_eq_true_iff.mp missing
      obtain rfl : rest = [] := List.isEmpty_iff.mp last
      exact .vacant here counts down (Nat.le_of_not_lt short) absent mayMiss
  | case7 place name rest entries here counts down short target held =>
      exact further here counts down (Nat.le_of_not_lt short) held
  | case8 place name rest entries here counts down short node real held ih =>
      refine .entry here counts down (Nat.le_of_not_lt short) held ?_ ih
      cases node with
      | link target => exact fun _ => real target rfl
      | file bytes executable => exact id
      | directory inner => exact id
  | _ => exact .lost nofun

theorem walk_walks {mayMiss : Bool} (links : Nat) (place names : List Text) :
    Walks root mayMiss links place names (walk root mayMiss links place names) := by
  induction links generalizing place names with
  | zero =>
      rw [walk]
      exact walkNames_walks (fun _ _ _ _ _ => .lost (show FileFault.linkLoop ≠ _ from nofun)) place
        names
  | succ links ih =>
      rw [walk]
      refine walkNames_walks (fun here counts down short held => ?_) place names
      dsimp only
      split
      case isTrue none => exact .lost nofun
      case isFalse some =>
          exact .link here counts down short held (Bool.not_eq_true _ ▸ some) (ih _ _)

theorem Walks.leads {links : Nat} {place names : List Text} {result : Except FileFault Place}
    {last : Place} (walks : Walks root false links place names result) (found : result = .ok last) :
    Leads root ⟨place, links⟩ names last := by
  induction walks with
  | done links place =>
      cases found
      exact .done _
  | stay here next ih => exact .stay here (ih found)
  | up here next ih => exact .up here (ih found)
  | tooLong => cases found
  | vacant here counts down short absent missing => cases missing
  | entry here counts down short held real next ih =>
      exact .entry here counts down short held real (ih found)
  | link here counts down short held some next ih =>
      exact .link here counts down short held some (ih found)
  | lost => cases found

theorem leads_of_walk {links : Nat} {place names : List Text} {last : Place}
    (walked : walk root false links place names = .ok last) : Leads root ⟨place, links⟩ names last :=
  (walk_walks links place names).leads walked

theorem walk_of_leads {first last : Place} {names : List Text} (leads : Leads root first names last) :
    walk root false first.links first.names names = .ok last := by
  induction leads with
  | done => rw [walk, walkNames]
  | stay here next ih =>
      rw [walk] at ih ⊢
      rw [walkNames, here]
      exact ih
  | up here next ih =>
      rw [walk] at ih ⊢
      rw [walkNames, here]
      exact ih
  | @entry spot last entries name node rest here counts down short held real next ih =>
      rw [walk] at ih ⊢
      rw [walkNames, here]
      simp only [if_neg counts, if_neg down, if_neg (Nat.not_lt.mpr short), held]
      cases node with
      | link target => exact absurd trivial real
      | file bytes executable => exact ih
      | directory inner => exact ih
  | link here counts down short held some next ih =>
      rw [walk, walkNames, here]
      simp only [if_neg counts, if_neg down, if_neg (Nat.not_lt.mpr short), held]
      rw [if_neg (by simp [some])]
      exact ih

namespace Leads

variable {first last : Place} {names : List Text}

theorem append {middle : Place} {rest : List Text} (leads : Leads root first names middle)
    (further : Leads root middle rest last) : Leads root first (names ++ rest) last := by
  induction leads with
  | done => exact further
  | stay here next ih => exact .stay here (ih further)
  | up here next ih => exact .up here (ih further)
  | entry here counts down short held real next ih =>
      exact .entry here counts down short held real (ih further)
  | link here counts down short held some next ih =>
      have later := ih further
      rw [List.append_assoc] at later
      exact .link here counts down short held some later

theorem ends_real (leads : Leads root first names last) {node : FileNode}
    (here : root.at? first.names = some node) (real : ¬ node.IsLink) :
    ∃ final, root.at? last.names = some final ∧ ¬ final.IsLink := by
  induction leads generalizing node with
  | done => exact ⟨node, here, real⟩
  | stay there next ih => exact ih here real
  | up there next ih =>
      obtain ⟨around, above⟩ := FileNode.at_dropLast there
      exact ih above id
  | entry there counts down short held whole next ih =>
      exact ih ((FileNode.at_entry there _).trans held) whole
  | link there counts down short held some next ih =>
      split at next
      case isTrue absolute =>
          obtain ⟨around, above⟩ := FileNode.at_root there
          exact ih (by rw [if_pos absolute]; exact above) id
      case isFalse relative => exact ih (by rw [if_neg relative]; exact there) id

theorem formed (leads : Leads root first names last) (sound : root.Sound) :
    ∀ name ∈ names, ∀ c ∈ name, c.IsFormed := by
  have held_formed {place : List Text} {entries : Entries} {name : Text} {node : FileNode}
      (here : root.at? place = some (.directory entries))
      (held : entries.lookup name = some node) : ∀ c ∈ name, c.IsFormed := by
    cases sound.at here with
    | directory proper apart inner => exact (proper _ (FileNode.mem_of_lookup held)).formed
  induction leads with
  | done => exact List.forall_mem_nil _
  | stay here next ih => exact List.forall_mem_cons.mpr ⟨by decide, ih⟩
  | up here next ih => exact List.forall_mem_cons.mpr ⟨by decide, ih⟩
  | entry here counts down short held real next ih =>
      exact List.forall_mem_cons.mpr ⟨held_formed here held, ih⟩
  | link here counts down short held some next ih =>
      exact List.forall_mem_cons.mpr
        ⟨held_formed here held, fun name member => ih name (List.mem_append_right _ member)⟩

theorem unique {other : Place} (leads : Leads root first names last)
    (again : Leads root first names other) : last = other :=
  Except.ok.inj ((walk_of_leads leads).symm.trans (walk_of_leads again))

theorem links_le (leads : Leads root first names last) : last.links ≤ first.links := by
  induction leads with
  | done => exact Nat.le_refl _
  | stay here next ih => exact ih
  | up here next ih => exact ih
  | entry here counts down short held real next ih => exact ih
  | link here counts down short held some next ih => exact Nat.le_succ_of_le ih

end Leads

theorem leads_entry {place : Place} {entries : Entries} {name : Text} {node : FileNode}
    (sound : root.Sound) (here : root.at? place.names = some (.directory entries))
    (member : (name, node) ∈ entries) (real : ¬ node.IsLink) :
    Leads root place [name] ⟨place.names ++ [name], place.links⟩ := by
  cases sound.at here with
  | directory names apart inner =>
      have proper := names _ member
      exact .entry here proper.counts proper.down proper.short (FileNode.lookup_of_mem apart member)
        real (.done _)

theorem Leads.of_entry {spot there : Place} {entries : Entries} {name : Text} {node : FileNode}
    (sound : root.Sound) (here : root.at? spot.names = some (.directory entries))
    (member : (name, node) ∈ entries) (leads : Leads root spot [name] there) :
    (¬ node.IsLink ∧ there = ⟨spot.names ++ [name], spot.links⟩) ∨
      (node.IsLink ∧ there.links < spot.links) := by
  cases node with
  | file bytes executable => exact Or.inl ⟨id, leads.unique (leads_entry sound here member id)⟩
  | directory inner => exact Or.inl ⟨id, leads.unique (leads_entry sound here member id)⟩
  | link target =>
      refine Or.inr ⟨trivial, ?_⟩
      cases sound.at here with
      | directory names apart inner =>
          have proper := names _ member
          cases leads with
          | stay => exact absurd rfl proper.counts
          | up => exact absurd rfl proper.down
          | entry again counts down short held real next =>
              cases here.symm.trans again
              cases (FileNode.lookup_of_mem apart member).symm.trans held
              exact absurd trivial real
          | link again counts down short held some next => exact Nat.lt_succ_of_le next.links_le

/-- Some link in the tree leads over a name that is too long. -/
def Overlong (root : FileNode) : Prop :=
  ∃ place target, root.at? place = some (.link target) ∧
    ∃ name ∈ typedNames target, nameLimit < name.size

theorem Walks.overlong {mayMiss : Bool} {links : Nat} {place names : List Text}
    {result : Except FileFault Place} (walks : Walks root mayMiss links place names result)
    (refused : result = .error .nameTooLong) :
    (∃ name ∈ names, nameLimit < name.size) ∨ Overlong root := by
  have later {name : Text} {rest : List Text}
      (met : (∃ other ∈ rest, nameLimit < other.size) ∨ Overlong root) :
      (∃ other ∈ name :: rest, nameLimit < other.size) ∨ Overlong root := by
    refine met.imp_left ?_
    rintro ⟨other, member, long⟩
    exact ⟨other, List.mem_cons_of_mem _ member, long⟩
  induction walks with
  | done => cases refused
  | stay here next ih => exact later (ih refused)
  | up here next ih => exact later (ih refused)
  | tooLong long => exact Or.inl ⟨_, List.mem_cons_self, long⟩
  | vacant => cases refused
  | entry here counts down short held real next ih => exact later (ih refused)
  -- The names of a link are walked in front of the rest, so a long one is in the tree or in the
  -- rest.
  | link here counts down short held some next ih =>
      rcases ih refused with ⟨other, member, long⟩ | overlong
      · rcases List.mem_append.mp member with inside | behind
        · exact Or.inr ⟨_, _, (FileNode.at_entry here _).trans held, other, inside, long⟩
        · exact later (Or.inl ⟨other, behind, long⟩)
      · exact Or.inr overlong
  | lost other =>
      cases refused
      exact absurd rfl other

theorem walk_tooLong {links : Nat} {place names : List Text}
    (refused : walk root false links place names = .error .nameTooLong) :
    (∃ name ∈ names, nameLimit < name.size) ∨ Overlong root :=
  (walk_walks links place names).overlong refused

/-- A tree as the operating system keeps it, with the working directory in it. -/
structure Sound (files : Files) : Prop where
  tree : files.root.Sound
  stands : ∃ entries, files.root.at? files.cwd = some (.directory entries)

variable {files : Files} {p : Path} {spot : Place}

theorem origin_directory (sound : files.Sound) (p : Path) :
    ∃ entries, files.root.at? (files.origin p) = some (.directory entries) := by
  obtain ⟨entries, stands⟩ := sound.stands
  rw [origin]
  split
  · exact FileNode.at_root stands
  · exact ⟨entries, stands⟩

def start (files : Files) (p : Path) : Place := ⟨files.origin p, linkLimit⟩

theorem place_ok : files.place p = .ok spot ↔
    p.toText.size ≤ pathLimit ∧ Leads files.root (files.start p) p.names spot := by
  rw [place]
  split
  case isTrue long =>
      constructor
      · intro refused
        cases refused
      · intro found
        exact absurd long (Nat.not_lt.mpr found.1)
  case isFalse short =>
      constructor
      · intro walked
        exact ⟨Nat.le_of_not_lt short, leads_of_walk walked⟩
      · intro found
        exact walk_of_leads found.2

theorem find_at {node : FileNode} (found : files.place p = .ok spot)
    (here : files.root.at? spot.names = some node) : files.find p = .ok node := by
  rw [find, found, nodeAt]
  simp only [here]

theorem probe_at {node : FileNode} (found : files.place p = .ok spot)
    (here : files.root.at? spot.names = some node) : files.probe p = .ok (some node) := by
  rw [probe, find_at found here]

theorem exists_at (sound : files.Sound) (present : files.pathExists p = .ok true) :
    ∃ spot node, files.place p = .ok spot ∧ files.root.at? spot.names = some node ∧
      ¬ node.IsLink := by
  cases found : files.place p with
  | error fault =>
      have lost : files.find p = .error fault := by
        rw [find, found]
        rfl
      rw [pathExists, probe, lost] at present
      cases fault <;> cases present
  | ok spot =>
      obtain ⟨entries, start⟩ := origin_directory sound p
      obtain ⟨node, here, real⟩ := (place_ok.mp found).2.ends_real start id
      exact ⟨spot, node, rfl, here, real⟩

theorem read_at (sound : files.Sound) {bytes : List UInt8} {executable : Bool}
    (rooted : ∀ c ∈ p.root, c = Path.slash) (found : files.place p = .ok spot)
    (here : files.root.at? spot.names = some (.file bytes executable)) :
    files.read p = .ok bytes := by
  have plain : p.toText.formFault? = none := by
    apply Text.formFault_none
    intro c member
    rcases Path.mem_toText member with rfl | rfl | root | ⟨name, inside, letter⟩
    · decide
    · decide
    · rw [rooted c root]
      decide
    · exact (place_ok.mp found).2.formed sound.tree name inside c letter
  rw [read, formed, plain, find_at found here]
  rfl

end Files

end FenceCheck
