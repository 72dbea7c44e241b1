import FenceCheck.Files.Content
import FenceCheck.Proofs.FileLookup
import FenceCheck.Proofs.Fallible

/-!
Writing files. What stands elsewhere in the tree stays as it was, so the path that a file was written
under leads to it afterwards, through the same links, and what was written is read there.
-/

namespace FenceCheck

namespace FileNode

variable {root node held : FileNode} {target place : List Text} {entries : Entries}

theorem lookup_pair (entry : Text × FileNode) (entries : Entries) (name : Text) :
    List.lookup name (entry :: entries) =
      if name = entry.1 then some entry.2 else entries.lookup name := by
  rw [List.lookup_cons]
  by_cases same : name = entry.1
  · rw [beq_iff_eq.mpr same, if_pos same]
  · rw [beq_eq_false_iff_ne.mpr same, if_neg same]

theorem lookup_setEntry (entries : Entries) (name other : Text) (node : FileNode) :
    (setEntry entries name node).lookup other =
      if other = name then some node else entries.lookup other := by
  induction entries with
  | nil => exact lookup_pair (name, node) [] other
  | cons entry entries ih =>
      rw [setEntry]
      split
      case isTrue same =>
          rw [lookup_pair, lookup_pair, same]
          split <;> rfl
      case isFalse apart =>
          rw [lookup_pair, lookup_pair, ih]
          by_cases here : other = entry.1
          · rw [if_pos here, if_pos here, if_neg (fun same => apart (here.symm.trans same))]
          · rw [if_neg here, if_neg here]

theorem entry_put (root : FileNode) (name other : Text) (target : List Text) (node : FileNode) :
    entry? (root.put (name :: target) node) other =
      if other = name then some (((root.entry? name).getD (.directory [])).put target node)
      else root.entry? other := by
  cases root with
  | directory entries => exact lookup_setEntry entries name other _
  | file => exact lookup_pair (name, _) [] other
  | link => exact lookup_pair (name, _) [] other

theorem at_put_self (root : FileNode) (target : List Text) (node : FileNode) :
    (root.put target node).at? target = some node := by
  induction target generalizing root with
  | nil => rw [put, at?]
  | cons name target ih => rw [at?, entry_put, if_pos rfl, Option.bind_some, ih]

theorem at_put_apart (above : ¬ place <+: target) (below : ¬ target <+: place) :
    (root.put target node).at? place = root.at? place := by
  induction target generalizing root place with
  | nil => exact absurd List.nil_prefix below
  | cons name target ih =>
      cases place with
      | nil => exact absurd List.nil_prefix above
      | cons first place =>
          rw [List.cons_prefix_cons, not_and] at above below
          rw [at?, at?, entry_put]
          split
          case isFalse other => rfl
          case isTrue same =>
              subst same
              rw [Option.bind_some, ih (above rfl) (below rfl)]
              cases root.entry? first with
              | some inner => rfl
              | none =>
                  cases place with
                  | nil => exact absurd List.nil_prefix (above rfl)
                  | cons next place => rfl

theorem directory_of_at {name : Text} {rest : List Text} (there : node.at? (name :: rest) = some held) :
    ∃ entries, node = .directory entries := by
  cases node with
  | directory entries => exact ⟨entries, rfl⟩
  | file => cases there
  | link => cases there

/-- A place where a file can be put: the directory that it belongs to is there, and nothing but another
file stands in its place. -/
structure Vacant (root : FileNode) (target : List Text) : Prop where
  below : target ≠ []
  above : ∃ entries, root.at? target.dropLast = some (.directory entries)
  free : ∀ held, root.at? target = some held → held.isFile = true

theorem Vacant.directory (vacant : Vacant root target) (above : place <+: target)
    (other : place ≠ target) : ∃ entries, root.at? place = some (.directory entries) := by
  obtain ⟨rest, rfl⟩ := above
  obtain ⟨entries, above⟩ := vacant.above
  have some : rest ≠ [] := fun none => other (by rw [none, List.append_nil])
  rw [List.dropLast_append_of_ne_nil some, at_append] at above
  obtain ⟨middle, here, there⟩ := Option.bind_eq_some_iff.mp above
  cases last : rest.dropLast with
  | nil =>
      rw [last, at?] at there
      cases there
      exact ⟨entries, here⟩
  | cons name rest =>
      rw [last] at there
      obtain ⟨inner, rfl⟩ := directory_of_at there
      exact ⟨inner, here⟩

theorem Vacant.kept (vacant : Vacant root target) (other : place ≠ target)
    (here : root.at? place = some held) (node : FileNode) :
    ∃ after, (root.put target node).at? place = some after ∧
      (after = held ∨ (∃ entries, held = .directory entries) ∧ ∃ entries, after = .directory entries) := by
  -- A place above the target stays a directory, one below it was never there, any other keeps its
  -- node.
  by_cases above : place <+: target
  · obtain ⟨entries, directory⟩ := vacant.directory above other
    cases here.symm.trans directory
    have stored := at_put_self root target node
    obtain ⟨rest, rfl⟩ := above
    rw [at_append] at stored
    obtain ⟨middle, found, there⟩ := Option.bind_eq_some_iff.mp stored
    cases rest with
    | nil => exact absurd (List.append_nil place).symm other
    | cons name rest => exact ⟨middle, found, Or.inr ⟨⟨entries, rfl⟩, directory_of_at there⟩⟩
  · by_cases below : target <+: place
    · obtain ⟨rest, rfl⟩ := below
      rw [at_append] at here
      obtain ⟨middle, stored, there⟩ := Option.bind_eq_some_iff.mp here
      have file := vacant.free middle stored
      cases rest with
      | nil => exact absurd (List.append_nil target) other
      | cons name rest =>
          obtain ⟨inner, rfl⟩ := directory_of_at there
          cases file
    · exact ⟨held, (at_put_apart above below).trans here, Or.inl rfl⟩

theorem Vacant.kept_directory (vacant : Vacant root target)
    (here : root.at? place = some (.directory entries)) (node : FileNode) :
    ∃ others, (root.put target node).at? place = some (.directory others) := by
  have other : place ≠ target := by
    rintro rfl
    cases vacant.free _ here
  obtain ⟨after, found, rfl | ⟨-, others, rfl⟩⟩ := vacant.kept other here node
  · exact ⟨entries, found⟩
  · exact ⟨others, found⟩

theorem vacant_entry {name : Text} (here : root.at? place = some (.directory entries))
    (free : ∀ held, entries.lookup name = some held → held.isFile = true) :
    Vacant root (place ++ [name]) where
  below := List.append_ne_nil_of_right_ne_nil _ (List.cons_ne_nil _ _)
  above := ⟨entries, by rwa [List.dropLast_concat]⟩
  free held there := free held ((at_entry here name).symm.trans there)

end FileNode

namespace Files

open FileNode

variable {root node : FileNode} {entries : Entries}

theorem Walks.lands {mayMiss : Bool} {links : Nat} {place names : List Text}
    {result : Except FileFault Place} {last : Place}
    (walks : Walks root mayMiss links place names result) (walked : result = .ok last)
    (stands : (∃ entries, root.at? place = some (.directory entries)) ∨ Vacant root place) :
    (∃ entries, root.at? last.names = some (.directory entries)) ∨ Vacant root last.names := by
  induction walks with
  | done =>
      cases walked
      exact stands
  | stay here next ih => exact ih walked stands
  | up here next ih => exact ih walked (.inl (at_dropLast here))
  | tooLong => cases walked
  | vacant here counts down short absent missing =>
      cases walked
      exact .inr (vacant_entry here fun held there => by rw [absent] at there; cases there)
  | @entry links place rest entries name node result here counts down short held real next ih =>
      refine ih walked ?_
      cases node with
      | link target => exact absurd trivial real
      | file bytes executable =>
          refine .inr (vacant_entry here fun other there => ?_)
          cases held.symm.trans there
          rfl
      | directory inner => exact .inl ⟨inner, (at_entry here name).trans held⟩
  | link here counts down short held some next ih =>
      refine ih walked ?_
      split
      · exact .inl (at_root here)
      · exact stands
  | lost => cases walked

theorem Walks.leads_put {mayMiss : Bool} {links : Nat} {place names : List Text}
    {result : Except FileFault Place} {last : Place}
    (walks : Walks root mayMiss links place names result) (walked : result = .ok last)
    (vacant : Vacant root last.names) (real : ¬ node.IsLink) :
    Leads (root.put last.names node) ⟨place, links⟩ names last := by
  induction walks with
  | done =>
      cases walked
      exact .done _
  | stay here next ih =>
      obtain ⟨others, there⟩ := vacant.kept_directory here node
      exact .stay there (ih walked)
  | up here next ih =>
      obtain ⟨others, there⟩ := vacant.kept_directory here node
      exact .up there (ih walked)
  | tooLong => cases walked
  | vacant here counts down short absent missing =>
      cases walked
      obtain ⟨others, there⟩ := vacant.kept_directory here node
      exact .entry there counts down short
        ((at_entry there _).symm.trans (at_put_self root _ node)) real (.done _)
  | @entry links place rest entries name inner result here counts down short held whole next ih =>
      obtain ⟨others, there⟩ := vacant.kept_directory here node
      obtain ⟨after, found, tree⟩ : ∃ after, (root.put last.names node).at? (place ++ [name]) =
          some after ∧ ¬ after.IsLink := by
        by_cases same : place ++ [name] = last.names
        · exact ⟨node, same ▸ at_put_self root _ node, real⟩
        · obtain ⟨after, found, rfl | ⟨-, inner, rfl⟩⟩ :=
            vacant.kept same ((at_entry here name).trans held) node
          · exact ⟨after, found, whole⟩
          · exact ⟨_, found, id⟩
      exact .entry there counts down short ((at_entry there name).symm.trans found) tree (ih walked)
  | @link links place rest entries name target result here counts down short held some next ih =>
      obtain ⟨others, there⟩ := vacant.kept_directory here node
      refine .link there counts down short ?_ some (ih walked)
      have link := (at_entry here name).trans held
      -- The link itself is not where the text is put, as nothing but a file stands there.
      have other : place ++ [name] ≠ last.names := by
        intro same
        cases vacant.free _ (same ▸ link)
      obtain ⟨after, found, rfl | ⟨⟨inner, wrong⟩, -⟩⟩ := vacant.kept other link node
      · exact (at_entry there name).symm.trans found
      · cases wrong
  | lost => cases walked

variable {files after : Files} {p : Path} {bytes : List UInt8}

/-- The working directory is there. -/
def Stands (files : Files) : Prop := ∃ entries, files.root.at? files.cwd = some (.directory entries)

theorem Stands.origin (stands : files.Stands) (p : Path) :
    ∃ entries, files.root.at? (files.origin p) = some (.directory entries) := by
  obtain ⟨entries, here⟩ := stands
  rw [Files.origin]
  split
  · exact at_root here
  · exact ⟨entries, here⟩

theorem put_ok {names : List Text} (put : files.put names bytes = .ok after) :
    (∀ entries, files.root.at? names ≠ some (.directory entries)) ∧
      ∃ executable, after = { files with root := files.root.put names (.file bytes executable) } := by
  unfold Files.put at put
  split at put
  case h_1 => cases put
  case h_2 content executable here =>
      refine ⟨fun entries there => ?_, _, (Except.ok.inj put).symm⟩
      cases here.symm.trans there
  case h_3 directory _ => exact ⟨directory, _, (Except.ok.inj put).symm⟩

theorem read_write (stands : files.Stands) (written : files.write p bytes = .ok after) :
    after.read p = .ok bytes := by
  obtain ⟨⟨⟩, plain, told⟩ := Except.bind_ok.mp written
  obtain ⟨⟨⟩, plain, told⟩ := Except.bind_ok.mp written
  have stored := Except.mapError_ok.mp told
  split at stored
  case isTrue long => cases stored
  case isFalse short =>
      obtain ⟨spot, walked, put⟩ := Except.bind_ok.mp stored
      obtain ⟨free, executable, rfl⟩ := put_ok put
      have vacant : Vacant files.root spot.names :=
        ((walk_walks _ _ _).lands walked (.inl (stands.origin p))).resolve_left
          fun ⟨entries, here⟩ => free entries here
      have leads : Leads (files.root.put spot.names (.file bytes executable)) (files.start p) p.names
          spot := (walk_walks _ _ _).leads_put walked vacant id
      have found : ({ files with root := files.root.put spot.names (.file bytes executable) } :
          Files).place p = .ok spot := place_ok.mpr ⟨Nat.le_of_not_lt short, leads⟩
      rw [read, plain, find_at found (at_put_self _ _ _)]
      rfl

theorem makeDirectory_ok (made : files.makeDirectory p = .ok after) :
    ∃ names, Vacant files.root names ∧
      after = { files with root := files.root.put names (.directory []) } := by
  revert made
  fun_cases files.makeDirectory p with
  | case7 name last short spot walked entries here down fits none =>
      intro made
      refine ⟨_, vacant_entry here fun held there => ?_, (Except.ok.inj made).symm⟩
      exact absurd (Option.isSome_of_eq_some there) none
  | _ => exact nofun

theorem makeDirectory_stands (stands : files.Stands) (made : files.makeDirectory p = .ok after) :
    after.Stands := by
  obtain ⟨names, vacant, rfl⟩ := makeDirectory_ok made
  obtain ⟨entries, here⟩ := stands
  exact vacant.kept_directory here _

theorem asked_ok (test : Bool → Bool) {asked : Except FileError Bool} {refusal : FileError}
    (done : (do if test (← asked) then return files else throw refusal) = .ok after) :
    after = files := by
  obtain ⟨answer, -, done⟩ := Except.bind_ok.mp done
  split at done
  · exact (Except.ok.inj done).symm
  · cases done

theorem makeDirectories_stands {depth : Nat} (stands : files.Stands)
    (made : files.makeDirectories p depth = .ok after) : after.Stands := by
  induction depth generalizing files p after with
  | zero => cases made
  | succ depth ih =>
      obtain ⟨⟨⟩, -, tried⟩ := Except.bind_ok.mp made
      cases outcome : files.makeDirectory p with
      | ok others =>
          rw [outcome] at tried
          cases tried
          exact makeDirectory_stands stands outcome
      | error fault =>
          rw [outcome] at tried
          by_cases missing : fault = .missing
          · subst missing
            simp only at tried
            split at tried
            · cases tried
            · obtain ⟨around, above, tried⟩ := Except.bind_ok.mp tried
              have there := ih stands above
              cases again : around.makeDirectory p with
              | ok others =>
                  rw [again] at tried
                  cases tried
                  exact makeDirectory_stands there again
              | error fault =>
                  rw [again] at tried
                  obtain rfl := asked_ok (fun answer => decide (fault ≠ .missing) && answer) tried
                  exact there
          · have kept : after = files := by
              cases fault <;> first | contradiction | exact asked_ok id tried
            exact kept ▸ stands

theorem store_cases (stands : files.Stands) (p : Path) (t : Text) :
    (∃ error, (files.store p t).2 = .error (.file error)) ∨
      (files.store p t).1.read p = .ok ((Utf8.encode t).toOption.getD []) ∧
        (files.store p t).2 = ((Utf8.encode t).mapError .unwritable).map fun _ => () := by
  rw [store]
  cases made : files.makeDirectories p.parent (p.parent.names.length + 1) with
  | error error => exact .inl ⟨error, rfl⟩
  | ok files =>
      simp only
      cases written : files.write p ((Utf8.encode t).toOption.getD []) with
      | error error => exact .inl ⟨error, rfl⟩
      | ok files => exact .inr ⟨read_write (makeDirectories_stands stands made) written, rfl⟩

end Files

end FenceCheck
