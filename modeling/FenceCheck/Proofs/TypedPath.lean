import FenceCheck.Proofs.FileLookup

/-!
Paths as they are typed. An absolute one leads to the same place from every working directory. A path
drops the single dots of what was typed, and a slash at its end; where the typed names lead anywhere, the
path leads there too, and the text of an absolute path is typed as the path itself.
-/

namespace FenceCheck

namespace Text

/-- Whether a text begins at the root. -/
def IsRooted (t : Text) : Prop := startsWith t "/" = true

theorem isRooted_iff {t : Text} : IsRooted t ↔ t.head? = some Path.slash := by
  have mark : ofString "/" = [Path.slash] := rfl
  rw [IsRooted, startsWith, List.isPrefixOf_iff_prefix, mark]
  cases t with
  | nil => simp
  | cons c t => simp [List.cons_prefix_cons, eq_comm]

theorem IsRooted.slash {t : Text} (rooted : IsRooted t) : Path.slash ∈ t :=
  List.mem_of_head? (isRooted_iff.mp rooted)

end Text

namespace Path

theorem ofText_isAbsolute (t : Text) : (ofText t).isAbsolute = Text.startsWith t "/" := by
  rw [Bool.eq_iff_iff, ← Text.IsRooted, Text.isRooted_iff]
  cases t with
  | nil => simp [ofText, isAbsolute, leadingSlashes]
  | cons c t =>
      by_cases first : c = slash
      · have some : leadingSlashes (c :: t) ≠ 0 := by simp [leadingSlashes, first]
        simp only [ofText, isAbsolute, List.head?_cons, first]
        split <;> simp_all
      · simp [ofText, isAbsolute, leadingSlashes, first]

end Path

namespace Files

variable {root : FileNode} {files inside : Files} {t : Text} {spot : Place}

def typedStart (files : Files) (t : Text) : Place :=
  ⟨if Text.startsWith t "/" then [] else files.cwd, linkLimit⟩

theorem placeTyped_ok : files.placeTyped false t = .ok spot ↔
    t ≠ [] ∧ t.size ≤ pathLimit ∧ Leads files.root (files.typedStart t) (typedNames t) spot := by
  unfold placeTyped
  split
  case isTrue empty => simp [List.isEmpty_iff.mp empty]
  case isFalse some =>
      have some : t ≠ [] := by simpa using some
      split
      case isTrue long => simp [Nat.not_le.mpr long]
      case isFalse short =>
          simp only [ne_eq, some, not_false_eq_true, Nat.le_of_not_lt short, true_and]
          exact ⟨leads_of_walk, walk_of_leads⟩

theorem placeTyped_rooted (same : inside.root = files.root) (rooted : Text.IsRooted t)
    (mayMiss : Bool) : inside.placeTyped mayMiss t = files.placeTyped mayMiss t := by
  rw [Text.IsRooted] at rooted
  simp only [placeTyped, rooted, same, if_true]

theorem isProgram_rooted (same : inside.root = files.root) (rooted : Text.IsRooted t) :
    inside.isProgram t = files.isProgram t := by
  have found : inside.findTyped t = files.findTyped t := by
    rw [findTyped, findTyped, placeTyped_rooted same rooted]
    unfold nodeAt
    rw [same]
  rw [isProgram, isProgram, found]

theorem Leads.undotted {first last : Place} {names : List Text} (leads : Leads root first names last) :
    Leads root first (names.filter (· ≠ [.char '.'])) last := by
  -- A link puts the names of its target in front, so the claim is about what stands behind others.
  have behind (front rest : List Text) (split : names = front ++ rest) :
      Leads root first (front ++ rest.filter (· ≠ [.char '.'])) last := by
    induction leads generalizing front rest with
    | done =>
        obtain ⟨rfl, rfl⟩ := List.append_eq_nil_iff.mp split.symm
        exact .done _
    | stay here next ih =>
        rcases List.cons_eq_append_iff.mp split with ⟨rfl, rfl⟩ | ⟨front, rfl, rfl⟩
        · rw [List.nil_append, List.filter_cons_of_neg (by decide)]
          exact ih [] _ rfl
        · exact .stay here (ih front rest rfl)
    | up here next ih =>
        rcases List.cons_eq_append_iff.mp split with ⟨rfl, rfl⟩ | ⟨front, rfl, rfl⟩
        · rw [List.nil_append, List.filter_cons_of_pos (by decide)]
          exact .up here (ih [] _ rfl)
        · exact .up here (ih front rest rfl)
    | entry here counts down short held real next ih =>
        rcases List.cons_eq_append_iff.mp split with ⟨rfl, rfl⟩ | ⟨front, rfl, rfl⟩
        · rw [List.nil_append, List.filter_cons_of_pos (by simpa using counts)]
          exact .entry here counts down short held real (ih [] _ rfl)
        · exact .entry here counts down short held real (ih front rest rfl)
    | @link place links last entries name target others here counts down short held some next ih =>
        rcases List.cons_eq_append_iff.mp split with ⟨rfl, rfl⟩ | ⟨front, rfl, rfl⟩
        · rw [List.nil_append, List.filter_cons_of_pos (by simpa using counts)]
          exact .link here counts down short held some (ih (typedNames target) _ rfl)
        · refine .link here counts down short held some ?_
          have later := ih (typedNames target ++ front) rest (List.append_assoc ..).symm
          rwa [List.append_assoc] at later
  exact behind [] names rfl

theorem typedNames_undotted (t : Text) :
    (typedNames t).filter (· ≠ [.char '.']) = (Path.ofText t).names := by
  have plain : ((Text.splitAt Path.slash t).filter (!·.isEmpty)).filter (· ≠ [.char '.']) =
      (Path.ofText t).names := by
    rw [List.filter_filter]
    exact List.filter_congr fun name _ => Bool.and_comm _ _
  unfold typedNames
  split
  · rw [List.filter_append, plain]
    exact List.append_nil _
  · exact plain

theorem place_ofText {there : Place} (found : files.place (Path.ofText t) = .ok spot)
    (typed : files.placeTyped false t = .ok there) : there = spot := by
  have leads := (placeTyped_ok.mp typed).2.2.undotted
  have start : files.typedStart t = files.start (Path.ofText t) := by
    rw [typedStart, Files.start, origin, Path.ofText_isAbsolute]
  rw [typedNames_undotted, start] at leads
  exact leads.unique (place_ok.mp found).2

theorem Leads.whole {first last : Place} {names : List Text} (leads : Leads root first names last)
    (sound : root.Sound) : ∀ name ∈ names, name ≠ [] ∧ Path.slash ∉ name := by
  have held_whole {place : List Text} {entries : Entries} {name : Text} {node : FileNode}
      (here : root.at? place = some (.directory entries)) (held : entries.lookup name = some node) :
      name ≠ [] ∧ Path.slash ∉ name := by
    cases sound.at here with
    | directory proper apart inner =>
        have proper := proper _ (FileNode.mem_of_lookup held)
        exact ⟨proper.nonempty, proper.whole⟩
  induction leads with
  | done => exact List.forall_mem_nil _
  | stay here next ih => exact List.forall_mem_cons.mpr ⟨by decide, ih⟩
  | up here next ih => exact List.forall_mem_cons.mpr ⟨by decide, ih⟩
  | entry here counts down short held real next ih =>
      exact List.forall_mem_cons.mpr ⟨held_whole here held, ih⟩
  | link here counts down short held some next ih =>
      exact List.forall_mem_cons.mpr
        ⟨held_whole here held, fun name member => ih name (List.mem_append_right _ member)⟩

theorem typedNames_toText {names : List Text} (some : names ≠ [])
    (whole : ∀ name ∈ names, name ≠ [] ∧ Path.slash ∉ name) :
    typedNames (Path.toText ⟨[Path.slash], names⟩) = names := by
  have text : Path.toText ⟨[Path.slash], names⟩ = Path.slash :: Text.join [Path.slash] names := rfl
  have cut : Text.splitAt Path.slash (Path.slash :: Text.join [Path.slash] names) = [] :: names := by
    rw [← List.nil_append (Path.slash :: _), Text.splitAt_piece List.not_mem_nil,
      Text.splitAt_join some fun name member => (whole name member).2]
  have kept : ([] :: names).filter (fun name : Text => !name.isEmpty) = names := by
    rw [List.filter_cons_of_neg (by simp), List.filter_eq_self]
    intro name member
    simpa using (whole name member).1
  -- A slash at the end would leave an empty piece there, but the last piece is a name.
  have ended : ¬ Text.endsWith (Path.slash :: Text.join [Path.slash] names) "/" = true := by
    intro ended
    obtain ⟨front, split⟩ := List.isSuffixOf_iff_suffix.mp ended
    have parted : Text.splitAt Path.slash front ++ [[]] = [] :: names := by
      rw [← cut, ← split]
      exact (Text.splitAt_append front []).symm
    have last := congrArg List.getLast? parted
    rw [List.getLast?_concat, List.getLast?_cons_of_ne_nil some] at last
    exact (whole [] (List.mem_of_getLast? last.symm)).1 rfl
  rw [text, typedNames, cut, kept, if_neg ended]

theorem placeTyped_toText {names : List Text} (sound : files.root.Sound) (some : names ≠ [])
    (found : files.place ⟨[Path.slash], names⟩ = .ok spot) :
    files.placeTyped false (Path.toText ⟨[Path.slash], names⟩) = .ok spot := by
  obtain ⟨short, leads⟩ := place_ok.mp found
  have rooted : Text.startsWith (Path.toText ⟨[Path.slash], names⟩) "/" = true :=
    Text.isRooted_iff.mpr rfl
  refine placeTyped_ok.mpr ⟨List.cons_ne_nil _ _, short, ?_⟩
  rw [typedNames_toText some (leads.whole sound), typedStart, if_pos rooted]
  exact leads

/-! What is found is a file. -/

def HoldsFile (files : Files) (spot : Place) : Prop :=
  ∃ bytes executable, files.root.at? spot.names = some (.file bytes executable)

theorem holdsFile_of_nodeAt {placed : Except FileFault Place} {node : FileNode}
    (found : files.nodeAt placed = .ok node) (file : node.isFile = true) :
    ∃ spot, placed = .ok spot ∧ files.HoldsFile spot := by
  unfold nodeAt at found
  split at found
  case h_1 => cases found
  case h_2 spot =>
      split at found
      case h_1 here =>
          cases found
          cases node with
          | file bytes executable => exact ⟨spot, rfl, bytes, executable, here⟩
          | directory | link => cases file
      case h_2 => cases found

theorem isProgram_place (program : files.isProgram t = true) :
    ∃ spot, files.placeTyped false t = .ok spot ∧ files.HoldsFile spot := by
  unfold isProgram at program
  split at program
  case h_1 bytes executable found => exact holdsFile_of_nodeAt found rfl
  case h_2 => cases program

theorem isFile_place {p : Path} (file : files.isFile p = .ok true) :
    ∃ spot, files.place p = .ok spot ∧ files.HoldsFile spot := by
  unfold isFile probe at file
  split at file
  case h_1 node found => exact holdsFile_of_nodeAt found (by simpa [Except.map] using file)
  case h_2 | h_3 => cases file

end Files

end FenceCheck
