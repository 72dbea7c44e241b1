import FenceCheck.Proofs.CommandStart
import FenceCheck.Proofs.StartedProgram

/-!
The nearest bundler. Where none is chosen, the directories at and above the resolved directory are looked
at from the innermost to the root, and the first with a file in the usual place gives it; only where none
has one is the search path asked. A directory of the tree itself, not a link, that has none below another
one gives what the other gives.
-/

namespace FenceCheck

theorem Except.mapError_inj {ε δ α : Type} {wrap : ε → δ} (apart : Function.Injective wrap)
    {first second : Except ε α} : first.mapError wrap = second.mapError wrap ↔ first = second := by
  refine ⟨fun same => ?_, congrArg _⟩
  cases first with
  | error fault =>
      obtain ⟨cause, rfl, wrapped⟩ := Except.mapError_error.mp same.symm
      rw [apart wrapped]
  | ok value => exact (Except.mapError_ok.mp same.symm).symm

/-! Texts and paths that have a form for the operating system. -/

namespace Text

theorem formed_of_bytes {t : Text} {position : Nat} {bytes : List UInt8}
    (written : bytesFrom position t = .ok bytes) : ∀ c ∈ t, c = .char '\x00' ∨ c.IsFormed := by
  induction t generalizing position bytes with
  | nil => exact List.forall_mem_nil _
  | cons c rest ih =>
      cases later : bytesFrom (position + 1) rest with
      | error fault =>
          cases c with
          | char c =>
              rw [bytesFrom, later] at written
              cases written
          | surrogate half =>
              rw [bytesFrom] at written
              split at written
              · rw [later] at written
                cases written
              · cases written
      | ok others =>
          refine List.forall_mem_cons.mpr ⟨?_, ih later⟩
          cases c with
          | char c => exact (em (c = '\x00')).imp (congrArg _) id
          | surrogate half =>
              rw [bytesFrom] at written
              split at written
              case h_1 b byte => exact Or.inr (Option.isSome_of_eq_some byte)
              case h_2 => cases written

theorem formFault_iff {t : Text} : t.formFault? = none ↔ ∀ c ∈ t, c.IsFormed := by
  refine ⟨fun faultless c inside => ?_, formFault_none⟩
  rw [formFault?] at faultless
  split at faultless
  case h_1 => cases faultless
  case h_2 bytes written =>
      split at faultless
      case isTrue => cases faultless
      case isFalse plain =>
          refine (formed_of_bytes written c inside).resolve_left ?_
          rintro rfl
          exact plain inside

end Text

namespace Path

theorem toText_some {p : Path} (some : p.root ≠ [] ∨ p.names ≠ []) :
    p.toText = p.root ++ Text.join [slash] p.names := by
  rw [toText, if_neg]
  rw [Bool.and_eq_true, List.isEmpty_iff, List.isEmpty_iff]
  exact fun none => some.elim (absurd none.1) (absurd none.2)

theorem formed_iff {p : Path} : Files.formed p = .ok () ↔
    (∀ c ∈ p.root, c.IsFormed) ∧ ∀ name ∈ p.names, ∀ c ∈ name, c.IsFormed := by
  have whole : Files.formed p = .ok () ↔ ∀ c ∈ p.toText, c.IsFormed := by
    rw [Files.formed, ← Text.formFault_iff]
    cases p.toText.formFault? <;> simp
  rw [whole]
  constructor
  · intro all
    refine ⟨fun c inside => all c ?_, fun name listed c inside => all c ?_⟩
    · rw [toText_some (Or.inl (List.ne_nil_of_mem inside))]
      exact List.mem_append_left _ inside
    · rw [toText_some (Or.inr (List.ne_nil_of_mem listed))]
      exact List.mem_append_right _ (Text.mem_join_piece listed inside)
  · rintro ⟨rooted, named⟩ c inside
    rcases mem_toText inside with rfl | rfl | root | ⟨name, listed, letter⟩
    · decide
    · decide
    · exact rooted c root
    · exact named name listed c letter

end Path

/-! Resolving what stands below a directory. -/

theorem FileNode.Sound.names {node last : FileNode} (sound : node.Sound) {names : List Text}
    (here : node.at? names = some last) : ∀ name ∈ names, IsName name := by
  induction names generalizing node with
  | nil => exact List.forall_mem_nil _
  | cons name rest ih =>
      obtain ⟨next, entry, there⟩ := Option.bind_eq_some_iff.mp here
      cases sound with
      | file => cases entry
      | link => cases entry
      | directory proper apart inner =>
          have member := mem_of_lookup entry
          exact List.forall_mem_cons.mpr ⟨proper _ member, ih (inner _ member) there⟩

namespace Files

variable {root : FileNode} {fuel : Nat} {pending : List (List Text)} {place names : List Text}
  {entries : Entries} {files : Files} {p home : Path}

theorem follow_append (place first rest : List Text) :
    follow place (first ++ rest) = follow (follow place first) rest := List.foldl_append

theorem resolveNames_append {resolveLink : List Text → Text → Text → List Text × Bool}
    (first rest : List Text) :
    resolveNames root resolveLink place (first ++ rest) =
      match resolveNames root resolveLink place first with
      | (names, true) => resolveNames root resolveLink names rest
      | (names, false) => (follow names rest, false) := by
  fun_induction resolveNames root resolveLink place first with
  | case1 => rfl
  | case2 place more ih => rw [List.cons_append, resolveNames, if_pos rfl, ih]
  | case3 place more counts ih =>
      rw [List.cons_append, resolveNames, if_neg counts, if_pos rfl, ih]
  | case4 place name more counts down target here names resolved ih =>
      rw [List.cons_append, resolveNames, if_neg counts, if_neg down]
      simp only [here, resolved]
      exact ih
  | case5 place name more counts down target here names left =>
      rw [List.cons_append, resolveNames, if_neg counts, if_neg down]
      simp only [here, left, follow_append]
  | case6 place name more counts down real ih =>
      rw [List.cons_append, resolveNames, if_neg counts, if_neg down]
      split
      case h_1 target linked => exact absurd linked (real target)
      case h_2 => exact ih

/-- Resolving goes on from where it came to, by spelling alone if a link was left as it is. -/
theorem resolveFrom_append (first rest : List Text) :
    resolveFrom root fuel pending place (first ++ rest) =
      match resolveFrom root fuel pending place first with
      | (names, true) => resolveFrom root fuel pending names rest
      | (names, false) => (follow names rest, false) := by
  rw [resolveFrom]
  exact resolveNames_append first rest

theorem follow_names (proper : ∀ name ∈ names, FileNode.IsName name) (place : List Text) :
    follow place names = place ++ names := by
  induction names generalizing place with
  | nil => exact (List.append_nil place).symm
  | cons name rest ih =>
      obtain ⟨here, later⟩ := List.forall_mem_cons.mp proper
      have step : follow place (name :: rest) = follow (place ++ [name]) rest := by
        rw [follow, List.foldl_cons, if_neg here.counts, if_neg here.down]
        rfl
      rw [step, ih later, List.append_assoc, List.singleton_append]

theorem resolveFrom_down (sound : root.Sound)
    (here : root.at? (place ++ names) = some (.directory entries)) :
    resolveFrom root fuel pending place names = (place ++ names, true) := by
  rw [resolveFrom]
  induction names generalizing place with
  | nil => rw [resolveNames, List.append_nil]
  | cons name rest ih =>
      have below := here
      rw [← List.singleton_append, ← List.append_assoc] at below
      have proper := sound.names here name (List.mem_append_right place List.mem_cons_self)
      rw [FileNode.at_append] at below
      obtain ⟨inner, found, further⟩ := Option.bind_eq_some_iff.mp below
      rw [resolveNames, if_neg proper.counts, if_neg proper.down, found]
      have whole : root.at? (place ++ [name] ++ rest) = some (.directory entries) := by
        rw [FileNode.at_append, found]
        exact further
      have later := ih whole
      rw [List.append_assoc, List.singleton_append] at later
      cases inner with
      | link => cases rest <;> cases further
      | file | directory => exact later

theorem resolve_down (sound : files.root.Sound)
    (here : files.root.at? ((files.resolve p).names ++ names) = some (.directory entries)) :
    files.resolve (p ++ (⟨[], names⟩ : Path)) = files.resolve p ++ (⟨[], names⟩ : Path) := by
  have proper := fun name listed => sound.names here name (List.mem_append_right _ listed)
  have ends : (resolveFrom files.root (countLinks files.root + 1) [] (files.origin p)
      (p.names ++ names)).1 = (files.resolve p).names ++ names := by
    have same : (files.resolve p).names = (resolveFrom files.root (countLinks files.root + 1) []
        (files.origin p) p.names).1 := rfl
    rw [resolveFrom_append]
    rw [same] at here ⊢
    cases came : resolveFrom files.root (countLinks files.root + 1) [] (files.origin p) p.names with
    | mk reached whole =>
        rw [came] at here
        cases whole with
        | true => exact congrArg Prod.fst (resolveFrom_down sound here)
        | false => exact follow_names proper reached
  exact congrArg (Path.mk [Path.slash]) ends

theorem resolve?_down (sound : files.root.Sound) (resolved : files.resolve? p = .ok home)
    (here : files.root.at? (home.names ++ names) = some (.directory entries)) :
    files.resolve? (p ++ (⟨[], names⟩ : Path)) = .ok (home ++ (⟨[], names⟩ : Path)) := by
  obtain rfl := resolve?_ok resolved
  obtain ⟨⟨⟩, plain, -⟩ := Except.bind_ok.mp resolved
  have proper := fun name listed => sound.names here name (List.mem_append_right _ listed)
  have below : Files.formed (p ++ (⟨[], names⟩ : Path)) = .ok () := by
    obtain ⟨rooted, named⟩ := Path.formed_iff.mp plain
    exact Path.formed_iff.mpr ⟨rooted, List.forall_mem_append.mpr
      ⟨named, fun name listed => (proper name listed).formed⟩⟩
  rw [resolve?, below, resolve_down sound here]
  have led : files.place (files.resolve p ++ (⟨[], names⟩ : Path)) ≠ .error .linkLoop :=
    place_down sound here
  simp only [bind, Except.bind]

end Files

namespace Bundler

variable {machine : Machine} {directory home d : Path} {configured : Option Text}

/-- A directory at or above another one. -/
structure IsAbove (outer inner : Path) : Prop where
  root : outer.root = inner.root
  names : outer.names <+: inner.names

/-- What is found for a resolved directory: the bundler that is installed in the nearest directory at or
above it, or the refusal of the system to look into the nearest one that may have one, or else what
stands on the search path. -/
inductive Located (machine : Machine) (directory : Path) : Except FileError (Option Text) → Prop where
  | nearest {home : Path} (above : IsAbove home directory)
      (here : machine.files.isFile (installed home) = .ok true)
      (closer : ∀ d, IsAbove d directory → home.names.length < d.names.length →
        machine.files.isFile (installed d) = .ok false) :
      Located machine directory (.ok (some (installed home).toText))
  | refused {home : Path} {error : FileError} (above : IsAbove home directory)
      (here : machine.files.isFile (installed home) = .error error)
      (closer : ∀ d, IsAbove d directory → home.names.length < d.names.length →
        machine.files.isFile (installed d) = .ok false) :
      Located machine directory (.error error)
  | searched (none : ∀ d, IsAbove d directory → machine.files.isFile (installed d) = .ok false) :
      Located machine directory (.ok (Program.find? machine.files machine.environment programName))

theorem mem_upward {root : Text} {names : List Text} :
    d ∈ upward root names ↔ IsAbove d ⟨root, names⟩ := by
  have here (names : List Text) : d = ⟨root, names⟩ ↔ d.root = root ∧ d.names = names := by
    cases d
    exact iff_of_eq (Path.mk.injEq ..)
  fun_induction upward root names with
  | case1 =>
      rw [List.mem_singleton, here]
      exact ⟨fun same => ⟨same.1, same.2 ▸ List.prefix_refl _⟩,
        fun above => ⟨above.root, List.prefix_nil.mp above.names⟩⟩
  | case2 name names ih =>
      have whole := List.dropLast_concat_getLast (List.cons_ne_nil name names)
      refine List.mem_cons.trans (((here _).or ih).trans ⟨?_, fun above => ?_⟩)
      · rintro (⟨root, names⟩ | above)
        · exact ⟨root, names ▸ List.prefix_refl _⟩
        · exact ⟨above.root, above.names.trans (List.dropLast_prefix _)⟩
      · have front : d.names <+: name :: names := above.names
        rw [← whole, List.prefix_concat_iff, whole] at front
        exact front.imp (⟨above.root, ·⟩) (⟨above.root, ·⟩)

theorem upward_nearer (root : Text) (names : List Text) :
    (upward root names).Pairwise fun d outer => outer.names.length < d.names.length := by
  fun_induction upward root names with
  | case1 => exact List.pairwise_singleton _ _
  | case2 name names ih =>
      refine List.pairwise_cons.mpr ⟨fun outer above => ?_, ih⟩
      have shorter := (mem_upward.mp above).names.length_le
      rw [List.length_dropLast] at shorter
      exact Nat.lt_of_le_of_lt shorter (Nat.lt_succ_self _)

theorem upward_length (root : Text) (names : List Text) : (upward root names).length = names.length + 1 := by
  fun_induction upward root names with
  | case1 => rfl
  | case2 name names ih =>
      rw [List.length_cons, ih, List.length_dropLast]
      rfl

theorem ancestors_before {before after : List Path} (split : ancestors directory = before ++ home :: after) :
    d ∈ before ↔ IsAbove d directory ∧ home.names.length < d.names.length := by
  have nearer := upward_nearer directory.root directory.names
  have listed : d ∈ ancestors directory ↔ IsAbove d directory := mem_upward
  rw [← ancestors, split, List.pairwise_append, List.pairwise_cons] at nearer
  obtain ⟨-, ⟨outer, -⟩, earlier⟩ := nearer
  rw [split, List.mem_append, List.mem_cons] at listed
  constructor
  · exact fun first => ⟨listed.mp (Or.inl first), earlier d first home List.mem_cons_self⟩
  · rintro ⟨above, deeper⟩
    rcases listed.mpr above with first | rfl | last
    · exact first
    · exact absurd deeper (Nat.lt_irrefl _)
    · exact absurd deeper (Nat.lt_asymm (outer d last))

theorem firstFile_located {found : Except FileError (Option Path)} (stops : found ≠ .ok none) :
    machine.files.firstFile? ((ancestors directory).map installed) = found ↔
      ∃ home, IsAbove home directory ∧
        (∀ d, IsAbove d directory → home.names.length < d.names.length →
          machine.files.isFile (installed d) = .ok false) ∧
        (machine.files.isFile (installed home) = .ok true ∧ found = .ok (some (installed home)) ∨
          ∃ error, machine.files.isFile (installed home) = .error error ∧ found = .error error) := by
  rw [Files.firstFile_stops stops]
  constructor
  · rintro ⟨before, home, after, split, closer, last⟩
    have above : home ∈ ancestors directory := split ▸ List.mem_append_right _ List.mem_cons_self
    exact ⟨home, mem_upward.mp above,
      fun d above deeper => closer d ((ancestors_before split).mpr ⟨above, deeper⟩), last⟩
  · rintro ⟨home, above, closer, last⟩
    have listed : home ∈ ancestors directory := mem_upward.mpr above
    obtain ⟨before, after, split⟩ := List.append_of_mem listed
    refine ⟨before, home, after, split, fun d first => ?_, last⟩
    obtain ⟨above, deeper⟩ := (ancestors_before split).mp first
    exact closer d above deeper

theorem nearest_located {answer : Except FileError (Option Text)} :
    nearest? machine directory = answer ↔ Located machine directory answer := by
  have empty : machine.files.firstFile? ((ancestors directory).map installed) = .ok none ↔
      ∀ d, IsAbove d directory → machine.files.isFile (installed d) = .ok false := by
    rw [Files.firstFile_none, List.forall_mem_map]
    exact forall_congr' fun d => imp_congr_left mem_upward
  constructor
  · rintro rfl
    unfold nearest?
    cases search : machine.files.firstFile? ((ancestors directory).map installed) with
    | error error =>
        obtain ⟨home, above, closer, ⟨-, same⟩ | ⟨cause, here, same⟩⟩ :=
          (firstFile_located (by simp)).mp search
        · cases same
        · cases same
          exact .refused above here closer
    | ok found =>
        cases found with
        | none => exact .searched (empty.mp search)
        | some p =>
            obtain ⟨home, above, closer, ⟨here, same⟩ | ⟨cause, -, same⟩⟩ :=
              (firstFile_located (by simp)).mp search
            · cases same
              exact .nearest above here closer
            · cases same
  · intro located
    unfold nearest?
    cases located with
    | nearest above here closer =>
        rw [(firstFile_located (by simp)).mpr ⟨_, above, closer, .inl ⟨here, rfl⟩⟩]
        rfl
    | refused above here closer =>
        rw [(firstFile_located (by simp)).mpr ⟨_, above, closer, .inr ⟨_, here, rfl⟩⟩]
        rfl
    | searched none =>
        rw [empty.mpr none]
        rfl

theorem Located.down {names : List Text} {answer : Except FileError (Option Text)}
    (located : Located machine home answer)
    (bare : ∀ d, IsAbove d (home ++ (⟨[], names⟩ : Path)) → home.names.length < d.names.length →
      machine.files.isFile (installed d) = .ok false) :
    Located machine (home ++ (⟨[], names⟩ : Path)) answer := by
  have lower {d : Path} (above : IsAbove d home) : IsAbove d (home ++ (⟨[], names⟩ : Path)) :=
    ⟨above.root, above.names.trans (List.prefix_append _ _)⟩
  have split {d : Path} (above : IsAbove d (home ++ (⟨[], names⟩ : Path))) :
      IsAbove d home ∨ home.names.length < d.names.length := by
    rcases Nat.lt_or_ge home.names.length d.names.length with deeper | shorter
    · exact Or.inr deeper
    · exact Or.inl ⟨above.root,
        List.prefix_of_prefix_length_le above.names (List.prefix_append _ _) shorter⟩
  have closer {found : Path} (closer : ∀ d, IsAbove d home → found.names.length < d.names.length →
      machine.files.isFile (installed d) = .ok false) (d : Path)
      (above : IsAbove d (home ++ (⟨[], names⟩ : Path))) (deeper : found.names.length < d.names.length) :
      machine.files.isFile (installed d) = .ok false :=
    (split above).elim (closer d · deeper) (bare d above)
  cases located with
  | nearest above here nearer => exact .nearest (lower above) here (closer nearer)
  | refused above here nearer => exact .refused (lower above) here (closer nearer)
  | searched none => exact .searched fun d above => (split above).elim (none d) (bare d above)

theorem locate_unchosen (unchosen : choice machine configured = none) :
    locate machine directory configured =
      ((machine.files.resolve? directory).bind (nearest? machine)).mapError .file := by
  rw [locate, ← choice, unchosen]

/-- Where no bundler is chosen, a directory that cannot be resolved is refused, and any other has the
nearest bundler that is installed at or above it, or that of the search path just if none of these
directories has one; each of them is looked at once. A directory of the tree below a resolved one has the
same bundler if none is installed from there down to it. -/
theorem nearest_bundler_is_located (machine : Machine) (directory : Path) {configured : Option Text}
    (unchosen : choice machine configured = none) :
    (∀ error, machine.files.resolve? directory = .error error →
        locate machine directory configured = .error (.file error)) ∧
      ∀ home, machine.files.resolve? directory = .ok home →
        (ancestors home).length = home.names.length + 1 ∧
        (∀ answer, locate machine directory configured = answer.mapError .file ↔
          Located machine home answer) ∧
        ∀ names entries, machine.files.Sound →
          machine.files.root.at? (home.names ++ names) = some (.directory entries) →
          (∀ d, IsAbove d (home ++ (⟨[], names⟩ : Path)) → home.names.length < d.names.length →
            machine.files.isFile (installed d) = .ok false) →
          locate machine (directory ++ (⟨[], names⟩ : Path)) configured =
            locate machine directory configured := by
  refine ⟨fun error unresolved => ?_, fun home resolved =>
    ⟨upward_length home.root home.names, fun answer => ?_, fun names entries sound here bare => ?_⟩⟩
  · rw [locate_unchosen unchosen, unresolved]
    rfl
  · rw [locate_unchosen unchosen, resolved, ← nearest_located]
    exact Except.mapError_inj fun _ _ => Failure.file.inj
  · rw [locate_unchosen unchosen, locate_unchosen unchosen, resolved,
      Files.resolve?_down sound.tree resolved here]
    have down := (nearest_located.mp (rfl : nearest? machine home = _)).down bare
    exact congrArg (Except.mapError Failure.file) (nearest_located.mpr down)

def packages : FileNode := .directory [(".bin", .directory [(programName, .file [] true)])]

def lodge (entries : Entries) : Machine :=
  { Sandbox.workshop (fun _ => .exited 0 [] []) with files := ⟨.directory entries, []⟩ }

def linked : Machine :=
  lodge [("d", .directory [("node_modules", packages), ("x", .link "../o"), ("y", .directory [])]),
    ("o", .directory [])]

def barred : Machine :=
  lodge [("node_modules", packages),
    ("d", .directory [("node_modules", .link (List.replicate 256 (.char 'n')))])]

def projectPath : Path := ⟨[], ["d"]⟩

theorem linked_sound : linked.files.Sound := by
  have installation : packages.Sound := by
    refine .directory (by decide +kernel) (by decide +kernel) (List.forall_mem_singleton.mpr ?_)
    exact .directory (by decide +kernel) (by decide +kernel) (List.forall_mem_singleton.mpr (.file _ _))
  have empty : (FileNode.directory []).Sound :=
    .directory (List.forall_mem_nil _) List.nodup_nil (List.forall_mem_nil _)
  refine ⟨.directory (by decide +kernel) (by decide +kernel) ?_, _, rfl⟩
  refine List.forall_mem_cons.mpr ⟨?_, List.forall_mem_singleton.mpr empty⟩
  refine .directory (by decide +kernel) (by decide +kernel) ?_
  exact List.forall_mem_cons.mpr ⟨installation, List.forall_mem_cons.mpr
    ⟨.link _, List.forall_mem_singleton.mpr empty⟩⟩

theorem nearest_bundler_is_located_linked :
    choice linked none = none ∧
      locate linked projectPath none = .ok (some "/d/node_modules/.bin/esbuild") ∧
      locate linked (projectPath.child "y") none = .ok (some "/d/node_modules/.bin/esbuild") := by
  have resolved : linked.files.resolve? projectPath = .ok ⟨[Path.slash], ["d"]⟩ := rfl
  have here : linked.files.isFile (installed ⟨[Path.slash], ["d"]⟩) = .ok true := rfl
  have spelled : (installed ⟨[Path.slash], ["d"]⟩).toText = "/d/node_modules/.bin/esbuild" := by
    decide +kernel
  have innermost : IsAbove ⟨[Path.slash], ["d"]⟩ ⟨[Path.slash], ["d"]⟩ := ⟨rfl, List.prefix_refl _⟩
  have unchosen : choice linked none = none := rfl
  obtain ⟨-, located, below⟩ := (nearest_bundler_is_located linked projectPath unchosen).2 _ resolved
  have found : locate linked projectPath none = .ok (some "/d/node_modules/.bin/esbuild") := by
    rw [← spelled]
    refine (located (.ok _)).mpr (.nearest innermost here fun d above deeper => ?_)
    exact absurd above.names.length_le (Nat.not_le.mpr deeper)
  refine ⟨unchosen, found, (below ["y"] [] linked_sound rfl fun d above deeper => ?_).trans found⟩
  have whole : d = ⟨[Path.slash], ["d", "y"]⟩ := by
    have names := above.names.eq_of_length_le deeper
    cases d
    exact congrArg₂ Path.mk above.root names
  rw [whole]
  rfl

/-- Behind a link the directories above are others: nothing is installed in one that a project links to,
and there the bundler of the project is not found. And what the system does not answer for in a directory
is not passed over, though one is installed above it. -/
theorem nearest_bundler_missed :
    (choice linked none = none ∧
      linked.files.isDirectory (projectPath.child "x") = .ok true ∧
      linked.files.isFile (installed (projectPath.child "x")) = .ok false ∧
      locate linked projectPath none = .ok (some "/d/node_modules/.bin/esbuild") ∧
      locate linked (projectPath.child "x") none = .ok none) ∧
    choice barred none = none ∧
      barred.files.isFile (installed ⟨[Path.slash], []⟩) = .ok true ∧
      locate barred projectPath none =
        .error (.file (.refused .nameTooLong "/d/node_modules/.bin/esbuild")) := by
  refine ⟨⟨rfl, rfl, rfl, ?_, ?_⟩, rfl, rfl, Except.mapError_error.mpr ⟨_, ?_, rfl⟩⟩
  · exact Except.toOption_some.mp (by decide +kernel)
  · exact Except.toOption_some.mp (by decide +kernel)
  · decide +kernel

end Bundler

end FenceCheck
