import FenceCheck.Proofs.BlockStart
import FenceCheck.Proofs.ConfigSource
import FenceCheck.Proofs.TypedPath
import Mathlib.Data.List.Nodup

/-!
The bundler that is found and the one that is started. It is looked for from the working directory, but
started in the directory of the document. An absolute name leads to the same file from both, and so does
any name with a slash if the two are one directory. A relative one is looked up anew from the document.
-/

namespace FenceCheck

theorem Files.resolve?_ok {files : Files} {p resolved : Path} (done : files.resolve? p = .ok resolved) :
    resolved = files.resolve p := by
  obtain ⟨-, -, answer⟩ := Except.bind_ok.mp done
  dsimp only at answer
  split at answer
  · cases answer
  · exact (Except.ok.inj answer).symm

namespace Program

variable {files inside : Files} {environment : Variables} {name program folder : Text}
  {directory : Path}

theorem inDirectory_rooted (bare : Path.slash ∉ name) :
    Text.IsRooted (inDirectory folder name) ↔ Text.IsRooted folder := by
  rw [Text.isRooted_iff, Text.isRooted_iff]
  cases folder with
  | nil =>
      refine iff_of_false (fun first => bare (List.mem_of_head? first)) ?_
      simp
  | cons c folder =>
      unfold inDirectory
      split <;> simp

theorem find?_some (found : find? files environment name = some program) :
    files.isProgram program = true ∧
      (Path.slash ∈ name ∧ program = name ∨
        Path.slash ∉ name ∧
          ∃ folder ∈ searchDirectories environment, program = inDirectory folder name) := by
  unfold find? at found
  split at found
  case isTrue slashed =>
      split at found
      case isTrue here =>
          cases found
          exact ⟨here, Or.inl ⟨slashed, rfl⟩⟩
      case isFalse => cases found
  case isFalse bare =>
      obtain ⟨folder, listed, same⟩ := List.mem_map.mp (List.mem_of_find?_eq_some found)
      exact ⟨List.find?_some found, Or.inr ⟨bare, folder, listed, same.symm⟩⟩

theorem find?_none (bare : Path.slash ∉ name) (unfound : find? files environment name = none) :
    ∀ folder ∈ searchDirectories environment, files.isProgram (inDirectory folder name) = false := by
  rw [find?, if_neg bare, List.find?_eq_none] at unfound
  intro folder listed
  simpa using unfound _ (List.mem_map_of_mem listed)

theorem enter_root (entered : enter files directory = .ok inside) : inside.root = files.root := by
  unfold enter at entered
  split at entered
  · cases entered
  · split at entered
    · cases entered
      rfl
    · cases entered

theorem started_slash (slashed : Path.slash ∈ name)
    (started : started? files environment name = some program) : program = name := by
  rw [started?, startPlaces, if_pos slashed] at started
  exact List.mem_singleton.mp (List.mem_of_find?_eq_some started)

/-- A search path that lists a directory is the same for a start. -/
theorem startDirectories_eq (listed : searchDirectories environment ≠ []) :
    startDirectories environment = searchDirectories environment := by
  unfold startDirectories
  unfold searchDirectories at listed ⊢
  cases held : environment.lookup (Text.ofString "PATH") with
  | none => rfl
  | some path =>
      cases path with
      | nil =>
          simp only [held] at listed
          exact absurd rfl listed
      | cons => rfl

theorem started_bare (bare : Path.slash ∉ name) (listed : searchDirectories environment ≠ [])
    (started : started? files environment name = some program) :
    files.isProgram program = true ∧
      ∃ folder ∈ searchDirectories environment, program = inDirectory folder name := by
  rw [started?, startPlaces, if_neg bare, startDirectories_eq listed] at started
  obtain ⟨folder, among, same⟩ := List.mem_map.mp (List.mem_of_find?_eq_some started)
  exact ⟨List.find?_some started, folder, among, same.symm⟩

end Program

namespace Bundler

open Program (searchDirectories inDirectory)

variable {machine : Machine} {config : Config} {block : Block} {directory : Path} {start : Launch}
  {configured : Option Text} {name program image : Text} {inside : Files} {found : Files.Place}

/-- The name of a bundler that the user chose, in the configuration or else by a variable. -/
def choice (machine : Machine) (configured : Option Text) : Option Text :=
  (configured.filter (!·.isEmpty)).or (machine.environment.nonEmpty? locationVariable)

/-- The ways in which a bundler is found from the working directory, with the name that it is started
under and the place of its file. -/
inductive Route (machine : Machine) (directory : Path) (configured : Option Text) :
    Text → Files.Place → Prop where
  /-- A chosen name with a slash is that of a program. -/
  | named {name : Text} {found : Files.Place} (chosen : choice machine configured = some name)
      (slashed : Path.slash ∈ name) (leads : machine.files.placeTyped false name = .ok found) :
      Route machine directory configured name found
  /-- A chosen name, or the usual one, is a program in a directory of the search path. -/
  | searched {name folder : Text} {found : Files.Place}
      (sought : (choice machine configured).getD programName = name) (bare : Path.slash ∉ name)
      (listed : folder ∈ searchDirectories machine.environment)
      (leads : machine.files.placeTyped false (inDirectory folder name) = .ok found) :
      Route machine directory configured (inDirectory folder name) found
  /-- A chosen name is that of a file, though no program is found under it. -/
  | lying {name : Text} {found : Files.Place} (chosen : choice machine configured = some name)
      (unfound : Program.find? machine.files machine.environment name = none)
      (leads : machine.files.place (Path.ofText name) = .ok found) :
      Route machine directory configured name found
  /-- None is chosen, and one is installed at or above the directory. -/
  | nearest {p : Path} {found : Files.Place} (unchosen : choice machine configured = none)
      (listed : p ∈ (ancestors (machine.files.resolve directory)).map installed)
      (leads : machine.files.place p = .ok found) :
      Route machine directory configured p.toText found

theorem program_route (sought : (choice machine configured).getD programName = name)
    (chosen : Path.slash ∈ name → choice machine configured = some name)
    (here : Program.find? machine.files machine.environment name = some program) :
    ∃ found, Route machine directory configured program found ∧ machine.files.HoldsFile found := by
  obtain ⟨runs, spelled⟩ := Program.find?_some here
  obtain ⟨found, leads, file⟩ := Files.isProgram_place runs
  rcases spelled with ⟨slashed, rfl⟩ | ⟨bare, folder, listed, rfl⟩
  · exact ⟨found, .named (chosen slashed) slashed leads, file⟩
  · exact ⟨found, .searched sought bare listed leads, file⟩

theorem chosen_route (chosen : choice machine configured = some name)
    (located : chosen? machine name = .ok (some program)) :
    ∃ found, Route machine directory configured program found ∧ machine.files.HoldsFile found := by
  unfold chosen? at located
  split at located
  case h_1 other here =>
      cases located
      exact program_route (by rw [chosen]; rfl) (fun _ => chosen) here
  case h_2 unfound =>
      obtain ⟨lies, asked, answer⟩ := Except.bind_ok.mp located
      cases lies with
      | false => cases answer
      | true =>
          cases answer
          obtain ⟨found, leads, file⟩ := Files.isFile_place asked
          exact ⟨found, .lying chosen unfound leads, file⟩

theorem ancestors_installed {p : Path} {names : List Text}
    (listed : p ∈ (ancestors ⟨[Path.slash], names⟩).map installed) :
    ∃ inner, inner ≠ [] ∧ p = ⟨[Path.slash], inner⟩ := by
  have rooted (names : List Text) : ∀ d ∈ upward [Path.slash] names, d.root = [Path.slash] := by
    fun_induction upward [Path.slash] names with
    | case1 => simp
    | case2 first rest ih => exact List.forall_mem_cons.mpr ⟨rfl, ih⟩
  obtain ⟨d, above, rfl⟩ := List.mem_map.mp listed
  refine ⟨(installed d).names, by simp [installed, Path.child], ?_⟩
  have root := rooted names d above
  rw [← root]
  rfl

theorem nearest_route (unchosen : choice machine configured = none)
    (located : nearest? machine (machine.files.resolve directory) = .ok (some program)) :
    ∃ found, Route machine directory configured program found ∧ machine.files.HoldsFile found := by
  obtain ⟨first, asked, answer⟩ := Except.bind_ok.mp located
  cases first with
  | none =>
      have bare : Path.slash ∉ programName := by decide
      exact program_route (by rw [unchosen]; rfl) (absurd · bare) (Except.ok.inj answer)
  | some p =>
      cases answer
      obtain ⟨before, above, after, split, -, ⟨file, same⟩ | ⟨error, -, failed⟩⟩ :=
        (Files.firstFile_stops (by simp)).mp asked
      · cases same
        obtain ⟨found, leads, held⟩ := Files.isFile_place file
        refine ⟨found, .nearest unchosen (List.mem_map_of_mem ?_) leads, held⟩
        rw [split]
        exact List.mem_append_right _ List.mem_cons_self
      · cases failed

theorem locate_route (located : locate machine directory configured = .ok (some program)) :
    ∃ found, Route machine directory configured program found ∧ machine.files.HoldsFile found := by
  cases chosen : choice machine configured with
  | some name =>
      rw [locate, ← choice, chosen] at located
      exact chosen_route chosen (Except.mapError_ok.mp located)
  | none =>
      rw [locate, ← choice, chosen] at located
      obtain ⟨resolved, done, near⟩ := Except.bind_ok.mp (Except.mapError_ok.mp located)
      exact nearest_route chosen (Files.resolve?_ok done ▸ near)

/-- The search path lists directories, and all of them are absolute. -/
structure Anchored (environment : Variables) : Prop where
  some : searchDirectories environment ≠ []
  rooted : ∀ folder ∈ searchDirectories environment, Text.IsRooted folder

/-- For a program that is started elsewhere a name stands for the file at a place, and for no other. -/
structure Denotes (files inside : Files) (environment : Variables) (program : Text)
    (found : Files.Place) : Prop where
  same : inside.placeTyped false program = files.placeTyped false program
  only : ∀ there, inside.placeTyped false program = .ok there → there = found
  started : ∀ image, Program.started? inside environment program = some image → image = program

theorem nearest_rooted {p : Path}
    (listed : p ∈ (ancestors (machine.files.resolve directory)).map installed) :
    Text.IsRooted p.toText := by
  obtain ⟨names, -, rfl⟩ := ancestors_installed listed
  exact Text.isRooted_iff.mpr rfl

theorem Route.typed {there : Files.Place} (sound : machine.files.Sound)
    (route : Route machine directory configured program found)
    (typed : machine.files.placeTyped false program = .ok there) : there = found := by
  cases route with
  | named chosen slashed leads => exact Except.ok.inj (typed.symm.trans leads)
  | searched sought bare listed leads => exact Except.ok.inj (typed.symm.trans leads)
  | lying chosen unfound leads => exact Files.place_ofText leads typed
  | nearest unchosen listed leads =>
      obtain ⟨names, some, rfl⟩ := ancestors_installed listed
      exact Except.ok.inj (typed.symm.trans (Files.placeTyped_toText sound.tree some leads))

theorem Route.denotes (sound : machine.files.Sound)
    (route : Route machine directory configured program found)
    (same : inside.placeTyped false program = machine.files.placeTyped false program)
    (slashed : Path.slash ∈ program) :
    Denotes machine.files inside machine.environment program found where
  same := same
  only := fun _ typed => route.typed sound (same ▸ typed)
  started := fun _ => Program.started_slash slashed

theorem Route.rooted (route : Route machine directory configured program found)
    (anchored : Anchored machine.environment)
    (settled : ∀ name, choice machine configured = some name → Text.IsRooted name ∨
      Path.slash ∉ name ∧ (Program.find? machine.files machine.environment name).isSome) :
    Text.IsRooted program := by
  cases route with
  | named chosen slashed leads =>
      exact (settled _ chosen).resolve_right fun bare => bare.1 slashed
  | searched sought bare listed leads =>
      exact (Program.inDirectory_rooted bare).mpr (anchored.rooted _ listed)
  | lying chosen unfound leads =>
      refine (settled _ chosen).resolve_right fun bare => ?_
      rw [unfound] at bare
      cases bare.2
  | nearest unchosen listed leads => exact nearest_rooted listed

theorem Route.bare (route : Route machine directory configured program found)
    (same : inside.root = machine.files.root) (anchored : Anchored machine.environment)
    (bare : Path.slash ∉ program) : Program.started? inside machine.environment program = none := by
  cases started : Program.started? inside machine.environment program with
  | none => rfl
  | some image =>
      obtain ⟨runs, folder, listed, rfl⟩ := Program.started_bare bare anchored.some started
      -- An absolute name is not bare, and one that is only a file's was sought in the same directories.
      cases route with
      | named chosen slashed leads => exact absurd slashed bare
      | searched sought plain among leads =>
          have rooted := (Program.inDirectory_rooted plain).mpr (anchored.rooted _ among)
          exact absurd rooted.slash bare
      | lying chosen unfound leads =>
          have rooted := (Program.inDirectory_rooted bare).mpr (anchored.rooted _ listed)
          rw [Files.isProgram_rooted same rooted, Program.find?_none bare unfound _ listed] at runs
          cases runs
      | nearest unchosen among leads => exact absurd (nearest_rooted among).slash bare

/-- The bundler of a block is found from the working directory, and started in the directory of the
document. An absolute name, or one with a slash where the two are one directory, stands for the file that
was found in both. The name is absolute if the search path is and the user's choice, where there is one,
is absolute or a bare name of a program on it. A bare name that is only that of a file is never started. -/
theorem located_bundler_is_started (sound : machine.files.Sound)
    (ready : launch machine config block = .ok start)
    (entered : Program.enter machine.files start.directory = .ok inside) :
    ∃ program found, start.words.head? = some program ∧
      locate machine start.directory config.esbuild = .ok (some program) ∧
      Route machine start.directory config.esbuild program found ∧
      machine.files.HoldsFile found ∧
      (Text.IsRooted program ∨ Path.slash ∈ program ∧ inside.cwd = machine.files.cwd →
        Denotes machine.files inside machine.environment program found) ∧
      (Anchored machine.environment →
        ((∀ name, choice machine config.esbuild = some name → Text.IsRooted name ∨
          Path.slash ∉ name ∧ (Program.find? machine.files machine.environment name).isSome) →
            Text.IsRooted program) ∧
        (Path.slash ∉ program → Program.started? inside machine.environment program = none)) := by
  obtain ⟨program, limit, -, located, -, made⟩ := launch_ok ready
  obtain ⟨found, route, file⟩ := locate_route located
  have same : inside.root = machine.files.root := Program.enter_root entered
  refine ⟨program, found, by rw [made]; rfl, located, route, file, ?_, fun anchored =>
    ⟨route.rooted anchored, route.bare same anchored⟩⟩
  rintro (rooted | ⟨slashed, here⟩)
  · exact route.denotes sound (Files.placeTyped_rooted same rooted false) rooted.slash
  · refine route.denotes sound ?_ slashed
    simp only [Files.placeTyped, same, here]

def toolbox : Entries := [("e", .file [] true)]

def studioFiles : Files :=
  ⟨.directory [("docs", .directory [("tools", .directory toolbox)]), ("tools", .directory toolbox)], []⟩

def studio : Machine := { Sandbox.workshop (fun _ => .exited 0 [] []) with files := studioFiles }

def studioConfig (bundler : Text) : Config := { Config.defaults with esbuild := some bundler }

def draft : Block := { Sandbox.typedBlock with origin := ⟨[], ["docs", "a.md"]⟩ }

def docsPath : Path := ⟨[Path.slash], ["docs"]⟩

def docsFiles : Files := { studioFiles with cwd := ["docs"] }

theorem studio_sound : studioFiles.Sound := by
  have tools : (FileNode.directory toolbox).Sound :=
    .directory (by decide +kernel) (by decide +kernel) (List.forall_mem_singleton.mpr (.file _ _))
  have docs : (FileNode.directory [(Text.ofString "tools", .directory toolbox)]).Sound :=
    .directory (List.forall_mem_singleton.mpr (by decide +kernel)) (List.nodup_singleton _)
      (List.forall_mem_singleton.mpr tools)
  refine ⟨.directory ?_ (by decide +kernel) ?_, _, rfl⟩
  · exact List.forall_mem_cons.mpr ⟨by decide +kernel, List.forall_mem_singleton.mpr (by decide +kernel)⟩
  · exact List.forall_mem_cons.mpr ⟨docs, List.forall_mem_singleton.mpr tools⟩

theorem studio_entered : Program.enter studioFiles docsPath = .ok docsFiles := rfl

theorem studio_resolved : studio.files.resolve? draft.origin.parent = .ok docsPath := rfl

theorem studio_launch {name : Text}
    (located : locate studio docsPath (studioConfig name).esbuild = .ok (some name)) :
    ∃ start, launch studio (studioConfig name) draft = .ok start ∧ start.directory = docsPath ∧
      start.words.head? = some name :=
  ⟨_, launch_ready studio_resolved located Sandbox.workshop_bundleLimit, rfl, rfl⟩

theorem located_bundler_is_started_studio :
    ∃ start, launch studio (studioConfig "/tools/e") draft = .ok start ∧
      Program.enter studioFiles start.directory = .ok docsFiles ∧
      start.words.head? = some (Text.ofString "/tools/e") ∧
      ∃ found, studioFiles.HoldsFile found ∧ Denotes studioFiles docsFiles [] "/tools/e" found := by
  have located : locate studio docsPath (studioConfig "/tools/e").esbuild = .ok (some "/tools/e") := rfl
  obtain ⟨start, ready, directory, head⟩ := studio_launch located
  have entered : Program.enter studio.files start.directory = .ok docsFiles :=
    directory ▸ studio_entered
  obtain ⟨program, found, first, -, -, file, denotes, -⟩ :=
    located_bundler_is_started studio_sound ready entered
  cases Option.some.inj (first.symm.trans head)
  exact ⟨start, ready, entered, head, found, file, denotes (Or.inl (Text.isRooted_iff.mpr rfl))⟩

/-- A relative bundler is found among the tools of the working directory, and another one is started. -/
theorem relative_bundler_mistaken :
    ∃ start, launch studio (studioConfig "tools/e") draft = .ok start ∧
      Program.enter studioFiles start.directory = .ok docsFiles ∧
      start.words.head? = some (Text.ofString "tools/e") ∧
      studioFiles.placeTyped false "tools/e" = .ok ⟨["tools", "e"], Files.linkLimit⟩ ∧
      docsFiles.placeTyped false "tools/e" = .ok ⟨["docs", "tools", "e"], Files.linkLimit⟩ := by
  have located : locate studio docsPath (studioConfig "tools/e").esbuild = .ok (some "tools/e") := rfl
  obtain ⟨start, ready, directory, head⟩ := studio_launch located
  exact ⟨start, ready, directory ▸ studio_entered, head, rfl, rfl⟩

end Bundler

end FenceCheck
