import FenceCheck.Proofs.BlockCourse
import FenceCheck.Proofs.FloatRange
import FenceCheck.Proofs.HostReport

/-!
What the programs of a block are started with, and why a start may not come about.
-/

namespace FenceCheck

variable {machine : Machine} {config : Config} {block : Block} {directory : Path} {start : Launch}
  {failure : Failure}

theorem Files.resolve_refused {files : Files} {path : Path} {fault : FileError}
    (failed : files.resolve? path = .error fault) : (Failure.file fault).isRefusal = false := by
  simp only [Files.resolve?, Files.formed, bind, Except.bind] at failed
  split at failed
  case h_1 formless =>
      cases failed
      split at formless <;> cases formless
      rfl
  case h_2 =>
      split at failed <;> cases failed
      rfl

namespace Bundler

theorem directoryOf_ok :
    directoryOf machine block = .ok directory ↔
      machine.files.resolve? block.origin.parent = .ok directory :=
  Except.mapError_ok

theorem directoryOf_error (failed : directoryOf machine block = .error failure) :
    failure.isRefusal = false ∧ ∀ message, failure ≠ .bundling message := by
  obtain ⟨fault, resolved, rfl⟩ := Except.mapError_error.mp failed
  exact ⟨Files.resolve_refused resolved, fun _ => nofun⟩

theorem launch_ok (ready : launch machine config block = .ok start) :
    ∃ program limit,
      machine.files.resolve? block.origin.parent = .ok start.directory ∧
        locate machine start.directory config.esbuild = .ok (some program) ∧
        config.bundleTimeout.thousandth = some limit ∧
        start = ⟨words config program block (mustBundle config block), start.directory, .real limit,
          block.source⟩ := by
  obtain ⟨directory, resolved, ready⟩ := Except.bind_ok.mp ready
  obtain ⟨found, located, ready⟩ := Except.bind_ok.mp ready
  cases found with
  | none => cases ready
  | some program =>
      cases limited : config.bundleTimeout.thousandth with
      | none =>
          rw [limited] at ready
          cases ready
      | some limit =>
          rw [limited] at ready
          cases ready
          exact ⟨program, limit, directoryOf_ok.mp resolved, located, rfl, rfl⟩

theorem launch_ready {program : Text} {limit : Binary64}
    (resolved : machine.files.resolve? block.origin.parent = .ok directory)
    (located : locate machine directory config.esbuild = .ok (some program))
    (limited : config.bundleTimeout.thousandth = some limit) :
    launch machine config block =
      .ok ⟨words config program block (mustBundle config block), directory, .real limit,
        block.source⟩ := by
  unfold launch
  simp only [directoryOf_ok.mpr resolved, located, limited, bind, Except.bind]
  rfl

def missingText : Text :=
  Text.ofString "esbuild executable not found; install esbuild or set " ++ locationVariable

inductive Unready (machine : Machine) (config : Config) (block : Block) : Failure → Prop where
  | lost {failure : Failure} (failed : directoryOf machine block = .error failure) :
      Unready machine config block failure
  | unsearched {directory : Path} {fault : FileError}
      (resolved : machine.files.resolve? block.origin.parent = .ok directory)
      (failed : locate machine directory config.esbuild = .error (.file fault)) :
      Unready machine config block (.file fault)
  | missing {directory : Path}
      (resolved : machine.files.resolve? block.origin.parent = .ok directory)
      (located : locate machine directory config.esbuild = .ok none) :
      Unready machine config block (.bundling missingText)
  | late {directory : Path} {program : Text}
      (resolved : machine.files.resolve? block.origin.parent = .ok directory)
      (located : locate machine directory config.esbuild = .ok (some program))
      (unlimited : config.bundleTimeout.thousandth = none) :
      Unready machine config block .numberTooLarge

theorem locate_error {configured : Option Text}
    (failed : locate machine directory configured = .error failure) :
    ∃ fault, failure = .file fault := by
  unfold locate at failed
  split at failed
  all_goals
    obtain ⟨fault, -, rfl⟩ := Except.mapError_error.mp failed
    exact ⟨fault, rfl⟩

theorem launch_error (failed : launch machine config block = .error failure) :
    Unready machine config block failure := by
  rcases Except.bind_error.mp failed with failed | ⟨directory, resolved, failed⟩
  · exact .lost failed
  rw [directoryOf_ok] at resolved
  rcases Except.bind_error.mp failed with failed | ⟨found, located, failed⟩
  · obtain ⟨fault, rfl⟩ := locate_error failed
    exact .unsearched resolved failed
  cases found with
  | none =>
      cases failed
      exact .missing resolved located
  | some program =>
      cases limited : config.bundleTimeout.thousandth with
      | none =>
          rw [limited] at failed
          cases failed
          exact .late resolved located limited
      | some limit =>
          rw [limited] at failed
          cases failed

end Bundler

namespace Sandbox

variable {runnable : Runnable}

def hostLimit (config : Config) : Option Binary64 :=
  (config.timeout.addWhole grace).bind Amount.thousandth

theorem hostLimit_none :
    hostLimit config = none ↔
      ∃ n, config.timeout = .whole n ∧ Binary64.overflow ≤ (n + grace).natAbs := by
  unfold hostLimit
  cases config.timeout with
  | whole n => simp [Amount.addWhole, Amount.thousandth_none]
  | real x =>
      have small : (Binary64.ofInt? grace).isSome = true := by decide +kernel
      obtain ⟨y, same⟩ := Option.isSome_iff_exists.mp small
      simp [Amount.addWhole, same, Amount.thousandth, Amount.float?]

theorem payload_ok {told : Json} :
    payload machine config block runnable = .ok told ↔
      ∃ directory, Bundler.directoryOf machine block = .ok directory ∧
        told = .object
          [("code", .str runnable.code), ("filename", .str runnable.filename),
           ("timeoutMs", config.timeout.toJson), ("resolveDir", .str directory.toText),
           ("dom", .bool (Source.usesPage block.source)),
           ("allowedModules", .list (config.allowedModules.map .str))] := by
  rw [payload, Except.bind_ok]
  refine exists_congr fun directory => and_congr_right fun _ => ?_
  exact ⟨fun made => (Except.ok.inj made).symm, fun made => congrArg Except.ok made.symm⟩

theorem timeout_showable {limit : Binary64} (limited : hostLimit config = some limit) :
    config.timeout.toJson.isShowable = true := by
  cases time : config.timeout with
  | real x => rfl
  | whole n =>
      -- A number that is no longer than the largest floating-point one has few digits.
      have within : ¬ Binary64.overflow ≤ (n + grace).natAbs := by
        intro long
        rw [hostLimit_none.mpr ⟨n, time, long⟩] at limited
        cases limited
      have bound : Binary64.overflow + grace.natAbs < tenTo 400 := by decide +kernel
      have small : n.natAbs < tenTo 400 := by
        have apart : n.natAbs ≤ (n + grace).natAbs + grace.natAbs := by omega
        omega
      exact Integer.isShort_of_lt small (by decide)

theorem payload_showable {told : Json} (made : payload machine config block runnable = .ok told)
    (timed : config.timeout.toJson.isShowable = true) : told.isShowable = true := by
  obtain ⟨directory, -, rfl⟩ := payload_ok.mp made
  simp [Json.isShowable_object, Json.isShowable_list, timed]

theorem launch_ok (ready : launch machine config block runnable = .ok start) :
    ∃ limit told,
      machine.files.resolve? block.origin.parent = .ok start.directory ∧
        hostLimit config = some limit ∧ payload machine config block runnable = .ok told ∧
        start = ⟨[config.node, machine.hostScript], start.directory, .real limit,
          Json.write .log told⟩ := by
  obtain ⟨directory, resolved, ready⟩ := Except.bind_ok.mp ready
  cases limited : hostLimit config with
  | none =>
      rw [hostLimit] at limited
      rw [limited] at ready
      cases ready
  | some limit =>
      have known : (config.timeout.addWhole grace).bind Amount.thousandth = some limit := limited
      rw [known] at ready
      obtain ⟨told, made, ready⟩ := Except.bind_ok.mp ready
      rw [Failure.showing, payload_showable made (timeout_showable limited), if_pos rfl] at ready
      cases ready
      exact ⟨limit, told, Bundler.directoryOf_ok.mp resolved, rfl, made, rfl⟩

theorem launch_ready {limit : Binary64} (runnable : Runnable)
    (resolved : machine.files.resolve? block.origin.parent = .ok directory)
    (limited : hostLimit config = some limit) :
    ∃ input, launch machine config block runnable =
      .ok ⟨[config.node, machine.hostScript], directory, .real limit, input⟩ := by
  obtain ⟨told, made⟩ : ∃ told, payload machine config block runnable = .ok told :=
    ⟨_, payload_ok.mpr ⟨directory, Bundler.directoryOf_ok.mpr resolved, rfl⟩⟩
  have shown := payload_showable made (timeout_showable limited)
  rw [hostLimit] at limited
  unfold launch
  simp only [Bundler.directoryOf_ok.mpr resolved, limited, made, Failure.showing, shown, bind,
    Except.bind]
  exact ⟨_, rfl⟩

theorem payload_code {told : Json} (made : payload machine config block runnable = .ok told) :
    told.get? "code" = some (.str runnable.code) := by
  obtain ⟨directory, -, rfl⟩ := payload_ok.mp made
  rfl

theorem launch_error (failed : launch machine config block runnable = .error failure) :
    Bundler.directoryOf machine block = .error failure ∨
      (hostLimit config = none ∧ failure = .numberTooLarge) := by
  rcases Except.bind_error.mp failed with failed | ⟨directory, resolved, failed⟩
  · exact Or.inl failed
  cases limited : hostLimit config with
  | none =>
      rw [hostLimit] at limited
      rw [limited] at failed
      cases failed
      exact Or.inr ⟨rfl, rfl⟩
  | some limit =>
      have known : (config.timeout.addWhole grace).bind Amount.thousandth = some limit := limited
      rw [known] at failed
      -- The directory is known by now, so nothing is left that could fail.
      obtain ⟨told, made⟩ : ∃ told, payload machine config block runnable = .ok told :=
        ⟨_, payload_ok.mpr ⟨directory, resolved, rfl⟩⟩
      rcases Except.bind_error.mp failed with failed | ⟨other, same, failed⟩
      · rw [made] at failed
        cases failed
      · rw [Failure.showing, payload_showable same (timeout_showable limited), if_pos rfl] at failed
        cases failed

/-! A small workshop, in which programs end as they are told to. -/

/-- A machine with a bundler in its root directory. -/
def workshop (launch : Launch → Ending) : Machine :=
  { files := ⟨.directory [("e", .file [] true)], []⟩
    environment := [], processors := none, clock := ⟨2024, 1, 1, 0, 0, 0, 0⟩, elapsed := 3
    hostScript := "host", launch }

def workshopConfig : Config := { Config.defaults with esbuild := some "/e" }

def typedBlock : Block := ⟨"ts", "x\n", ⟨[], ["a.md"]⟩, 1, []⟩

def rootPath : Path := ⟨[Path.slash], []⟩

theorem workshop_resolved (launch : Launch → Ending) :
    (workshop launch).files.resolve? typedBlock.origin.parent = .ok rootPath := rfl

theorem workshop_program (launch : Launch → Ending) :
    (workshop launch).files.isProgram "/e" = true := rfl

theorem workshop_located (launch : Launch → Ending) :
    Bundler.locate (workshop launch) rootPath workshopConfig.esbuild = .ok (some "/e") := by
  have named : workshopConfig.esbuild.filter (!·.isEmpty) = some (Text.ofString "/e") := by
    decide +kernel
  have slash : Path.slash ∈ Text.ofString "/e" := by decide +kernel
  rw [Bundler.locate, named, Option.some_or]
  simp only [Bundler.chosen?, Program.find?, if_pos slash, workshop_program]
  rfl

theorem workshop_bundleLimit :
    workshopConfig.bundleTimeout.thousandth = some ⟨4629137466983448576⟩ := by decide +kernel

theorem workshop_hostLimit : hostLimit workshopConfig = some ⟨4619567317775286272⟩ := by
  decide +kernel

theorem workshop_made (launch : Launch → Ending) :
    ∃ start, Bundler.launch (workshop launch) workshopConfig typedBlock = .ok start ∧
      start.words.head? = some (Text.ofString "/e") :=
  ⟨_, Bundler.launch_ready (workshop_resolved launch) (workshop_located launch) workshop_bundleLimit,
    rfl⟩

def goodReport : Text := Text.ofString "ready\n" ++ HostReport.shortReport.line ++ [.char '\n']

theorem goodReport_read :
    ∃ fields, HostLine.ofOutput goodReport = .ok (some fields) ∧
      fields.get? "success" = some (.bool true) := by
  have read := HostReport.ofOutput_line HostReport.shortReport HostReport.ready_ended
  rw [HostReport.shortReport_whole] at read
  exact ⟨_, read, HostReport.shortReport.fields_get.1⟩

end Sandbox

end FenceCheck
