import FenceCheck.Proofs.BlockCourse
import FenceCheck.Proofs.DiscoveredItems
import FenceCheck.Proofs.ReportFit
import FenceCheck.Proofs.RunFigures

/-!
The figures of a run are within the bounds of a report: items are numbered from zero and lines from
one, and an outcome takes the time that the machine took for it.
-/

namespace FenceCheck

theorem Fence.line_of_block {origin : Path} {lines : List Text} {block : Block}
    (member : block ∈ (extractLines origin 1 none lines).blocks) : 1 ≤ block.line := by
  rw [extractLines_paired] at member
  obtain ⟨opening, among, rfl⟩ := List.mem_map.mp ((paired_sublist origin _).subset member)
  obtain ⟨before, line, after, -, -, rfl⟩ := sections_content among
  exact Int.ofNat_le.mpr (Nat.le_add_right 1 before.length)

theorem Document.extract_lines {files : Files} {documents : List Path} {extraction : Extraction}
    (extracted : extract files documents = .ok extraction) :
    ∀ block ∈ extraction.blocks, 1 ≤ block.line := by
  induction documents generalizing extraction with
  | nil =>
      cases extracted
      exact List.forall_mem_nil _
  | cons document rest ih =>
      rw [extract] at extracted
      split at extracted
      · cases extracted
      · split at extracted
        · cases extracted
        next others later =>
            cases extracted
            exact List.forall_mem_append.mpr ⟨fun block member => Fence.line_of_block member, ih later⟩

theorem Discovery.item_bounds {machine : Machine} {config : Config} {context : Option Context}
    {warns : Bool} {target : Path} {discovery : Discovery}
    (found : (ofTarget machine config context warns target).perform.1 = .ok discovery) :
    ∀ item ∈ discovery.items, 0 ≤ item.index ∧ 1 ≤ item.block.line := by
  obtain ⟨documents, base, extraction, -, -, extracted, rfl⟩ := ofTarget_found found
  intro item member
  obtain ⟨position, here⟩ := List.mem_iff_getElem?.mp member
  refine ⟨(number_index base _ position item here) ▸ Int.natCast_nonneg position, ?_⟩
  rw [number, List.getElem?_mapIdx] at here
  obtain ⟨block, selected, rfl⟩ := Option.map_eq_some_iff.mp here
  exact Document.extract_lines (Except.mapError_ok.mp extracted) block
    (List.mem_filter.mp (List.mem_of_getElem? selected)).1

namespace Sandbox

variable {machine : Machine} {config : Config} {context : Option Context} {block : Block}

theorem Course.duration {launches : List Launch} {outcome : Outcome}
    (course : Course machine config block launches (.ok outcome)) :
    outcome.duration = machine.elapsed := by
  cases course with
  | stopped | silent => rfl
  | @reported _ _ _ _ _ _ fields =>
      rw [ofReport]
      split <;> rfl

theorem ofFailure_duration {failure : Failure} {outcome : Outcome}
    (made : ofFailure machine block failure = some outcome) : outcome.duration = machine.elapsed := by
  unfold ofFailure at made
  split at made
  · cases made
    rfl
  · split at made
    · cases made
      rfl
    · cases made

/-- An outcome takes the time that the machine takes, however it comes about. -/
theorem check_duration {outcome : Outcome}
    (checked : (check machine config context block).perform.1 = .ok outcome) :
    outcome.duration = machine.elapsed := by
  obtain ⟨launches, attempted, course, result, -⟩ :=
    check_course machine config context (check_named checked)
  rw [result] at checked
  cases attempted with
  | ok given =>
      cases checked
      exact course.duration
  | error failure =>
      rw [settled] at checked
      split at checked
      next handled =>
          cases checked
          exact ofFailure_duration handled
      · cases checked

end Sandbox

namespace Report

theorem bounds_aborted (target : Option Path) (error : Text) : Bounds (.aborted target error) where
  total := Int.le_refl 0
  passed := Int.le_refl 0
  failed := Int.one_nonneg
  documents := Int.le_refl 0
  duration := Int.le_refl 0
  workers := ⟨1, .inl rfl⟩
  rows := List.forall_mem_nil _

theorem bounds_ofOutcomes {items : List Item} {outcomes : List Outcome} {documents duration n : Int}
    {target : Option Path} {concurrency : Amount} (stands : concurrency.Stands n)
    (counted : 0 ≤ documents) (timed : 0 ≤ duration)
    (rows : ∀ entry ∈ items.zip outcomes, RowBounds entry) :
    Bounds (.ofOutcomes items outcomes documents duration target concurrency) where
  total := Int.natCast_nonneg _
  passed := Int.natCast_nonneg _
  failed := Int.sub_nonneg_of_le (Int.ofNat_le.mpr List.countP_le_length)
  documents := counted
  duration := timed
  workers := ⟨n, stands⟩
  rows := rows

end Report

namespace Run

open Pool

variable {machine : Machine} {config : Config} {context : Option Context} {target : Path}
  {concurrency : Amount} {style : ConsoleStyle} {summary : Summary} {events : Transcript}

theorem outcomeOf_duration (items : List Item) (block : Block) :
    ((crew machine context (inSandbox machine config context) items).outcomeOf block).duration =
      machine.elapsed := by
  unfold Crew.outcomeOf
  split
  next outcome executed =>
      exact Sandbox.check_duration (Except.mapError_ok.mp executed)
  · rfl

theorem Ended.bounds {n : Int} (stands : concurrency.Stands n)
    (ended : Ended machine config context (inSandbox machine config context) target concurrency style
      summary events) : Report.Bounds summary := by
  cases ended with
  | aborted => exact Report.bounds_aborted _ _
  | idle =>
      exact Report.bounds_ofOutcomes stands (Int.natCast_nonneg _) (Int.natCast_nonneg _)
        (List.forall_mem_nil _)
  | worked discovered filled each made figures =>
      subst figures
      refine Report.bounds_ofOutcomes stands (Int.natCast_nonneg _) (Int.natCast_nonneg _) ?_
      intro entry member
      obtain ⟨item, outcome⟩ := List.of_mem_zip member
      obtain ⟨index, line⟩ := Discovery.item_bounds (congrArg Prod.fst discovered) _ item
      obtain ⟨block, same⟩ := made _ outcome
      refine ⟨index, line, ?_⟩
      rw [same, outcomeOf_duration]
      exact Int.natCast_nonneg _

end Run

end FenceCheck
