import FenceCheck.Console.Call
import FenceCheck.Proofs.TidyText

/-!
Cleaning what was cleaned. A diagnosis is one line of a dump, and of what a second cleaning looks for
three things can stand in it: a place of the input that came together when another one was deleted, a
label of the bundler behind the one that was taken off, and the start of a stack frame behind a label.
Where there is none of these, and only there, cleaning again changes nothing.
-/

namespace FenceCheck

theorem Text.contains_iff {t part : Text} : contains t part = true ↔ part <:+: t := by
  induction t with
  | nil => rw [contains, List.isEmpty_iff, List.infix_nil]
  | cons c rest ih =>
      rw [contains, Bool.or_eq_true, ih, List.isPrefixOf_iff_prefix, List.infix_cons_iff]

namespace Pattern

variable {pattern : Pattern} {t : Text}

theorem deleteFrom_sublist (pattern : Pattern) (t : Text) (previous : Option CodePoint) (skip : Nat) :
    (deleteFrom pattern previous skip t).Sublist t := by
  induction t generalizing previous skip with
  | nil => exact .slnil
  | cons c rest ih =>
      cases skip with
      | succ skip => exact (ih _ skip).cons c
      | zero =>
          rw [deleteFrom]
          split
          · exact (ih _ 0).cons_cons c
          · exact (ih _ _).cons c

theorem deleteAll_sublist (pattern : Pattern) (t : Text) : (pattern.deleteAll t).Sublist t :=
  deleteFrom_sublist pattern t none 0

/-- A pattern that matches no empty text leaves a text as it is just if it does not occur in it. -/
theorem deleteAll_eq_self
    (proper : ∀ cursor behind, pattern.match? cursor = some behind →
      behind.rest.length < cursor.rest.length) :
    pattern.deleteAll t = t ↔ pattern.occursIn t = false := by
  unfold deleteAll occursIn
  generalize (none : Option CodePoint) = previous
  induction t generalizing previous with
  | nil =>
      have unmatched : pattern.match? ⟨previous, []⟩ = none := by
        refine Option.eq_none_iff_forall_ne_some.mpr fun behind found => ?_
        exact absurd (proper _ _ found) (Nat.not_lt_zero _)
      simp [deleteFrom, firstFrom, unmatched]
  | cons c rest ih =>
      rw [deleteFrom, firstFrom]
      split
      case h_1 unmatched =>
          rw [unmatched, Option.none_or, ← ih (some c)]
          exact ⟨fun same => (List.cons.inj same).2, congrArg (c :: ·)⟩
      case h_2 behind matched =>
          -- What is left of a match is shorter than what it was found in.
          refine iff_of_false (fun same => ?_) (by simp [matched])
          have fewer := (deleteFrom_sublist pattern rest (some c)
            (rest.length - behind.rest.length)).length_le
          rw [same] at fewer
          exact absurd fewer (Nat.not_succ_le_self _)

end Pattern

namespace Diagnostic

/-- A text in which cleaning finds nothing to take off or to pass over. -/
structure Settled (t : Text) : Prop where
  placeless : inputPlace.occursIn t = false
  unlabelled : bundlerLabel.match? (Cursor.start t) = none
  frameless : stackFrame.match? (Cursor.start t) = none

variable {dump line t : Text}

theorem inputPlace_proper (cursor behind : Cursor) (found : inputPlace.match? cursor = some behind) :
    behind.rest.length < cursor.rest.length := by
  obtain ⟨between, here, further⟩ := @Pattern.literal_rest _ _ _ _ "[stdin]:" found
  obtain ⟨last, suffix, final⟩ := Pattern.runThen_rest _ further
  cases final
  rw [here, List.length_append]
  exact Nat.lt_of_le_of_lt suffix.length_le (Nat.lt_add_of_pos_left (by decide))

theorem label_proper {cursor behind : Cursor} (found : bundlerLabel.match? cursor = some behind) :
    behind.rest.length < cursor.rest.length := by
  have stepwise : (Pattern.optional (.seq (.literal "✘") .blanks)).runThen
      ((Pattern.literal "[ERROR]").runThen (Pattern.blanks.runThen some)) cursor = some behind := found
  obtain ⟨marked, first, further⟩ := Pattern.runThen_rest _ stepwise
  obtain ⟨worded, here, final⟩ := Pattern.literal_rest further
  obtain ⟨last, suffix, same⟩ := Pattern.runThen_rest _ final
  cases same
  have start := first.length_le
  rw [here, List.length_append] at start
  have word : 0 < (Text.ofString "[ERROR]").length := by decide
  have shorter := suffix.length_le
  omega

theorem meaningOf_within (line : Text) : meaningOf line <:+: line := by
  rw [meaningOf]
  split
  case h_1 behind labelled =>
      exact (Pattern.match_suffix labelled).isInfix.trans (Text.strip_infix line)
  case h_2 => exact Text.strip_infix line

theorem meaningOf_eq_self : meaningOf line = line ↔
    Text.strip line = line ∧ bundlerLabel.match? (Cursor.start line) = none := by
  constructor
  · intro same
    have stripped : Text.strip line = line := by
      apply (Text.strip_infix line).eq_of_length_le
      rw [meaningOf] at same
      split at same
      case h_1 behind labelled =>
          calc line.length
            _ = behind.rest.length := by rw [same]
            _ ≤ (Text.strip line).length := Nat.le_of_lt (label_proper labelled)
      case h_2 => exact Nat.le_of_eq (congrArg List.length same).symm
    refine ⟨stripped, Option.eq_none_iff_forall_ne_some.mpr fun behind labelled => ?_⟩
    have shorter := label_proper labelled
    simp only [meaningOf, stripped, labelled] at same
    rw [same] at shorter
    exact Nat.lt_irrefl _ shorter
  · rintro ⟨stripped, unlabelled⟩
    simp only [meaningOf, stripped, unlabelled]

theorem firstMeaning_some {lines : List Text} (some : firstMeaning lines ≠ []) :
    ∃ line ∈ lines, isNoise line = false ∧ firstMeaning lines = meaningOf line := by
  induction lines with
  | nil => exact absurd rfl some
  | cons line rest ih =>
      have later (same : firstMeaning (line :: rest) = firstMeaning rest) :
          ∃ other ∈ line :: rest, isNoise other = false ∧
            firstMeaning (line :: rest) = meaningOf other := by
        rw [same] at some ⊢
        obtain ⟨other, member, told⟩ := ih some
        exact ⟨other, List.mem_cons_of_mem _ member, told⟩
      by_cases noise : isNoise line = true
      · exact later (by rw [firstMeaning, if_pos noise])
      · by_cases empty : meaningOf line = []
        · apply later
          rw [firstMeaning, if_neg noise, empty]
        · refine ⟨line, List.mem_cons_self, Bool.eq_false_iff.mpr noise, ?_⟩
          rw [firstMeaning, if_neg noise]
          split
          case h_1 none => exact absurd none empty
          case h_2 => rfl

theorem clean_meaning (some : clean dump ≠ []) :
    ∃ line ∈ dumpLines dump, isNoise line = false ∧ clean dump = meaningOf line :=
  firstMeaning_some some

theorem clean_sublist (dump : Text) : (clean dump).Sublist dump := by
  by_cases none : clean dump = []
  · rw [none]
    exact List.nil_sublist dump
  · obtain ⟨line, among, -, same⟩ := clean_meaning none
    rw [same]
    have deleted := (Pattern.deleteAll_sublist inputPlace _).trans
      (Pattern.deleteAll_sublist evaluatedPlace dump)
    exact ((meaningOf_within line).sublist.trans (Text.lines_infix among).sublist).trans deleted

theorem clean_unmarked (dump : Text) {marker : Text} (among : marker ∈ noiseMarkers) :
    ¬ marker <:+: clean dump := by
  by_cases none : clean dump = []
  · rw [none, List.infix_nil]
    rintro rfl
    exact absurd among (by decide)
  · obtain ⟨line, -, quiet, same⟩ := clean_meaning none
    rw [isNoise, Bool.or_eq_false_iff, List.any_eq_false] at quiet
    intro inside
    rw [same] at inside
    exact quiet.1 marker among (Text.contains_iff.mpr (inside.trans (meaningOf_within line)))

theorem evaluatedPlace_absent (absent : ¬ Text.ofString "file://" <:+: t) :
    evaluatedPlace.deleteAll t = t := by
  refine Pattern.deleteAll_unmatched fun previous rest suffix => ?_
  refine Option.eq_none_iff_forall_ne_some.mpr fun behind found => absent ?_
  obtain ⟨between, here, -⟩ := @Pattern.literal_rest _ _ _ _ "file://" found
  have begins : Text.ofString "file://" <+: rest := ⟨between.rest, here.symm⟩
  exact begins.isInfix.trans suffix.isInfix

/-- A second cleaning deletes the places of the input from the one line that is left, and no more. -/
theorem dumpLines_clean (dump : Text) :
    dumpLines (clean dump) = Text.lines (inputPlace.deleteAll (clean dump)) := by
  have absent : ¬ Text.ofString "file://" <:+: clean dump := clean_unmarked dump (by decide)
  rw [dumpLines, evaluatedPlace_absent absent]

theorem clean_settled (settled : Settled (clean dump)) : clean (clean dump) = clean dump := by
  rcases clean_tidy dump with none | tidy
  · rw [none]
    rfl
  · have lines : dumpLines (clean dump) = [clean dump] := by
      rw [dumpLines_clean, (Pattern.deleteAll_eq_self inputPlace_proper).mpr settled.placeless]
      exact Text.lines_whole tidy.some tidy.whole
    have quiet : isNoise (clean dump) = false := by
      rw [isNoise, Bool.or_eq_false_iff, List.any_eq_false]
      refine ⟨fun marker among inside => ?_, by rw [settled.frameless]; rfl⟩
      exact clean_unmarked dump among (Text.contains_iff.mp inside)
    have meaning := meaningOf_eq_self.mpr ⟨tidy.stripped, settled.unlabelled⟩
    have once : firstMeaning [clean dump] = clean dump := by
      rw [firstMeaning, quiet, if_neg Bool.false_ne_true, meaning]
      split
      case h_1 none => exact none.symm
      case h_2 => rfl
    rw [clean, lines, once]

theorem settled_of_clean (same : clean (clean dump) = clean dump) (some : clean dump ≠ []) :
    Settled (clean dump) := by
  have again : clean (clean dump) ≠ [] := by rwa [same]
  obtain ⟨line, among, quiet, meaning⟩ := clean_meaning again
  rw [same] at meaning
  rw [dumpLines_clean] at among
  -- Each step of a cleaning only leaves out, so if nothing is missing at the end no step did anything.
  have deleted := Pattern.deleteAll_sublist inputPlace (clean dump)
  have cut := Text.lines_infix among
  have stripped := meaningOf_within line
  rw [← meaning] at stripped
  have whole : clean dump = line :=
    stripped.sublist.eq_of_length_le (Nat.le_trans cut.length_le deleted.length_le)
  rw [← whole] at cut quiet meaning
  have placeless := deleted.eq_of_length_le cut.length_le
  rw [isNoise, Bool.or_eq_false_iff, Option.isSome_eq_false_iff, Option.isNone_iff_eq_none] at quiet
  exact ⟨(Pattern.deleteAll_eq_self inputPlace_proper).mp placeless,
    (meaningOf_eq_self.mp meaning.symm).2, quiet.2⟩

theorem clean_clean_iff (dump : Text) :
    clean (clean dump) = clean dump ↔ clean dump = [] ∨ Settled (clean dump) := by
  constructor
  · intro same
    by_cases none : clean dump = []
    · exact Or.inl none
    · exact Or.inr (settled_of_clean same none)
  · rintro (none | settled)
    · rw [none]
      rfl
    · exact clean_settled settled

end Diagnostic

namespace Console

def failedLines (style : ConsoleStyle) (item : Item) (message : Text) : Text :=
  paint style .red "✗" ++ .char ' ' :: item.label ++ .char '\n' ::
    match message with
    | [] => []
    | message => Text.ofString "  " ++ paint style .gray message ++ [.char '\n']

theorem finishedLines_failed (style : ConsoleStyle) (item : Item) {outcome : Outcome}
    (failed : outcome.passed = false) :
    finishedLines style item outcome =
      failedLines style item (Diagnostic.clean (outcome.error.getD [])) := by
  rw [finishedLines, failed, if_neg Bool.false_ne_true]
  unfold failedLines
  cases Diagnostic.clean (outcome.error.getD []) <;> rfl

theorem paint_inj {style : ConsoleStyle} {color : Color} {text other : Text}
    (same : paint style color text = paint style color other) : text = other := by
  unfold paint at same
  split at same
  · exact List.append_cancel_left (List.append_cancel_right same)
  · exact same

theorem failedLines_inj {style : ConsoleStyle} {item : Item} {message other : Text}
    (same : failedLines style item message = failedLines style item other) : message = other := by
  have tails := (List.cons.inj (List.append_cancel_left same)).2
  cases message with
  | nil =>
      cases other with
      | nil => rfl
      | cons => cases tails
  | cons =>
      cases other with
      | nil => cases tails
      | cons => exact paint_inj (List.append_cancel_left (List.append_cancel_right tails))

end Console

namespace Diagnostic

/-- Cleaning a diagnosis again leaves it as it is just if nothing is in it that cleaning looks for; else
it becomes shorter. The console cleans the message that the reports of a failed item show as it is, so
it shows the same just if that is so. -/
theorem cleaning_again (dump : Text) :
    (clean (clean dump) = clean dump ↔ clean dump = [] ∨ Settled (clean dump)) ∧
      (clean (clean dump) = clean dump ∨ (clean (clean dump)).length < (clean dump).length) ∧
      ∀ (style : ConsoleStyle) (item : Item) (outcome : Outcome),
        (Console.finishedLines style item
            { outcome with passed := false, error := some (clean dump) } =
          Console.failedLines style item (clean dump) ↔ clean dump = [] ∨ Settled (clean dump)) := by
  refine ⟨clean_clean_iff dump, ?_, fun style item outcome => ?_⟩
  · have left := clean_sublist (clean dump)
    by_cases same : clean (clean dump) = clean dump
    · exact Or.inl same
    · exact Or.inr (Nat.lt_of_le_of_ne left.length_le fun long => same (left.eq_of_length long))
  · rw [Console.finishedLines_failed style item rfl, Option.getD_some, ← clean_clean_iff]
    exact ⟨Console.failedLines_inj, congrArg _⟩

/-- A stack frame behind a label, a label behind a label, and a place that comes together when the one
inside it is deleted: what is left of these dumps does not stay when it is cleaned again. -/
theorem cleaning_again_changes :
    (clean "✘ [ERROR] at least one entry point is required" =
        Text.ofString "at least one entry point is required" ∧
      clean (clean "✘ [ERROR] at least one entry point is required") = []) ∧
    (clean "[ERROR] [ERROR] boom" = Text.ofString "[ERROR] boom" ∧
      clean (clean "[ERROR] [ERROR] boom") = Text.ofString "boom") ∧
    (clean "[std[stdin]:1in]:5 boom" = Text.ofString "[stdin]:5 boom" ∧
      clean (clean "[std[stdin]:1in]:5 boom") = Text.ofString "boom") := by
  decide +kernel

end Diagnostic

end FenceCheck
