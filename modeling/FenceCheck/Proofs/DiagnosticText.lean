import FenceCheck.Diagnostic
import FenceCheck.Proofs.LineText
import FenceCheck.Proofs.PatternMeaning

/-!
A diagnosis is made of what the dump says. Deleting, splitting and stripping only leave code points
out, so none is in the meaning of a dump that is not in the dump.
-/

namespace FenceCheck

namespace Pattern

variable {α : Type} {next : Cursor → Option α} {answer : α}

theorem runThen_rest (pattern : Pattern) {cursor : Cursor}
    (found : pattern.runThen next cursor = some answer) :
    ∃ behind : Cursor, behind.rest <:+ cursor.rest ∧ next behind = some answer := by
  obtain ⟨part, rest, same, -, answered⟩ := runThen_sound pattern found
  exact ⟨_, ⟨part, same.symm⟩, answered⟩

theorem match_suffix {pattern : Pattern} {cursor behind : Cursor}
    (found : pattern.match? cursor = some behind) : behind.rest <:+ cursor.rest := by
  obtain ⟨place, suffix, same⟩ := runThen_rest pattern found
  cases same
  exact suffix

theorem mem_deleteFrom (pattern : Pattern) {c : CodePoint} {t : Text}
    (previous : Option CodePoint) (skip : Nat) (member : c ∈ deleteFrom pattern previous skip t) :
    c ∈ t := by
  induction t generalizing previous skip with
  | nil => exact member
  | cons first rest ih =>
      cases skip with
      | succ skip => exact List.mem_cons_of_mem _ (ih _ skip member)
      | zero =>
          rw [deleteFrom] at member
          split at member
          case h_1 none =>
              rcases List.mem_cons.mp member with rfl | later
              · exact List.mem_cons_self
              · exact List.mem_cons_of_mem _ (ih _ 0 later)
          case h_2 behind some => exact List.mem_cons_of_mem _ (ih _ _ member)

theorem mem_deleteAll {pattern : Pattern} {c : CodePoint} {t : Text}
    (member : c ∈ pattern.deleteAll t) : c ∈ t :=
  mem_deleteFrom pattern none 0 member

end Pattern

namespace Diagnostic

theorem mem_meaningOf {c : CodePoint} {line : Text} (member : c ∈ meaningOf line) : c ∈ line := by
  simp only [meaningOf] at member
  apply Text.mem_strip
  split at member
  case h_1 behind labelled => exact (Pattern.match_suffix labelled).subset member
  case h_2 plain => exact member

theorem mem_firstMeaning {c : CodePoint} {lines : List Text} (member : c ∈ firstMeaning lines) :
    ∃ line ∈ lines, c ∈ line := by
  induction lines with
  | nil => cases member
  | cons line rest ih =>
      have later (member : c ∈ firstMeaning rest) : ∃ other ∈ line :: rest, c ∈ other := by
        obtain ⟨other, old, inside⟩ := ih member
        exact ⟨other, List.mem_cons_of_mem _ old, inside⟩
      rw [firstMeaning] at member
      split at member
      case isTrue noise => exact later member
      case isFalse clear =>
          split at member
          case h_1 empty => exact later member
          case h_2 meaning some => exact ⟨line, List.mem_cons_self, mem_meaningOf member⟩

theorem mem_clean {c : CodePoint} {dump : Text} (member : c ∈ clean dump) : c ∈ dump := by
  obtain ⟨line, among, inside⟩ := mem_firstMeaning member
  exact Pattern.mem_deleteAll (Pattern.mem_deleteAll (Text.mem_lines among inside))

end Diagnostic

end FenceCheck
