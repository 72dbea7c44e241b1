import FenceCheck.Proofs.LineText
import FenceCheck.Sandbox.HostLine

/-!
Which line a host is taken to report by: the last one that holds an object with a `success` field. The
reading fails where a later line is JSON that cannot be followed.
-/

namespace FenceCheck

namespace Json

theorem space_isBlank {c : CodePoint} (space : isSpace c = true) : c.isBlank = true := by
  simp only [isSpace, Bool.or_eq_true, decide_eq_true_eq] at space
  rcases space with ((rfl | rfl) | rfl) | rfl <;> decide

theorem skipSpace_strip (line : Text) : skipSpace (Text.strip line) = Text.strip line := by
  cases stripped : Text.strip line with
  | nil => rfl
  | cons c rest =>
      rw [skipSpace, List.dropWhile_cons_of_neg]
      intro space
      exact Text.strip_head (by rw [stripped]; rfl) (space_isBlank space)

theorem readAtom_object {t rest : Text} {fields : Fields} :
    readAtom t ≠ .ok (.object fields, rest) := by
  intro read
  unfold readAtom at read
  split at read
  case h_1 found =>
      cases read
      obtain ⟨entry, among, here⟩ := List.exists_of_findSome?_eq_some found
      obtain ⟨behind, -, same⟩ := Option.map_eq_some_iff.mp here
      have value : entry.2 = .object fields := congrArg Prod.fst same
      simp only [constants, List.mem_cons, List.not_mem_nil, or_false] at among
      rcases among with rfl | rfl | rfl | rfl | rfl | rfl <;> cases value
  case h_2 =>
      split at read
      case h_1 => cases read
      case h_2 number behind =>
          split at read
          case h_1 value written =>
              cases read
              unfold NumberText.toJson at written
              split at written
              · cases written
              · split at written <;> cases written
          case h_2 => cases read

theorem readValue_object {room fuel : Nat} {t rest : Text} {fields : Fields}
    (read : readValue room fuel t = .ok (.object fields, rest)) :
    Text.startsWith t "\x7b" = true := by
  cases fuel with
  | zero => cases read
  | succ fuel =>
      unfold readValue at read
      split at read
      case h_1 => split at read <;> cases read
      case h_2 =>
          split at read
          · cases read
          · split at read
            · cases read
            · split at read <;> cases read
      case h_3 => rfl
      case h_4 => exact absurd read readAtom_object

theorem read_object {line : Text} {fields : Fields}
    (read : read (Text.strip line) = .ok (.object fields)) :
    Text.startsWith (Text.strip line) "\x7b" = true := by
  unfold Json.read at read
  rw [skipSpace_strip] at read
  split at read
  case h_1 => cases read
  case h_2 =>
      split at read
      case h_1 => cases read
      case h_2 value behind valued =>
          split at read
          case h_1 =>
              cases read
              exact readValue_object valued
          case h_2 => cases read

end Json

namespace HostLine

/-- A line holds an object that reports. -/
def Reports (line : Text) (fields : Json.Fields) : Prop :=
  Json.read (Text.strip line) = .ok (.object fields) ∧ (fields.get? "success").isSome = true

/-- A line opens like an object but goes on past what can be followed. -/
def Chokes (line : Text) (fault : Json.Fault) : Prop :=
  Text.startsWith (Text.strip line) "\x7b" = true ∧
    Json.read (Text.strip line) = .error fault ∧ fault.isSyntax = false

theorem ofLine_some {line : Text} {fields : Json.Fields} :
    ofLine line = .ok (some fields) ↔ Reports line fields := by
  constructor
  · intro told
    simp only [ofLine] at told
    split at told
    · cases told
    · split at told
      case h_1 found read =>
          split at told
          · cases told
            exact ⟨read, ‹_›⟩
          · cases told
      case h_2 => cases told
      case h_3 => split at told <;> cases told
  · rintro ⟨read, present⟩
    have present : (fields.lookup ↑"success").isSome = true := present
    simp only [ofLine, Json.read_object read, read, present, Bool.not_true, Bool.false_eq_true,
      ↓reduceIte]

theorem ofLine_error {line : Text} {fault : Json.Fault} :
    ofLine line = .error fault ↔ Chokes line fault := by
  constructor
  · intro told
    simp only [ofLine] at told
    split at told
    case isTrue => cases told
    case isFalse opened =>
        split at told
        · cases told
        · cases told
        · split at told
          case isTrue => cases told
          case isFalse deep =>
              cases told
              exact ⟨by simpa using opened, ‹_›, by simpa using deep⟩
  · rintro ⟨opened, read, deep⟩
    simp only [ofLine, opened, read, deep, Bool.not_true, Bool.false_eq_true, ↓reduceIte]

theorem ofLine_none {line : Text} :
    ofLine line = .ok none ↔ (∀ fields, ¬ Reports line fields) ∧ ∀ fault, ¬ Chokes line fault := by
  simp only [← ofLine_some, ← ofLine_error]
  rcases told : ofLine line with fault | (none | fields) <;> simp

theorem firstOf_told {lines : List Text} {answer : Except Json.Fault (Option Json.Fields)}
    (told : answer ≠ .ok none) (found : firstOf lines = answer) :
    ∃ before line after, lines = before ++ line :: after ∧ ofLine line = answer ∧
      ∀ other ∈ before, ofLine other = .ok none := by
  induction lines with
  | nil => exact absurd found.symm told
  | cons first rest ih =>
      rw [firstOf] at found
      split at found
      case h_1 quiet =>
          obtain ⟨before, line, after, rfl, here, silent⟩ := ih found
          exact ⟨first :: before, line, after, rfl, here, List.forall_mem_cons.mpr ⟨quiet, silent⟩⟩
      case h_2 => exact ⟨[], first, rest, rfl, found, by simp⟩

theorem firstOf_unreported {before : List Text} (rest : List Text)
    (unreported : ∀ line ∈ before, ∀ fields, ¬ Reports line fields) :
    firstOf (before ++ rest) = firstOf rest ∨ ∃ fault, firstOf (before ++ rest) = .error fault := by
  induction before with
  | nil => exact Or.inl rfl
  | cons first before ih =>
      obtain ⟨here, further⟩ := List.forall_mem_cons.mp unreported
      rw [List.cons_append, firstOf]
      cases told : ofLine first with
      | error fault => exact Or.inr ⟨fault, rfl⟩
      | ok found =>
          cases found with
          | none => exact ih further
          | some fields => exact absurd (ofLine_some.mp told) (here fields)

theorem firstOf_append (front back : List Text) :
    firstOf (front ++ back) =
      match firstOf front with
      | .ok none => firstOf back
      | answer => answer := by
  induction front with
  | nil => rfl
  | cons line rest ih =>
      rw [List.cons_append, firstOf, firstOf]
      rcases ofLine line with fault | (none | fields)
      · rfl
      · exact ih
      · rfl

theorem firstOf_silent {before : List Text} (rest : List Text)
    (silent : ∀ line ∈ before, ofLine line = .ok none) : firstOf (before ++ rest) = firstOf rest := by
  induction before with
  | nil => rfl
  | cons first before ih =>
      obtain ⟨here, further⟩ := List.forall_mem_cons.mp silent
      rw [List.cons_append, firstOf, here]
      exact ih further

theorem lines_reverse {output line : Text} {earlier later : List Text}
    (split : Text.lines output = earlier ++ line :: later) :
    (Text.lines output).reverse = later.reverse ++ line :: earlier.reverse := by
  simp [split]

theorem ofOutput_told {output : Text} {answer : Except Json.Fault (Option Json.Fields)}
    (told : answer ≠ .ok none) (found : ofOutput output = answer) :
    ∃ earlier line later, Text.lines output = earlier ++ line :: later ∧ ofLine line = answer ∧
      ∀ other ∈ later, ofLine other = .ok none := by
  obtain ⟨before, line, after, split, here, silent⟩ := firstOf_told told found
  refine ⟨after.reverse, line, before.reverse, ?_, here, ?_⟩
  · simpa using congrArg List.reverse split
  · intro other among
    exact silent other (List.mem_reverse.mp among)

/-- The last line of an output that reports holds these fields. -/
def IsLast (output : Text) (fields : Json.Fields) : Prop :=
  ∃ earlier line later, Text.lines output = earlier ++ line :: later ∧ Reports line fields ∧
    ∀ other ∈ later, ∀ more, ¬ Reports other more

/-- A line of an output chokes, and no line behind it reports or chokes. -/
def Breaks (output : Text) (fault : Json.Fault) : Prop :=
  ∃ earlier line later, Text.lines output = earlier ++ line :: later ∧ Chokes line fault ∧
    ∀ other ∈ later, (∀ fields, ¬ Reports other fields) ∧ ∀ more, ¬ Chokes other more

theorem ofOutput_error {output : Text} {fault : Json.Fault} :
    ofOutput output = .error fault ↔ Breaks output fault := by
  constructor
  · intro read
    obtain ⟨earlier, line, later, split, here, silent⟩ := ofOutput_told (by simp) read
    refine ⟨earlier, line, later, split, ofLine_error.mp here, fun other among => ?_⟩
    exact ofLine_none.mp (silent other among)
  · rintro ⟨earlier, line, later, split, chokes, silent⟩
    have quiet : ∀ other ∈ later.reverse, ofLine other = .ok none := fun other among =>
      ofLine_none.mpr (silent other (List.mem_reverse.mp among))
    rw [ofOutput, lines_reverse split, firstOf_silent _ quiet, firstOf, ofLine_error.mpr chokes]

theorem ofOutput_some {output : Text} {answer : Option Json.Fields} {fields : Json.Fields}
    (read : ofOutput output = .ok answer) : answer = some fields ↔ IsLast output fields := by
  constructor
  · rintro rfl
    obtain ⟨earlier, line, later, split, here, silent⟩ := ofOutput_told (by simp) read
    refine ⟨earlier, line, later, split, ofLine_some.mp here, fun other among => ?_⟩
    exact (ofLine_none.mp (silent other among)).1
  · rintro ⟨earlier, line, later, split, reports, unreported⟩
    have passed : ∀ other ∈ later.reverse, ∀ more, ¬ Reports other more := fun other among =>
      unreported other (List.mem_reverse.mp among)
    rw [ofOutput, lines_reverse split] at read
    rcases firstOf_unreported (line :: earlier.reverse) passed with here | ⟨fault, broken⟩
    · rw [here, firstOf, ofLine_some.mpr reports] at read
      cases read
      rfl
    · rw [broken] at read
      cases read

end HostLine

end FenceCheck
