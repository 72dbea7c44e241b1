import FenceCheck.Proofs.HostReport

/-!
What a block prints around the report of its host. Of two outputs with a line feed between them the later
one answers, and the earlier one where the later tells nothing; the outcome of the block follows the
answer.
-/

namespace FenceCheck

namespace HostLine

/-- No line of an output goes on past what can be followed: what is decoded of it fails, if at all, on
its syntax. -/
def NeverChokes (output : Text) : Prop := ∀ line ∈ Text.lines output, ∀ fault, ¬ Chokes line fault

theorem neverChokes_iff {output : Text} :
    NeverChokes output ↔ ∀ line ∈ Text.lines output, (ofLine line).isOk = true := by
  refine forall₂_congr fun line _ => ?_
  simp only [← ofLine_error]
  cases ofLine line <;> simp [Except.isOk, Except.toBool]

instance (output : Text) : Decidable (NeverChokes output) := decidable_of_iff _ neverChokes_iff.symm

/-- An output can be read, and the answer is its last report. -/
def Answers (output : Text) (answer : Option Json.Fields) : Prop :=
  ofOutput output = .ok answer ∧ ∀ fields, answer = some fields ↔ IsLast output fields

theorem answers_of_read {output : Text} {answer : Option Json.Fields}
    (read : ofOutput output = .ok answer) : Answers output answer :=
  ⟨read, fun _ => ofOutput_some read⟩

theorem NeverChokes.answers {output : Text} (never : NeverChokes output) :
    ∃ answer, Answers output answer := by
  cases read : ofOutput output with
  | error fault =>
      obtain ⟨earlier, line, later, split, chokes, -⟩ := ofOutput_error.mp read
      exact absurd chokes (never line (by simp [split]) fault)
  | ok answer => exact ⟨answer, answers_of_read read⟩

theorem ofOutput_joined (earlier later : Text) :
    ofOutput (earlier ++ .char '\n' :: later) =
      match ofOutput later with
      | .ok none => ofOutput earlier
      | answer => answer := by
  obtain ⟨blank, split, empty⟩ := Text.lines_joined earlier later
  have silent : ∀ line ∈ blank.reverse, ofLine line = .ok none := by
    intro line among
    rw [empty line (List.mem_reverse.mp among)]
    rfl
  -- The lines of the later output are tried first, and empty lines behind the earlier one tell nothing.
  rw [ofOutput, split, List.reverse_append, List.reverse_append, firstOf_append,
    firstOf_silent _ silent]
  rfl

theorem Answers.joined {earlier later : Text} {before behind : Option Json.Fields}
    (first : Answers earlier before) (second : Answers later behind) :
    Answers (earlier ++ .char '\n' :: later) (behind.or before) := by
  apply answers_of_read
  rw [ofOutput_joined, first.1, second.1]
  cases behind <;> rfl

end HostLine

namespace Sandbox

theorem ofFinished_joined (machine : Machine) (config : Config) (block : Block) (code : Int)
    (earlier later errors : Text) :
    ofFinished machine config block ⟨code, earlier ++ .char '\n' :: later, errors, false⟩ =
      match HostLine.ofOutput later with
      | .ok none => ofFinished machine config block ⟨code, earlier, errors, false⟩
      | _ => ofFinished machine config block ⟨code, later, errors, false⟩ := by
  simp only [ofFinished, HostLine.ofOutput_joined]
  rcases HostLine.ofOutput later with fault | (none | fields) <;> rfl

end Sandbox

namespace HostLine

/-- Around a report there may be anything. What is read of two outputs with a line feed between them is
what is read of the later one, and of the earlier one if the later tells nothing; so is the outcome of
the block. Where neither can choke on a line, all of them can be read. -/
theorem noise_is_passed_over (earlier later : Text) :
    (ofOutput (earlier ++ .char '\n' :: later) =
        match ofOutput later with
        | .ok none => ofOutput earlier
        | answer => answer) ∧
      (∀ machine config block code errors,
        Sandbox.ofFinished machine config block
            ⟨code, earlier ++ .char '\n' :: later, errors, false⟩ =
          match ofOutput later with
          | .ok none => Sandbox.ofFinished machine config block ⟨code, earlier, errors, false⟩
          | _ => Sandbox.ofFinished machine config block ⟨code, later, errors, false⟩) ∧
      (NeverChokes earlier → NeverChokes later →
        ∃ before behind, Answers earlier before ∧ Answers later behind ∧
          Answers (earlier ++ .char '\n' :: later) (behind.or before)) := by
  refine ⟨ofOutput_joined earlier later, ?_, fun calm calm' => ?_⟩
  · intro machine config block code errors
    exact Sandbox.ofFinished_joined machine config block code earlier later errors
  · obtain ⟨before, first⟩ := calm.answers
    obtain ⟨behind, second⟩ := calm'.answers
    exact ⟨before, behind, first, second, first.joined second⟩

def returned : Text := HostReport.shortReport.line ++ [.char '\r']

theorem returned_read : ofOutput returned = .ok (some HostReport.shortReport.fields) := by
  have whole : Text.lines returned = [HostReport.shortReport.line] := by decide +kernel
  rw [ofOutput, whole, List.reverse_singleton, firstOf, HostReport.ofLine_line]

/-- Lines that tell nothing: a brace that opens no JSON, a list, an object without the field. -/
def chatter : Text := "\x7bdone\u2028[1]\n\x7b\x22n\x22:1\x7d"

theorem chatter_read : ofOutput chatter = .ok none := by
  have told : (ofOutput chatter).toOption.map Option.isSome = some false := by decide +kernel
  rcases read : ofOutput chatter with fault | (none | fields)
  · rw [read] at told
    cases told
  · rfl
  · rw [read] at told
    cases told

theorem noise_is_passed_over_returned :
    NeverChokes returned ∧ NeverChokes chatter ∧
      Answers (returned ++ .char '\n' :: chatter) (some HostReport.shortReport.fields) ∧
      Answers (chatter ++ .char '\n' :: returned) (some HostReport.shortReport.fields) := by
  have calm : NeverChokes returned := by decide +kernel
  have calm' : NeverChokes chatter := by decide +kernel
  obtain ⟨before, behind, first, second, joined⟩ :=
    (noise_is_passed_over returned chatter).2.2 calm calm'
  obtain ⟨before', behind', first', second', joined'⟩ :=
    (noise_is_passed_over chatter returned).2.2 calm' calm
  cases first.1.symm.trans returned_read
  cases second.1.symm.trans chatter_read
  cases first'.1.symm.trans chatter_read
  cases second'.1.symm.trans returned_read
  exact ⟨calm, calm', joined, joined'⟩

end HostLine

end FenceCheck
