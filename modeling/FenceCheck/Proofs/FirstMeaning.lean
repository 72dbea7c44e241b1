import FenceCheck.Proofs.ConfigText
import FenceCheck.Proofs.RepeatedCleaning
import FenceCheck.Proofs.RequireCall

/-!
Which line a diagnosis comes from. Places inside the harness are cut out of a dump from left to right,
each as far as it goes, and what comes together by that is not looked at again. Of the lines that are
left, the diagnosis is what the first one says that is not mute, and it is empty just if all are.
-/

namespace FenceCheck

/-- A text without the places that stand in it: from left to right, each place goes as far as one does
that starts where it starts, and the next is looked for behind it. -/
inductive Text.Cut (IsPlace : Text → Prop) : Text → Text → Prop where
  | done : Cut IsPlace [] []
  | keep {c : CodePoint} {rest left : Text} (none : ∀ part, IsPlace part → ¬ part <+: c :: rest)
      (further : Cut IsPlace rest left) : Cut IsPlace (c :: rest) (c :: left)
  | drop {part rest left : Text} (place : IsPlace part)
      (longest : ∀ other, IsPlace other → other <+: part ++ rest → other.length ≤ part.length)
      (further : Cut IsPlace rest left) : Cut IsPlace (part ++ rest) left

theorem Text.Cut.unique {IsPlace : Text → Prop} {t u left right : Text} (one : Cut IsPlace t left)
    (two : Cut IsPlace u right) (proper : ∀ part, IsPlace part → part ≠ []) (same : t = u) :
    left = right := by
  induction one generalizing u right with
  | done =>
      cases two with
      | done => rfl
      | keep => cases same
      | drop place =>
          exact absurd (List.append_eq_nil_iff.mp same.symm).1 (proper _ place)
  | @keep c rest left none further ih =>
      cases two with
      | done => cases same
      | keep _ later =>
          obtain ⟨rfl, rfl⟩ := List.cons.inj same
          rw [ih later rfl]
      | drop place => exact absurd ⟨_, same.symm⟩ (none _ place)
  | @drop part rest left place longest further ih =>
      cases two with
      | done => exact absurd (List.append_eq_nil_iff.mp same).1 (proper _ place)
      | keep none => exact absurd ⟨_, same⟩ (none _ place)
      | @drop other others _ here most later =>
          -- Each of the two is the longest at this place.
          have length : part.length = other.length :=
            Nat.le_antisymm (most part place ⟨rest, same⟩) (longest other here ⟨others, same.symm⟩)
          exact ih later (List.append_inj_right same length)

namespace Pattern

variable {α : Type} {next : Cursor → Option α} {answer : α} {accepts : CodePoint → Bool}
  {before : Option CodePoint} {t part : Text} {pattern : Pattern} {IsPlace : Text → Prop}

theorem manyThen_longest (found : manyThen accepts next before t = some answer) :
    ∃ part rest, t = part ++ rest ∧ (∀ c ∈ part, accepts c = true) ∧
      next ⟨Cursor.past before part, rest⟩ = some answer ∧
      ∀ more others, t = more ++ others → (∀ c ∈ more, accepts c = true) →
        (next ⟨Cursor.past before more, others⟩).isSome → more.length ≤ part.length := by
  induction t generalizing before with
  | nil =>
      refine ⟨[], [], rfl, List.forall_mem_nil _, found, fun more others same _ _ => ?_⟩
      exact Nat.le_of_eq (congrArg List.length (List.append_eq_nil_iff.mp same.symm).1)
  | cons c t ih =>
      by_cases accepted : accepts c = true
      · rw [manyThen, if_pos accepted] at found
        rcases Option.or_eq_some_iff.mp found with further | ⟨unanswered, here⟩
        · obtain ⟨part, rest, rfl, all, answered, longest⟩ := ih further
          refine ⟨c :: part, rest, rfl, List.forall_mem_cons.mpr ⟨accepted, all⟩,
            by rwa [Cursor.past_cons], fun more others same every answered => ?_⟩
          cases more with
          | nil => exact Nat.zero_le _
          | cons d more =>
              rw [List.cons_append] at same
              obtain ⟨rfl, further⟩ := List.cons.inj same
              rw [Cursor.past_cons] at answered
              have shorter := longest more others further (List.forall_mem_cons.mp every).2 answered
              exact Nat.succ_le_succ shorter
        · refine ⟨[], c :: t, rfl, List.forall_mem_nil _, here, fun more others same every answered => ?_⟩
          cases more with
          | nil => exact Nat.le_refl _
          | cons d more =>
              -- Had there been an answer behind more of the class, it would have been found first.
              obtain ⟨rfl, rfl⟩ := List.cons.inj same
              rw [Cursor.past_cons] at answered
              have first := manyThen_complete (List.forall_mem_cons.mp every).2 answered
              rw [show manyThen accepts next (some c) (more ++ others) = none from unanswered] at first
              cases first
      · rw [manyThen, if_neg accepted] at found
        refine ⟨[], c :: t, rfl, List.forall_mem_nil _, found, fun more others same every _ => ?_⟩
        cases more with
        | nil => exact Nat.le_refl _
        | cons d more =>
            obtain ⟨rfl, -⟩ := List.cons.inj same
            exact absurd (every c List.mem_cons_self) accepted

theorem oneOrMore_longest (found : (oneOrMore accepts).runThen next ⟨before, t⟩ = some answer) :
    ∃ part rest, t = part ++ rest ∧ part ≠ [] ∧ (∀ c ∈ part, accepts c = true) ∧
      next ⟨Cursor.past before part, rest⟩ = some answer ∧
      ∀ more others, t = more ++ others → (∀ c ∈ more, accepts c = true) →
        (next ⟨Cursor.past before more, others⟩).isSome → more.length ≤ part.length := by
  cases t with
  | nil => cases found
  | cons c t =>
      simp only [oneOrMore, runThen, oneThen] at found
      split at found
      case isFalse refused => cases found
      case isTrue accepted =>
          obtain ⟨part, rest, rfl, all, answered, longest⟩ := manyThen_longest found
          refine ⟨c :: part, rest, rfl, List.cons_ne_nil c part,
            List.forall_mem_cons.mpr ⟨accepted, all⟩, by rwa [Cursor.past_cons],
            fun more others same every answered => ?_⟩
          cases more with
          | nil => exact Nat.zero_le _
          | cons d more =>
              rw [List.cons_append] at same
              obtain ⟨rfl, further⟩ := List.cons.inj same
              rw [Cursor.past_cons] at answered
              have shorter := longest more others further (List.forall_mem_cons.mp every).2 answered
              exact Nat.succ_le_succ shorter

/-- A pattern whose matches are the places of a kind, and which finds the longest. -/
structure Finds (pattern : Pattern) (IsPlace : Text → Prop) : Prop where
  proper : ∀ part, IsPlace part → part ≠ []
  complete : ∀ before part rest, IsPlace part → pattern.Matches before part rest
  longest : ∀ before t behind, pattern.match? ⟨before, t⟩ = some behind →
    ∃ part, t = part ++ behind.rest ∧ IsPlace part ∧
      ∀ other, IsPlace other → other <+: t → other.length ≤ part.length

theorem Finds.unmatched (finds : Finds pattern IsPlace) (unmatched : pattern.match? ⟨before, t⟩ = none)
    (place : IsPlace part) : ¬ part <+: t := by
  rintro ⟨rest, rfl⟩
  have found : (pattern.match? ⟨before, part ++ rest⟩).isSome :=
    runThen_complete (finds.complete before part rest place) rfl
  rw [unmatched] at found
  cases found

theorem Finds.cut (finds : Finds pattern IsPlace) (previous : Option CodePoint) (skip : Nat) (t : Text) :
    Text.Cut IsPlace (t.drop skip) (deleteFrom pattern previous skip t) := by
  induction t generalizing previous skip with
  | nil =>
      rw [List.drop_nil]
      exact .done
  | cons c t ih =>
      -- A match is left out one character at a time; the induction is over these characters too.
      cases skip with
      | succ skip => exact ih (some c) skip
      | zero =>
          rw [deleteFrom, List.drop_zero]
          split
          case h_1 unmatched => exact .keep (fun part place => finds.unmatched unmatched place) (ih (some c) 0)
          case h_2 behind matched =>
              obtain ⟨part, same, place, longest⟩ := finds.longest _ _ _ matched
              obtain ⟨d, part, rfl⟩ := List.exists_cons_of_ne_nil (finds.proper part place)
              rw [List.cons_append] at same
              obtain ⟨rfl, rest⟩ := List.cons.inj same
              have skipped : t.length - behind.rest.length = part.length := by
                rw [rest, List.length_append, Nat.add_sub_cancel]
              have further := ih (some c) part.length
              rw [rest, List.drop_left, ← rest] at further
              rw [← List.cons_append] at same
              rw [skipped, same]
              exact .drop place (same ▸ longest) further

theorem Finds.deleteAll (finds : Finds pattern IsPlace) (t : Text) :
    Text.Cut IsPlace t (pattern.deleteAll t) := finds.cut none 0 t

end Pattern

namespace Diagnostic

variable {t part line meaning label : Text} {before : Option CodePoint} {rest : Text}

/-- The mark of evaluated text behind the address, with a line in it. -/
inductive IsEvaluatedMark : Text → Prop where
  | mk {number line : Text} (numbered : ∀ c ∈ number, isDigit c = true) (some : line ≠ [])
      (counted : ∀ c ∈ line, isDigit c = true) :
      IsEvaluatedMark (Text.ofString "[eval" ++ number ++ Text.ofString "]:" ++ line)

/-- A place in evaluated text: an address without blanks in it and the mark. -/
inductive IsEvaluatedPlace : Text → Prop where
  | mk {address mark : Text} (some : address ≠ []) (sharp : ∀ c ∈ address, c.isBlank = false)
      (marked : IsEvaluatedMark mark) : IsEvaluatedPlace (Text.ofString "file://" ++ address ++ mark)

inductive IsInputPlace : Text → Prop where
  | mk {line : Text} (some : line ≠ []) (counted : ∀ c ∈ line, isDigit c = true) :
      IsInputPlace (Text.ofString "[stdin]:" ++ line)

/-- What is left of a dump when the places inside the harness are cut out: first those in evaluated text,
then those in text from standard input. -/
def Unplaced (dump text : Text) : Prop :=
  ∃ placeless, Text.Cut IsEvaluatedPlace dump placeless ∧ Text.Cut IsInputPlace placeless text

/-- The bundler's label, with a cross in front of it or not. -/
inductive IsLabel : Text → Prop where
  | plain {gap : Text} (blank : ∀ c ∈ gap, c.isBlank = true) : IsLabel (Text.ofString "[ERROR]" ++ gap)
  | crossed {between gap : Text} (inner : ∀ c ∈ between, c.isBlank = true)
      (blank : ∀ c ∈ gap, c.isBlank = true) :
      IsLabel (.char '✘' :: between ++ Text.ofString "[ERROR]" ++ gap)

/-- What a line says: all of it between the blanks at its ends, but for a label that it starts with. -/
inductive Tells (line : Text) : Text → Prop where
  | labelled {label meaning : Text} (here : IsLabel label) (same : Text.strip line = label ++ meaning)
      (sharp : ∀ c ∈ meaning.head?, c.isBlank = false) : Tells line meaning
  | unlabelled (none : ∀ label, IsLabel label → ¬ label <+: Text.strip line) :
      Tells line (Text.strip line)

/-- A line that tells nothing of an error: it names the harness's own machinery, starts like a stack
frame, or says nothing at all. -/
inductive Mute (line : Text) : Prop where
  | marked {marker : Text} (among : marker ∈ noiseMarkers) (inside : marker <:+: line)
  | frame {gap rest : Text} {c : CodePoint} (blank : ∀ c ∈ gap, c.isBlank = true)
      (apart : c.isBlank = true) (same : line = gap ++ Text.ofString "at" ++ c :: rest)
  | bare (nothing : Tells line [])

/-! The places that the patterns find. -/

def evaluatedMark : Pattern :=
  .sequence [.literal "[eval", .many isDigit, .literal "]:", .oneOrMore isDigit]

theorem IsEvaluatedMark.head {mark : Text} (marked : IsEvaluatedMark mark) :
    ∃ body, mark = .char '[' :: body ∧ .char '[' ∉ body := by
  cases marked with
  | @mk number line numbered some counted =>
      refine ⟨Text.ofString "eval" ++ number ++ Text.ofString "]:" ++ line, rfl, fun inside => ?_⟩
      have bracket : isDigit (.char '[') = false := by decide
      simp only [List.mem_append, or_assoc] at inside
      rcases inside with word | inside | colon | inside
      · exact absurd word (by decide)
      · rw [numbered _ inside] at bracket
        cases bracket
      · exact absurd colon (by decide)
      · rw [counted _ inside] at bracket
        cases bracket

theorem evaluatedMark_finds : evaluatedMark.Finds IsEvaluatedMark where
  proper part place := by
    obtain ⟨body, rfl, -⟩ := place.head
    exact List.cons_ne_nil _ _
  complete before part rest place := by
    cases place with
    | @mk number line numbered some counted =>
        have same : Text.ofString "[eval" ++ number ++ Text.ofString "]:" ++ line =
            Text.ofString "[eval" ++ (number ++ (Text.ofString "]:" ++ line)) := by
          simp only [List.append_assoc]
        rw [same]
        exact ⟨_, _, rfl, Pattern.matches_literal.mpr rfl, _, _, rfl, numbered, _, _, rfl,
          Pattern.matches_literal.mpr rfl, Pattern.matches_oneOrMore.mpr ⟨some, counted⟩⟩
  longest before t behind found := by
    have stepwise : (Pattern.literal "[eval").runThen ((Pattern.many isDigit).runThen
        ((Pattern.literal "]:").runThen ((Pattern.oneOrMore isDigit).runThen some))) ⟨before, t⟩ =
          some behind := found
    obtain ⟨opened, start, further⟩ := Pattern.literal_rest stepwise
    obtain ⟨number, between, here, numbered, further⟩ := Pattern.manyThen_sound further
    obtain ⟨closed, final, further⟩ := Pattern.literal_rest further
    obtain ⟨line, rest, last, some, counted, ended, longest⟩ := Pattern.oneOrMore_longest further
    cases ended
    have whole : t = Text.ofString "[eval" ++ (number ++ (Text.ofString "]:" ++ (line ++ rest))) := by
      have closing : between = Text.ofString "]:" ++ closed.rest := final
      rw [← last, ← closing, ← here]
      exact start
    refine ⟨Text.ofString "[eval" ++ number ++ Text.ofString "]:" ++ line, ?_,
      .mk numbered some counted, fun other place front => ?_⟩
    · simpa only [List.append_assoc] using whole
    · cases place with
      | @mk first second every _ all =>
          -- The first number ends at the bracket in both, so only the second can differ.
          have bracket : isDigit (.char ']') = false := by decide
          obtain ⟨others, same⟩ := front
          rw [whole] at same
          simp only [List.append_assoc] at same
          obtain ⟨rfl, -, behind⟩ := Text.cut_unique every numbered bracket bracket
            (List.append_cancel_left same)
          have tails : second ++ others = line ++ rest := (List.cons.inj behind).2
          have shorter := longest second others (last.trans tails.symm) all rfl
          simpa using shorter

theorem prefix_before {c : CodePoint} {front back : Text} (free : c ∉ part)
    (begins : part <+: front ++ c :: back) : part.length ≤ front.length := by
  obtain ⟨others, same⟩ := begins
  rcases List.append_eq_append_iff.mp same with ⟨between, rfl, -⟩ | ⟨beyond, rfl, here⟩
  · exact (List.prefix_append part between).length_le
  · cases beyond with
    | nil => rw [List.append_nil]
    | cons d beyond =>
        cases here
        exact absurd (List.mem_append_right front List.mem_cons_self) free

theorem shorter_place {address longer mark other rest others : Text} (fewer : address.length ≤ longer.length)
    (marked : IsEvaluatedMark mark) (most : ∀ third, IsEvaluatedMark third → third <+: other ++ rest →
      third.length ≤ other.length) (ends : IsEvaluatedMark other)
    (same : address ++ (mark ++ others) = longer ++ (other ++ rest)) :
    address.length + mark.length ≤ longer.length + other.length := by
  obtain ⟨between, rfl⟩ : address <+: longer :=
    List.prefix_of_prefix_length_le ⟨_, same⟩ (List.prefix_append longer _) fewer
  rw [List.append_assoc] at same
  have behind := List.append_cancel_left same
  cases between with
  | nil =>
      have short := most mark marked ⟨others, behind⟩
      simpa using short
  | cons c between =>
      obtain ⟨body, rfl, free⟩ := marked.head
      obtain ⟨tail, rfl, -⟩ := ends.head
      rw [List.cons_append, List.cons_append] at behind
      have short := prefix_before free ⟨others, (List.cons.inj behind).2⟩
      simp only [List.length_append, List.length_cons]
      omega

theorem evaluatedPlace_finds : evaluatedPlace.Finds IsEvaluatedPlace where
  proper part place := by
    cases place
    exact List.cons_ne_nil _ _
  complete before part rest place := by
    cases place with
    | mk some sharp marked =>
        rw [List.append_assoc]
        refine ⟨_, _, rfl, Pattern.matches_literal.mpr rfl, _, _, rfl,
          Pattern.matches_oneOrMore.mpr ⟨some, fun c inside => ?_⟩,
          evaluatedMark_finds.complete _ _ _ marked⟩
        rw [sharp c inside]
        rfl
  longest before t behind found := by
    have stepwise : (Pattern.literal "file://").runThen ((Pattern.oneOrMore (!·.isBlank)).runThen
        evaluatedMark.match?) ⟨before, t⟩ = some behind := found
    obtain ⟨opened, start, further⟩ := Pattern.literal_rest stepwise
    obtain ⟨longer, rest, here, some, sharp, further, longest⟩ := Pattern.oneOrMore_longest further
    obtain ⟨other, rfl, ends, most⟩ := evaluatedMark_finds.longest _ _ _ further
    refine ⟨Text.ofString "file://" ++ longer ++ other, ?_, .mk some ?_ ends, fun third place front => ?_⟩
    · rw [List.append_assoc, List.append_assoc, ← here]
      exact start
    · exact fun c inside => (Bool.not_eq_true' _).mp (sharp c inside)
    · cases place with
      | @mk address mark _ clear marked =>
          obtain ⟨others, same⟩ := front
          have whole : t = Text.ofString "file://" ++ opened.rest := start
          rw [whole, here] at same
          simp only [List.append_assoc] at same
          have behind := List.append_cancel_left same
          have every : ∀ c ∈ address, (!c.isBlank) = true := by simpa using clear
          -- The other place ends in a mark as well, so its address is one of those that were tried.
          have answered : (evaluatedMark.match?
              ⟨Cursor.past opened.previous address, mark ++ others⟩).isSome :=
            Pattern.runThen_complete (evaluatedMark_finds.complete _ mark others marked) rfl
          have fewer := longest address (mark ++ others) (here.trans behind.symm) every answered
          have shorter := shorter_place fewer marked most ends behind
          simp only [List.length_append]
          omega

theorem inputPlace_finds : inputPlace.Finds IsInputPlace where
  proper part place := by
    cases place
    exact List.cons_ne_nil _ _
  complete before part rest place := by
    cases place with
    | mk some counted =>
        exact ⟨_, _, rfl, Pattern.matches_literal.mpr rfl, Pattern.matches_oneOrMore.mpr ⟨some, counted⟩⟩
  longest before t behind found := by
    have stepwise : (Pattern.literal "[stdin]:").runThen ((Pattern.oneOrMore isDigit).runThen some)
        ⟨before, t⟩ = some behind := found
    obtain ⟨opened, start, further⟩ := Pattern.literal_rest stepwise
    obtain ⟨line, rest, same, some, counted, ended, longest⟩ := Pattern.oneOrMore_longest further
    cases ended
    refine ⟨Text.ofString "[stdin]:" ++ line, ?_, .mk some counted, fun other place front => ?_⟩
    · rw [List.append_assoc, ← same]
      exact start
    · cases place with
      | @mk digits _ all =>
          obtain ⟨others, whole⟩ := front
          have split : t = Text.ofString "[stdin]:" ++ opened.rest := start
          rw [split, List.append_assoc] at whole
          have shorter := longest digits others (List.append_cancel_left whole).symm all rfl
          simpa using shorter

/-- The places inside the harness are what is deleted from a dump, in one way only. -/
theorem unplaced_iff (dump text : Text) :
    Unplaced dump text ↔ text = inputPlace.deleteAll (evaluatedPlace.deleteAll dump) := by
  constructor
  · rintro ⟨placeless, first, second⟩
    obtain rfl := first.unique (evaluatedPlace_finds.deleteAll dump) evaluatedPlace_finds.proper rfl
    exact second.unique (inputPlace_finds.deleteAll _) inputPlace_finds.proper rfl
  · rintro rfl
    exact ⟨_, evaluatedPlace_finds.deleteAll dump, inputPlace_finds.deleteAll _⟩

/-! What a line says. -/

theorem matches_label : bundlerLabel.Matches before label rest ↔ IsLabel label := by
  constructor
  · rintro ⟨cross, right, rfl, marked, word, gap, rfl, here, blank⟩
    obtain rfl := Pattern.matches_literal.mp here
    rcases marked with ⟨mark, between, rfl, one, inner⟩ | none
    · obtain rfl := Pattern.matches_literal.mp one
      rw [← List.append_assoc]
      exact .crossed inner blank
    · obtain rfl : cross = [] := none
      exact .plain blank
  · rintro (blank | ⟨inner, blank⟩)
    · exact ⟨[], _, rfl, Or.inr rfl, _, _, rfl, Pattern.matches_literal.mpr rfl, blank⟩
    · rw [List.append_assoc]
      exact ⟨_, _, rfl, Or.inl ⟨_, _, rfl, Pattern.matches_literal.mpr rfl, inner⟩, _, _, rfl,
        Pattern.matches_literal.mpr rfl, blank⟩

theorem behind_blanks {gap space first second : Text} (blank : ∀ c ∈ gap, c.isBlank = true)
    (empty : ∀ c ∈ space, c.isBlank = true) (sharp : ∀ c ∈ first.head?, c.isBlank = false)
    (plain : ∀ c ∈ second.head?, c.isBlank = false) (same : gap ++ first = space ++ second) :
    first = second := by
  have kept {gap t : Text} (blank : ∀ c ∈ gap, c.isBlank = true)
      (sharp : ∀ c ∈ t.head?, c.isBlank = false) : (gap ++ t).dropWhile CodePoint.isBlank = t := by
    rw [List.dropWhile_append_of_pos blank]
    cases t with
    | nil => rfl
    | cons c t => exact List.dropWhile_cons_of_neg (by simp [sharp c rfl])
  rw [← kept blank sharp, same, kept empty plain]

theorem IsLabel.behind {other first second : Text} (one : IsLabel label) (two : IsLabel other)
    (sharp : ∀ c ∈ first.head?, c.isBlank = false) (plain : ∀ c ∈ second.head?, c.isBlank = false)
    (same : label ++ first = other ++ second) : first = second := by
  cases one with
  | plain blank =>
      cases two with
      | plain empty =>
          simp only [List.append_assoc] at same
          exact behind_blanks blank empty sharp plain (List.append_cancel_left same)
      | crossed => cases same
  | crossed inner blank =>
      cases two with
      | plain => cases same
      | crossed within empty =>
          have bracket : CodePoint.isBlank (.char '[') = false := by decide
          simp only [List.append_assoc, List.cons_append] at same
          obtain ⟨-, -, tails⟩ := Text.cut_unique inner within bracket bracket (List.cons.inj same).2
          exact behind_blanks blank empty sharp plain (List.append_cancel_left tails)

theorem Tells.unique {other : Text} (one : Tells line meaning) (two : Tells line other) :
    meaning = other := by
  cases one with
  | labelled here same sharp =>
      cases two with
      | labelled there again plain => exact here.behind there sharp plain (same.symm.trans again)
      | unlabelled none => exact absurd ⟨_, same.symm⟩ (none _ here)
  | unlabelled none =>
      cases two with
      | labelled there again => exact absurd ⟨_, again.symm⟩ (none _ there)
      | unlabelled => rfl

theorem meaningOf_told (line : Text) : Tells line (meaningOf line) := by
  rw [meaningOf]
  split
  case h_1 behind labelled =>
      obtain ⟨label, rest, same, here, ended⟩ := Pattern.runThen_sound _ labelled
      cases ended
      refine .labelled (matches_label.mp here) same fun c first => ?_
      have some : rest ≠ [] := by
        rintro rfl
        cases first
      simpa [Text.opens, Option.mem_def.mp first] using labelled_opens labelled some
  case h_2 unlabelled =>
      refine .unlabelled fun label here => ?_
      rintro ⟨rest, same⟩
      have found := Pattern.match_isSome.mpr ⟨label, rest, same.symm, matches_label.mpr here⟩
      rw [unlabelled] at found
      cases found

theorem tells_nothing : Tells line [] ↔ meaningOf line = [] := by
  constructor
  · exact fun nothing => (meaningOf_told line).unique nothing
  · intro nothing
    have told := meaningOf_told line
    rwa [nothing] at told

theorem isNoise_iff : isNoise line = true ↔ (∃ marker ∈ noiseMarkers, marker <:+: line) ∨
    ∃ gap c rest, (∀ c ∈ gap, c.isBlank = true) ∧ c.isBlank = true ∧
      line = gap ++ Text.ofString "at" ++ c :: rest := by
  rw [isNoise, Bool.or_eq_true, List.any_eq_true, Pattern.match_isSome]
  refine or_congr (exists_congr fun marker => and_congr_right fun _ => Text.contains_iff) ⟨?_, ?_⟩
  · rintro ⟨part, rest, rfl, gap, right, rfl, blank, word, last, rfl, here, c, apart, rfl⟩
    obtain rfl := Pattern.matches_literal.mp here
    exact ⟨gap, c, rest, blank, apart, by simp⟩
  · rintro ⟨gap, c, rest, blank, apart, rfl⟩
    exact ⟨gap ++ (Text.ofString "at" ++ [c]), rest, by simp, _, _, rfl, blank, _, _, rfl,
      Pattern.matches_literal.mpr rfl, c, apart, rfl⟩

theorem mute_iff : Mute line ↔ isNoise line = true ∨ meaningOf line = [] := by
  rw [isNoise_iff, ← tells_nothing]
  constructor
  · rintro (⟨among, inside⟩ | ⟨blank, apart, same⟩ | nothing)
    · exact Or.inl (Or.inl ⟨_, among, inside⟩)
    · exact Or.inl (Or.inr ⟨_, _, _, blank, apart, same⟩)
    · exact Or.inr nothing
  · rintro ((⟨marker, among, inside⟩ | ⟨gap, c, rest, blank, apart, same⟩) | nothing)
    · exact .marked among inside
    · exact .frame blank apart same
    · exact .bare nothing

/-! The first line that is not mute. -/

theorem firstMeaning_mute (mute : Mute line) (rest : List Text) :
    firstMeaning (line :: rest) = firstMeaning rest := by
  rw [firstMeaning]
  rcases mute_iff.mp mute with noise | nothing
  · rw [if_pos noise]
  · rw [nothing, ite_self]

theorem firstMeaning_telling (telling : ¬ Mute line) (rest : List Text) :
    firstMeaning (line :: rest) = meaningOf line ∧ meaningOf line ≠ [] := by
  obtain ⟨quiet, some⟩ := not_or.mp (mt mute_iff.mpr telling)
  refine ⟨?_, some⟩
  rw [firstMeaning, if_neg quiet]
  split
  case h_1 nothing => exact absurd nothing some
  case h_2 => rfl

theorem firstMeaning_first (lines : List Text) :
    (firstMeaning lines = [] ∧ ∀ line ∈ lines, Mute line) ∨
      firstMeaning lines ≠ [] ∧ ∃ before line after, lines = before ++ line :: after ∧
        (∀ other ∈ before, Mute other) ∧ ¬ Mute line ∧ Tells line (firstMeaning lines) := by
  induction lines with
  | nil => exact Or.inl ⟨rfl, List.forall_mem_nil _⟩
  | cons line rest ih =>
      by_cases mute : Mute line
      · rw [firstMeaning_mute mute]
        rcases ih with ⟨nothing, all⟩ | ⟨some, before, first, after, rfl, silent, telling, told⟩
        · exact Or.inl ⟨nothing, List.forall_mem_cons.mpr ⟨mute, all⟩⟩
        · exact Or.inr ⟨some, line :: before, first, after, rfl,
            List.forall_mem_cons.mpr ⟨mute, silent⟩, telling, told⟩
      · obtain ⟨same, some⟩ := firstMeaning_telling mute rest
        rw [same]
        exact Or.inr ⟨some, [], line, rest, rfl, List.forall_mem_nil _, mute, meaningOf_told line⟩

/-- A diagnosis is one line without blanks around it that names none of the harness's machinery. When
the places inside the harness are cut out of a dump, which is done in one way only, it is empty just if
all lines that are left are mute, and else it is what the first other line says. -/
theorem clean_tells_first_line (dump : Text) :
    Text.Whole (clean dump) ∧ Text.strip (clean dump) = clean dump ∧
      (∀ marker ∈ noiseMarkers, ¬ marker <:+: clean dump) ∧
      ∃ text, (∀ other, Unplaced dump other ↔ other = text) ∧
        (clean dump = [] ↔ ∀ line ∈ Text.lines text, Mute line) ∧
        (clean dump ≠ [] → ∃ before line after, Text.lines text = before ++ line :: after ∧
          (∀ other ∈ before, Mute other) ∧ ¬ Mute line ∧ Tells line (clean dump)) := by
  have fit : Text.Whole (clean dump) ∧ Text.strip (clean dump) = clean dump := by
    rcases clean_tidy dump with nothing | tidy
    · rw [nothing]
      exact ⟨List.forall_mem_nil _, rfl⟩
    · exact ⟨tidy.whole, tidy.stripped⟩
  refine ⟨fit.1, fit.2, fun marker among => clean_unmarked dump among, _, unplaced_iff dump, ?_⟩
  rcases firstMeaning_first (dumpLines dump) with ⟨nothing, all⟩ | ⟨some, first⟩
  · exact ⟨iff_of_true nothing all, fun some => absurd nothing some⟩
  · refine ⟨iff_of_false some fun all => ?_, fun _ => first⟩
    obtain ⟨before, line, after, same, -, telling, -⟩ := first
    refine telling (all line ?_)
    rw [show Text.lines _ = before ++ line :: after from same]
    exact List.mem_append_right before List.mem_cons_self

end Diagnostic

end FenceCheck
