import FenceCheck.Text.Pattern

/-!
What a pattern matches, said without the order in which a matcher tries things: a piece of text between
what stands before and behind it. The matcher answers from the end of such a piece, and it answers
wherever there is one from whose end the rest can be answered. So a pattern occurs in a text just if
some piece of the text is matched where it stands.
-/

namespace FenceCheck

namespace Cursor

/-- What stands in front of the place behind a piece of text that has `before` in front. -/
def past (before : Option CodePoint) (part : Text) : Option CodePoint := part.getLast?.or before

@[simp] theorem past_nil (before : Option CodePoint) : past before [] = before := rfl

@[simp] theorem past_cons (before : Option CodePoint) (c : CodePoint) (part : Text) :
    past before (c :: part) = past (some c) part := by
  rw [past, past, List.getLast?_cons]
  cases part.getLast? <;> rfl

@[simp] theorem past_append (before : Option CodePoint) (first second : Text) :
    past before (first ++ second) = past (past before first) second := by
  rw [past, past, past, List.getLast?_append, Option.or_assoc]

@[simp] theorem past_none (part : Text) : past none part = part.getLast? := Option.or_none

end Cursor

namespace Pattern

/-- Whether a piece of text is matched that stands between `before` and `rest`. -/
def Matches : Pattern → Option CodePoint → Text → Text → Prop
  | empty, _, part, _ => part = []
  | one accepts, _, part, _ => ∃ c, accepts c = true ∧ part = [c]
  | many accepts, _, part, _ => ∀ c ∈ part, accepts c = true
  | few accepts, _, part, _ => ∀ c ∈ part, accepts c = true
  | lineStart, before, part, _ => part = [] ∧ ∀ c, before = some c → c = .char '\n'
  | textEnd, _, part, rest => part = [] ∧ (rest = [] ∨ rest = [.char '\n'])
  | wordEdge, before, part, rest =>
      part = [] ∧ before.any CodePoint.isWord ≠ rest.head?.any CodePoint.isWord
  | notAfter rejects, before, part, _ => part = [] ∧ before.any rejects = false
  | notBefore rejects, _, part, rest => part = [] ∧ rest.head?.any rejects = false
  | seq first second, before, part, rest =>
      ∃ left right, part = left ++ right ∧ Matches first before left (right ++ rest) ∧
        Matches second (Cursor.past before left) right rest
  | either first second, before, part, rest =>
      Matches first before part rest ∨ Matches second before part rest

/-- Some piece of a text is matched where it stands. -/
def Occurs (pattern : Pattern) (t : Text) : Prop :=
  ∃ front part rest, t = front ++ part ++ rest ∧ pattern.Matches front.getLast? part rest

variable {α : Type} {next : Cursor → Option α} {answer : α} {accepts : CodePoint → Bool}
  {before : Option CodePoint} {t part rest : Text}

theorem manyThen_sound (found : manyThen accepts next before t = some answer) :
    ∃ part rest, t = part ++ rest ∧ (∀ c ∈ part, accepts c = true) ∧
      next ⟨Cursor.past before part, rest⟩ = some answer := by
  induction t generalizing before with
  | nil => exact ⟨[], [], rfl, List.forall_mem_nil _, found⟩
  | cons c t ih =>
      have here (found : next ⟨before, c :: t⟩ = some answer) :
          ∃ part rest, c :: t = part ++ rest ∧ (∀ c ∈ part, accepts c = true) ∧
            next ⟨Cursor.past before part, rest⟩ = some answer :=
        ⟨[], c :: t, rfl, List.forall_mem_nil _, found⟩
      rw [manyThen] at found
      split at found
      case isTrue accepted =>
          rcases Option.or_eq_some_iff.mp found with further | ⟨-, found⟩
          · obtain ⟨part, rest, rfl, all, answered⟩ := ih further
            refine ⟨c :: part, rest, rfl, List.forall_mem_cons.mpr ⟨accepted, all⟩, ?_⟩
            rw [Cursor.past_cons, answered]
          · exact here found
      case isFalse refused => exact here found

theorem fewThen_sound (found : fewThen accepts next before t = some answer) :
    ∃ part rest, t = part ++ rest ∧ (∀ c ∈ part, accepts c = true) ∧
      next ⟨Cursor.past before part, rest⟩ = some answer := by
  induction t generalizing before with
  | nil => exact ⟨[], [], rfl, List.forall_mem_nil _, found⟩
  | cons c t ih =>
      rw [fewThen] at found
      split at found
      case h_1 value here =>
          cases found
          exact ⟨[], c :: t, rfl, List.forall_mem_nil _, here⟩
      case h_2 none =>
          split at found
          case isTrue accepted =>
              obtain ⟨part, rest, rfl, all, answered⟩ := ih found
              refine ⟨c :: part, rest, rfl, List.forall_mem_cons.mpr ⟨accepted, all⟩, ?_⟩
              rw [Cursor.past_cons, answered]
          case isFalse refused => cases found

theorem manyThen_complete (all : ∀ c ∈ part, accepts c = true)
    (answered : (next ⟨Cursor.past before part, rest⟩).isSome) :
    (manyThen accepts next before (part ++ rest)).isSome := by
  induction part generalizing before with
  | nil =>
      cases rest with
      | nil => exact answered
      | cons c rest =>
          -- More may be tried first, but to stop here is the last choice.
          rw [List.nil_append, manyThen]
          split
          case isTrue accepted =>
              rw [Option.isSome_or, Bool.or_eq_true]
              exact Or.inr answered
          case isFalse refused => exact answered
  | cons c part ih =>
      obtain ⟨accepted, all⟩ := List.forall_mem_cons.mp all
      rw [Cursor.past_cons] at answered
      rw [List.cons_append, manyThen, if_pos accepted, Option.isSome_or, ih all answered, Bool.true_or]

theorem fewThen_complete (all : ∀ c ∈ part, accepts c = true)
    (answered : (next ⟨Cursor.past before part, rest⟩).isSome) :
    (fewThen accepts next before (part ++ rest)).isSome := by
  induction part generalizing before with
  | nil =>
      cases rest with
      | nil => exact answered
      | cons c rest =>
          obtain ⟨value, here⟩ := Option.isSome_iff_exists.mp answered
          rw [Cursor.past_nil] at here
          rw [List.nil_append, fewThen, here]
          rfl
  | cons c part ih =>
      obtain ⟨accepted, all⟩ := List.forall_mem_cons.mp all
      rw [Cursor.past_cons] at answered
      rw [List.cons_append, fewThen]
      split
      case h_1 => rfl
      case h_2 none =>
          rw [if_pos accepted]
          exact ih all answered

theorem edge_sound {refused : Prop} [Decidable refused] {cursor : Cursor}
    (found : (if refused then none else next cursor) = some answer) :
    ¬ refused ∧ next cursor = some answer := by
  split at found
  case isTrue refused => cases found
  case isFalse admitted => exact ⟨admitted, found⟩

theorem edge_complete {refused : Prop} [Decidable refused] {cursor : Cursor} (admitted : ¬ refused)
    (answered : (next cursor).isSome) : (if refused then none else next cursor).isSome := by
  rw [if_neg admitted]
  exact answered

/-- A matcher that answers has matched a piece of the text and goes on behind it. -/
theorem runThen_sound (pattern : Pattern)
    (found : pattern.runThen next ⟨before, t⟩ = some answer) :
    ∃ part rest, t = part ++ rest ∧ pattern.Matches before part rest ∧
      next ⟨Cursor.past before part, rest⟩ = some answer := by
  -- A sequence hands its second part on as what follows, so the claim is about any continuation.
  induction pattern generalizing next before t with
  | empty => exact ⟨[], t, rfl, rfl, found⟩
  | one accepts =>
      cases t with
      | nil => cases found
      | cons c rest =>
          simp only [runThen, oneThen] at found
          split at found
          case isTrue accepted => exact ⟨[c], rest, rfl, ⟨c, accepted, rfl⟩, found⟩
          case isFalse refused => cases found
  | many accepts => exact manyThen_sound found
  | few accepts => exact fewThen_sound found
  | lineStart =>
      obtain ⟨first, found⟩ := edge_sound found
      refine ⟨[], t, rfl, ⟨rfl, fun c here => ?_⟩, found⟩
      simpa [Cursor.isAfter, here] using first
  | textEnd =>
      rw [runThen] at found
      split at found
      case isTrue last => exact ⟨[], t, rfl, ⟨rfl, last⟩, found⟩
      case isFalse inside => cases found
  | wordEdge =>
      obtain ⟨edge, found⟩ := edge_sound found
      exact ⟨[], t, rfl, ⟨rfl, edge⟩, found⟩
  | notAfter rejects =>
      obtain ⟨free, found⟩ := edge_sound found
      exact ⟨[], t, rfl, ⟨rfl, Bool.eq_false_iff.mpr free⟩, found⟩
  | notBefore rejects =>
      obtain ⟨free, found⟩ := edge_sound found
      exact ⟨[], t, rfl, ⟨rfl, Bool.eq_false_iff.mpr free⟩, found⟩
  | seq first second firstIH secondIH =>
      obtain ⟨left, rest, rfl, one, further⟩ := firstIH found
      obtain ⟨right, rest, rfl, other, answered⟩ := secondIH further
      refine ⟨left ++ right, rest, (List.append_assoc ..).symm, ⟨left, right, rfl, one, other⟩, ?_⟩
      rw [Cursor.past_append]
      exact answered
  | either first second firstIH secondIH =>
      rcases Option.or_eq_some_iff.mp found with found | ⟨-, found⟩
      · obtain ⟨part, rest, split, one, answered⟩ := firstIH found
        exact ⟨part, rest, split, Or.inl one, answered⟩
      · obtain ⟨part, rest, split, other, answered⟩ := secondIH found
        exact ⟨part, rest, split, Or.inr other, answered⟩

/-- A matcher answers if some piece is matched behind which there is an answer. -/
theorem runThen_complete {pattern : Pattern} (matched : pattern.Matches before part rest)
    (answered : (next ⟨Cursor.past before part, rest⟩).isSome) :
    (pattern.runThen next ⟨before, part ++ rest⟩).isSome := by
  induction pattern generalizing next before part rest with
  | empty =>
      cases matched
      exact answered
  | one accepts =>
      obtain ⟨c, accepted, rfl⟩ := matched
      simp only [List.singleton_append, runThen, oneThen, if_pos accepted]
      exact answered
  | many accepts => exact manyThen_complete matched answered
  | few accepts => exact fewThen_complete matched answered
  | lineStart =>
      obtain ⟨rfl, first⟩ := matched
      refine edge_complete ?_ answered
      cases before with
      | none => exact Bool.false_ne_true
      | some c => simp [Cursor.isAfter, first c rfl]
  | textEnd =>
      obtain ⟨rfl, last⟩ := matched
      simp only [List.nil_append, runThen, if_pos last]
      exact answered
  | wordEdge =>
      obtain ⟨rfl, edge⟩ := matched
      exact edge_complete edge answered
  | notAfter rejects =>
      obtain ⟨rfl, free⟩ := matched
      exact edge_complete (Bool.eq_false_iff.mp free) answered
  | notBefore rejects =>
      obtain ⟨rfl, free⟩ := matched
      exact edge_complete (Bool.eq_false_iff.mp free) answered
  | seq first second firstIH secondIH =>
      obtain ⟨left, right, rfl, one, other⟩ := matched
      rw [Cursor.past_append] at answered
      rw [List.append_assoc, runThen]
      -- Behind the first pattern the second one goes on, and then whatever is next.
      exact firstIH one (secondIH other answered)
  | either first second firstIH secondIH =>
      rw [runThen, Option.isSome_or, Bool.or_eq_true]
      exact matched.imp (firstIH · answered) (secondIH · answered)

theorem firstFrom_isSome {look : Cursor → Option α} :
    (firstFrom look before t).isSome ↔
      ∃ front rest, t = front ++ rest ∧ (look ⟨Cursor.past before front, rest⟩).isSome := by
  induction t generalizing before with
  | nil =>
      constructor
      · exact fun found => ⟨[], [], rfl, found⟩
      · rintro ⟨front, rest, split, found⟩
        obtain ⟨rfl, rfl⟩ := List.append_eq_nil_iff.mp split.symm
        exact found
  | cons c t ih =>
      rw [firstFrom, Option.isSome_or, Bool.or_eq_true, ih]
      constructor
      · rintro (found | ⟨front, rest, rfl, found⟩)
        · exact ⟨[], c :: t, rfl, found⟩
        · exact ⟨c :: front, rest, rfl, by rwa [Cursor.past_cons]⟩
      · rintro ⟨front, rest, split, found⟩
        cases front with
        | nil =>
            cases split
            exact Or.inl found
        | cons c front =>
            cases split
            rw [Cursor.past_cons] at found
            exact Or.inr ⟨front, rest, rfl, found⟩

theorem occursIn_iff {pattern : Pattern} : pattern.occursIn t = true ↔ pattern.Occurs t := by
  rw [occursIn, firstFrom_isSome]
  constructor
  · rintro ⟨front, rest, rfl, found⟩
    obtain ⟨behind, here⟩ := Option.isSome_iff_exists.mp found
    obtain ⟨part, rest, rfl, matched, -⟩ := runThen_sound pattern here
    rw [Cursor.past_none] at matched
    exact ⟨front, part, rest, (List.append_assoc ..).symm, matched⟩
  · rintro ⟨front, part, rest, rfl, matched⟩
    refine ⟨front, part ++ rest, List.append_assoc .., runThen_complete ?_ rfl⟩
    rwa [Cursor.past_none]

theorem Occurs.imp {pattern other : Pattern} (occurs : pattern.Occurs t)
    (weaker : ∀ before part rest, pattern.Matches before part rest → other.Matches before part rest) :
    other.Occurs t := by
  obtain ⟨front, part, rest, split, matched⟩ := occurs
  exact ⟨front, part, rest, split, weaker _ _ _ matched⟩

/-! Patterns that are put together. -/

theorem matches_anyOf {patterns : List Pattern} :
    (anyOf patterns).Matches before part rest ↔
      ∃ pattern ∈ patterns, pattern.Matches before part rest := by
  fun_induction anyOf patterns with
  | case1 => simp [Matches]
  | case2 pattern => simp
  | case3 pattern others several ih => simp [Matches, ih]

theorem occurs_anyOf {patterns : List Pattern} :
    (anyOf patterns).Occurs t ↔ ∃ pattern ∈ patterns, pattern.Occurs t := by
  constructor
  · rintro ⟨front, part, rest, split, matched⟩
    obtain ⟨pattern, among, matched⟩ := matches_anyOf.mp matched
    exact ⟨pattern, among, front, part, rest, split, matched⟩
  · rintro ⟨pattern, among, occurs⟩
    exact occurs.imp fun _ _ _ matched => matches_anyOf.mpr ⟨pattern, among, matched⟩

theorem matches_literal {word : Text} : (literal word).Matches before part rest ↔ part = word := by
  induction word generalizing before part with
  | nil => exact Iff.rfl
  | cons c word ih =>
      cases word with
      | nil =>
          constructor
          · rintro ⟨d, same, rfl⟩
            exact congrArg ([·]) (of_decide_eq_true same)
          · rintro rfl
            exact ⟨c, decide_eq_true rfl, rfl⟩
      | cons d word =>
          constructor
          · rintro ⟨left, right, rfl, ⟨e, same, rfl⟩, further⟩
            rw [of_decide_eq_true same, List.singleton_append, ih.mp further]
          · rintro rfl
            exact ⟨[c], d :: word, rfl, ⟨c, decide_eq_true rfl, rfl⟩, ih.mpr rfl⟩

end Pattern

end FenceCheck
