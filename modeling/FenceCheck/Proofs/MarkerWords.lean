import FenceCheck.Document.Selection
import FenceCheck.Proofs.PatternMeaning
import Mathlib.Data.List.TakeWhile

/-!
The words of an info. Cut at all that is neither a word character nor a hyphen, an info falls into
words, the longest pieces without a cut. A marker that is made of such code points opts a block out just
if it is one of these words, wherever it stands in longer ones.
-/

namespace FenceCheck

namespace Text

variable {accepts : CodePoint → Bool} {t piece : Text}

/-- The longest pieces of a text that hold code points of a class alone, from left to right. -/
def runs (accepts : CodePoint → Bool) (t : Text) : List Text :=
  (t.splitOnP (!accepts ·)).filter (!·.isEmpty)

theorem runs_apart {c : CodePoint} (front : Text) (refused : accepts c = false) (rest : Text) :
    runs accepts (front ++ c :: rest) = runs accepts front ++ runs accepts rest := by
  rw [runs, List.splitOnP_append_cons front rest (by simp [refused]), List.filter_append]
  rfl

theorem runs_whole (all : ∀ c ∈ t, accepts c = true) :
    runs accepts t = if t.isEmpty then [] else [t] := by
  rw [runs, List.splitOnP_eq_singleton fun c member => by simp [all c member]]
  cases t <;> rfl

/-- A run that is no further to the left or the right. -/
structure IsRun (accepts : CodePoint → Bool) (t piece front rest : Text) : Prop where
  split : t = front ++ piece ++ rest
  some : piece ≠ []
  all : ∀ c ∈ piece, accepts c = true
  left : front.getLast?.any accepts = false
  right : rest.head?.any accepts = false

theorem IsRun.behind {c : CodePoint} {front rest : Text} (run : IsRun accepts t piece front rest)
    (before : Text) (refused : accepts c = false) :
    IsRun accepts (before ++ c :: t) piece (before ++ c :: front) rest where
  split := by simp [run.split]
  some := run.some
  all := run.all
  left := by
    rw [List.getLast?_append, List.getLast?_cons]
    cases last : front.getLast? with
    | none => exact refused
    | some d => simpa [last] using run.left
  right := run.right

theorem isRun_of_mem {t : Text} (member : piece ∈ runs accepts t) :
    ∃ front rest, IsRun accepts t piece front rest := by
  -- The text is cut at its first code point out of the class. The piece is all in front of it or a run
  -- of what is behind it.
  have first : ∀ c ∈ t.takeWhile accepts, accepts c = true := fun c => List.mem_takeWhile_imp
  have parted := List.takeWhile_append_dropWhile (p := accepts) (l := t)
  generalize t.takeWhile accepts = word at first parted
  have whole (rest : Text) (right : rest.head?.any accepts = false) (here : piece ∈ runs accepts word) :
      IsRun accepts (word ++ rest) piece [] rest := by
    rw [runs_whole first] at here
    cases word with
    | nil => cases here
    | cons c word =>
        cases List.mem_singleton.mp here
        exact ⟨rfl, List.cons_ne_nil _ _, first, rfl, right⟩
  cases behind : t.dropWhile accepts with
  | nil =>
      rw [behind] at parted
      rw [← parted, List.append_nil] at member
      exact ⟨[], [], parted ▸ whole [] rfl member⟩
  | cons c rest =>
      have refused : accepts c = false := by
        have stops := List.head?_dropWhile_not accepts t
        rw [behind] at stops
        simpa using stops
      rw [behind] at parted
      rw [← parted, runs_apart word refused, List.mem_append] at member
      rw [← parted]
      rcases member with here | later
      · exact ⟨[], c :: rest, whole _ refused here⟩
      · have shorter : rest.length < t.length := by
          rw [← parted, List.length_append, List.length_cons]
          omega
        obtain ⟨front, last, run⟩ := isRun_of_mem later
        exact ⟨_, _, run.behind word refused⟩
termination_by t.length

theorem IsRun.mem {front rest : Text} (run : IsRun accepts t piece front rest) :
    piece ∈ runs accepts t := by
  obtain ⟨rfl, some, all, left, right⟩ := run
  have here : piece ∈ runs accepts (piece ++ rest) := by
    cases rest with
    | nil =>
        rw [List.append_nil, runs_whole all, if_neg (by simpa using some)]
        exact List.mem_singleton_self _
    | cons c rest =>
        rw [runs_apart piece right, runs_whole all, if_neg (by simpa using some)]
        exact List.mem_append_left _ (List.mem_singleton_self _)
  rcases List.eq_nil_or_concat front with rfl | ⟨before, c, rfl⟩
  · exact here
  · have refused : accepts c = false := by simpa using left
    rw [List.concat_eq_append, List.append_assoc, List.append_assoc, List.singleton_append,
      runs_apart before refused]
    exact List.mem_append_right _ here

theorem mem_runs : piece ∈ runs accepts t ↔ ∃ front rest, IsRun accepts t piece front rest :=
  ⟨isRun_of_mem, fun ⟨_, _, run⟩ => run.mem⟩

end Text

namespace Selection

theorem standing_occurs {info marker : Text} : (standing marker).Occurs info ↔
    ∃ front rest, info = front ++ marker ++ rest ∧ front.getLast?.any isMarkerChar = false ∧
      rest.head?.any isMarkerChar = false := by
  constructor
  · rintro ⟨front, part, rest, split, left, others, rfl, ⟨rfl, clear⟩, middle, right, rfl, word, rfl,
      free⟩
    cases Pattern.matches_literal.mp word
    simp only [List.nil_append, List.append_nil] at split
    exact ⟨front, rest, split, clear, free⟩
  · rintro ⟨front, rest, split, left, right⟩
    refine ⟨front, marker, rest, split, [], marker, rfl, ⟨rfl, left⟩, marker, [],
      (List.append_nil _).symm, Pattern.matches_literal.mpr rfl, rfl, right⟩

/-- A marker of ASCII word characters and hyphens opts out just the infos of which it is a word. -/
theorem optedOut_iff_word (info marker : Text) (some : marker ≠ [])
    (plain : ∀ c ∈ marker, c.isAsciiWord = true ∨ c = .char '-') :
    optedOut info marker = true ↔ marker ∈ Text.runs isMarkerChar info := by
  have all : ∀ c ∈ marker, isMarkerChar c = true := by
    intro c member
    rw [isMarkerChar, Bool.or_eq_true, decide_eq_true_eq]
    exact (plain c member).imp_left CodePoint.isWord_of_isAsciiWord
  rw [optedOut, Pattern.occursIn_iff, standing_occurs, Text.mem_runs]
  constructor
  · rintro ⟨front, rest, split, left, right⟩
    exact ⟨front, rest, split, some, all, left, right⟩
  · rintro ⟨front, rest, run⟩
    exact ⟨front, rest, run.split, run.left, run.right⟩

/-- The marker begins a longer word, and it stands alone behind that. -/
theorem optedOut_iff_word_again :
    let info : Text := "no-check-all,no-check"
    let marker : Text := "no-check"
    marker ≠ [] ∧ (∀ c ∈ marker, c.isAsciiWord = true ∨ c = .char '-') ∧
      Text.runs isMarkerChar info = (["no-check-all", "no-check"] : List Text) ∧
      optedOut info marker = true := by
  intro info marker
  have some : marker ≠ [] := List.cons_ne_nil _ _
  have plain : ∀ c ∈ marker, c.isAsciiWord = true ∨ c = .char '-' := by decide
  have longer : Text.runs isMarkerChar "no-check-all" = (["no-check-all"] : List Text) :=
    Text.runs_whole (by decide)
  have alone : Text.runs isMarkerChar marker = [marker] := Text.runs_whole (by decide)
  have cut : isMarkerChar (.char ',') = false := by decide
  have words : Text.runs isMarkerChar info = (["no-check-all", "no-check"] : List Text) := by
    have apart := Text.runs_apart "no-check-all" cut marker
    rw [longer, alone] at apart
    exact apart
  refine ⟨some, plain, words, (optedOut_iff_word info marker some plain).mpr ?_⟩
  rw [words]
  exact List.mem_cons_of_mem _ List.mem_cons_self

end Selection

end FenceCheck
