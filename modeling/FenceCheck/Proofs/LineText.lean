import FenceCheck.Text.Blank
import FenceCheck.Text.Line

/-!
Pieces of a text between marks. Joined by the mark they are the text again, and none of them holds it,
so there is only one way to cut. A text that was stripped has no blank at either end.
-/

namespace FenceCheck

namespace Text

variable {mark : CodePoint} {t piece : Text}

theorem splitAt_nonempty (mark : CodePoint) (t : Text) : splitAt mark t ≠ [] := by
  induction t with
  | nil => exact List.cons_ne_nil _ _
  | cons c rest ih =>
      rw [splitAt]
      split
      · exact List.cons_ne_nil _ _
      · cases pieces : splitAt mark rest with
        | nil => exact absurd pieces ih
        | cons first more => exact List.cons_ne_nil _ _

theorem join_splitAt (mark : CodePoint) (t : Text) : join [mark] (splitAt mark t) = t := by
  induction t with
  | nil => rfl
  | cons c rest ih =>
      obtain ⟨first, more, pieces⟩ := List.exists_cons_of_ne_nil (splitAt_nonempty mark rest)
      rw [splitAt]
      rw [pieces] at ih ⊢
      split
      case isTrue same =>
          rw [same, join, ih]
          · rfl
          · exact List.cons_ne_nil first more
      case isFalse other =>
          rw [List.modifyHead_cons]
          cases more with
          | nil => exact congrArg (c :: ·) ih
          | cons next more => exact congrArg (c :: ·) ih

theorem splitAt_free (member : piece ∈ splitAt mark t) : mark ∉ piece := by
  induction t generalizing piece with
  | nil =>
      cases List.mem_singleton.mp member
      exact List.not_mem_nil
  | cons c rest ih =>
      obtain ⟨first, more, pieces⟩ := List.exists_cons_of_ne_nil (splitAt_nonempty mark rest)
      rw [splitAt] at member
      split at member
      case isTrue same =>
          rcases List.mem_cons.mp member with rfl | later
          · exact List.not_mem_nil
          · exact ih later
      case isFalse other =>
          rw [pieces] at ih member
          rw [List.modifyHead_cons] at member
          rcases List.mem_cons.mp member with rfl | later
          · intro inside
            rcases List.mem_cons.mp inside with same | old
            · exact other same.symm
            · exact ih List.mem_cons_self old
          · exact ih (List.mem_cons_of_mem _ later)

theorem splitAt_whole (plain : mark ∉ t) : splitAt mark t = [t] := by
  induction t with
  | nil => rfl
  | cons c rest ih =>
      have other : c ≠ mark := fun same => plain (same ▸ List.mem_cons_self)
      rw [splitAt, if_neg other, ih fun member => plain (List.mem_cons_of_mem _ member)]
      rfl

/-! Lines hold what the text holds, but for what ends them. -/

theorem mem_addToFirst {first c : CodePoint} {more : List Text} {line : Text}
    (member : line ∈ addToFirst first more) (inside : c ∈ line) :
    c = first ∨ ∃ other ∈ more, c ∈ other := by
  cases more with
  | nil =>
      cases List.mem_singleton.mp member
      exact Or.inl (List.mem_singleton.mp inside)
  | cons line' more =>
      rcases List.mem_cons.mp member with rfl | later
      · rcases List.mem_cons.mp inside with rfl | old
        · exact Or.inl rfl
        · exact Or.inr ⟨line', List.mem_cons_self, old⟩
      · exact Or.inr ⟨line, List.mem_cons_of_mem _ later, inside⟩

theorem mem_lines {c : CodePoint} {t line : Text} (member : line ∈ lines t) (inside : c ∈ line) :
    c ∈ t := by
  induction t using lines.induct generalizing line with
  | case1 => cases member
  | case2 rest ih =>
      rcases List.mem_cons.mp member with rfl | later
      · cases inside
      · exact List.mem_cons_of_mem _ (List.mem_cons_of_mem _ (ih later inside))
  | case3 first rest apart ends ih =>
      rw [lines, if_pos ends] at member
      · rcases List.mem_cons.mp member with rfl | later
        · cases inside
        · exact List.mem_cons_of_mem _ (ih later inside)
      · exact apart
  | case4 first rest apart goes ih =>
      rw [lines, if_neg goes] at member
      · rcases mem_addToFirst member inside with rfl | ⟨other, old, within⟩
        · exact List.mem_cons_self
        · exact List.mem_cons_of_mem _ (ih old within)
      · exact apart

theorem lines_free {c : CodePoint} {line : Text} (member : line ∈ lines t) (inside : c ∈ line) :
    isLineEnd c = false := by
  induction t using lines.induct generalizing line with
  | case1 => cases member
  | case2 rest ih =>
      rcases List.mem_cons.mp member with rfl | later
      · cases inside
      · exact ih later inside
  | case3 first rest apart ends ih =>
      rw [lines, if_pos ends] at member
      · rcases List.mem_cons.mp member with rfl | later
        · cases inside
        · exact ih later inside
      · exact apart
  | case4 first rest apart goes ih =>
      rw [lines, if_neg goes] at member
      · rcases mem_addToFirst member inside with rfl | ⟨other, old, within⟩
        · exact eq_false_of_ne_true goes
        · exact ih old within
      · exact apart

theorem lines_whole (some : t ≠ []) (whole : ∀ c ∈ t, isLineEnd c = false) : lines t = [t] := by
  induction t with
  | nil => exact absurd rfl some
  | cons c rest ih =>
      obtain ⟨here, further⟩ := List.forall_mem_cons.mp whole
      have apart : ∀ more, c = .char '\r' → rest = .char '\n' :: more → False := by
        rintro more rfl -
        cases here
      rw [lines, if_neg (by simp [here])]
      · cases rest with
        | nil => rfl
        | cons next more => rw [ih (List.cons_ne_nil _ _) further, addToFirst]
      · exact apart

theorem lines_break {front : Text} {stop : CodePoint} (whole : ∀ c ∈ front, isLineEnd c = false)
    (ends : isLineEnd stop = true) (apart : stop ≠ .char '\r') (rest : Text) :
    lines (front ++ stop :: rest) = front :: lines rest := by
  induction front with
  | nil =>
      rw [List.nil_append, lines, if_pos ends]
      rintro more rfl -
      exact apart rfl
  | cons c front ih =>
      obtain ⟨here, further⟩ := List.forall_mem_cons.mp whole
      rw [List.cons_append, lines, if_neg (by simp [here]), ih further, addToFirst]
      rintro more rfl -
      cases here

theorem lines_some (some : t ≠ []) : lines t ≠ [] := by
  fun_cases lines t with
  | case1 => exact absurd rfl some
  | case2 => exact List.cons_ne_nil _ _
  | case3 => exact List.cons_ne_nil _ _
  | case4 c rest =>
      cases lines rest <;> exact List.cons_ne_nil _ _

/-- Nothing, or lines with a line feed behind the last. -/
def Ended (t : Text) : Prop := t ≠ [] → t.getLast? = some (.char '\n')

theorem Ended.rest {c : CodePoint} (ended : Ended (c :: t)) : Ended t := by
  intro some
  have last := ended (List.cons_ne_nil c t)
  rwa [List.getLast?_cons_of_ne_nil some] at last

/-- A carriage return that has ended does not join a line feed behind it. -/
theorem Ended.apart {c : CodePoint} (ended : Ended (c :: t)) (back : Text)
    (apart : ∀ more, c = .char '\r' → t = .char '\n' :: more → False) :
    ∀ more, c = .char '\r' → t ++ back = .char '\n' :: more → False := by
  rintro more rfl same
  cases t with
  | nil => cases ended (List.cons_ne_nil _ _)
  | cons d t =>
      cases same
      exact apart t rfl rfl

theorem lines_append {front : Text} (ended : Ended front) (back : Text) :
    lines (front ++ back) = lines front ++ lines back := by
  induction front using lines.induct with
  | case1 => rfl
  | case2 rest ih => exact congrArg ([] :: ·) (ih ended.rest.rest)
  | case3 c rest apart ends ih =>
      rw [List.cons_append, lines, if_pos ends, lines, if_pos ends, ih ended.rest]
      · rfl
      · exact apart
      · exact ended.apart back apart
  | case4 c rest apart goes ih =>
      have some : rest ≠ [] := by
        rintro rfl
        cases ended (List.cons_ne_nil c [])
        exact goes rfl
      obtain ⟨line, more, pieces⟩ := List.exists_cons_of_ne_nil (lines_some some)
      rw [List.cons_append, lines, if_neg goes, lines, if_neg goes, ih ended.rest, pieces]
      · rfl
      · exact apart
      · exact ended.apart back apart

/-- A line feed behind a text ends its last line, or leaves an empty one where that line has ended. A
carriage return in front of it makes one end with it. -/
theorem lines_feed (t : Text) :
    lines (t ++ [.char '\n']) = lines t ∨ lines (t ++ [.char '\n']) = lines t ++ [[]] := by
  induction t using lines.induct with
  | case1 => exact Or.inr rfl
  | case2 rest ih => exact ih.imp (congrArg ([] :: ·)) (congrArg ([] :: ·))
  | case3 c rest apart ends ih =>
      by_cases returned : c = .char '\r' ∧ rest = []
      · obtain ⟨rfl, rfl⟩ := returned
        exact Or.inl rfl
      · have behind :
            ∀ more, c = .char '\r' → rest ++ [.char '\n'] = .char '\n' :: more → False := by
          rintro more rfl same
          cases rest with
          | nil => exact returned ⟨rfl, rfl⟩
          | cons d rest =>
              cases same
              exact apart rest rfl rfl
        rw [List.cons_append, lines, if_pos ends, lines, if_pos ends]
        · exact ih.imp (congrArg ([] :: ·)) (congrArg ([] :: ·))
        · exact apart
        · exact behind
  | case4 c rest apart goes ih =>
      have behind :
          ∀ more, c = .char '\r' → rest ++ [.char '\n'] = .char '\n' :: more → False := by
        rintro more rfl
        exact absurd rfl goes
      rw [List.cons_append, lines, if_neg goes, lines, if_neg goes]
      · cases rest with
        | nil => exact Or.inl rfl
        | cons d rest =>
            obtain ⟨line, more, pieces⟩ :=
              List.exists_cons_of_ne_nil (lines_some (List.cons_ne_nil d rest))
            rw [pieces] at ih ⊢
            exact ih.imp (congrArg (addToFirst c)) (congrArg (addToFirst c))
      · exact apart
      · exact behind

theorem lines_joined (front back : Text) :
    ∃ blank, lines (front ++ .char '\n' :: back) = lines front ++ blank ++ lines back ∧
      ∀ line ∈ blank, line = [] := by
  have ended : Ended (front ++ [.char '\n']) := fun _ => List.getLast?_concat
  have cut : lines (front ++ .char '\n' :: back) =
      lines (front ++ [.char '\n']) ++ lines back := by
    rw [← lines_append ended, List.append_assoc]
    rfl
  rcases lines_feed front with same | empty
  · exact ⟨[], by rw [cut, same, List.append_nil], by simp⟩
  · exact ⟨[[]], by rw [cut, empty], by simp⟩

theorem lines_first {line : Text} (first : (lines t).head? = some line) : line <+: t := by
  induction t using lines.induct generalizing line with
  | case1 => cases first
  | case2 rest ih =>
      cases first
      exact List.nil_prefix
  | case3 c rest apart ends ih =>
      rw [lines, if_pos ends] at first
      · cases first
        exact List.nil_prefix
      · exact apart
  | case4 c rest apart goes ih =>
      rw [lines, if_neg goes] at first
      · cases more : lines rest with
        | nil =>
            rw [more] at first
            cases first
            exact List.prefix_append [c] rest
        | cons line more' =>
            rw [more] at ih first
            cases first
            exact List.cons_prefix_cons.mpr ⟨rfl, ih rfl⟩
      · exact apart

theorem lines_infix {line : Text} (member : line ∈ lines t) : line <:+: t := by
  induction t using lines.induct generalizing line with
  | case1 => cases member
  | case2 rest ih =>
      rcases List.mem_cons.mp member with rfl | later
      · exact List.nil_infix
      · exact ((ih later).trans (List.suffix_cons _ _).isInfix).trans (List.suffix_cons _ _).isInfix
  | case3 c rest apart ends ih =>
      rw [lines, if_pos ends] at member
      · rcases List.mem_cons.mp member with rfl | later
        · exact List.nil_infix
        · exact (ih later).trans (List.suffix_cons _ _).isInfix
      · exact apart
  | case4 c rest apart goes ih =>
      rw [lines, if_neg goes] at member
      · -- The character goes in front of the first line, where there is one.
        cases pieces : lines rest with
        | nil =>
            rw [pieces] at member
            cases List.mem_singleton.mp member
            exact (List.prefix_append [c] rest).isInfix
        | cons first more =>
            have front : first <+: rest := lines_first (by rw [pieces]; rfl)
            rw [pieces] at ih member
            rcases List.mem_cons.mp member with rfl | later
            · exact (List.cons_prefix_cons.mpr ⟨rfl, front⟩).isInfix
            · exact (ih (List.mem_cons_of_mem _ later)).trans (List.suffix_cons _ _).isInfix
      · exact apart

/-! Blanks at the ends. -/

theorem mem_strip {c : CodePoint} {t : Text} (member : c ∈ strip t) : c ∈ t := by
  have inner := List.mem_reverse.mp member
  have outer := List.mem_reverse.mp ((List.dropWhile_suffix _).subset inner)
  exact (List.dropWhile_suffix _).subset outer

theorem dropWhile_head {p : CodePoint → Bool} {c : CodePoint}
    (first : (t.dropWhile p).head? = some c) : p c = false := by
  have kept := List.head?_dropWhile_not p t
  rw [first] at kept
  exact kept

theorem dropWhile_behind {p : CodePoint → Bool} {behind : Text} {c : CodePoint}
    (first : behind.head? = some c) (stops : p c = false) (t : Text) :
    (t ++ behind).dropWhile p = t.dropWhile p ++ behind := by
  cases behind with
  | nil => cases first
  | cons d behind =>
      cases first
      rw [List.dropWhile_append]
      split
      case isTrue none =>
          rw [List.isEmpty_iff.mp none, List.dropWhile_cons_of_neg (by simp [stops])]
          rfl
      case isFalse => rfl

theorem stripEnd_isPrefix (t : Text) : stripEnd t <+: t := by
  rw [stripEnd, dropEndWhile, ← List.reverse_suffix, List.reverse_reverse]
  exact List.dropWhile_suffix _

theorem strip_isPrefix (t : Text) : strip t <+: stripStart t := stripEnd_isPrefix (stripStart t)

theorem strip_infix (t : Text) : strip t <:+: t :=
  (strip_isPrefix t).isInfix.trans (List.dropWhile_suffix _).isInfix

theorem strip_head {c : CodePoint} (first : (strip t).head? = some c) : ¬ c.isBlank = true := by
  obtain ⟨behind, same⟩ := strip_isPrefix t
  have head : (stripStart t).head? = some c := by
    rw [← same, List.head?_append, first]
    rfl
  simp [dropWhile_head head]

theorem strip_last {c : CodePoint} (last : (strip t).getLast? = some c) : ¬ c.isBlank = true := by
  rw [strip, stripEnd, dropEndWhile, List.getLast?_reverse] at last
  simp [dropWhile_head last]

theorem strip_of_ends (front : ∀ c, t.head? = some c → ¬ c.isBlank = true)
    (back : ∀ c, t.getLast? = some c → ¬ c.isBlank = true) : strip t = t := by
  have kept (t : Text) (front : ∀ c, t.head? = some c → ¬ c.isBlank = true) :
      t.dropWhile CodePoint.isBlank = t := by
    cases t with
    | nil => rfl
    | cons c rest => exact List.dropWhile_cons_of_neg (front c rfl)
  rw [strip, stripStart, kept t front, stripEnd, dropEndWhile, kept t.reverse, List.reverse_reverse]
  intro c first
  rw [List.head?_reverse] at first
  exact back c first

end Text

end FenceCheck
