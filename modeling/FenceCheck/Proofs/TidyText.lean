import FenceCheck.Proofs.DiagnosticText
import FenceCheck.Proofs.NumberText
import FenceCheck.Text.Quoted
import Mathlib.Tactic.SplitIfs

/-!
Messages that are fit to be shown: something is said, on one line and without blanks around it. What is
left of a dump is fit if anything is left, and a fit message that reads like none of the harness's own
lines is left as it is.
-/

namespace FenceCheck

namespace Text

variable {t front back : Text}

def Whole (t : Text) : Prop := ∀ c ∈ t, isLineEnd c = false

instance (t : Text) : Decidable (Whole t) := List.decidableBAll _ t

def opens (t : Text) : Bool := t.head?.any (!·.isBlank)

def closes (t : Text) : Bool := t.getLast?.any (!·.isBlank)

/-- A text that says something on one line and has no blanks around it. -/
structure Tidy (t : Text) : Prop where
  some : t ≠ []
  whole : Whole t
  stripped : strip t = t

theorem strip_opens (some : strip t ≠ []) : opens (strip t) = true := by
  have front := strip_head (List.head?_eq_some_head some)
  rw [opens, List.head?_eq_some_head some, Option.any_some, Bool.not_eq_true']
  simpa using front

theorem strip_closes (some : strip t ≠ []) : closes (strip t) = true := by
  have back := strip_last (List.getLast?_eq_some_getLast some)
  rw [closes, List.getLast?_eq_some_getLast some, Option.any_some, Bool.not_eq_true']
  simpa using back

theorem tidy_iff : Tidy t ↔ Whole t ∧ opens t = true ∧ closes t = true := by
  constructor
  · rintro ⟨some, whole, stripped⟩
    rw [← stripped] at some
    exact ⟨whole, stripped ▸ strip_opens some, stripped ▸ strip_closes some⟩
  · rintro ⟨whole, opening, closing⟩
    refine ⟨?_, whole, strip_of_ends ?_ ?_⟩
    · rintro rfl
      cases opening
    · intro c here
      simpa [opens, here] using opening
    · intro c here
      simpa [closes, here] using closing

theorem whole_append : Whole (front ++ back) ↔ Whole front ∧ Whole back := List.forall_mem_append

theorem opens_append (opening : opens front = true) : opens (front ++ back) = true := by
  cases front with
  | nil => cases opening
  | cons c rest => exact opening

theorem closes_suffix (some : back ≠ []) : closes (front ++ back) = closes back := by
  rw [closes, closes, List.getLast?_append, List.getLast?_eq_some_getLast some, Option.some_or]

theorem closes_append (closing : closes back = true) : closes (front ++ back) = true := by
  have some : back ≠ [] := by
    rintro rfl
    cases closing
  rw [closes_suffix some, closing]

theorem strip_behind (opening : opens front = true) (closing : closes front = true) (back : Text) :
    strip (front ++ back) = front ++ stripEnd back := by
  obtain ⟨c, first, sharp⟩ := (Option.any_eq_true _ _).mp opening
  obtain ⟨d, last, blunt⟩ := (Option.any_eq_true _ _).mp closing
  rw [Bool.not_eq_true'] at sharp blunt
  have kept : stripStart (front ++ back) = front ++ back := by
    have start : (front ++ back).head? = some c := by rw [List.head?_append, first, Option.some_or]
    exact dropWhile_behind start sharp []
  rw [← List.head?_reverse] at last
  rw [strip, kept, stripEnd, dropEndWhile, List.reverse_append, dropWhile_behind last blunt,
    List.reverse_append, List.reverse_reverse]
  rfl

theorem tidy_behind (whole : Whole front) (opening : opens front = true)
    (blank : closes front = false) : Tidy (front ++ t) ↔ Whole t ∧ closes t = true := by
  rw [tidy_iff, whole_append]
  constructor
  · rintro ⟨⟨-, whole⟩, -, closing⟩
    refine ⟨whole, ?_⟩
    by_cases none : t = []
    · rw [none, List.append_nil, blank] at closing
      cases closing
    · rwa [closes_suffix none] at closing
  · rintro ⟨rest, closing⟩
    exact ⟨⟨whole, rest⟩, opens_append opening, closes_append closing⟩

/-! Numbers and quoted texts. -/

theorem whole_written (written : Number.Written t) : Whole t := written.none (by decide)

theorem ofInt_closes (n : Int) : closes (ofInt n) = true := by
  have some : ofInt n ≠ [] := by
    cases n with
    | ofNat n => exact mt List.map_eq_nil_iff.mp Nat.toDigits_ne_nil
    | negSucc n => exact List.cons_ne_nil _ _
  have clear := (Number.written_ofInt n).none (p := CodePoint.isBlank) (by decide)
  rw [closes, List.getLast?_eq_some_getLast some, Option.any_some, clear _ (List.getLast_mem some)]
  rfl

theorem whole_hexDigits (n count : Nat) : Whole (hexDigits n count) := by
  have digit : ∀ n < 16, isLineEnd (.char (Nat.digitChar n)) = false := by decide
  induction count generalizing n with
  | zero => exact fun c member => absurd member List.not_mem_nil
  | succ count ih =>
      rw [hexDigits, whole_append]
      refine ⟨ih _, fun c member => ?_⟩
      cases List.mem_singleton.mp member
      exact digit _ (Nat.mod_lt n (by decide))

theorem printable_whole {c : CodePoint} (printable : c.isPrintable = true) : isLineEnd c = false := by
  refine eq_false_of_ne_true fun ends => ?_
  simp only [isLineEnd, Bool.or_eq_true, Bool.and_eq_true, decide_eq_true_eq,
    beq_iff_eq] at ends
  have value : c.val < 0x20 ∨ c.val = 0x85 ∨ c.val = 0x2028 ∨ c.val = 0x2029 := by omega
  unfold CodePoint.isPrintable at printable
  rcases value with low | same | same | same
  · rw [if_pos (by omega)] at printable
    simp only [decide_eq_true_eq] at printable
    omega
  all_goals
    rw [same] at printable
    revert printable
    decide +kernel

theorem whole_quotedPoint {quote : CodePoint} (plain : isLineEnd quote = false) (c : CodePoint) :
    Whole (quotedPoint quote c) := by
  have one {c : CodePoint} (plain : isLineEnd c = false) : Whole [c] :=
    List.forall_mem_singleton.mpr plain
  unfold quotedPoint
  split_ifs with special _ _ _ printable
  · refine whole_append.mpr ⟨one (by decide), one ?_⟩
    rcases special with rfl | rfl
    · exact plain
    · decide
  · decide
  · decide
  · decide
  · exact one (printable_whole printable)
  all_goals exact whole_append.mpr ⟨by decide, whole_hexDigits _ _⟩

theorem whole_quoted (t : Text) : Whole (quoted t) := by
  have framed {quote : CodePoint} (plain : isLineEnd quote = false) :
      Whole (quote :: t.flatMap (quotedPoint quote) ++ [quote]) := by
    intro c member
    simp only [List.cons_append, List.mem_cons, List.mem_append, List.mem_flatMap,
      List.not_mem_nil, or_false] at member
    rcases member with rfl | ⟨source, -, inside⟩ | rfl
    · exact plain
    · exact whole_quotedPoint plain source c inside
    · exact plain
  unfold quoted
  exact framed (by split <;> decide)

theorem quoted_closes (t : Text) : closes (quoted t) = true := by
  unfold quoted
  exact closes_append (by split <;> rfl)

end Text

namespace Pattern

variable {α : Type} {next : Cursor → Option α} {answer : α} {cursor : Cursor}

theorem literal_rest {word : Text} (found : (literal word).runThen next cursor = some answer) :
    ∃ behind : Cursor, cursor.rest = word ++ behind.rest ∧ next behind = some answer := by
  obtain ⟨part, rest, same, matched, answered⟩ := runThen_sound _ found
  cases matches_literal.mp matched
  exact ⟨_, same, answered⟩

theorem many_empty {accepts : CodePoint → Bool} {c : CodePoint} {rest : Text} {previous : Option CodePoint}
    (refused : accepts c = false) :
    (many accepts).runThen next ⟨previous, c :: rest⟩ = next ⟨previous, c :: rest⟩ := by
  rw [runThen, manyThen, refused]
  rfl

theorem manyThen_some (accepts : CodePoint → Bool) (previous : Option CodePoint) (t : Text) :
    ∃ last, manyThen accepts some previous t = some ⟨last, t.dropWhile accepts⟩ := by
  induction t generalizing previous with
  | nil => exact ⟨previous, rfl⟩
  | cons c rest ih =>
      by_cases accepted : accepts c = true
      · obtain ⟨last, same⟩ := ih (some c)
        rw [manyThen, if_pos accepted, same, List.dropWhile_cons_of_pos accepted]
        exact ⟨last, rfl⟩
      · rw [manyThen, if_neg accepted, List.dropWhile_cons_of_neg accepted]
        exact ⟨previous, rfl⟩

theorem deleteAll_unmatched {pattern : Pattern} {t : Text}
    (unmatched : ∀ previous rest, rest <:+ t → pattern.match? ⟨previous, rest⟩ = none) :
    pattern.deleteAll t = t := by
  unfold deleteAll
  generalize (none : Option CodePoint) = previous
  induction t generalizing previous with
  | nil => rfl
  | cons c rest ih =>
      rw [deleteFrom, unmatched previous _ (List.suffix_refl _)]
      exact congrArg (c :: ·) (ih (fun previous more suffix =>
        unmatched previous more (suffix.trans (List.suffix_cons c rest))) (some c))

end Pattern

namespace Text

theorem contains_subset {t part : Text} (inside : contains t part = true) {c : CodePoint}
    (member : c ∈ part) : c ∈ t := by
  induction t with
  | nil =>
      rw [contains, List.isEmpty_iff] at inside
      exact inside ▸ member
  | cons first rest ih =>
      rw [contains, Bool.or_eq_true] at inside
      rcases inside with here | further
      · exact (List.isPrefixOf_iff_prefix.mp here).subset member
      · exact List.mem_cons_of_mem _ (ih further)

end Text

namespace Diagnostic

variable {t line : Text}

/-- A fit text that reads like no line of the harness. -/
structure Plain (t : Text) : Prop where
  tidy : Text.Tidy t
  colon : .char ':' ∉ t
  underscore : .char '_' ∉ t
  first : ∀ c ∈ t.head?, c ≠ .char 'a' ∧ c ≠ .char '✘' ∧ c ≠ .char '['

theorem literal_absent {word : Text} {second : Pattern} {c : CodePoint} (inside : c ∈ word)
    (absent : c ∉ t) : ((Pattern.literal word).seq second).deleteAll t = t := by
  refine Pattern.deleteAll_unmatched fun previous rest suffix => Option.eq_none_iff_forall_ne_some.mpr ?_
  intro behind found
  obtain ⟨between, here, -⟩ := Pattern.literal_rest found
  refine absent (suffix.subset ?_)
  rw [show rest = word ++ between.rest from here]
  exact List.mem_append_left _ inside

theorem Plain.dumpLines (plain : Plain t) : dumpLines t = [t] := by
  unfold Diagnostic.dumpLines
  have placed : evaluatedPlace.deleteAll t = t :=
    literal_absent (c := .char ':') (by decide) plain.colon
  have read : inputPlace.deleteAll t = t := literal_absent (c := .char ':') (by decide) plain.colon
  rw [placed, read]
  exact Text.lines_whole plain.tidy.some plain.tidy.whole

theorem Plain.quiet (plain : Plain t) : isNoise t = false := by
  obtain ⟨some, -, stripped⟩ := plain.tidy
  have unmarked : noiseMarkers.any (Text.contains t) = false := by
    refine List.any_eq_false.mpr fun marker among inside => ?_
    have telling : ∀ marker ∈ noiseMarkers, .char ':' ∈ marker ∨ .char '_' ∈ marker := by decide
    rcases telling marker among with colon | underscore
    · exact plain.colon (Text.contains_subset inside colon)
    · exact plain.underscore (Text.contains_subset inside underscore)
  have unframed : stackFrame.match? (Cursor.start t) = none := by
    refine Option.eq_none_iff_forall_ne_some.mpr fun behind found => ?_
    cases t with
    | nil => exact some rfl
    | cons c rest =>
        have front : c.isBlank = false := by
          have := Text.strip_head (t := c :: rest) (c := c) (by rw [stripped]; rfl)
          simpa using this
        have frame : (Pattern.literal "at").runThen
            ((Pattern.one CodePoint.isBlank).runThen Option.some) ⟨none, c :: rest⟩ =
              Option.some behind := (Pattern.many_empty front).symm.trans found
        obtain ⟨between, here, -⟩ := Pattern.literal_rest frame
        exact (plain.first c rfl).1 (List.cons.inj here).1
  rw [isNoise, unmarked, unframed]
  rfl

theorem Plain.meaning (plain : Plain t) : meaningOf t = t := by
  have unlabelled : bundlerLabel.match? (Cursor.start t) = none := by
    refine Option.eq_none_iff_forall_ne_some.mpr fun behind found => ?_
    rcases Option.or_eq_some_iff.mp found with cross | ⟨-, word⟩
    · obtain ⟨between, here, -⟩ := Pattern.literal_rest cross
      have first : .char '✘' ∈ t.head? := by
        rw [show t = _ from here]
        rfl
      exact (plain.first _ first).2.1 rfl
    · obtain ⟨between, here, -⟩ := Pattern.literal_rest word
      have first : .char '[' ∈ t.head? := by
        rw [show t = _ from here]
        rfl
      exact (plain.first _ first).2.2 rfl
  rw [meaningOf, plain.tidy.stripped]
  simp only [unlabelled]

theorem Plain.clean (plain : Plain t) : clean t = t := by
  unfold Diagnostic.clean
  simp only [plain.dumpLines, firstMeaning, plain.quiet, plain.meaning]
  cases t <;> rfl

theorem labelled_opens {stripped : Text} {behind : Cursor}
    (labelled : bundlerLabel.match? (Cursor.start stripped) = some behind) (some : behind.rest ≠ []) :
    Text.opens behind.rest = true := by
  have stepwise : (Pattern.optional (.seq (.literal "✘") .blanks)).runThen
      ((Pattern.literal "[ERROR]").runThen (Pattern.blanks.runThen Option.some))
      (Cursor.start stripped) = Option.some behind := labelled
  obtain ⟨marked, -, further⟩ := Pattern.runThen_rest _ stepwise
  obtain ⟨worded, -, final⟩ := Pattern.literal_rest further
  obtain ⟨last, same⟩ := Pattern.manyThen_some CodePoint.isBlank worded.previous worded.rest
  have left : behind.rest = worded.rest.dropWhile CodePoint.isBlank := by
    cases same.symm.trans final
    rfl
  have first := List.head?_eq_some_head some
  have clear : (behind.rest.head some).isBlank = false := by
    refine Text.dropWhile_head (t := worded.rest) ?_
    rw [← left, first]
  rw [Text.opens, first, Option.any_some, clear]
  rfl

theorem meaningOf_tidy (whole : Text.Whole line) :
    meaningOf line = [] ∨ Text.Tidy (meaningOf line) := by
  by_cases none : meaningOf line = []
  · exact Or.inl none
  refine Or.inr (Text.tidy_iff.mpr ⟨fun c member => whole c (mem_meaningOf member), ?_⟩)
  unfold meaningOf at none ⊢
  simp only at none ⊢
  split
  case h_1 behind labelled =>
      simp only [labelled] at none
      obtain ⟨label, same⟩ := Pattern.match_suffix labelled
      have closing := Text.strip_closes (t := line) (by rintro empty; simp_all [Cursor.start])
      refine ⟨labelled_opens labelled none, ?_⟩
      rw [show Text.strip line = label ++ behind.rest from same.symm] at closing
      rwa [Text.closes_suffix none] at closing
  case h_2 plain =>
      simp only [plain] at none
      exact ⟨Text.strip_opens none, Text.strip_closes none⟩

theorem firstMeaning_tidy {lines : List Text} (whole : ∀ line ∈ lines, Text.Whole line) :
    firstMeaning lines = [] ∨ Text.Tidy (firstMeaning lines) := by
  induction lines with
  | nil => exact Or.inl rfl
  | cons line rest ih =>
      obtain ⟨here, further⟩ := List.forall_mem_cons.mp whole
      rw [firstMeaning]
      split
      · exact ih further
      · split
        · exact ih further
        · exact meaningOf_tidy here

theorem clean_tidy (dump : Text) : clean dump = [] ∨ Text.Tidy (clean dump) :=
  firstMeaning_tidy fun _ among _ inside => Text.lines_free among inside

end Diagnostic

end FenceCheck
