import FenceCheck.Proofs.MarkerWords
import FenceCheck.Proofs.TidyText
import FenceCheck.Source.PageGlobal
import Mathlib.Data.List.DropRight
import Mathlib.Data.List.Infix

/-!
Globals of a page as words of a source. What is left of a source without its comments falls into words,
and it uses a page just if one of them is the name of a global. A comment is deleted and leaves nothing in
its place; so the word that ends in front of it and the word that begins behind it become one.
-/

namespace FenceCheck

namespace Text

variable {accepts : CodePoint → Bool} {t front rest : Text}

theorem runs_nil : runs accepts [] = [] := runs_whole (List.forall_mem_nil _)

theorem runs_append_left (closed : front.getLast?.any accepts = false) (t : Text) :
    runs accepts (front ++ t) = runs accepts front ++ runs accepts t := by
  rcases List.eq_nil_or_concat front with rfl | ⟨before, c, rfl⟩
  · rfl
  · have refused : accepts c = false := by simpa using closed
    have alone := runs_apart before refused []
    rw [List.concat_eq_append, List.append_assoc, List.singleton_append, runs_apart before refused,
      alone, runs_nil, List.append_nil]

theorem runs_append_right (closed : rest.head?.any accepts = false) (t : Text) :
    runs accepts (t ++ rest) = runs accepts t ++ runs accepts rest := by
  cases rest with
  | nil => rw [List.append_nil, runs_nil, List.append_nil]
  | cons c rest =>
      have alone := runs_apart [] closed rest
      rw [runs_apart t closed, ← List.nil_append (c :: rest), alone, runs_nil, List.nil_append]

theorem dropWhile_closed (accepts : CodePoint → Bool) (t : Text) :
    (t.dropWhile accepts).head?.any accepts = false := by
  have stops := List.head?_dropWhile_not accepts t
  cases behind : (t.dropWhile accepts).head? with
  | none => rfl
  | some c => simpa [behind] using stops

theorem rdropWhile_closed (accepts : CodePoint → Bool) (t : Text) :
    (t.rdropWhile accepts).getLast?.any accepts = false := by
  rw [List.rdropWhile, List.getLast?_reverse]
  exact dropWhile_closed accepts t.reverse

/-- Where two texts are joined the run at the end of the one and the run at the start of the other become
one run, and all other runs stay what they are. -/
theorem runs_joined (front rest : Text) :
    runs accepts (front ++ rest) =
      runs accepts (front.rdropWhile accepts) ++
        (runs accepts (front.rtakeWhile accepts ++ rest.takeWhile accepts) ++
          runs accepts (rest.dropWhile accepts)) := by
  calc runs accepts (front ++ rest)
    _ = runs accepts (front.rdropWhile accepts ++
          ((front.rtakeWhile accepts ++ rest.takeWhile accepts) ++ rest.dropWhile accepts)) := by
      rw [List.append_assoc, List.takeWhile_append_dropWhile, ← List.append_assoc,
        List.rdropWhile_append_rtakeWhile]
    _ = _ := by
      rw [runs_append_left (rdropWhile_closed accepts front),
        runs_append_right (dropWhile_closed accepts rest)]

end Text

namespace Pattern

variable {pattern : Pattern} {accepts : CodePoint → Bool} {α : Type} {next : Cursor → Option α}

theorem deleteFrom_unmatched {front rest : Text} {previous : Option CodePoint}
    (unmatched : ∀ before back, back <:+ front → back ≠ [] →
      pattern.match? ⟨before, back ++ rest⟩ = none) :
    deleteFrom pattern previous 0 (front ++ rest) =
      front ++ deleteFrom pattern (Cursor.past previous front) 0 rest := by
  induction front generalizing previous with
  | nil => rfl
  | cons c front ih =>
      have later := @ih (some c) fun before back suffix some =>
        unmatched before back (suffix.trans (List.suffix_cons c front)) some
      rw [List.cons_append, deleteFrom, ← List.cons_append,
        unmatched previous _ (List.suffix_refl _) (List.cons_ne_nil _ _), Cursor.past_cons]
      exact congrArg (c :: ·) later

theorem deleteFrom_skip (previous : Option CodePoint) (part rest : Text) :
    deleteFrom pattern previous part.length (part ++ rest) =
      deleteFrom pattern (Cursor.past previous part) 0 rest := by
  induction part generalizing previous with
  | nil => rfl
  | cons c part ih => rw [List.cons_append, List.length_cons, deleteFrom, ih, Cursor.past_cons]

theorem deleteFrom_match {previous last : Option CodePoint} {c : CodePoint} {part rest : Text}
    (matched : pattern.match? ⟨previous, c :: part ++ rest⟩ = some ⟨last, rest⟩) :
    deleteFrom pattern previous 0 (c :: part ++ rest) =
      deleteFrom pattern (Cursor.past (some c) part) 0 rest := by
  rw [List.cons_append] at matched ⊢
  rw [deleteFrom, matched]
  have passed : (part ++ rest).length - rest.length = part.length := by
    rw [List.length_append, Nat.add_sub_cancel]
  simp only [passed]
  exact deleteFrom_skip (some c) part rest

theorem literal_runThen (before : Option CodePoint) (word rest : Text) :
    (literal word).runThen next ⟨before, word ++ rest⟩ = next ⟨Cursor.past before word, rest⟩ := by
  induction word generalizing before with
  | nil => rfl
  | cons c word ih =>
      have here (further : Cursor → Option α) :
          oneThen (· = c) further ⟨before, c :: (word ++ rest)⟩ =
            further ⟨some c, word ++ rest⟩ := by
        simp [oneThen]
      rw [Cursor.past_cons]
      cases word with
      | nil => exact here next
      | cons d word => exact (here _).trans (ih (some c))

theorem fewThen_first {previous : Option CodePoint} {part rest : Text} {answer : α}
    (all : ∀ c ∈ part, accepts c = true)
    (passed : ∀ before back, back <:+ part → back ≠ [] → next ⟨before, back ++ rest⟩ = none)
    (here : next ⟨Cursor.past previous part, rest⟩ = some answer) :
    fewThen accepts next previous (part ++ rest) = some answer := by
  induction part generalizing previous with
  | nil =>
      cases rest with
      | nil => exact here
      | cons c rest =>
          rw [Cursor.past_nil] at here
          rw [List.nil_append, fewThen, here]
  | cons c part ih =>
      obtain ⟨accepted, all⟩ := List.forall_mem_cons.mp all
      rw [Cursor.past_cons] at here
      -- There is no answer from here, so one more code point is taken.
      rw [List.cons_append, fewThen, ← List.cons_append,
        passed previous _ (List.suffix_refl _) (List.cons_ne_nil _ _)]
      simp only [accepted, if_true]
      refine ih all (fun before back suffix some => ?_) here
      exact passed before back (suffix.trans (List.suffix_cons c part)) some

end Pattern

namespace Source

variable {source front body back name : Text} {before : Option CodePoint} {part rest : Text}

def comment : Pattern := .either blockComment lineComment

theorem comment_slash {cursor behind : Cursor} (found : comment.match? cursor = some behind) :
    ∃ rest, cursor.rest = Path.slash :: rest := by
  obtain ⟨previous, t⟩ := cursor
  obtain ⟨part, rest, split, matched, -⟩ := Pattern.runThen_sound comment found
  rcases matched with ⟨left, right, rfl, opening, -⟩ | ⟨left, right, rfl, ⟨rfl, -⟩, more⟩
  · rw [Pattern.matches_literal.mp opening] at split
    exact ⟨_, split⟩
  · obtain ⟨slashes, right, rfl, spelled, -⟩ := more
    rw [Pattern.matches_literal.mp spelled] at split
    exact ⟨_, split⟩

theorem comment_absent (bare : Path.slash ∉ front) (suffix : back <:+ front) (some : back ≠ []) :
    comment.match? ⟨before, back ++ rest⟩ = none := by
  refine Option.eq_none_iff_forall_ne_some.mpr fun behind found => ?_
  obtain ⟨c, back, rfl⟩ := List.exists_cons_of_ne_nil some
  obtain ⟨more, starts⟩ := comment_slash found
  exact bare (suffix.subset ((List.cons.inj starts).1 ▸ List.mem_cons_self))

theorem delete_bare (bare : Path.slash ∉ front) (rest : Text) :
    comment.deleteFrom before 0 (front ++ rest) =
      front ++ comment.deleteFrom (Cursor.past before front) 0 rest :=
  Pattern.deleteFrom_unmatched fun _ _ => comment_absent bare

theorem withoutComments_bare (bare : Path.slash ∉ source) : withoutComments source = source := by
  have kept := @delete_bare source none bare []
  rwa [List.append_nil, Pattern.deleteFrom, List.append_nil] at kept

theorem ending_first (closed : ¬ Text.ofString "*/" <:+: body) (suffix : back <:+ body)
    (some : back ≠ []) :
    (Pattern.literal "*/").runThen Option.some ⟨before, back ++ (Text.ofString "*/" ++ rest)⟩ = none := by
  refine Option.eq_none_iff_forall_ne_some.mpr fun behind found => ?_
  obtain ⟨between, here, -⟩ := Pattern.literal_rest found
  have whole : back ++ (Text.ofString "*/" ++ rest) = .char '*' :: .char '/' :: between.rest := here
  -- A single code point is followed by a star, and the ending has its slash there.
  match back with
  | [] => exact some rfl
  | [c] => simp [Text.ofString, Text.ofChars] at whole
  | c :: d :: back =>
      obtain ⟨rfl, further⟩ := List.cons.inj whole
      obtain ⟨rfl, -⟩ := List.cons.inj further
      exact closed (List.IsInfix.trans ⟨[], back, rfl⟩ suffix.isInfix)

/-- A comment as it is written between slashes and stars. -/
def commented (body : Text) : Text := Text.ofString "/*" ++ (body ++ Text.ofString "*/")

theorem comment_matches (closed : ¬ Text.ofString "*/" <:+: body) (before : Option CodePoint)
    (rest : Text) :
    comment.match? ⟨before, commented body ++ rest⟩ =
      some ⟨Cursor.past before (commented body), rest⟩ := by
  have ends (before : Option CodePoint) :
      (Pattern.literal "*/").runThen some ⟨before, Text.ofString "*/" ++ rest⟩ =
        some ⟨Cursor.past before "*/", rest⟩ :=
    Pattern.literal_runThen before "*/" rest
  have absent (before : Option CodePoint) (back : Text) (suffix : back <:+ body) (here : back ≠ []) :
      (Pattern.literal "*/").runThen some ⟨before, back ++ (Text.ofString "*/" ++ rest)⟩ = none :=
    ending_first closed suffix here
  have through : Pattern.fewThen (fun _ => true) ((Pattern.literal "*/").runThen some)
      (Cursor.past before "/*") (body ++ (Text.ofString "*/" ++ rest)) = _ :=
    Pattern.fewThen_first (fun _ _ => rfl) absent (ends _)
  have block : blockComment.match? ⟨before, commented body ++ rest⟩ =
      some ⟨Cursor.past before (commented body), rest⟩ := by
    rw [commented, List.append_assoc, List.append_assoc, Cursor.past_append, Cursor.past_append]
    exact (Pattern.literal_runThen before "/*" _).trans through
  exact Option.or_eq_some_iff.mpr (Or.inl block)

/-- A comment between texts without slashes is deleted, and nothing else is. -/
theorem withoutComments_between (bare : Path.slash ∉ front) (closed : ¬ Text.ofString "*/" <:+: body)
    (plain : Path.slash ∉ back) :
    withoutComments (front ++ (commented body ++ back)) = front ++ back := by
  let inner : Text := .char '*' :: (body ++ Text.ofString "*/")
  have deleted : comment.deleteFrom (Cursor.past none front) 0 (Path.slash :: inner ++ back) = _ :=
    Pattern.deleteFrom_match (comment_matches closed (Cursor.past none front) back)
  have kept := @delete_bare back (Cursor.past (some Path.slash) inner) plain []
  rw [List.append_nil, Pattern.deleteFrom, List.append_nil] at kept
  calc withoutComments (front ++ (commented body ++ back))
    _ = front ++ comment.deleteFrom (Cursor.past none front) 0 (commented body ++ back) :=
      delete_bare bare _
    _ = front ++ back := congrArg (front ++ ·) (deleted.trans kept)

/-! The names of globals. -/

/-- A word that names a global of a page. -/
inductive PageName : Text → Prop where
  | listed {name : Text} (among : name ∈ pageGlobalNames) : PageName name
  | element {kind : Text} (word : ∀ c ∈ kind, c.isWord = true) :
      PageName (Text.ofString "HTML" ++ (kind ++ Text.ofString "Element"))

theorem PageName.word (names : PageName name) : ∀ c ∈ name, c.isWord = true := by
  cases names with
  | listed among =>
      have listed : ∀ name ∈ pageGlobalNames, ∀ c ∈ name, c.isAsciiWord = true := by decide
      exact fun c member => CodePoint.isWord_of_isAsciiWord (listed name among c member)
  | element word =>
      have ends : ∀ c ∈ Text.ofString "HTML" ++ Text.ofString "Element", c.isAsciiWord = true := by
        decide
      intro c member
      rcases List.mem_append.mp member with first | later
      · exact CodePoint.isWord_of_isAsciiWord (ends c (List.mem_append_left _ first))
      · rcases List.mem_append.mp later with kind | last
        · exact word c kind
        · exact CodePoint.isWord_of_isAsciiWord (ends c (List.mem_append_right _ last))

theorem PageName.some (names : PageName name) : name ≠ [] := by
  cases names with
  | listed among =>
      have listed : ∀ name ∈ pageGlobalNames, name ≠ [] := by decide
      exact listed name among
  | element => exact List.cons_ne_nil _ _

theorem PageName.edges (names : PageName name) (before : Option CodePoint) (rest : Text) :
    (name ++ rest).head?.any CodePoint.isWord = true ∧
      (Cursor.past before name).any CodePoint.isWord = true := by
  obtain ⟨front, d, last⟩ := (List.eq_nil_or_concat name).resolve_left names.some
  rw [List.concat_eq_append] at last
  have ends : (Cursor.past before name).any CodePoint.isWord = true := by
    have word := names.word d (last ▸ List.mem_append_right _ List.mem_cons_self)
    rw [last, Cursor.past_append]
    simpa using word
  obtain ⟨c, more, rfl⟩ := List.exists_cons_of_ne_nil names.some
  exact ⟨names.word c List.mem_cons_self, ends⟩

theorem name_matches :
    (Pattern.anyOf (pageGlobalNames.map .literal ++
      [.sequence [.literal "HTML", .many CodePoint.isWord, .literal "Element"]])).Matches
        before part rest ↔ PageName part := by
  rw [Pattern.matches_anyOf]
  constructor
  · rintro ⟨pattern, among, matched⟩
    rcases List.mem_append.mp among with listed | element
    · obtain ⟨name, member, rfl⟩ := List.mem_map.mp listed
      rw [Pattern.matches_literal.mp matched]
      exact .listed member
    · rw [List.mem_singleton.mp element] at matched
      obtain ⟨first, _, rfl, opening, kind, last, rfl, word, closing⟩ := matched
      rw [Pattern.matches_literal.mp opening, Pattern.matches_literal.mp closing]
      exact .element word
  · intro names
    cases names with
    | listed among =>
        exact ⟨_, List.mem_append_left _ (List.mem_map_of_mem among), Pattern.matches_literal.mpr rfl⟩
    | @element kind word =>
        refine ⟨_, List.mem_append_right _ (List.mem_singleton_self _), Text.ofString "HTML", _, rfl,
          Pattern.matches_literal.mpr rfl, kind, _, rfl, word, Pattern.matches_literal.mpr rfl⟩

theorem pageGlobal_matches : pageGlobal.Matches before part rest ↔
    PageName part ∧ before.any CodePoint.isWord = false ∧
      rest.head?.any CodePoint.isWord = false := by
  constructor
  · rintro ⟨_, _, rfl, ⟨rfl, opens⟩, name, _, rfl, named, rfl, closes⟩
    have names := name_matches.mp named
    obtain ⟨first, last⟩ := names.edges before rest
    rw [List.append_nil, first] at opens
    rw [Cursor.past_nil, last] at closes
    rw [List.nil_append, List.append_nil]
    exact ⟨names, Bool.eq_false_iff.mpr opens, Bool.eq_false_iff.mpr closes.symm⟩
  · rintro ⟨names, clear, free⟩
    obtain ⟨first, last⟩ := names.edges before rest
    refine ⟨[], part, rfl, ⟨rfl, ?_⟩,
      part, [], (List.append_nil _).symm, name_matches.mpr names, rfl, ?_⟩
    · rw [first, clear]
      exact Bool.false_ne_true
    · rw [Cursor.past_nil, last, free]
      exact Bool.false_ne_true.symm

def NamesPage (t : Text) : Prop := ∃ word ∈ Text.runs CodePoint.isWord t, PageName word

theorem usesPage_iff_word : usesPage source = true ↔ NamesPage (withoutComments source) := by
  rw [usesPage, Pattern.occursIn_iff]
  constructor
  · rintro ⟨front, part, rest, split, matched⟩
    obtain ⟨names, left, right⟩ := pageGlobal_matches.mp matched
    exact ⟨part, Text.mem_runs.mpr ⟨front, rest, split, names.some, names.word, left, right⟩, names⟩
  · rintro ⟨word, member, names⟩
    obtain ⟨front, rest, run⟩ := Text.mem_runs.mp member
    exact ⟨front, word, rest, run.split, pageGlobal_matches.mpr ⟨names, run.left, run.right⟩⟩

theorem usesPage_bare (bare : Path.slash ∉ source) : usesPage source = true ↔ NamesPage source := by
  rw [usesPage_iff_word, withoutComments_bare bare]

theorem namesPage_word (all : ∀ c ∈ name, c.isWord = true) : NamesPage name ↔ PageName name := by
  rw [NamesPage, Text.runs_whole all]
  constructor
  · rintro ⟨word, member, names⟩
    split at member
    · cases member
    · exact List.mem_singleton.mp member ▸ names
  · intro names
    refine ⟨name, ?_, names⟩
    rw [if_neg (by simpa using names.some)]
    exact List.mem_singleton_self _

theorem namesPage_joined (front back : Text) :
    NamesPage (front ++ back) ↔
      (NamesPage (front.rdropWhile CodePoint.isWord) ∨ NamesPage (back.dropWhile CodePoint.isWord)) ∨
        PageName (front.rtakeWhile CodePoint.isWord ++ back.takeWhile CodePoint.isWord) := by
  have word : ∀ c ∈ front.rtakeWhile CodePoint.isWord ++ back.takeWhile CodePoint.isWord,
      c.isWord = true := by
    intro c member
    rcases List.mem_append.mp member with last | first
    · exact List.mem_rtakeWhile_imp last
    · exact List.mem_takeWhile_imp first
  rw [← namesPage_word word]
  simp only [NamesPage, Text.runs_joined front back, List.mem_append, or_and_right, exists_or]
  exact or_congr_right or_comm |>.trans or_assoc.symm

theorem namesPage_nil : ¬ NamesPage [] := fun names =>
  ((namesPage_word (List.forall_mem_nil _)).mp names).some rfl

theorem namesPage_last (front : Text) :
    NamesPage front ↔ NamesPage (front.rdropWhile CodePoint.isWord) ∨
      PageName (front.rtakeWhile CodePoint.isWord) := by
  have joined := namesPage_joined front []
  simpa [namesPage_nil] using joined

theorem namesPage_first (back : Text) :
    NamesPage back ↔ NamesPage (back.dropWhile CodePoint.isWord) ∨
      PageName (back.takeWhile CodePoint.isWord) := by
  have joined := namesPage_joined [] back
  simpa [namesPage_nil] using joined

/-- A comment is deleted, so the texts around it are read as one: the word in front of it and the word
behind it make one word. Only where one of the two is missing, or their names do not matter, does a source
use a page just if one of the texts around the comment does. -/
theorem comment_joins_words (front body back : Text) (bare : Path.slash ∉ front)
    (plain : Path.slash ∉ back) (closed : ¬ Text.ofString "*/" <:+: body) :
    let source := front ++ (commented body ++ back)
    let last := front.rtakeWhile CodePoint.isWord
    let first := back.takeWhile CodePoint.isWord
    let elsewhere := NamesPage (front.rdropWhile CodePoint.isWord) ∨
      NamesPage (back.dropWhile CodePoint.isWord)
    (usesPage source = true ↔ elsewhere ∨ PageName (last ++ first)) ∧
      (usesPage front = true ∨ usesPage back = true ↔ elsewhere ∨ PageName last ∨ PageName first) ∧
      (last = [] ∨ first = [] →
        (usesPage source = true ↔ usesPage front = true ∨ usesPage back = true)) := by
  intro source last first elsewhere
  have joined : usesPage source = true ↔ elsewhere ∨ PageName (last ++ first) := by
    rw [usesPage_iff_word, withoutComments_between bare closed plain, namesPage_joined]
  have apart : usesPage front = true ∨ usesPage back = true ↔
      elsewhere ∨ PageName last ∨ PageName first := by
    rw [usesPage_bare bare, usesPage_bare plain, namesPage_last front, namesPage_first back]
    exact or_or_or_comm
  have none : ¬ PageName [] := fun names => names.some rfl
  refine ⟨joined, apart, fun missing => joined.trans (Iff.trans ?_ apart.symm)⟩
  rcases missing with missing | missing
  · rw [missing, List.nil_append, or_iff_right none]
  · rw [missing, List.append_nil, or_iff_left none]

/-- The blank in front of the comment keeps the words apart. -/
theorem comment_joins_words_apart :
    let front : Text := "return "
    let body : Text := " * of the page *"
    let back : Text := "document.title"
    Path.slash ∉ front ∧ Path.slash ∉ back ∧ ¬ Text.ofString "*/" <:+: body ∧
      usesPage (front ++ (commented body ++ back)) = true := by
  intro front body back
  have bare : Path.slash ∉ front := by decide
  have plain : Path.slash ∉ back := by decide
  have closed : ¬ Text.ofString "*/" <:+: body := by decide
  have blank : front.rtakeWhile CodePoint.isWord = [] := by decide +kernel
  refine ⟨bare, plain, closed, ?_⟩
  exact ((comment_joins_words front body back bare plain closed).2.2 (Or.inl blank)).mpr
    (Or.inr (by decide +kernel))

/-- A comment is all that stands between two words, and the name is lost in what they make together, or
two texts without a name make one. -/
theorem comment_hides_name :
    (usesPage (Text.ofString "return" ++ (commented " of the page " ++ Text.ofString "document.title")) =
        false ∧ usesPage "document.title" = true) ∧
      (usesPage (Text.ofString "docu" ++ (commented [] ++ Text.ofString "ment")) = true ∧
        usesPage "docu" = false ∧ usesPage "ment" = false) ∧
      ∀ t ∈ ([Text.ofString "return", Text.ofString "document.title", Text.ofString "docu",
        Text.ofString "ment"]), ∀ c ∈ t, c ∉ Text.ofString "/\x22\x27\x60" := by
  decide +kernel

end Source

end FenceCheck
