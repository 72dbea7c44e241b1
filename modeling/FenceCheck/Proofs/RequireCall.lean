import FenceCheck.Proofs.PatternMeaning
import FenceCheck.Source.Reference

/-!
Calls of `require`, written out. An opening is the name, a parenthesis and a quote, with blanks between
them; a call is an opening with a text behind it that holds no quote, a quote that ends the text and a
closing parenthesis. A text says in one way only where a call ends and what it asks for, and the search
for calls goes from each to the next that begins behind it.
-/

namespace FenceCheck

theorem Text.cut_unique {accepts : CodePoint → Bool} {first second rest others : Text}
    {c d : CodePoint} (all : ∀ e ∈ first, accepts e = true) (every : ∀ e ∈ second, accepts e = true)
    (stop : accepts c = false) (halt : accepts d = false)
    (same : first ++ c :: rest = second ++ d :: others) :
    first = second ∧ c = d ∧ rest = others := by
  induction first generalizing second with
  | nil =>
      cases second with
      | nil =>
          cases same
          exact ⟨rfl, rfl, rfl⟩
      | cons e second =>
          cases same
          rw [every c List.mem_cons_self] at stop
          cases stop
  | cons e first ih =>
      obtain ⟨accepted, all⟩ := List.forall_mem_cons.mp all
      cases second with
      | nil =>
          cases same
          rw [accepted] at halt
          cases halt
      | cons f second =>
          obtain ⟨rfl, further⟩ := List.cons.inj same
          obtain ⟨rfl, rfl, rfl⟩ := ih all (List.forall_mem_cons.mp every).2 further
          exact ⟨rfl, rfl, rfl⟩

namespace Source

variable {before : Option CodePoint} {name part call specifier t rest : Text}

def Blank (t : Text) : Prop := ∀ c ∈ t, c.isBlank = true

/-- A name, a parenthesis and a quote, with blanks between them. -/
inductive Opening (name : Text) : Text → Prop where
  | mk {gap inner : Text} {q : CodePoint} (apart : Blank gap) (inside : Blank inner)
      (quoted : isQuote q = true) : Opening name (name ++ (gap ++ .char '(' :: (inner ++ [q])))

/-- A quote and a closing parenthesis, with blanks between them. -/
inductive Closing : Text → Prop where
  | mk {gap : Text} {q : CodePoint} (quoted : isQuote q = true) (apart : Blank gap) :
      Closing (q :: (gap ++ [.char ')']))

/-- A call of `require` whose one argument is a quoted text. No word goes on into its name. -/
structure Call (before : Option CodePoint) (call specifier : Text) : Prop where
  word : before.any CodePoint.isWord = false
  some : specifier ≠ []
  plain : ∀ c ∈ specifier, isQuote c = false
  spelled : ∃ opening closing, Opening "require" opening ∧ Closing closing ∧
    call = opening ++ (specifier ++ closing)

theorem callOf_matches (letter : name.head?.any CodePoint.isWord = true) :
    (callOf name).Matches before part rest ↔
      before.any CodePoint.isWord = false ∧ Opening name part := by
  have begins (behind : Text) : (name ++ behind).head?.any CodePoint.isWord = true := by
    cases name with
    | nil => cases letter
    | cons c name => exact letter
  constructor
  · rintro ⟨_, _, rfl, ⟨rfl, edge⟩, _, _, rfl, spelled, gap, _, rfl, apart, _, _, rfl, paren, inner, _,
      rfl, inside, q, quoted, rfl⟩
    cases Pattern.matches_literal.mp spelled
    cases Pattern.matches_literal.mp paren
    rw [List.append_assoc, begins] at edge
    exact ⟨Bool.eq_false_iff.mpr edge, .mk apart inside quoted⟩
  · rintro ⟨clear, spelled⟩
    obtain @⟨gap, inner, q, apart, inside, quoted⟩ := spelled
    refine ⟨[], _, rfl, ⟨rfl, ?_⟩, name, _, rfl, Pattern.matches_literal.mpr rfl, gap, _, rfl, apart,
      [.char '('], _, rfl, Pattern.matches_literal.mpr rfl, inner, _, rfl, inside, q, quoted, rfl⟩
    rw [clear, List.append_eq, List.append_assoc, begins]
    exact Bool.false_ne_true

theorem Opening.unique {first second others : Text} (one : Opening name first)
    (two : Opening name second) (same : first ++ rest = second ++ others) :
    first = second ∧ rest = others := by
  have paren : CodePoint.isBlank (.char '(') = false := by decide
  have quote {q : CodePoint} (quoted : isQuote q = true) : q.isBlank = false := by
    rw [isQuote, Bool.or_eq_true, decide_eq_true_eq, decide_eq_true_eq] at quoted
    rcases quoted with rfl | rfl <;> decide
  cases one with
  | mk apart inside quoted =>
      cases two with
      | mk gap between mark =>
          simp only [List.append_assoc, List.cons_append, List.nil_append] at same
          obtain ⟨rfl, -, further⟩ :=
            Text.cut_unique apart gap paren paren (List.append_cancel_left same)
          obtain ⟨rfl, rfl, rfl⟩ :=
            Text.cut_unique inside between (quote quoted) (quote mark) further
          exact ⟨rfl, rfl⟩

theorem Closing.unique {first second others : Text} (one : Closing first) (two : Closing second)
    (same : first ++ rest = second ++ others) : first = second ∧ rest = others := by
  have paren : CodePoint.isBlank (.char ')') = false := by decide
  cases one with
  | mk quoted apart =>
      cases two with
      | mk mark gap =>
          simp only [List.append_assoc, List.cons_append, List.nil_append] at same
          obtain ⟨rfl, further⟩ := List.cons.inj same
          obtain ⟨rfl, -, rfl⟩ := Text.cut_unique apart gap paren paren further
          exact ⟨rfl, rfl⟩

theorem specifier_unique {other first second others : Text}
    (plain : ∀ c ∈ specifier, isQuote c = false) (bare : ∀ c ∈ other, isQuote c = false)
    (one : Closing first) (two : Closing second)
    (same : specifier ++ (first ++ rest) = other ++ (second ++ others)) :
    specifier = other ∧ first = second ∧ rest = others := by
  cases one with
  | @mk gap q quoted apart =>
      cases two with
      | @mk inner d mark inside =>
          have free {t : Text} (clear : ∀ c ∈ t, isQuote c = false) :
              ∀ c ∈ t, (fun c => !isQuote c) c = true := by simpa using clear
          obtain ⟨rfl, rfl, further⟩ := Text.cut_unique (free plain) (free bare) (by simp [quoted])
            (by simp [mark]) same
          have closed : q :: (gap ++ [.char ')']) ++ rest = q :: (inner ++ [.char ')']) ++ others :=
            congrArg (q :: ·) further
          obtain ⟨spelled, rfl⟩ := Closing.unique (.mk quoted apart) (.mk quoted inside) closed
          exact ⟨rfl, spelled, rfl⟩

theorem Call.unique {other sought others : Text} {earlier : Option CodePoint}
    (one : Call before call specifier) (two : Call earlier other sought)
    (same : call ++ rest = other ++ others) : call = other ∧ specifier = sought ∧ rest = others := by
  obtain ⟨opening, closing, opens, closes, rfl⟩ := one.spelled
  obtain ⟨first, last, begins, ends, rfl⟩ := two.spelled
  simp only [List.append_assoc] at same
  obtain ⟨rfl, further⟩ := opens.unique begins same
  obtain ⟨rfl, rfl, rfl⟩ := specifier_unique one.plain two.plain closes ends further
  exact ⟨rfl, rfl, rfl⟩

theorem Call.nonempty (here : Call before call specifier) : call ≠ [] := by
  obtain ⟨opening, closing, -, -, rfl⟩ := here.spelled
  exact fun none => here.some (List.append_eq_nil_iff.mp (List.append_eq_nil_iff.mp none).2).1

theorem closing_matches :
    (Pattern.sequence [quote, .blanks, .literal ")"]).Matches before part rest ↔ Closing part := by
  constructor
  · rintro ⟨_, _, rfl, ⟨q, quoted, rfl⟩, gap, _, rfl, apart, paren⟩
    cases Pattern.matches_literal.mp paren
    exact .mk quoted apart
  · rintro @⟨gap, q, quoted, apart⟩
    exact ⟨[q], _, rfl, ⟨q, quoted, rfl⟩, gap, _, rfl, apart, Pattern.matches_literal.mpr rfl⟩

theorem quotedArgument_sound (found : quotedArgument ⟨before, t⟩ = some (specifier, rest)) :
    specifier ≠ [] ∧ (∀ c ∈ specifier, isQuote c = false) ∧
      ∃ closing, Closing closing ∧ t = specifier ++ (closing ++ rest) := by
  have parted := List.takeWhile_append_dropWhile (p := fun c => !isQuote c) (l := t)
  have free : ∀ c ∈ t.takeWhile fun c => !isQuote c, isQuote c = false := by
    intro c member
    simpa using (List.all_eq_true.mp List.all_takeWhile) c member
  simp only [quotedArgument] at found
  generalize t.takeWhile (fun c => !isQuote c) = quoted at parted free found
  generalize t.dropWhile (fun c => !isQuote c) = back at parted found
  split at found
  case isTrue none => cases found
  case isFalse some =>
      obtain ⟨closing, behind, rfl, matched, done⟩ := Pattern.runThen_sound _ found
      cases done
      exact ⟨by simpa using some, free, closing, closing_matches.mp matched, parted.symm⟩

theorem quotedArgument_complete {closing : Text} (filled : specifier ≠ [])
    (plain : ∀ c ∈ specifier, isQuote c = false) (closes : Closing closing) :
    quotedArgument ⟨before, specifier ++ (closing ++ rest)⟩ = some (specifier, rest) := by
  have bare : ∀ c ∈ specifier, (!isQuote c) = true := by simpa using plain
  have stops : (closing ++ rest).takeWhile (fun c => !isQuote c) = [] ∧
      (closing ++ rest).dropWhile (fun c => !isQuote c) = closing ++ rest := by
    cases closes with
    | mk quoted apart => simp [quoted]
  simp only [quotedArgument]
  rw [List.takeWhile_append_of_pos bare, List.dropWhile_append_of_pos bare, stops.1, stops.2,
    List.append_nil, if_neg (by simpa using filled)]
  have answered : ((Pattern.sequence [quote, .blanks, .literal ")"]).runThen
      (fun behind => some (specifier, behind.rest)) ⟨specifier.getLast?, closing ++ rest⟩).isSome :=
    Pattern.runThen_complete (closing_matches.mpr closes) rfl
  obtain ⟨answer, found⟩ := Option.isSome_iff_exists.mp answered
  obtain ⟨other, last, split, matched, done⟩ := Pattern.runThen_sound _ found
  rw [found, ← done, (closes.unique (closing_matches.mp matched) split).2]

theorem requireCall_runThen : requireCall.runThen quotedArgument ⟨before, t⟩ = some (specifier, rest) ↔
    ∃ call, Call before call specifier ∧ t = call ++ rest := by
  have letter : (Text.ofString "require").head?.any CodePoint.isWord = true := by decide
  have sound {specifier rest : Text}
      (found : requireCall.runThen quotedArgument ⟨before, t⟩ = some (specifier, rest)) :
      ∃ call, Call before call specifier ∧ t = call ++ rest := by
    obtain ⟨opening, behind, rfl, matched, read⟩ := Pattern.runThen_sound _ found
    obtain ⟨word, opens⟩ := (callOf_matches letter).mp matched
    obtain ⟨some, plain, closing, closes, rfl⟩ := quotedArgument_sound read
    refine ⟨opening ++ (specifier ++ closing),
      ⟨word, some, plain, opening, closing, opens, closes, rfl⟩, ?_⟩
    rw [List.append_assoc, List.append_assoc]
  refine ⟨sound, ?_⟩
  rintro ⟨call, here, rfl⟩
  obtain ⟨opening, closing, opens, closes, rfl⟩ := here.spelled
  have answered : (requireCall.runThen quotedArgument
      ⟨before, opening ++ (specifier ++ (closing ++ rest))⟩).isSome := by
    refine Pattern.runThen_complete ((callOf_matches letter).mpr ⟨here.word, opens⟩) ?_
    rw [quotedArgument_complete here.some here.plain closes]
    rfl
  rw [← List.append_assoc specifier, ← List.append_assoc opening] at answered
  -- The answer comes from some call, and a text begins with no two calls.
  obtain ⟨⟨other, last⟩, found⟩ := Option.isSome_iff_exists.mp answered
  obtain ⟨call, again, split⟩ := sound found
  obtain ⟨-, rfl, rfl⟩ := here.unique again split
  exact found

/-- The calls of a text from left to right: where one begins, the search goes on behind it, and
otherwise behind the next code point. -/
inductive Calls : Option CodePoint → Text → List Text → Prop where
  | done (before : Option CodePoint) : Calls before [] []
  | pass {before : Option CodePoint} {c : CodePoint} {t : Text} {specifiers : List Text}
      (none : ∀ call rest specifier, c :: t = call ++ rest → ¬ Call before call specifier)
      (later : Calls (some c) t specifiers) : Calls before (c :: t) specifiers
  | call {before : Option CodePoint} {call rest specifier : Text} {specifiers : List Text}
      (here : Call before call specifier) (later : Calls (Cursor.past before call) rest specifiers) :
      Calls before (call ++ rest) (specifier :: specifiers)

theorem allFrom_skip {α : Type} {answer : Cursor → Option (α × Text)} (part rest : Text) :
    Pattern.allFrom answer before part.length (part ++ rest) =
      Pattern.allFrom answer (Cursor.past before part) 0 rest := by
  induction part generalizing before with
  | nil => rfl
  | cons c part ih => rw [List.length_cons, List.cons_append, Pattern.allFrom, ih, Cursor.past_cons]

theorem allFrom_call (here : Call before call specifier) (rest : Text) :
    Pattern.allFrom (requireCall.runThen quotedArgument) before 0 (call ++ rest) = specifier ::
      Pattern.allFrom (requireCall.runThen quotedArgument) (Cursor.past before call) 0 rest := by
  have read : requireCall.runThen quotedArgument ⟨before, call ++ rest⟩ = some (specifier, rest) :=
    requireCall_runThen.mpr ⟨call, here, rfl⟩
  obtain ⟨c, part, rfl⟩ := List.exists_cons_of_ne_nil here.nonempty
  have skipped : (part ++ rest).length - rest.length = part.length := by
    rw [List.length_append, Nat.add_sub_cancel]
  rw [List.cons_append] at read ⊢
  rw [Pattern.allFrom, read]
  simp only [skipped, allFrom_skip, Cursor.past_cons]

theorem allFrom_pass {c : CodePoint}
    (none : ∀ call rest specifier, c :: t = call ++ rest → ¬ Call before call specifier) :
    Pattern.allFrom (requireCall.runThen quotedArgument) before 0 (c :: t) =
      Pattern.allFrom (requireCall.runThen quotedArgument) (some c) 0 t := by
  rw [Pattern.allFrom]
  split
  case h_1 => rfl
  case h_2 specifier rest read =>
      obtain ⟨call, here, split⟩ := requireCall_runThen.mp read
      exact absurd here (none call rest specifier split)

theorem calls_allFrom (before : Option CodePoint) (t : Text) :
    Calls before t (Pattern.allFrom (requireCall.runThen quotedArgument) before 0 t) := by
  cases t with
  | nil => exact .done before
  | cons c t =>
      by_cases begins : ∃ call rest specifier, c :: t = call ++ rest ∧ Call before call specifier
      · obtain ⟨call, rest, specifier, split, here⟩ := begins
        have shorter : rest.length < (c :: t).length := by
          rw [split, List.length_append]
          exact Nat.lt_add_of_pos_left (List.length_pos_iff.mpr here.nonempty)
        rw [split, allFrom_call here]
        exact .call here (calls_allFrom _ rest)
      · have none : ∀ call rest specifier, c :: t = call ++ rest → ¬ Call before call specifier :=
          fun call rest specifier split here => begins ⟨call, rest, specifier, split, here⟩
        rw [allFrom_pass none]
        exact .pass none (calls_allFrom _ t)
termination_by t.length
decreasing_by
  · exact shorter
  · exact Nat.lt_succ_self _

theorem calls_iff {source : Text} {specifiers : List Text} :
    Calls none source specifiers ↔ requiredSpecifiers source = specifiers := by
  constructor
  · intro calls
    rw [requiredSpecifiers]
    generalize (none : Option CodePoint) = before at calls ⊢
    induction calls with
    | done before => rfl
    | pass none later ih => rw [allFrom_pass none, ih]
    | call here later ih => rw [allFrom_call here, ih]
  · rintro rfl
    exact calls_allFrom none source

/-- A call stands in a text behind `front`. -/
def Stands (before : Option CodePoint) (t front call specifier : Text) : Prop :=
  (∃ rest, t = front ++ (call ++ rest)) ∧ Call (Cursor.past before front) call specifier

/-- A call of one kind begins in front of a place and goes on behind it. -/
def Covered (before : Option CodePoint) (t : Text) (kind : Text → Prop) (front : Text) : Prop :=
  ∃ start call specifier, kind specifier ∧ Stands before t start call specifier ∧
    start.length < front.length ∧ front.length < start.length + call.length

theorem Stands.shift {front : Text} (skipped : Text)
    (stands : Stands (Cursor.past before skipped) t front call specifier) :
    Stands before (skipped ++ t) (skipped ++ front) call specifier := by
  obtain ⟨⟨rest, rfl⟩, here⟩ := stands
  exact ⟨⟨rest, (List.append_assoc ..).symm⟩, by rwa [Cursor.past_append]⟩

theorem Covered.shift {kind : Text → Prop} {front : Text} (skipped : Text)
    (covered : Covered (Cursor.past before skipped) t kind front) :
    Covered before (skipped ++ t) kind (skipped ++ front) := by
  obtain ⟨start, call, specifier, member, stands, starts, ends⟩ := covered
  refine ⟨skipped ++ start, call, specifier, member, stands.shift skipped, ?_, ?_⟩
  · simpa using starts
  · simpa [Nat.add_assoc] using ends

theorem Covered.imp {kind other : Text → Prop} {front : Text} (covered : Covered before t kind front)
    (weaker : ∀ specifier, kind specifier → other specifier) : Covered before t other front := by
  obtain ⟨start, call, specifier, member, further⟩ := covered
  exact ⟨start, call, specifier, weaker specifier member, further⟩

theorem Calls.stands {specifiers : List Text} (calls : Calls before t specifiers) :
    ∀ specifier ∈ specifiers, ∃ front call, Stands before t front call specifier := by
  induction calls with
  | done before => exact List.forall_mem_nil _
  | @pass before c t specifiers none later ih =>
      intro specifier member
      obtain ⟨front, call, stands⟩ := ih specifier member
      exact ⟨_, call, stands.shift [c]⟩
  | @call before call rest specifier specifiers here later ih =>
      refine List.forall_mem_cons.mpr ⟨⟨[], call, ⟨rest, rfl⟩, here⟩, fun other member => ?_⟩
      obtain ⟨front, further, stands⟩ := ih other member
      exact ⟨_, further, stands.shift call⟩

/-- No call is passed over, unless it begins inside another one. -/
theorem Calls.complete {specifiers : List Text} (calls : Calls before t specifiers) {front : Text}
    (stands : Stands before t front call specifier) :
    specifier ∈ specifiers ∨ Covered before t (· ∈ specifiers) front := by
  induction calls generalizing front with
  | done before =>
      obtain ⟨⟨rest, split⟩, here⟩ := stands
      have nothing := (List.append_eq_nil_iff.mp (List.append_eq_nil_iff.mp split.symm).2).1
      exact absurd nothing here.nonempty
  | @pass before c t specifiers none later ih =>
      obtain ⟨⟨rest, split⟩, here⟩ := stands
      cases front with
      | nil => exact absurd here (none call rest specifier split)
      | cons d front =>
          obtain ⟨rfl, further⟩ := List.cons.inj split
          rw [Cursor.past_cons] at here
          exact (ih ⟨⟨rest, further⟩, here⟩).imp_right (Covered.shift [c])
  | @call before first behind sought specifiers begins later ih =>
      obtain ⟨⟨rest, split⟩, here⟩ := stands
      by_cases outside : first.length ≤ front.length
      · -- Behind the call that was found the search goes on as if the text began there.
        obtain ⟨front, rfl⟩ : first <+: front :=
          List.prefix_of_prefix_length_le ⟨behind, rfl⟩ ⟨_, split.symm⟩ outside
        rw [Cursor.past_append] at here
        rw [List.append_assoc] at split
        exact (ih ⟨⟨rest, List.append_cancel_left split⟩, here⟩).imp (List.mem_cons_of_mem _)
          fun covered => (covered.shift first).imp fun _ => List.mem_cons_of_mem _
      · -- A call that begins here is the one that was found; one that begins within it is covered.
        cases front with
        | nil =>
            obtain ⟨-, rfl, -⟩ := begins.unique here split
            exact Or.inl List.mem_cons_self
        | cons c front =>
            refine Or.inr ⟨[], first, sought, List.mem_cons_self, ⟨⟨behind, rfl⟩, begins⟩, ?_, ?_⟩
            · exact Nat.succ_pos _
            · simpa using outside

end Source

end FenceCheck
