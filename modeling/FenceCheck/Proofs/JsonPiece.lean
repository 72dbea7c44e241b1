import FenceCheck.Proofs.JsonObject
import FenceCheck.Proofs.TidyText

/-!
The pieces of a written string, where a reader of lines cuts it. Escapes end no line, but U+0085, U+2028
and U+2029 are written as they are and do. What follows a brace inside a string is never the start of an
object with fields.
-/

namespace FenceCheck

namespace Json

def breaksRaw (c : CodePoint) : Bool := c.val = 0x85 || c.val = 0x2028 || c.val = 0x2029

theorem breaksRaw_ends {c : CodePoint} (breaks : breaksRaw c = true) :
    Text.isLineEnd c = true ∧ c ≠ .char '\r' := by
  simp only [breaksRaw, Bool.or_eq_true, decide_eq_true_eq] at breaks
  constructor
  · rcases breaks with (breaks | breaks) | breaks <;> simp [Text.isLineEnd, breaks]
  · rintro rfl
    rcases breaks with (breaks | breaks) | breaks <;> cases breaks

theorem isLineEnd_visible {c : CodePoint} (visible : 0x20 ≤ c.val) :
    Text.isLineEnd c = breaksRaw c := by
  rw [Bool.eq_iff_iff]
  simp only [Text.isLineEnd, breaksRaw, Bool.or_eq_true, Bool.and_eq_true, decide_eq_true_eq,
    beq_iff_eq]
  omega

/-- Neither ends a line nor opens an object. -/
def isCalm (c : CodePoint) : Bool := !Text.isLineEnd c && c ≠ .char '\x7b'

theorem isCalm_hexChar (n : Nat) : isCalm (hexChar (n % 16)) = true := by
  have digits : ∀ d < 16, isCalm (hexChar d) = true := by decide
  exact digits _ (Nat.mod_lt n (by decide))

theorem Spelling.escaped {c : CodePoint} {written : Text} {part : StringPart}
    (spelling : Spelling c written part) :
    (written = [c] ∧ 0x20 ≤ c.val ∧ c ≠ .char '\x22') ∨
      ∃ letters, written = .char '\\' :: letters ∧ letters.all isCalm = true := by
  cases spelling with
  | raw visible quote backslash => exact Or.inl ⟨rfl, visible, quote⟩
  | short means named =>
      refine Or.inr ⟨_, rfl, ?_⟩
      unfold simpleEscape? at means
      split at means
      case h_9 => cases means
      all_goals
        rename_i same
        cases same
        decide
  | unit small =>
      refine Or.inr ⟨_, rfl, ?_⟩
      simp only [List.all_cons, isCalm_hexChar, List.all_nil, Bool.and_true]
      decide

theorem Spelling.whole {c : CodePoint} {written : Text} {part : StringPart}
    (spelling : Spelling c written part) (calm : breaksRaw c = false) : Text.Whole written := by
  rcases spelling.escaped with ⟨rfl, visible, -⟩ | ⟨letters, rfl, quiet⟩
  · intro d among
    cases List.mem_singleton.mp among
    rw [isLineEnd_visible visible, calm]
  · intro d among
    rcases List.mem_cons.mp among with rfl | later
    · rfl
    · have quiet := List.all_eq_true.mp quiet d later
      simp only [isCalm, Bool.and_eq_true, Bool.not_eq_true'] at quiet
      exact quiet.1

theorem whole_scriptText {s : Text} (calm : s.any breaksRaw = false) : Text.Whole (scriptText s) := by
  induction s with
  | nil => exact List.forall_mem_nil _
  | cons c s ih =>
      obtain ⟨here, further⟩ := Bool.or_eq_false_iff.mp calm
      obtain ⟨part, spelling⟩ := scriptEscape_spelling c
      rw [scriptText, List.flatMap_cons]
      exact Text.whole_append.mpr ⟨spelling.whole here, ih further⟩

theorem scriptEscape_raw {c : CodePoint} (breaks : breaksRaw c = true) : scriptEscape c = [c] := by
  simp only [breaksRaw, Bool.or_eq_true, decide_eq_true_eq] at breaks
  cases c with
  | surrogate half =>
      have places : (CodePoint.surrogate half).val = 0xD800 + half.val := rfl
      omega
  | char c =>
      change escape false (.char c) = [.char c]
      unfold escape
      split
      case h_8 => rw [if_neg (by omega), if_neg (by simp)]
      all_goals
        rename_i same
        cases same
        rcases breaks with (breaks | breaks) | breaks <;> cases breaks

theorem scriptText_breaks {s : Text} (breaks : s.any breaksRaw = true) :
    ∃ front stop back, scriptText s = front ++ stop :: back ∧ Text.Whole front ∧
      breaksRaw stop = true := by
  induction s with
  | nil => cases breaks
  | cons c s ih =>
      cases here : breaksRaw c with
      | true =>
          refine ⟨[], c, scriptText s, ?_, List.forall_mem_nil _, here⟩
          rw [scriptText, List.flatMap_cons, scriptEscape_raw here]
          rfl
      | false =>
          rw [List.any_cons, here, Bool.false_or] at breaks
          obtain ⟨front, stop, back, split, whole, ends⟩ := ih breaks
          obtain ⟨part, spelling⟩ := scriptEscape_spelling c
          refine ⟨scriptEscape c ++ front, stop, back, ?_,
            Text.whole_append.mpr ⟨spelling.whole here, whole⟩, ends⟩
          rw [scriptText] at split
          rw [scriptText, List.flatMap_cons, split, List.append_assoc]

/-! A piece of a report that opens with a brace is not the start of an object with members. -/

/-- What cannot be the members of an object: no name stands there, or one without a colon. -/
def Lost (t : Text) : Prop :=
  t.head? ≠ some (.char '\x22') ∨
    ∃ c rest, isSpace c = false ∧ c ≠ .char ':' ∧
      t <+: .char '\x22' :: .char ',' :: .char '\x22' :: c :: rest

/-- Wherever a text is cut off, what stands behind its blanks is lost. -/
def Astray (t : Text) : Prop := ∀ start, start <+: t → Lost (skipSpace start)

theorem astray_space {c : CodePoint} {t : Text} (space : isSpace c = true) (astray : Astray t) :
    Astray (c :: t) := by
  intro start cut
  cases start with
  | nil => exact Or.inl (by simp [skipSpace])
  | cons d start =>
      obtain ⟨rfl, later⟩ := List.cons_prefix_cons.mp cut
      rw [skipSpace, List.dropWhile_cons_of_pos space]
      exact astray start later

theorem astray_other {c : CodePoint} (t : Text) (tight : isSpace c = false)
    (quote : c ≠ .char '\x22') : Astray (c :: t) := by
  intro start cut
  cases start with
  | nil => exact Or.inl (by simp [skipSpace])
  | cons d start =>
      obtain ⟨rfl, later⟩ := List.cons_prefix_cons.mp cut
      rw [skipSpace, List.dropWhile_cons_of_neg (by simp [tight])]
      exact Or.inl (by simp [quote])

theorem astray_name {c : CodePoint} (rest : Text) (tight : isSpace c = false)
    (colon : c ≠ .char ':') :
    Astray (.char '\x22' :: .char ',' :: .char '\x22' :: c :: rest) := by
  intro start cut
  have same : skipSpace start = start := by
    cases start with
    | nil => rfl
    | cons d start =>
        obtain ⟨rfl, -⟩ := List.cons_prefix_cons.mp cut
        rfl
  rw [same]
  exact Or.inr ⟨c, rest, tight, colon, cut⟩

theorem astray_scriptText (s : Text) {rest : Text} (astray : Astray rest) :
    Astray (scriptText s ++ rest) := by
  induction s with
  | nil => exact astray
  | cons c s ih =>
      obtain ⟨part, spelling⟩ := scriptEscape_spelling c
      rw [scriptText, List.flatMap_cons, List.append_assoc]
      -- Blanks are passed over; anything else ends the search for a name, for it is no quote.
      rcases spelling.escaped with ⟨raw, -, quote⟩ | ⟨letters, escaped, -⟩
      · rw [raw]
        cases space : isSpace c with
        | true => exact astray_space space ih
        | false => exact astray_other _ space quote
      · rw [escaped]
        exact astray_other _ (by decide) (by decide)

theorem readMembers_lost {t : Text} (lost : Lost t) (room fuel : Nat) :
    ∃ fault, readMembers room (fuel + 1) t = .error fault ∧ fault.isSyntax = true := by
  cases t with
  | nil => exact ⟨_, rfl, rfl⟩
  | cons c t =>
      by_cases quote : c = .char '\x22'
      · subst quote
        rcases lost with other | ⟨c, rest, tight, colon, cut⟩
        · exact absurd rfl other
        -- The name is a comma, if it is closed at all, and no colon is behind it.
        match t with
        | [] => exact ⟨_, rfl, rfl⟩
        | [d] =>
            simp only [List.cons_prefix_cons] at cut
            obtain ⟨-, rfl, -⟩ := cut
            exact ⟨_, rfl, rfl⟩
        | [d, e] =>
            simp only [List.cons_prefix_cons] at cut
            obtain ⟨-, rfl, rfl, -⟩ := cut
            exact ⟨_, rfl, rfl⟩
        | d :: e :: f :: t =>
            simp only [List.cons_prefix_cons] at cut
            obtain ⟨-, rfl, rfl, rfl, -⟩ := cut
            have named (opening : Nat) : stringBody opening
                (.char ',' :: .char '\x22' :: f :: t) = .ok ([.char ','], f :: t) := rfl
            have spaces : skipSpace (f :: t) = f :: t :=
              List.dropWhile_cons_of_neg (by simp [tight])
            refine ⟨⟨.expectedColon, (f :: t).length⟩, ?_, rfl⟩
            rw [readMembers, named]
            simp only [spaces]
            split
            · rename_i same
              cases same
              exact absurd rfl colon
            · rfl
      · refine ⟨⟨.expectedName, (c :: t).length⟩, ?_, rfl⟩
        rw [readMembers]
        simpa using quote

theorem read_lost {t : Text} (lost : Lost (skipSpace t)) :
    read (.char '\x7b' :: t) = .ok (.object []) ∨
      ∃ fault, read (.char '\x7b' :: t) = .error fault ∧ fault.isSyntax = true := by
  -- A brace that is closed at once is an object, though an empty one.
  by_cases closed : (skipSpace t).head? = some (.char '\x7d')
  · obtain ⟨rest, empty⟩ := List.head?_eq_some_iff.mp closed
    have valued (fuel : Nat) : readValue nestingLimit (fuel + 1) (.char '\x7b' :: t) =
        .ok (.object [], rest) := by
      rw [readValue, if_neg (by decide), empty]
      rfl
    have tight : skipSpace (.char '\x7b' :: t) = .char '\x7b' :: t := rfl
    rw [read, tight, valued]
    · split
      case h_1 failed => cases failed
      case h_2 value behind same =>
          cases same
          cases skipSpace rest with
          | nil => exact Or.inl rfl
          | cons => exact Or.inr ⟨_, rfl, rfl⟩
    · simp
  · obtain ⟨fault, failed, kind⟩ := readMembers_lost lost 974 (2 * t.length + 2)
    rw [read_brace rfl closed, failed]
    exact Or.inr ⟨fault, rfl, kind⟩

/-- What follows any brace in a text is no start of members. -/
def Guarded (t : Text) : Prop := ∀ rest, .char '\x7b' :: rest <:+ t → Astray rest

theorem Guarded.suffix {t back : Text} (guarded : Guarded t) (behind : back <:+ t) : Guarded back :=
  fun rest here => guarded rest (here.trans behind)

theorem guarded_cons {c : CodePoint} {t : Text} (astray : c = .char '\x7b' → Astray t)
    (guarded : Guarded t) : Guarded (c :: t) := by
  intro rest here
  rcases List.suffix_cons_iff.mp here with same | later
  · cases same
    exact astray rfl
  · exact guarded rest later

theorem guarded_append {front back : Text} (free : .char '\x7b' ∉ front) (guarded : Guarded back) :
    Guarded (front ++ back) := by
  induction front with
  | nil => exact guarded
  | cons c front ih =>
      have other : c ≠ .char '\x7b' := fun same => free (same ▸ List.mem_cons_self)
      have further : .char '\x7b' ∉ front := fun among => free (List.mem_cons_of_mem c among)
      exact guarded_cons (absurd · other) (ih further)

theorem guarded_free {t : Text} (free : .char '\x7b' ∉ t) : Guarded t := fun _ here =>
  absurd (here.subset List.mem_cons_self) free

theorem isCalm_free {t : Text} (calm : t.all isCalm = true) : .char '\x7b' ∉ t := fun among =>
  absurd (List.all_eq_true.mp calm _ among) (by decide)

theorem guarded_scriptText (s : Text) {rest : Text} (astray : Astray rest) (guarded : Guarded rest) :
    Guarded (scriptText s ++ rest) := by
  induction s with
  | nil => exact guarded
  | cons c s ih =>
      obtain ⟨part, spelling⟩ := scriptEscape_spelling c
      rw [scriptText, List.flatMap_cons, List.append_assoc]
      rcases spelling.escaped with ⟨raw, -, -⟩ | ⟨letters, escaped, calm⟩
      · rw [raw]
        exact guarded_cons (fun _ => astray_scriptText s astray) ih
      · rw [escaped]
        exact guarded_cons (fun same => by cases same) (guarded_append (isCalm_free calm) ih)

theorem astray_closing {name : String} {c : CodePoint} {letters : Text} (value : Scalar)
    (back : List Member) (more : Text) (word : scriptText name = c :: letters)
    (tight : isSpace c = false) (colon : c ≠ .char ':') :
    Astray (closing ((name, value) :: back) ++ more) := by
  simp only [closing, List.flatMap_cons, Member.written, scriptQuoted, word, List.cons_append,
    List.append_assoc]
  exact astray_name _ tight colon

theorem closing_string (name : String) (s : ScriptString) (back : List Member) :
    closing ((name, .str s) :: back) =
      .char '\x22' :: .char ',' :: (scriptQuoted name ++ [.char ':', .char '\x22']) ++
        (scriptText s.text ++ closing back) := by
  simp [closing, Member.written, Scalar.written, scriptQuoted]

end Json

end FenceCheck
