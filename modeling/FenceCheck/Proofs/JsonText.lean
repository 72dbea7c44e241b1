import FenceCheck.Json.Printer
import FenceCheck.Json.Reader
import Mathlib.Data.List.Forall2

/-!
A string as a script's runtime writes it in JSON: escapes for quotes, backslashes, control characters
and halves of characters, and every other code point as it is. The reader gets back what was written.
-/

namespace FenceCheck

theorem CodePoint.ofVal_val (c : CodePoint) : CodePoint.ofVal? c.val = some c := by
  cases c with
  | char c =>
      have valid : c.toNat.isValidChar := c.valid
      rw [ofVal?, val, dif_pos valid]
      rfl
  | surrogate half =>
      have half_lt := half.isLt
      have invalid : ¬ (surrogate half).val.isValidChar := by
        simp only [val, Nat.isValidChar]
        omega
      have within : 0xD800 ≤ (surrogate half).val ∧ (surrogate half).val < 0xE000 := by
        simp only [val]
        omega
      rw [ofVal?, dif_neg invalid, if_pos within, surrogateAt, val, Nat.add_sub_cancel_left,
        Fin.ofNat_val_eq_self]

namespace Json

def scriptEscape : CodePoint → Text
  | .surrogate half => unitEscape (0xD800 + half.val)
  | c => escape false c

def scriptText (s : Text) : Text := s.flatMap scriptEscape

/-- The ways to write a code point, with what the reader takes each of them for. -/
inductive Spelling (c : CodePoint) : Text → StringPart → Prop where
  | raw (visible : 0x20 ≤ c.val) (quote : c ≠ .char '\x22') (backslash : c ≠ .char '\\') :
      Spelling c [c] (.plain c)
  | short {letter : Char} (means : simpleEscape? (.char letter) = some c) (named : letter ≠ 'u') :
      Spelling c [.char '\\', .char letter] (.plain c)
  | unit (small : c.val < 0x10000) : Spelling c (unitEscape c.val) (.unit c.val)

theorem scriptEscape_spelling (c : CodePoint) : ∃ part, Spelling c (scriptEscape c) part := by
  cases c with
  | surrogate half =>
      have small : (CodePoint.surrogate half).val < 0x10000 := by
        have := half.isLt
        simp only [CodePoint.val]
        omega
      exact ⟨_, .unit small⟩
  | char c =>
      change ∃ part, Spelling (.char c) (escape false (.char c)) part
      unfold escape
      split
      case h_8 quote backslash _ _ _ _ _ =>
          by_cases control : (CodePoint.char c).val < 0x20
          · rw [if_pos control]
            exact ⟨_, .unit (by omega)⟩
          · rw [if_neg control, if_neg (by simp)]
            exact ⟨_, .raw (Nat.not_lt.mp control) quote backslash⟩
      all_goals
        rename_i same
        cases same
        exact ⟨_, .short rfl (by decide)⟩

theorem hexUnit_unitEscape {n : Nat} (small : n < 0x10000) :
    hexUnit? (hexChar (n / 4096 % 16)) (hexChar (n / 256 % 16)) (hexChar (n / 16 % 16))
      (hexChar (n % 16)) = some n := by
  have digit : ∀ d < 16, hexDigit? (hexChar d) = some d := by decide
  have below (m : Nat) : m % 16 < 16 := Nat.mod_lt m (by decide)
  simp only [hexUnit?, digit _ (below _), Option.bind_eq_bind, Option.bind_some, Option.pure_def,
    Option.some.injEq]
  omega

theorem stringParts_spelling {c : CodePoint} {written : Text} {part : StringPart}
    (spelling : Spelling c written part) (opening : Nat) {rest : Text} (more : rest ≠ []) :
    stringParts opening (written ++ rest) = consPart part (stringParts opening rest) := by
  cases spelling with
  | raw visible quote backslash =>
      rw [List.cons_append, List.nil_append, stringParts, if_neg (Nat.not_lt.mpr visible)]
      all_goals simp_all
  | short means named =>
      rw [List.cons_append, List.cons_append, List.nil_append, stringParts, means]
      all_goals simp_all
  | unit small =>
      have follows : rest.isEmpty = false := by simpa using more
      rw [unitEscape, List.cons_append, List.cons_append, List.cons_append, List.cons_append,
        List.cons_append, List.cons_append, List.nil_append, stringParts, hexUnit_unitEscape small,
        follows]

def Spells (c : CodePoint) (part : StringPart) : Prop := part = .plain c ∨ part = .unit c.val

theorem Spelling.spells {c : CodePoint} {written : Text} {part : StringPart}
    (spelling : Spelling c written part) : Spells c part := by
  cases spelling with
  | raw => exact Or.inl rfl
  | short => exact Or.inl rfl
  | unit => exact Or.inr rfl

theorem stringParts_scriptText (s : Text) (opening : Nat) (rest : Text) :
    ∃ parts, stringParts opening (scriptText s ++ .char '\x22' :: rest) = .ok (parts, rest) ∧
      List.Forall₂ Spells s parts := by
  induction s with
  | nil => exact ⟨[], rfl, .nil⟩
  | cons c s ih =>
      obtain ⟨parts, read, spell⟩ := ih
      obtain ⟨part, spelling⟩ := scriptEscape_spelling c
      refine ⟨part :: parts, ?_, .cons spelling.spells spell⟩
      rw [scriptText, List.flatMap_cons, List.append_assoc,
        stringParts_spelling spelling opening (by simp)]
      rw [scriptText] at read
      rw [read]
      rfl

def isFirstHalf : CodePoint → Bool
  | .surrogate half => half.val < 0x400
  | .char _ => false

def isSecondHalf : CodePoint → Bool
  | .surrogate half => 0x400 ≤ half.val
  | .char _ => false

/-- No first half of a character stands right before a second half, where the two would be one
character. -/
def Unpaired : Text → Prop
  | c :: d :: rest => ¬ (isFirstHalf c ∧ isSecondHalf d) ∧ Unpaired (d :: rest)
  | _ => True

theorem ofUnit_val (c : CodePoint) : ofUnit c.val = c := by
  rw [ofUnit, c.ofVal_val]
  rfl

theorem char_val_valid (c : Char) : c.toNat < 0xD800 ∨ 0xDFFF < c.toNat := by
  have valid : c.toNat.isValidChar := c.valid
  simp only [Nat.isValidChar] at valid
  omega

theorem isHighSurrogate_val (c : CodePoint) : isHighSurrogate c.val = isFirstHalf c := by
  rw [Bool.eq_iff_iff, isHighSurrogate, Bool.and_eq_true, decide_eq_true_iff, decide_eq_true_iff]
  cases c with
  | surrogate half =>
      rw [isFirstHalf, decide_eq_true_iff, CodePoint.val]
      omega
  | char c =>
      have valid := char_val_valid c
      rw [isFirstHalf, CodePoint.val]
      simp only [Bool.false_eq_true, iff_false]
      omega

theorem isLowSurrogate_val (c : CodePoint) : isLowSurrogate c.val = isSecondHalf c := by
  rw [Bool.eq_iff_iff, isLowSurrogate, Bool.and_eq_true, decide_eq_true_iff, decide_eq_true_iff]
  cases c with
  | surrogate half =>
      have := half.isLt
      rw [isSecondHalf, decide_eq_true_iff, CodePoint.val]
      omega
  | char c =>
      have valid := char_val_valid c
      rw [isSecondHalf, CodePoint.val]
      simp only [Bool.false_eq_true, iff_false]
      omega

theorem joinParts_spells {s : Text} {parts : List StringPart} (spell : List.Forall₂ Spells s parts)
    (unpaired : Unpaired s) :
    joinParts none parts = s ∧
      ∀ first, isFirstHalf first = true → Unpaired (first :: s) →
        joinParts (some first.val) parts = first :: s := by
  -- A first half waits for the next part, so the induction is on both states of the joining at once.
  induction spell with
  | nil =>
      refine ⟨rfl, fun first _ _ => ?_⟩
      rw [joinParts, ofUnit_val]
  | @cons c part s parts one spell ih =>
      have later : Unpaired s := by
        cases s with
        | nil => trivial
        | cons d rest => exact unpaired.2
      obtain ⟨plain, waiting⟩ := ih later
      rcases one with rfl | rfl
      · refine ⟨by rw [joinParts, plain], fun first _ _ => ?_⟩
        rw [joinParts, plain, ofUnit_val]
      · have alone : (if isHighSurrogate c.val then joinParts (some c.val) parts
            else ofUnit c.val :: joinParts none parts) = c :: s := by
          rw [isHighSurrogate_val]
          split
          case isTrue first => exact waiting c first unpaired
          case isFalse => rw [ofUnit_val, plain]
        refine ⟨by rw [joinParts, alone], fun first half apart => ?_⟩
        have other : isLowSurrogate c.val = false := by
          rw [isLowSurrogate_val]
          exact eq_false_of_ne_true fun second => apart.1 ⟨half, second⟩
        rw [joinParts, if_neg (by simp [other]), ofUnit_val, alone]

theorem stringBody_scriptText {s : Text} (unpaired : Unpaired s) (opening : Nat) (rest : Text) :
    stringBody opening (scriptText s ++ .char '\x22' :: rest) = .ok (s, rest) := by
  obtain ⟨parts, read, spell⟩ := stringParts_scriptText s opening rest
  rw [stringBody, read]
  simp only [(joinParts_spells spell unpaired).1]

/-! A string that is cut off before its closing quote. -/

/-- The reader finds a fault of syntax. -/
def Stuck (opening : Nat) (t : Text) : Prop :=
  ∃ fault, stringParts opening t = .error fault ∧ fault.isSyntax = true

theorem stuck_unit {digits : Text} (few : digits.length ≤ 4) (opening : Nat) :
    Stuck opening (.char '\\' :: .char 'u' :: digits) := by
  match digits with
  | [] | [_] | [_, _] | [_, _, _] => exact ⟨_, rfl, rfl⟩
  | [a, b, c, d] =>
      refine ⟨⟨.badUnicodeEscape, 5⟩, ?_, rfl⟩
      rw [stringParts]
      cases hexUnit? a b c d <;> rfl
  | _ :: _ :: _ :: _ :: _ :: _ =>
      simp only [List.length_cons] at few
      omega

theorem stuck_spelling {c : CodePoint} {written p : Text} {part : StringPart}
    (spelling : Spelling c written part) (cut : p <+: written) (opening : Nat) :
    Stuck opening p := by
  cases p with
  | nil => exact ⟨_, rfl, rfl⟩
  | cons first p =>
      cases spelling with
      | raw visible quote backslash =>
          obtain ⟨rfl, done⟩ := List.cons_prefix_cons.mp cut
          cases List.prefix_nil.mp done
          refine ⟨⟨.unterminatedString, opening⟩, ?_, rfl⟩
          rw [stringParts, if_neg (Nat.not_lt.mpr visible)]
          all_goals simp_all [stringParts, consPart]
      | short means named =>
          obtain ⟨rfl, behind⟩ := List.cons_prefix_cons.mp cut
          cases p with
          | nil => exact ⟨_, rfl, rfl⟩
          | cons letter p =>
              obtain ⟨rfl, done⟩ := List.cons_prefix_cons.mp behind
              cases List.prefix_nil.mp done
              refine ⟨⟨.unterminatedString, opening⟩, ?_, rfl⟩
              rw [stringParts, means]
              all_goals simp_all [stringParts, consPart]
      | unit small =>
          obtain ⟨rfl, behind⟩ := List.cons_prefix_cons.mp cut
          cases p with
          | nil => exact ⟨_, rfl, rfl⟩
          | cons letter digits =>
              obtain ⟨rfl, few⟩ := List.cons_prefix_cons.mp behind
              exact stuck_unit few.length_le opening

theorem stuck_scriptText {s p : Text} (cut : p <+: scriptText s) (opening : Nat) :
    Stuck opening p := by
  induction s generalizing p with
  | nil =>
      cases List.prefix_nil.mp cut
      exact ⟨_, rfl, rfl⟩
  | cons c s ih =>
      obtain ⟨part, spelling⟩ := scriptEscape_spelling c
      rw [scriptText, List.flatMap_cons] at cut
      -- The cut is inside what was written for this code point, or behind it.
      rcases List.prefix_or_prefix_of_prefix cut (List.prefix_append _ _) with short | ⟨behind, rfl⟩
      · exact stuck_spelling spelling short opening
      · have later := (List.prefix_append_right_inj _).mp cut
        by_cases more : behind = []
        · rw [more, List.append_nil]
          exact stuck_spelling spelling List.prefix_rfl opening
        · obtain ⟨fault, failed, kind⟩ := ih later
          refine ⟨fault, ?_, kind⟩
          rw [stringParts_spelling spelling opening more, failed]
          rfl

theorem stringBody_cut {s p : Text} (cut : p <+: scriptText s) (opening : Nat) :
    ∃ fault, stringBody opening p = .error fault ∧ fault.isSyntax = true := by
  obtain ⟨fault, failed, kind⟩ := stuck_scriptText cut opening
  exact ⟨fault, by rw [stringBody, failed], kind⟩

end Json

end FenceCheck
