import FenceCheck.Proofs.JsonRoundTrip

/-!
Strings in ASCII. A code point past ASCII is written by its number, one past the first plane as the two
halves that the reader joins again. The reader joins any first half to a second half right behind it, so
a string comes back as it was just if no two halves stood side by side in it like that.
-/

namespace FenceCheck

namespace Json

variable {s : Text} {parts : List StringPart}

/-- What the reader takes a string in ASCII for, part by part. -/
inductive AsciiParts : Text → List StringPart → Prop where
  | nil : AsciiParts [] []
  | plain {c : Char} {s : Text} {parts : List StringPart} (behind : AsciiParts s parts) :
      AsciiParts (.char c :: s) (.plain (.char c) :: parts)
  | unit {c : CodePoint} {s : Text} {parts : List StringPart} (behind : AsciiParts s parts) :
      AsciiParts (c :: s) (.unit c.val :: parts)
  | pair {c : Char} {first second : CodePoint} {s : Text} {parts : List StringPart}
      (high : isFirstHalf first = true) (low : isSecondHalf second = true)
      (joined : ofPair first.val second.val = .char c) (behind : AsciiParts s parts) :
      AsciiParts (.char c :: s) (.unit first.val :: .unit second.val :: parts)

/-- Ways to write a code point in ASCII: a character as it is or by a letter, any code point by its number,
a character past the first plane as its two halves. -/
inductive AsciiEscape : CodePoint → Text → Prop where
  | plain {c : Char} {written : Text} (spelling : Spelling (.char c) written (.plain (.char c))) :
      AsciiEscape (.char c) written
  | unit {c : CodePoint} (small : c.val < 0x10000) : AsciiEscape c (unitEscape c.val)
  | pair {c : Char} {first second : CodePoint} (high : isFirstHalf first = true)
      (low : isSecondHalf second = true) (joined : ofPair first.val second.val = .char c) :
      AsciiEscape (.char c) (unitEscape first.val ++ unitEscape second.val)

theorem wide_halves {c : Char} (wide : 0x10000 ≤ c.toNat) :
    ∃ first second : CodePoint, isFirstHalf first = true ∧ isSecondHalf second = true ∧
      ofPair first.val second.val = .char c ∧
      wideEscape c.toNat = unitEscape first.val ++ unitEscape second.val := by
  have valid : c.toNat < 0x110000 := by
    have valid : c.toNat.isValidChar := c.valid
    simp only [Nat.isValidChar] at valid
    omega
  refine ⟨.surrogate ⟨(c.toNat - 0x10000) / 0x400, by omega⟩,
    .surrogate ⟨0x400 + (c.toNat - 0x10000) % 0x400, by omega⟩, ?_, ?_, ?_, ?_⟩
  · simp only [isFirstHalf, decide_eq_true_eq]
    omega
  · simp only [isSecondHalf, decide_eq_true_eq]
    omega
  · have whole : 0x10000 + (0xD800 + (c.toNat - 0x10000) / 0x400 - 0xD800) * 0x400 +
        (0xD800 + (0x400 + (c.toNat - 0x10000) % 0x400) - 0xDC00) = (CodePoint.char c).val := by
      simp only [CodePoint.val]
      omega
    rw [ofPair, CodePoint.val, CodePoint.val, whole, ofUnit_val]
  · rw [wideEscape, if_neg (Nat.not_lt.mpr wide), CodePoint.val, CodePoint.val, ← Nat.add_assoc]

theorem surrogate_small (half : Fin 2048) : (CodePoint.surrogate half).val < 0x10000 := by
  have := half.isLt
  simp only [CodePoint.val]
  omega

theorem escape_ascii (c : CodePoint) : AsciiEscape c (escape true c) := by
  unfold escape
  split
  case h_8 quote backslash _ _ _ _ _ =>
      by_cases control : c.val < 0x20
      · rw [if_pos control]
        exact .unit (by omega)
      rw [if_neg control]
      by_cases past : 0x7E < c.val
      · rw [if_pos ⟨rfl, past⟩]
        by_cases small : c.val < 0x10000
        · rw [wideEscape, if_pos small]
          exact .unit small
        · cases c with
          | surrogate half => exact absurd (surrogate_small half) small
          | char c =>
              obtain ⟨first, second, high, low, joined, written⟩ := wide_halves (Nat.not_lt.mp small)
              rw [show wideEscape (CodePoint.char c).val = _ from written]
              exact .pair high low joined
      · rw [if_neg (fun both => past both.2)]
        cases c with
        | surrogate half => exact absurd (Nat.lt_of_lt_of_le (by decide) (Nat.le_add_right _ _)) past
        | char c => exact .plain (.raw (Nat.not_lt.mp control) quote backslash)
  all_goals exact .plain (.short rfl (by decide))

theorem first_small {c : CodePoint} (half : isFirstHalf c = true) : c.val < 0x10000 := by
  cases c with
  | char => cases half
  | surrogate half => exact surrogate_small _

theorem second_small {c : CodePoint} (half : isSecondHalf c = true) : c.val < 0x10000 := by
  cases c with
  | char => cases half
  | surrogate half => exact surrogate_small _

theorem stringParts_ascii (s : Text) (opening : Nat) (rest : Text) :
    ∃ parts, stringParts opening (s.flatMap (escape true) ++ .char '\x22' :: rest) = .ok (parts, rest) ∧
      AsciiParts s parts := by
  induction s with
  | nil => exact ⟨[], rfl, .nil⟩
  | cons c s ih =>
      obtain ⟨parts, read, made⟩ := ih
      have more : s.flatMap (escape true) ++ .char '\x22' :: rest ≠ [] := by simp
      rw [List.flatMap_cons, List.append_assoc]
      have written := escape_ascii c
      generalize escape true c = text at written
      cases written with
      | @plain c _ spelling =>
          refine ⟨.plain (.char c) :: parts, ?_, .plain made⟩
          rw [stringParts_spelling spelling opening more, read]
          rfl
      | unit small =>
          refine ⟨.unit c.val :: parts, ?_, .unit made⟩
          rw [stringParts_spelling (.unit small) opening more, read]
          rfl
      -- The two halves are read as two units, and joined only when the whole string is there.
      | @pair c first second high low joined =>
          refine ⟨.unit first.val :: .unit second.val :: parts, ?_, .pair high low joined made⟩
          rw [List.append_assoc, stringParts_spelling (.unit (first_small high)) opening (by simp [unitEscape]),
            stringParts_spelling (.unit (second_small low)) opening more, read]
          rfl

/-- A string in which every first half of a character is joined to a second half right behind it. -/
def rejoined : Text → Text
  | [] => []
  | [c] => [c]
  | c :: d :: rest =>
      if isFirstHalf c && isSecondHalf d then ofPair c.val d.val :: rejoined rest
      else c :: rejoined (d :: rest)

theorem rejoined_other {c : CodePoint} (other : isFirstHalf c = false) (s : Text) :
    rejoined (c :: s) = c :: rejoined s := by
  cases s with
  | nil => rfl
  | cons d rest => rw [rejoined, other, Bool.false_and, if_neg Bool.false_ne_true]

theorem rejoined_apart {first c : CodePoint} (other : isSecondHalf c = false) (s : Text) :
    rejoined (first :: c :: s) = first :: rejoined (c :: s) := by
  rw [rejoined, other, Bool.and_false, if_neg Bool.false_ne_true]

theorem joinParts_ascii (made : AsciiParts s parts) :
    joinParts none parts = rejoined s ∧
      ∀ first, isFirstHalf first = true → joinParts (some first.val) parts = rejoined (first :: s) := by
  -- A first half waits for the next part, so the induction is on both states of the joining at once.
  induction made with
  | nil =>
      refine ⟨rfl, fun first _ => ?_⟩
      rw [joinParts, ofUnit_val]
      rfl
  | @plain c s parts behind ih =>
      have alone : .char c :: joinParts none parts = rejoined (.char c :: s) := by
        rw [ih.1, rejoined_other rfl]
      refine ⟨alone, fun first half => ?_⟩
      rw [joinParts, ofUnit_val, alone, rejoined_apart rfl]
  | @unit c s parts behind ih =>
      have alone : (if isHighSurrogate c.val then joinParts (some c.val) parts
          else ofUnit c.val :: joinParts none parts) = rejoined (c :: s) := by
        rw [isHighSurrogate_val]
        split
        case isTrue half => exact ih.2 c half
        case isFalse other => rw [ofUnit_val, ih.1, rejoined_other (eq_false_of_ne_true other)]
      refine ⟨alone, fun first half => ?_⟩
      rw [joinParts, isLowSurrogate_val, alone, ofUnit_val]
      split
      case isTrue second => rw [rejoined, half, second, Bool.and_self, if_pos rfl, ih.1]
      case isFalse other => rw [rejoined_apart (eq_false_of_ne_true other)]
  | @pair c high low s parts first second joined behind ih =>
      have alone : joinParts (some high.val) (.unit low.val :: parts) = rejoined (.char c :: s) := by
        rw [joinParts, isLowSurrogate_val, if_pos second, joined, ih.1, rejoined_other rfl]
      have apart : isSecondHalf high = false := by
        cases high with
        | char => cases first
        | surrogate half =>
            simp only [isFirstHalf, decide_eq_true_eq] at first
            simp only [isSecondHalf, decide_eq_false_iff_not]
            omega
      refine ⟨?_, fun waiting half => ?_⟩
      · rw [joinParts, isHighSurrogate_val, if_pos first, alone]
      · rw [joinParts, isLowSurrogate_val, if_neg (by simp [apart]), isHighSurrogate_val, if_pos first,
          alone, ofUnit_val, rejoined_apart rfl]

theorem rejoined_length (s : Text) : (rejoined s).length ≤ s.length := by
  fun_induction rejoined s with
  | case1 | case2 => exact Nat.le_refl _
  | case3 c d rest pair ih =>
      simp only [List.length_cons]
      omega
  | case4 c d rest apart ih =>
      simp only [List.length_cons] at ih ⊢
      omega

theorem rejoined_eq_self : rejoined s = s ↔ Unpaired s := by
  fun_induction rejoined s with
  | case1 | case2 => exact iff_of_true rfl trivial
  | case3 c d rest pair ih =>
      refine iff_of_false (fun same => ?_) fun unpaired => unpaired.1 (by simpa using pair)
      have fewer := rejoined_length rest
      have length := congrArg List.length same
      simp only [List.length_cons] at length
      omega
  | case4 c d rest apart ih =>
      rw [List.cons.injEq, ih]
      simp only [true_and, Unpaired]
      exact ⟨fun behind => ⟨by simpa using apart, behind⟩, And.right⟩

theorem stringBody_ascii (s : Text) (opening : Nat) (rest : Text) :
    stringBody opening (s.flatMap (escape true) ++ .char '\x22' :: rest) = .ok (rejoined s, rest) := by
  obtain ⟨parts, read, made⟩ := stringParts_ascii s opening rest
  rw [stringBody, read]
  simp only [(joinParts_ascii made).1]

theorem clear_ascii_iff : Clear true s ↔ Unpaired s := by
  rw [← rejoined_eq_self]
  constructor
  · intro clear
    have read := (stringBody_ascii s 0 []).symm.trans (clear 0 [])
    exact congrArg Prod.fst (Except.ok.inj read)
  · intro same opening rest
    rw [stringBody_ascii, same]

end Json

end FenceCheck
