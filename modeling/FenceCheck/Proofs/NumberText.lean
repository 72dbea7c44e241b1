import FenceCheck.Number.Amount
import Mathlib.Data.List.Basic

/-!
Numbers are written in digits, signs, points and a few letters. No control character is among them, and
no blank or colon. An integer is known by how it is written.
-/

namespace FenceCheck

namespace Number

def alphabet : List Char :=
  ['+', '-', '.', '0', '1', '2', '3', '4', '5', '6', '7', '8', '9', 'a', 'e', 'f', 'i', 'n']

def Marks (chars : List Char) : Prop := ∀ c ∈ chars, c ∈ alphabet

instance (chars : List Char) : Decidable (Marks chars) :=
  List.decidableBAll _ chars

theorem marks_cons {c : Char} {chars : List Char} (first : c ∈ alphabet)
    (rest : Marks chars) : Marks (c :: chars) := by
  intro other member
  rcases List.mem_cons.mp member with rfl | later
  · exact first
  · exact rest other later

theorem marks_append {chars more : List Char} (first : Marks chars) (second : Marks more) :
    Marks (chars ++ more) := by
  intro c member
  exact (List.mem_append.mp member).elim (first c) (second c)

theorem marks_replicate {c : Char} (mark : c ∈ alphabet) (count : Nat) :
    Marks (List.replicate count c) := by
  intro other member
  rw [List.eq_of_mem_replicate member]
  exact mark

theorem marks_digits (n : Nat) : Marks (Nat.toDigits 10 n) := by
  intro c member
  have digit := Nat.isDigit_of_mem_toDigits (by decide) (by decide) member
  obtain ⟨low, high⟩ := Char.isDigit_iff_toNat.mp digit
  have named : ∀ n : Nat, n < 10 → Char.ofNat ('0'.toNat + n) ∈ alphabet := by decide
  have same := named (c.toNat - '0'.toNat) (by simp at low high ⊢; omega)
  rwa [Nat.add_sub_cancel' low, Char.ofNat_toNat] at same

theorem marks_positional {digits : List Char} (marks : Marks digits) (point : Int) :
    Marks (Binary64.positional digits point) := by
  unfold Binary64.positional
  split
  case h_1 place =>
      split
      · exact marks_append (marks_append marks (marks_replicate (by decide) _)) (by decide)
      · refine marks_append ?_ (marks_cons (by decide) fun c member => marks c (List.mem_of_mem_drop member))
        split
        · exact marks_replicate (by decide) 1
        · exact fun c member => marks c (List.mem_of_mem_take member)
  case h_2 place =>
      exact marks_cons (by decide) (marks_cons (by decide)
        (marks_append (marks_replicate (by decide) _) marks))

theorem marks_scientific {digits : List Char} (marks : Marks digits) (exponent : Int) :
    Marks (Binary64.scientific digits exponent) := by
  unfold Binary64.scientific
  refine marks_append ?_ (marks_cons (by decide) (marks_cons ?_ ?_))
  · split
    case h_1 first second more =>
        exact marks_cons (marks first List.mem_cons_self) (marks_cons (by decide)
          fun c member => marks c (List.mem_cons_of_mem _ member))
    case h_2 => exact marks
  · split <;> decide
  · split
    · exact marks_cons (by decide) (marks_digits _)
    · exact marks_digits _

def Written (t : Text) : Prop := ∀ c ∈ t, c ∈ Text.ofChars alphabet

theorem written_ofChars {chars : List Char} (marks : Marks chars) : Written (Text.ofChars chars) := by
  intro c member
  obtain ⟨char, inside, rfl⟩ := List.mem_map.mp member
  exact List.mem_map_of_mem (marks char inside)

theorem written_ofInt (n : Int) : Written (Text.ofInt n) := by
  cases n with
  | ofNat n => exact written_ofChars (marks_digits n)
  | negSucc n => exact written_ofChars (marks_cons (by decide) (marks_digits (n + 1)))

theorem written_binary (x : Binary64) : Written x.toText := by
  have signed (negative : Bool) {body : List Char} (marks : Marks body) :
      Marks (if negative then '-' :: body else body) := by
    cases negative
    · exact marks
    · exact marks_cons (by decide) marks
  unfold Binary64.toText
  split
  case h_1 => exact written_ofChars (show Marks "nan".toList by decide)
  case h_2 => exact written_ofChars (signed _ (by decide))
  case h_3 =>
      split
      · exact written_ofChars (signed _ (by decide))
      · refine written_ofChars (signed _ ?_)
        split
        · exact marks_positional (marks_digits _) _
        · exact marks_scientific (marks_digits _) _

theorem written_amount (amount : Amount) : Written amount.toText := by
  cases amount with
  | whole n => exact written_ofInt n
  | real x => exact written_binary x

theorem written_append {s t : Text} (first : Written s) (second : Written t) : Written (s ++ t) :=
  List.forall_mem_append.mpr ⟨first, second⟩

theorem written_ofNat (n : Nat) : Written (Text.ofNat n) := written_ofChars (marks_digits n)

theorem written_sixPlaces (x : Binary64) : Written x.sixPlaces := by
  have sign (negative : Bool) : Written (if negative then [.char '-'] else []) := by
    cases negative
    · exact List.forall_mem_nil _
    · exact List.forall_mem_singleton.mpr (by decide)
  have zeros (count : Nat) : Written (List.replicate count (.char '0')) := by
    intro c member
    rw [List.eq_of_mem_replicate member]
    decide
  unfold Binary64.sixPlaces
  split
  case h_1 =>
      refine written_append (written_append (sign _) (written_ofNat _)) ?_
      exact List.forall_mem_cons.mpr ⟨by decide, written_append (zeros _) (written_ofNat _)⟩
  case h_2 => exact written_binary x

theorem Written.none {t : Text} (written : Written t) {p : CodePoint → Bool}
    (other : (Text.ofChars alphabet).all (!p ·) = true) : ∀ c ∈ t, p c = false := by
  intro c member
  simpa using List.all_eq_true.mp other c (written c member)

end Number

namespace Text

theorem ofNat_inj {m n : Nat} : ofNat m = ofNat n ↔ m = n := by
  constructor
  · intro same
    have digits : Nat.toDigits 10 m = Nat.toDigits 10 n :=
      List.map_injective_iff.mpr (fun _ _ => CodePoint.char.inj) same
    rw [← Nat.ofDigitChars_ten_toDigits (n := m), digits, Nat.ofDigitChars_ten_toDigits]
  · rintro rfl
    rfl

theorem ofNat_unsigned (n : Nat) (t : Text) : ofNat n ≠ .char '-' :: t := by
  intro same
  have member : .char '-' ∈ ofNat n := same ▸ List.mem_cons_self
  obtain ⟨c, digit, sign⟩ := List.mem_map.mp member
  cases sign
  cases Nat.isDigit_of_mem_toDigits (by decide) (by decide) digit

theorem ofInt_inj {m n : Int} : ofInt m = ofInt n ↔ m = n := by
  constructor
  · intro same
    cases m with
    | ofNat m =>
        cases n with
        | ofNat n => exact congrArg Int.ofNat (ofNat_inj.mp same)
        | negSucc n => exact absurd same (ofNat_unsigned m _)
    | negSucc m =>
        cases n with
        | ofNat n => exact absurd same.symm (ofNat_unsigned n _)
        | negSucc n =>
            rw [Nat.succ.inj (ofNat_inj.mp (List.cons.inj same).2)]
  · rintro rfl
    rfl

theorem ofInt_zero {n : Int} : ofInt n = ofString "0" ↔ n = 0 :=
  ofInt_inj (n := 0)

end Text

end FenceCheck
