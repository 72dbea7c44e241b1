import FenceCheck.Number.Amount
import Mathlib.Data.Nat.Bitwise

/-!
Floating-point numbers that equal a whole number. They compare as that number does, and so do they
with their sign turned.
-/

namespace FenceCheck

namespace Binary64

variable {x : Binary64} {n : Int}

theorem ratio_den_pos (significand : Nat) (exponent : Int) : 0 < (ratio significand exponent).2 := by
  cases exponent with
  | ofNat => exact Nat.one_pos
  | negSucc e => exact Nat.two_pow_pos (e + 1)

theorem ratio_num_pos {significand : Nat} {exponent : Int} :
    0 < (ratio significand exponent).1 ↔ 0 < significand := by
  cases exponent with
  | ofNat e => exact Nat.mul_pos_iff_of_pos_right (Nat.two_pow_pos e)
  | negSucc => exact Iff.rfl

theorem toInt_some :
    x.toInt? = some n ↔ ∃ negative significand exponent k,
      x.value = .finite negative significand exponent ∧
      (ratio significand exponent).1 = k * (ratio significand exponent).2 ∧
      n = if negative then -(k : Int) else k := by
  unfold toInt?
  cases x.value with
  | infinite | notANumber => simp
  | finite negative significand exponent =>
      have positive := ratio_den_pos significand exponent
      simp only [Option.ite_none_right_eq_some, Option.some.injEq, Value.finite.injEq]
      constructor
      · rintro ⟨divides, rfl⟩
        refine ⟨negative, significand, exponent, _, ⟨rfl, rfl, rfl⟩, ?_, rfl⟩
        exact (Nat.div_mul_cancel (Nat.dvd_of_mod_eq_zero divides)).symm
      · rintro ⟨_, _, _, k, ⟨rfl, rfl, rfl⟩, multiple, rfl⟩
        rw [multiple, Nat.mul_mod_left, Nat.mul_div_cancel k positive]
        exact ⟨rfl, rfl⟩

theorem ltInt_of_toInt (whole : x.toInt? = some n) (m : Int) : x.ltInt m = decide (n < m) := by
  obtain ⟨negative, significand, exponent, k, value, multiple, rfl⟩ := toInt_some.mp whole
  have positive : (0 : Int) < (ratio significand exponent).2 :=
    Int.natCast_pos.mpr (ratio_den_pos significand exponent)
  unfold ltInt
  simp only [value, multiple, Int.natCast_mul, decide_eq_decide]
  cases negative with
  | false => exact Int.mul_lt_mul_right positive
  | true =>
      simp only [if_true, ← Int.neg_mul]
      exact Int.mul_lt_mul_right positive

/-! Turning the sign turns the first bit. -/

theorem bits_neg (x : Binary64) : x.neg.bits.toNat = x.bits.toNat ^^^ 2 ^ 63 := by
  rw [neg, UInt64.toNat_xor]
  rfl

theorem neg_magnitude (x : Binary64) :
    x.neg.bits.toNat % twoTo 63 = x.bits.toNat % twoTo 63 := by
  rw [bits_neg, show twoTo 63 = 2 ^ 63 from rfl, Nat.xor_mod_two_pow, Nat.mod_self, Nat.xor_zero]

theorem negative_testBit (x : Binary64) : x.negative = x.bits.toNat.testBit 63 := by
  have bound := x.bits.toNat_lt
  rw [negative, Nat.testBit_eq_decide_div_mod_eq, show twoTo 63 = 2 ^ 63 from rfl, decide_eq_decide]
  omega

theorem neg_negative (x : Binary64) : x.neg.negative = !x.negative := by
  rw [negative_testBit, negative_testBit, bits_neg, Nat.testBit_xor, Nat.testBit_two_pow_self,
    Bool.xor_true]

theorem value_neg (x : Binary64) :
    x.neg.value =
      match x.value with
      | .finite negative significand exponent => .finite (!negative) significand exponent
      | .infinite negative => .infinite (!negative)
      | .notANumber => .notANumber := by
  simp only [value, neg_magnitude, neg_negative]
  split_ifs <;> rfl

theorem toInt_neg (whole : x.toInt? = some n) : x.neg.toInt? = some (-n) := by
  obtain ⟨negative, significand, exponent, k, value, multiple, rfl⟩ := toInt_some.mp whole
  refine toInt_some.mpr ⟨!negative, significand, exponent, k, ?_, multiple, ?_⟩
  · rw [value_neg, value]
  · cases negative <;> simp

end Binary64

namespace Amount

/-- An amount that is a whole number, as such or as a floating-point number. -/
def Stands (amount : Amount) (n : Int) : Prop :=
  amount = .whole n ∨ ∃ x, amount = .real x ∧ x.toInt? = some n

variable {amount : Amount} {n : Int}

theorem Stands.isBelow (stands : amount.Stands n) (m : Int) : amount.isBelow m = decide (n < m) := by
  rcases stands with rfl | ⟨x, rfl, whole⟩
  · rfl
  · exact Binary64.ltInt_of_toInt whole m

theorem Stands.isAbove (stands : amount.Stands n) (m : Int) : amount.isAbove m = decide (m < n) := by
  rcases stands with rfl | ⟨x, rfl, whole⟩
  · rfl
  · rw [Amount.isAbove, Binary64.ltInt_of_toInt (Binary64.toInt_neg whole), decide_eq_decide]
    omega

theorem Stands.isPositive (stands : amount.Stands n) : amount.isPositive = decide (0 < n) := by
  rcases stands with rfl | ⟨x, rfl, whole⟩
  · rfl
  · obtain ⟨negative, significand, exponent, k, value, multiple, rfl⟩ := Binary64.toInt_some.mp whole
    simp only [Amount.isPositive, value]
    cases negative with
    | true => simp
    | false =>
        have together : 0 < significand ↔ 0 < k := by
          rw [← @Binary64.ratio_num_pos significand exponent, multiple]
          exact Nat.mul_pos_iff_of_pos_right (Binary64.ratio_den_pos significand exponent)
        simp [Nat.ne_zero_iff_zero_lt, together]

end Amount

end FenceCheck
