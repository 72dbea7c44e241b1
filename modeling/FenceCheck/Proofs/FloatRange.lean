import FenceCheck.Number.Amount
import Mathlib.Tactic.Ring

/-!
Which whole numbers have a floating-point form. Rounding goes up to the next power of two half a unit
below it, and from there on a number counts as infinite.
-/

namespace FenceCheck

theorem twoTo_add {k m n : Nat} (sum : m + n = k) : twoTo k = 2 ^ m * twoTo n := by
  subst sum
  exact Nat.pow_add 2 m n

theorem twoTo_le {m n : Nat} (le : m ≤ n) : twoTo m ≤ twoTo n := Nat.pow_le_pow_right (by decide) le

theorem twoTo_pos (n : Nat) : 0 < twoTo n := Nat.two_pow_pos n

namespace Binary64

theorem le_roundHalfEven {num den k : Nat} (positive : 0 < den) (reached : k * den ≤ num) :
    k ≤ roundHalfEven num den := by
  have low : k ≤ num / den := (Nat.le_div_iff_mul_le positive).mpr reached
  unfold roundHalfEven
  simp only
  split_ifs <;> omega

theorem roundHalfEven_le {num den k : Nat} (positive : 0 < den) (bounded : num ≤ k * den) :
    roundHalfEven num den ≤ k := by
  have low : num / den ≤ k := Nat.div_le_of_le_mul (by rwa [Nat.mul_comm])
  unfold roundHalfEven
  simp only
  rcases Nat.lt_or_eq_of_le low with below | reached
  · split_ifs <;> omega
  · have whole := Nat.div_add_mod num den
    rw [reached, Nat.mul_comm] at whole
    have rest : num % den = 0 := by omega
    simp [rest, positive, reached]

/-- Half a unit above an odd number is rounded up. -/
theorem roundHalfEven_odd {num den k : Nat} (positive : 0 < den) (odd : k % 2 = 1) :
    k + 1 ≤ roundHalfEven num den ↔ (2 * k + 1) * den ≤ 2 * num := by
  have whole := Nat.div_add_mod num den
  have small := Nat.mod_lt num positive
  have half : (2 * k + 1) * den = 2 * (den * k) + den := by ring
  rw [half]
  rcases Nat.lt_trichotomy (num / den) k with below | same | above
  · have step : den * (num / den + 1) ≤ den * k := Nat.mul_le_mul_left den below
    rw [Nat.mul_add] at step
    have bounded : num ≤ k * den := by rw [Nat.mul_comm]; omega
    have := roundHalfEven_le positive bounded
    omega
  · rw [same] at whole
    unfold roundHalfEven
    simp only [same, odd, one_ne_zero, ↓reduceIte]
    split_ifs <;> omega
  · have step : den * (k + 1) ≤ den * (num / den) := Nat.mul_le_mul_left den above
    rw [Nat.mul_add] at step
    have reached : (k + 1) * den ≤ num := by rw [Nat.mul_comm, Nat.mul_add]; omega
    refine iff_of_true (le_roundHalfEven positive reached) ?_
    omega

theorem isFinite_ofMagnitude (negative : Bool) {magnitude : Nat} (small : magnitude < 2 ^ 63) :
    (ofMagnitude negative magnitude).isFinite = true ↔ magnitude < 2047 * 2 ^ 52 := by
  have bits : (ofMagnitude negative magnitude).bits.toNat % twoTo 63 = magnitude := by
    unfold ofMagnitude
    cases negative <;> simp [twoTo] <;> omega
  have places : twoTo 52 = 2 ^ 52 := rfl
  unfold isFinite value
  simp only [bits, places]
  by_cases top : magnitude / 2 ^ 52 = 2047
  · have past : ¬ magnitude < 2047 * 2 ^ 52 := by omega
    simp only [top, past, ↓reduceIte, iff_false]
    by_cases exact : magnitude % 2 ^ 52 = 0 <;> simp only [exact, ↓reduceIte] <;> exact nofun
  · have within : magnitude < 2047 * 2 ^ 52 := by omega
    simp only [top, within, ↓reduceIte, iff_true]
    by_cases least : magnitude / 2 ^ 52 = 0 <;> simp only [least, ↓reduceIte]

theorem isFinite_rounded (negative : Bool) (magnitude : Nat) :
    (if magnitude ≥ 2047 * twoTo 52 then infinity negative
      else ofMagnitude negative magnitude).isFinite = true ↔ magnitude < 2047 * 2 ^ 52 := by
  have places : twoTo 52 = 2 ^ 52 := rfl
  split
  case isTrue past =>
      rw [infinity, isFinite_ofMagnitude negative (by rw [places]; omega)]
      omega
  case isFalse within => exact isFinite_ofMagnitude negative (by omega)

/-- The units of a whole number, whose exponent is 52 below that of its first place. -/
theorem unitsOf_bounds {num place : Nat} (lower : 2 ^ place ≤ num) (upper : num < 2 ^ (place + 1)) :
    2 ^ 52 ≤ unitsOf num 1 ((place : Int) - 52) ∧ unitsOf num 1 ((place : Int) - 52) ≤ 2 ^ 53 := by
  -- A short number is multiplied and stays as it is, a long one is divided and rounded.
  rcases Nat.lt_or_ge place 52 with short | long
  · obtain ⟨gap, same⟩ : ∃ gap, place + (gap + 1) = 52 := ⟨51 - place, by omega⟩
    have exponent : (place : Int) - 52 = .negSucc gap := by omega
    have first : 2 ^ 52 = 2 ^ place * 2 ^ (gap + 1) := by rw [← Nat.pow_add, same]
    have next : 2 ^ 53 = 2 ^ (place + 1) * 2 ^ (gap + 1) := by
      rw [← Nat.pow_add, Nat.add_right_comm, same]
    rw [exponent, unitsOf]
    constructor
    · refine le_roundHalfEven Nat.one_pos ?_
      rw [Nat.mul_one, first]
      exact Nat.mul_le_mul_right _ lower
    · refine roundHalfEven_le Nat.one_pos ?_
      rw [Nat.mul_one, next]
      exact Nat.mul_le_mul_right _ (Nat.le_of_lt upper)
  · obtain ⟨gap, rfl⟩ : ∃ gap, place = 52 + gap := ⟨place - 52, by omega⟩
    have exponent : (((52 + gap : Nat) : Int) - 52) = .ofNat gap := by simp
    have unit : 0 < twoTo gap := Nat.two_pow_pos gap
    rw [exponent, unitsOf, Nat.one_mul]
    constructor
    · refine le_roundHalfEven unit ?_
      rwa [Nat.pow_add] at lower
    · refine roundHalfEven_le unit (Nat.le_of_lt ?_)
      rwa [Nat.add_right_comm, Nat.pow_add] at upper

/-- The least amount that is rounded past the largest floating-point number. -/
def overflow : Nat := twoTo 1024 - twoTo 970

theorem overflow_eq : overflow = (2 ^ 54 - 1) * twoTo 970 := by
  have high : twoTo 1024 = 2 ^ 54 * twoTo 970 := twoTo_add rfl
  rw [overflow, high]
  omega

/-- Below the last binade every number rounds to a finite one, and above it none does. In the last
binade those do that are not rounded up to its end. -/
theorem magnitude_bound {num place : Nat} (lower : twoTo place ≤ num)
    (upper : num < twoTo (place + 1)) :
    (place + 1022) * 2 ^ 52 + unitsOf num 1 ((place : Int) - 52) < 2047 * 2 ^ 52 ↔
      num < overflow := by
  obtain ⟨least, most⟩ := unitsOf_bounds lower upper
  have unit := twoTo_pos 970
  rw [overflow_eq]
  rcases Nat.lt_trichotomy place 1023 with below | rfl | above
  · have small : twoTo (place + 1) ≤ twoTo 1023 := twoTo_le below
    have half : twoTo 1023 = 2 ^ 53 * twoTo 970 := twoTo_add rfl
    refine iff_of_true ?_ ?_ <;> omega
  · have double : twoTo 971 = 2 ^ 1 * twoTo 970 := twoTo_add rfl
    have exponent : ((1023 : Nat) : Int) - 52 = .ofNat 971 := by decide
    have up : 2 ^ 53 - 1 + 1 ≤ roundHalfEven num (twoTo 971) ↔ _ :=
      roundHalfEven_odd (twoTo_pos 971) (by decide)
    rw [exponent, unitsOf, Nat.one_mul] at least most ⊢
    rw [double] at up least most ⊢
    omega
  · have large : twoTo 1024 ≤ twoTo place := twoTo_le above
    have high : twoTo 1024 = 2 ^ 54 * twoTo 970 := twoTo_add rfl
    refine iff_of_false ?_ ?_ <;> omega

theorem isFinite_ofRatio (negative : Bool) (num : Nat) :
    (ofRatio negative num 1).isFinite = true ↔ num < overflow := by
  unfold ofRatio
  by_cases none : num = 0
  · have unit := twoTo_pos 970
    simp only [none, true_or, ↓reduceIte, zero]
    rw [isFinite_ofMagnitude negative (by decide), overflow_eq]
    omega
  · have lower : twoTo num.log2 ≤ num := Nat.log2_self_le none
    have upper : num < twoTo (num.log2 + 1) := Nat.lt_log2_self
    have one : Nat.log2 1 = 0 := by decide
    have reached : ltPower num 1 (num.log2 : Int) = false := by
      simpa [ltPower] using lower
    have exponent : max ((num.log2 : Int) - 52) (-1074) = (num.log2 : Int) - 52 := by omega
    have shifted : ((num.log2 : Int) - 52 + 1074).toNat = num.log2 + 1022 := by omega
    simp only [none, one_ne_zero, or_self, ↓reduceIte, one, Nat.cast_zero, sub_zero, reached,
      Bool.false_eq_true, exponent, shifted, isFinite_rounded]
    exact magnitude_bound lower upper

theorem ofInt_isSome {n : Int} : (ofInt? n).isSome = true ↔ n.natAbs < overflow := by
  unfold ofInt?
  simp only [← isFinite_ofRatio (decide (n < 0)) n.natAbs]
  split <;> simp [*]

end Binary64

/-- A thousandth fails on whole numbers past the largest floating-point one alone. -/
theorem Amount.thousandth_none {amount : Amount} :
    amount.thousandth = none ↔ ∃ n, amount = .whole n ∧ Binary64.overflow ≤ n.natAbs := by
  cases amount with
  | real x => simp [thousandth, float?]
  | whole n =>
      have range := not_congr (Binary64.ofInt_isSome (n := n))
      simp only [Bool.not_eq_true, Option.isSome_eq_false_iff, Option.isNone_iff_eq_none, Nat.not_lt]
        at range
      simp [thousandth, float?, range]

end FenceCheck
