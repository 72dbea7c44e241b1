import FenceCheck.Proofs.FloatRange
import Mathlib.Algebra.Order.Field.Power
import Mathlib.Data.Rat.Cast.Order
import Mathlib.Tactic.GCongr
import Mathlib.Tactic.Linarith
import Mathlib.Tactic.NormNum
import Mathlib.Tactic.Positivity
import Mathlib.Tactic.Ring

/-!
The number that a fraction is rounded to. Every fraction around a floating-point number, up to half
way to its neighbours, is rounded to that number.
-/

namespace FenceCheck

theorem twoTo_cast (n : Nat) : (twoTo n : ℚ) = 2 ^ (n : ℤ) := by
  rw [zpow_natCast]
  exact Nat.cast_pow 2 n

namespace Binary64

theorem ratio_cast (significand : Nat) (exponent : Int) :
    ((ratio significand exponent).1 : ℚ) / (ratio significand exponent).2 =
      significand * 2 ^ exponent := by
  cases exponent with
  | ofNat e =>
      change ((significand * twoTo e : Nat) : ℚ) / (1 : Nat) = significand * 2 ^ (e : ℤ)
      rw [Nat.cast_mul, twoTo_cast, Nat.cast_one, div_one]
  | negSucc e =>
      change (significand : ℚ) / (twoTo (e + 1) : Nat) = significand * 2 ^ Int.negSucc e
      rw [twoTo_cast, Int.negSucc_eq, zpow_neg, div_eq_mul_inv]
      rfl

/-- A fraction around a whole number: not farther than `below` under it and not farther than half
over it. The ends are around even numbers only. -/
def Around (below : ℚ) (k : Nat) (q : ℚ) : Prop :=
  if k % 2 = 0 then k - below ≤ q ∧ q ≤ k + 1 / 2 else k - below < q ∧ q < k + 1 / 2

theorem Around.bounds {below : ℚ} {k : Nat} {q : ℚ} (around : Around below k q) :
    k - below ≤ q ∧ q ≤ k + 1 / 2 := by
  unfold Around at around
  split at around
  case isTrue => exact around
  case isFalse => exact ⟨around.1.le, around.2.le⟩

theorem Around.weaken {below above : ℚ} {k : Nat} {q : ℚ} (around : Around below k q)
    (le : below ≤ above) : Around above k q := by
  unfold Around at around ⊢
  split at around
  case isTrue even =>
      rw [if_pos even]
      exact ⟨by linarith [around.1], around.2⟩
  case isFalse odd =>
      rw [if_neg odd]
      exact ⟨by linarith [around.1], around.2⟩

theorem roundHalfEven_eq {num den k : Nat} (positive : 0 < den)
    (around : Around (1 / 2) k (num / den)) : roundHalfEven num den = k := by
  have unit : (0 : ℚ) < den := Nat.cast_pos.mpr positive
  have whole := Nat.div_add_mod num den
  have small := Nat.mod_lt num positive
  have lower : 2 * (den * k) ≤ 2 * num + den := by
    have bound := around.bounds.1
    rw [le_div_iff₀ unit] at bound
    have : (2 * (den * k) : ℚ) ≤ 2 * num + den := by linarith
    exact_mod_cast this
  have upper : 2 * num ≤ 2 * (den * k) + den := by
    have bound := around.bounds.2
    rw [div_le_iff₀ unit] at bound
    have : (2 * num : ℚ) ≤ 2 * (den * k) + den := by linarith
    exact_mod_cast this
  have odd (odd : k % 2 = 1) : 2 * (den * k) < 2 * num + den ∧ 2 * num < 2 * (den * k) + den := by
    unfold Around at around
    rw [if_neg (by omega), lt_div_iff₀ unit, div_lt_iff₀ unit] at around
    constructor
    · have : (2 * (den * k) : ℚ) < 2 * num + den := by linarith [around.1]
      exact_mod_cast this
    · have : (2 * num : ℚ) < 2 * (den * k) + den := by linarith [around.2]
      exact_mod_cast this
  unfold roundHalfEven
  simp only
  -- The quotient is the number itself or the one before it.
  rcases Nat.lt_trichotomy (num / den) k with below | same | above
  · have step : den * (num / den + 1) ≤ den * k := Nat.mul_le_mul_left den below
    rw [Nat.mul_add] at step
    rcases Nat.lt_or_ge (num / den + 1) k with far | near
    · have farther : den * (num / den + 2) ≤ den * k := Nat.mul_le_mul_left den far
      rw [Nat.mul_add] at farther
      omega
    · have next : num / den + 1 = k := by omega
      have same : den * k = den * (num / den) + den := by rw [← next, Nat.mul_add, Nat.mul_one]
      split_ifs <;> omega
  · rw [same] at whole ⊢
    split_ifs <;> omega
  · have step : den * (k + 1) ≤ den * (num / den) := Nat.mul_le_mul_left den above
    rw [Nat.mul_add] at step
    omega

theorem unitsOf_eq {num den k : Nat} {exponent : Int} (positive : 0 < den)
    (around : Around (1 / 2) k (num / den / 2 ^ exponent)) : unitsOf num den exponent = k := by
  cases exponent with
  | ofNat e =>
      refine roundHalfEven_eq (Nat.mul_pos positive (twoTo_pos e)) ?_
      rw [Nat.cast_mul, twoTo_cast, ← div_div]
      exact around
  | negSucc e =>
      refine roundHalfEven_eq positive ?_
      rw [Nat.cast_mul, twoTo_cast, mul_div_right_comm, ← div_inv_eq_mul, ← zpow_neg]
      exact around

theorem ltPower_iff {num den : Nat} (positive : 0 < den) (exponent : Int) :
    ltPower num den exponent = true ↔ (num : ℚ) / den < 2 ^ exponent := by
  have unit : (0 : ℚ) < den := Nat.cast_pos.mpr positive
  cases exponent with
  | ofNat e =>
      change decide (num < den * twoTo e) = true ↔ (num : ℚ) / den < 2 ^ (e : ℤ)
      rw [decide_eq_true_iff, div_lt_iff₀ unit, mul_comm, ← twoTo_cast]
      norm_cast
  | negSucc e =>
      change decide (num * twoTo (e + 1) < den) = true ↔ (num : ℚ) / den < 2 ^ Int.negSucc e
      have power : (0 : ℚ) < 2 ^ ((e : ℤ) + 1) := by positivity
      rw [decide_eq_true_iff, div_lt_iff₀ unit, Int.negSucc_eq, zpow_neg, inv_mul_eq_div,
        lt_div_iff₀ power, ← Nat.cast_succ, ← twoTo_cast]
      norm_cast

/-- The binade of a fraction, as it is found when the fraction is rounded. -/
def binade (num den : Nat) : Int :=
  let estimate : Int := (Nat.log2 num : Int) - Nat.log2 den
  if ltPower num den estimate then estimate - 1 else estimate

theorem log2_bounds {n : Nat} (some : 0 < n) :
    (2 : ℚ) ^ (n.log2 : ℤ) ≤ n ∧ (n : ℚ) < 2 ^ ((n.log2 : ℤ) + 1) := by
  have lower : twoTo n.log2 ≤ n := Nat.log2_self_le (Nat.ne_of_gt some)
  have upper : n < twoTo (n.log2 + 1) := Nat.lt_log2_self
  rw [← Nat.cast_succ, ← twoTo_cast, ← twoTo_cast]
  exact ⟨Nat.cast_le.mpr lower, Nat.cast_lt.mpr upper⟩

theorem binade_bounds {num den : Nat} (some : 0 < num) (positive : 0 < den) :
    (2 : ℚ) ^ binade num den ≤ num / den ∧ (num : ℚ) / den < 2 ^ (binade num den + 1) := by
  obtain ⟨numLow, numHigh⟩ := log2_bounds some
  obtain ⟨denLow, denHigh⟩ := log2_bounds positive
  have unit : (0 : ℚ) < den := Nat.cast_pos.mpr positive
  have two : (2 : ℚ) ≠ 0 := two_ne_zero
  -- The two logarithms leave two binades, of which one comparison picks the right one.
  have lower : (2 : ℚ) ^ ((num.log2 : ℤ) - den.log2 - 1) ≤ num / den := by
    rw [le_div_iff₀ unit]
    calc (2 : ℚ) ^ ((num.log2 : ℤ) - den.log2 - 1) * den
        ≤ 2 ^ ((num.log2 : ℤ) - den.log2 - 1) * 2 ^ ((den.log2 : ℤ) + 1) := by gcongr
      _ = 2 ^ (num.log2 : ℤ) := by rw [← zpow_add₀ two]; ring_nf
      _ ≤ num := numLow
  have upper : (num : ℚ) / den < 2 ^ ((num.log2 : ℤ) - den.log2 + 1) := by
    rw [div_lt_iff₀ unit]
    calc (num : ℚ) < 2 ^ ((num.log2 : ℤ) + 1) := numHigh
      _ = 2 ^ ((num.log2 : ℤ) - den.log2 + 1) * 2 ^ (den.log2 : ℤ) := by
          rw [← zpow_add₀ two]; ring_nf
      _ ≤ 2 ^ ((num.log2 : ℤ) - den.log2 + 1) * den := by gcongr
  unfold binade
  simp only
  split
  case isTrue less =>
      rw [sub_add_cancel]
      exact ⟨lower, (ltPower_iff positive _).mp less⟩
  case isFalse reached => exact ⟨not_lt.mp (mt (ltPower_iff positive _).mpr reached), upper⟩

theorem binade_eq {num den : Nat} {place : Int} (positive : 0 < den)
    (lower : (2 : ℚ) ^ place ≤ num / den) (upper : (num : ℚ) / den < 2 ^ (place + 1)) :
    binade num den = place := by
  have power : (0 : ℚ) < 2 ^ place := by positivity
  have some : 0 < num := by
    rcases Nat.eq_zero_or_pos num with rfl | some
    · simp only [Nat.cast_zero, zero_div] at lower
      linarith
    · exact some
  obtain ⟨low, high⟩ := binade_bounds some positive
  have first := (zpow_lt_zpow_iff_right₀ one_lt_two).mp (lower.trans_lt high)
  have second := (zpow_lt_zpow_iff_right₀ one_lt_two).mp (low.trans_lt upper)
  omega

theorem binade_lt {num den : Nat} {place : Int} (some : 0 < num) (positive : 0 < den)
    (upper : (num : ℚ) / den < 2 ^ place) : binade num den < place :=
  (zpow_lt_zpow_iff_right₀ one_lt_two).mp ((binade_bounds some positive).1.trans_lt upper)

theorem ofRatio_eq {num den : Nat} (some : 0 < num) (positive : 0 < den) (negative : Bool) :
    ofRatio negative num den =
      let exponent := max (binade num den - 52) (-1074)
      let magnitude := (exponent + 1074).toNat * twoTo 52 + unitsOf num den exponent
      if magnitude ≥ 2047 * twoTo 52 then infinity negative else ofMagnitude negative magnitude := by
  have proper : ¬ (num = 0 ∨ den = 0) := by omega
  rw [ofRatio, if_neg proper]
  rfl

/-- A number is its sign and its other bits. -/
theorem ofMagnitude_bits (x : Binary64) :
    x = ofMagnitude x.negative (x.bits.toNat % 2 ^ 63) := by
  obtain ⟨bits⟩ := x
  have bound := bits.toNat_lt
  have place : twoTo 63 = 2 ^ 63 := rfl
  rw [ofMagnitude, Binary64.mk.injEq, ← UInt64.toNat_inj, UInt64.toNat_ofNat', negative, place]
  dsimp only
  split
  case isTrue high =>
      have high : 2 ^ 63 ≤ bits.toNat := by simpa using high
      omega
  case isFalse low =>
      have low : ¬ 2 ^ 63 ≤ bits.toNat := by simpa using low
      omega

/-- A finite value by its place among the numbers of its sign. -/
theorem value_magnitude (x : Binary64) :
    ∃ magnitude < 2 ^ 63, x = ofMagnitude x.negative magnitude ∧
      x.value =
        if magnitude / 2 ^ 52 = 2047 then
          if magnitude % 2 ^ 52 = 0 then .infinite x.negative else .notANumber
        else if magnitude / 2 ^ 52 = 0 then .finite x.negative (magnitude % 2 ^ 52) (-1074)
        else .finite x.negative (2 ^ 52 + magnitude % 2 ^ 52)
          (((magnitude / 2 ^ 52 : Nat) : Int) - 1075) := by
  have places : twoTo 52 = 2 ^ 52 := rfl
  have sign : twoTo 63 = 2 ^ 63 := rfl
  refine ⟨x.bits.toNat % 2 ^ 63, Nat.mod_lt _ (by decide), ofMagnitude_bits x, ?_⟩
  simp only [Binary64.value, places, sign]

theorem value_finite {x : Binary64} {negative : Bool} {significand : Nat} {exponent : Int}
    (value : x.value = .finite negative significand exponent) :
    ∃ binades : Nat, exponent = binades - 1074 ∧ significand < 2 ^ 53 ∧
      (binades = 0 ∨ 2 ^ 52 ≤ significand) ∧
      binades * 2 ^ 52 + significand < 2047 * 2 ^ 52 ∧
      x = ofMagnitude negative (binades * 2 ^ 52 + significand) := by
  obtain ⟨magnitude, bound, whole, parts⟩ := value_magnitude x
  rw [value] at parts
  split_ifs at parts with top exact least
  · cases parts
    refine ⟨0, rfl, by omega, Or.inl rfl, by omega, ?_⟩
    rwa [show 0 * 2 ^ 52 + magnitude % 2 ^ 52 = magnitude by omega]
  · cases parts
    refine ⟨magnitude / 2 ^ 52 - 1, by omega, by omega, Or.inr (by omega), by omega, ?_⟩
    rwa [show (magnitude / 2 ^ 52 - 1) * 2 ^ 52 + (2 ^ 52 + magnitude % 2 ^ 52) = magnitude by omega]

theorem value_infinite {x : Binary64} {negative : Bool} (value : x.value = .infinite negative) :
    x = infinity negative := by
  obtain ⟨magnitude, bound, whole, parts⟩ := value_magnitude x
  rw [value] at parts
  split_ifs at parts with top exact least
  cases parts
  have places : twoTo 52 = 2 ^ 52 := rfl
  have all : 2047 * 2 ^ 52 = magnitude := by omega
  rwa [infinity, places, all]

/-- Half way to the next number below; right below a power of two numbers are twice as dense. -/
def gap (significand : Nat) (exponent : Int) : ℚ :=
  if significand = 2 ^ 52 ∧ exponent > -1074 then 1 / 4 else 1 / 2

theorem ofRatio_around {x : Binary64} {negative : Bool} {significand num den : Nat}
    {exponent : Int} (positive : 0 < den)
    (value : x.value = .finite negative significand exponent) (some : 0 < significand)
    (around : Around (gap significand exponent) significand (num / den / 2 ^ exponent)) :
    ofRatio negative num den = x := by
  obtain ⟨binades, rfl, small, normal, finite, rfl⟩ := value_finite value
  set exponent : Int := binades - 1074 with exponent_eq
  set q : ℚ := num / den / 2 ^ exponent with q_eq
  have unit : (0 : ℚ) < 2 ^ exponent := by positivity
  have scaled : (num : ℚ) / den = 2 ^ exponent * q := by rw [q_eq, mul_div_cancel₀ _ unit.ne']
  obtain ⟨low, high⟩ := around.bounds
  have close : gap significand exponent ≤ 1 / 2 := by
    unfold gap
    split <;> norm_num
  have one : (1 : ℚ) ≤ significand := Nat.one_le_cast.mpr some
  have large : (significand : ℚ) + 1 ≤ 2 ^ 53 := by exact_mod_cast small
  have counted : 0 < num := by
    rcases Nat.eq_zero_or_pos num with rfl | counted
    · simp only [Nat.cast_zero, zero_div] at q_eq
      linarith
    · exact counted
  have upper : (num : ℚ) / den < 2 ^ (exponent + 52 + 1) := by
    rw [scaled, add_assoc, zpow_add₀ two_ne_zero]
    gcongr
    norm_num at large ⊢
    linarith
  have reaches (reached : 2 ^ 52 ≤ q) : binade num den = exponent + 52 := by
    refine binade_eq positive ?_ upper
    rw [scaled, zpow_add₀ two_ne_zero]
    gcongr
    exact reached
  -- The bits without the sign decide, and these count the units from the least number on.
  suffices magnitude : (max (binade num den - 52) (-1074) + 1074).toNat * 2 ^ 52 +
      unitsOf num den (max (binade num den - 52) (-1074)) = binades * 2 ^ 52 + significand by
    have places : twoTo 52 = 2 ^ 52 := rfl
    rw [ofRatio_eq counted positive]
    simp only [places, magnitude]
    rw [if_neg (by omega)]
  by_cases inside : binades = 0 ∨ 2 ^ 52 ≤ q
  · have same : max (binade num den - 52) (-1074) = exponent := by
      by_cases reached : 2 ^ 52 ≤ q
      · have place := reaches reached
        omega
      · have least := inside.resolve_right reached
        have less : binade num den < exponent + 52 := by
          refine binade_lt counted positive ?_
          rw [scaled, zpow_add₀ two_ne_zero]
          gcongr
          exact not_le.mp reached
        omega
    have units := unitsOf_eq positive (around.weaken close)
    rw [same, units]
    omega
  · -- Below a power of two the fraction is counted in halves of the unit of that power.
    obtain ⟨first, below⟩ := not_or.mp inside
    have least := normal.resolve_left first
    have power : significand = 2 ^ 52 := by
      by_contra other
      have past : ((2 ^ 52 : Nat) : ℚ) + 1 ≤ significand := by exact_mod_cast (by omega)
      push_cast at past
      linarith [not_le.mp below]
    have narrow : gap significand exponent = 1 / 4 := if_pos ⟨power, by omega⟩
    rw [narrow, power] at low
    push_cast at low
    have half : (2 : ℚ) ^ exponent = 2 ^ (exponent - 1) * 2 := by
      rw [← zpow_add_one₀ two_ne_zero, sub_add_cancel]
    have place : binade num den = exponent + 51 := by
      refine binade_eq positive ?_ ?_
      · rw [scaled, zpow_add₀ two_ne_zero]
        gcongr
        norm_num at low ⊢
        linarith
      · rw [scaled, add_assoc, zpow_add₀ two_ne_zero]
        gcongr
        exact not_le.mp below
    have same : max (binade num den - 52) (-1074) = exponent - 1 := by omega
    have halves : (num : ℚ) / den / 2 ^ (exponent - 1) = 2 * q := by
      rw [scaled, half, mul_assoc, mul_div_cancel_left₀ _ (by positivity)]
    have units : unitsOf num den (exponent - 1) = 2 ^ 53 := by
      refine unitsOf_eq positive ?_
      rw [halves, Around, if_pos (by norm_num)]
      push_cast
      constructor <;> linarith [not_le.mp below]
    rw [same, units, power]
    omega

end Binary64

end FenceCheck
