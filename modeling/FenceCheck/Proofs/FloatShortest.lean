import FenceCheck.Number.Shortest
import FenceCheck.Proofs.FloatNearest
import Mathlib.Tactic.FieldSimp

/-!
The shortest decimal of a floating-point number. Seventeen digits are enough to come nearer to a number
than its neighbours are, so the search for a decimal ends at one that is rounded to the number.
-/

namespace FenceCheck

theorem tenTo_cast (n : Nat) : (tenTo n : ℚ) = 10 ^ (n : ℤ) := by
  rw [zpow_natCast]
  exact Nat.cast_pow 10 n

theorem tenTo_pos (n : Nat) : 0 < tenTo n := Nat.pow_pos (by decide)

theorem toDigits_bounds {n : Nat} (some : 0 < n) :
    (10 : ℚ) ^ ((Nat.toDigits 10 n).length - 1 : ℤ) ≤ n ∧
      (n : ℚ) < 10 ^ ((Nat.toDigits 10 n).length : ℤ) := by
  have filled : 0 < (Nat.toDigits 10 n).length := Nat.length_toDigits_pos
  generalize places : (Nat.toDigits 10 n).length = count at filled
  constructor
  · obtain ⟨less, rfl⟩ : ∃ less, count = less + 1 := ⟨count - 1, by omega⟩
    have lower : 10 ^ less ≤ n := by
      rcases Nat.eq_zero_or_pos less with rfl | more
      · exact some
      · refine Nat.le_of_not_lt fun small => ?_
        have fewer := (Nat.length_toDigits_le_iff (by decide) more).mpr small
        omega
    rw [Nat.cast_succ, add_sub_cancel_right, zpow_natCast]
    exact_mod_cast lower
  · have upper := (Nat.length_toDigits_le_iff (b := 10) (n := n) (by decide) filled).mp
      (Nat.le_of_eq places)
    rw [zpow_natCast]
    exact_mod_cast upper

namespace Binary64

def Decimal.value (d : Decimal) : ℚ := d.digits * 10 ^ d.exponent

theorem Decimal.value_trimmed (d : Decimal) (fuel : Nat) : (d.trimmed fuel).value = d.value := by
  fun_induction Decimal.trimmed d fuel with
  | case1 => rfl
  | case2 d fuel more ih =>
      have tens : (d.digits : ℚ) = (d.digits / 10 : Nat) * 10 := by
        exact_mod_cast (Nat.div_mul_cancel (Nat.dvd_of_mod_eq_zero more.2)).symm
      rw [ih, value, value, tens, zpow_add_one₀ (by norm_num)]
      ring
  | case3 => rfl

theorem Decimal.digits_trimmed {d : Decimal} (some : d.digits ≠ 0) (fuel : Nat) :
    (d.trimmed fuel).digits ≠ 0 := by
  fun_induction Decimal.trimmed d fuel with
  | case1 => exact some
  | case2 d fuel more ih => exact ih (by simp only; omega)
  | case3 => exact some

theorem powerOfTen_bounds {num den : Nat} (some : 0 < num) (positive : 0 < den) :
    (10 : ℚ) ^ powerOfTen num den ≤ num / den := by
  obtain ⟨numLow, -⟩ := toDigits_bounds some
  obtain ⟨-, denHigh⟩ := toDigits_bounds positive
  have unit : (0 : ℚ) < den := Nat.cast_pos.mpr positive
  unfold powerOfTen
  simp only
  generalize (Nat.toDigits 10 num).length = first at *
  generalize (Nat.toDigits 10 den).length = second at *
  rw [le_div_iff₀ unit]
  have lower : (10 : ℚ) ^ ((first : ℤ) - second - 1) * den ≤ num :=
    calc (10 : ℚ) ^ ((first : ℤ) - second - 1) * den
        ≤ 10 ^ ((first : ℤ) - second - 1) * 10 ^ (second : ℤ) := by gcongr
      _ = 10 ^ ((first : ℤ) - 1) := by rw [← zpow_add₀ (by norm_num)]; ring_nf
      _ ≤ num := numLow
  -- The digits of the quotient are as many as the difference says, or one less.
  cases places : (first : ℤ) - second with
  | ofNat e =>
      rw [places] at lower
      simp only [decide_eq_true_iff]
      split
      case isTrue reached =>
          change (10 : ℚ) ^ (e : ℤ) * den ≤ num
          rw [← tenTo_cast, mul_comm]
          exact_mod_cast reached
      case isFalse => exact lower
  | negSucc e =>
      rw [places] at lower
      simp only [decide_eq_true_iff]
      split
      case isTrue reached =>
          rw [Int.negSucc_eq, zpow_neg, inv_mul_eq_div, div_le_iff₀ (by positivity), ← Nat.cast_succ,
            ← tenTo_cast]
          exact_mod_cast reached
      case isFalse => exact lower

section

variable {significand : Nat} {exponent : Int}

theorem interval_mid (significand : Nat) (exponent : Int) :
    ((interval significand exponent).mid : ℚ) / (interval significand exponent).den =
      significand * 2 ^ exponent := by
  have quarter := ratio_cast 1 (exponent - 2)
  rw [Nat.cast_one, one_mul, zpow_sub₀ two_ne_zero] at quarter
  simp only [interval, Nat.cast_mul, mul_div_assoc, quarter]
  push_cast
  ring

theorem interval_den_pos (significand : Nat) (exponent : Int) :
    0 < (interval significand exponent).den := by
  unfold interval ratio
  cases exponent - 2 with
  | ofNat e => exact Nat.one_pos
  | negSucc e => exact twoTo_pos (e + 1)

theorem interval_end {k : Nat} (fits : k ≤ 4 * significand) :
    (((4 * significand - k) * (ratio 1 (exponent - 2)).1 : Nat) : ℚ) /
      (ratio 1 (exponent - 2)).2 = (significand - k / 4) * 2 ^ exponent := by
  have quarter := ratio_cast 1 (exponent - 2)
  rw [Nat.cast_one, one_mul, zpow_sub₀ two_ne_zero] at quarter
  rw [Nat.cast_mul, mul_div_assoc, quarter, Nat.cast_sub fits]
  push_cast
  ring

theorem interval_low (some : 0 < significand) :
    ((interval significand exponent).low : ℚ) / (interval significand exponent).den =
      (significand - gap significand exponent) * 2 ^ exponent := by
  unfold gap
  have places : twoTo 52 = 2 ^ 52 := rfl
  simp only [interval, places]
  split
  · rw [interval_end (by omega)]
    norm_num
  · rw [interval_end (by omega)]
    norm_num

theorem interval_high (significand : Nat) (exponent : Int) :
    ((interval significand exponent).high : ℚ) / (interval significand exponent).den =
      (significand + 1 / 2) * 2 ^ exponent := by
  have quarter := ratio_cast 1 (exponent - 2)
  rw [Nat.cast_one, one_mul, zpow_sub₀ two_ne_zero] at quarter
  simp only [interval, Nat.cast_mul, mul_div_assoc, quarter]
  push_cast
  ring

/-- The comparison with an interval is one of fractions, where the power of ten is a fraction too. -/
theorem holds_eq (i : Interval) (d : Decimal) :
    ∃ up down : Nat, 0 < down ∧ (up : ℚ) / down = 10 ^ d.exponent ∧
      (i.holds d = true ↔
        if i.closed then i.low * down ≤ d.digits * up * i.den ∧ d.digits * up * i.den ≤ i.high * down
        else i.low * down < d.digits * up * i.den ∧ d.digits * up * i.den < i.high * down) := by
  obtain ⟨digits, exponent⟩ := d
  cases exponent with
  | ofNat e =>
      refine ⟨tenTo e, 1, Nat.one_pos, ?_, ?_⟩
      · rw [tenTo_cast, Nat.cast_one, div_one]
        rfl
      · simp only [Interval.holds]
        split <;> simp
  | negSucc e =>
      refine ⟨1, tenTo (e + 1), tenTo_pos _, ?_, ?_⟩
      · rw [tenTo_cast, Int.negSucc_eq, zpow_neg, Nat.cast_one, one_div]
        rfl
      · simp only [Interval.holds]
        split <;> simp

theorem holds_iff (some : 0 < significand) (d : Decimal) :
    (interval significand exponent).holds d = true ↔
      Around (gap significand exponent) significand (d.value / 2 ^ exponent) := by
  obtain ⟨up, down, positive, power, compared⟩ := holds_eq (interval significand exponent) d
  have unit : (0 : ℚ) < 2 ^ exponent := by positivity
  have low : ((interval significand exponent).low : ℚ) / (interval significand exponent).den = _ :=
    interval_low some
  have high := interval_high significand exponent
  have even : (interval significand exponent).closed = decide (significand % 2 = 0) := rfl
  have den := interval_den_pos significand exponent
  generalize interval significand exponent = i at *
  have within : (0 : ℚ) < down := Nat.cast_pos.mpr positive
  have shared : (0 : ℚ) < i.den := Nat.cast_pos.mpr den
  -- The decimal and the ends of the interval are compared over one denominator.
  have value : d.value = ((d.digits * up * i.den : Nat) : ℚ) / (i.den * down) := by
    rw [Decimal.value, ← power]
    push_cast
    field_simp
  have scale (a : Nat) : (a : ℚ) / i.den = ((a * down : Nat) : ℚ) / (i.den * down) := by
    push_cast
    field_simp
  rw [compared, even, Around, le_div_iff₀ unit, div_le_iff₀ unit, lt_div_iff₀ unit,
    div_lt_iff₀ unit, ← low, ← high, value, scale, scale]
  simp only [div_le_div_iff_of_pos_right (mul_pos shared within),
    div_lt_div_iff_of_pos_right (mul_pos shared within), Nat.cast_le, Nat.cast_lt,
    decide_eq_true_iff]

def Interval.nearest (i : Interval) (place : Int) : Nat :=
  if (i.below place).2 then (i.below place).1 + 1 else (i.below place).1

theorem nearest_bounds (i : Interval) (positive : 0 < i.den) (place : Int) :
    (i.nearest place : ℚ) - 1 / 2 ≤ i.mid / i.den / 10 ^ place ∧
      (i.mid : ℚ) / i.den / 10 ^ place ≤ i.nearest place + 1 / 2 := by
  -- The place goes into the denominator or into the numerator, depending on its sign.
  obtain ⟨num, den, unit, point, low⟩ : ∃ num den : Nat, 0 < den ∧
      (num : ℚ) / den = i.mid / i.den / 10 ^ place ∧ i.below place =
        (num / den, 2 * (num % den) > den || 2 * (num % den) = den && num / den % 2 = 1) := by
    cases place with
    | ofNat e =>
        refine ⟨i.mid, i.den * tenTo e, Nat.mul_pos positive (tenTo_pos e), ?_, rfl⟩
        rw [Nat.cast_mul, tenTo_cast, ← div_div]
        rfl
    | negSucc e =>
        refine ⟨i.mid * tenTo (e + 1), i.den, positive, ?_, rfl⟩
        rw [Nat.cast_mul, tenTo_cast, mul_div_right_comm, ← div_inv_eq_mul, ← zpow_neg]
        rfl
  have whole := Nat.div_add_mod num den
  have small := Nat.mod_lt num unit
  have within : (0 : ℚ) < den := Nat.cast_pos.mpr unit
  have split : (num : ℚ) = den * (num / den : Nat) + (num % den : Nat) := by exact_mod_cast whole.symm
  have less : ((num % den : Nat) : ℚ) < den := by exact_mod_cast small
  rw [← point, Interval.nearest, low, div_le_iff₀ within, le_div_iff₀ within, split]
  simp only [Bool.or_eq_true, Bool.and_eq_true, decide_eq_true_iff]
  split_ifs with upper
  · have half : (den : ℚ) ≤ 2 * (num % den : Nat) := by exact_mod_cast (by omega)
    push_cast
    constructor <;> linarith
  · have half : 2 * ((num % den : Nat) : ℚ) ≤ den := by exact_mod_cast (by omega)
    have none : (0 : ℚ) ≤ (num % den : Nat) := Nat.cast_nonneg _
    constructor <;> linarith

theorem onGrid_eq (i : Interval) (place : Int) :
    ∃ second : Decimal, i.onGrid? place =
      if i.holds ⟨i.nearest place, place⟩ && i.nearest place ≠ 0 then some ⟨i.nearest place, place⟩
      else if i.holds second && second.digits ≠ 0 then some second
      else none := ⟨_, rfl⟩

theorem onGrid_some {i : Interval} {place : Int} {d : Decimal} (found : i.onGrid? place = some d) :
    i.holds d = true ∧ d.digits ≠ 0 := by
  obtain ⟨second, same⟩ := onGrid_eq i place
  rw [same] at found
  split at found
  case isTrue here =>
      cases found
      simpa using here
  case isFalse =>
      split at found
      case isTrue here =>
          cases found
          simpa using here
      case isFalse => cases found

theorem search_holds {i : Interval} {count : Nat} {place : Int}
    (last : (i.onGrid? (place - count)).isSome = true) :
    i.holds (i.search (count + 1) place) = true ∧ (i.search (count + 1) place).digits ≠ 0 := by
  induction count generalizing place with
  | zero =>
      obtain ⟨d, found⟩ := Option.isSome_iff_exists.mp last
      rw [Nat.cast_zero, sub_zero] at found
      rw [Interval.search, found]
      exact onGrid_some found
  | succ count ih =>
      rw [Interval.search]
      cases found : i.onGrid? place with
      | some d => exact onGrid_some found
      | none =>
          refine ih ?_
          rwa [sub_sub, add_comm 1 (count : ℤ), ← Nat.cast_succ]

/-- Sixteen places behind the first one the steps of the grid are shorter than the interval. -/
theorem last_grid (some : 0 < significand) (small : significand < 2 ^ 53) {place : Int}
    (reached : (10 : ℚ) ^ (place + 16) ≤ significand * 2 ^ exponent) :
    ((interval significand exponent).onGrid? place).isSome = true := by
  have near := nearest_bounds (interval significand exponent) (interval_den_pos significand exponent)
    place
  have unit : (0 : ℚ) < 2 ^ exponent := by positivity
  have step : (0 : ℚ) < 10 ^ place := by positivity
  rw [interval_mid] at near
  rw [zpow_add₀ (by norm_num)] at reached
  obtain ⟨second, grid⟩ := onGrid_eq (interval significand exponent) place
  set first := (interval significand exponent).nearest place
  obtain ⟨low, high⟩ := near
  rw [le_div_iff₀ step] at low
  rw [div_le_iff₀ step] at high
  have filled : first ≠ 0 := by
    rintro zero
    rw [zero] at high
    norm_num at high reached
    linarith
  -- The nearest point of the grid is at most half a step away, and that is less than the gap.
  have short : (10 : ℚ) ^ place / 2 < gap significand exponent * 2 ^ exponent := by
    unfold gap
    split
    case isTrue narrow =>
        rw [narrow.1] at reached
        norm_num at reached ⊢
        linarith
    case isFalse =>
        have large : (significand : ℚ) < 2 ^ 53 := by exact_mod_cast small
        have scaled : (significand : ℚ) * 2 ^ exponent < 2 ^ 53 * 2 ^ exponent := by gcongr
        norm_num at reached scaled ⊢
        linarith
  have holds : (interval significand exponent).holds ⟨first, place⟩ = true := by
    rw [holds_iff some, Around]
    have half : gap significand exponent ≤ 1 / 2 := by
      unfold gap
      split <;> norm_num
    have wide : gap significand exponent * 2 ^ exponent ≤ 1 / 2 * 2 ^ exponent := by gcongr
    have below : (significand : ℚ) - gap significand exponent <
        Decimal.value ⟨first, place⟩ / 2 ^ exponent := by
      rw [lt_div_iff₀ unit, Decimal.value]
      linarith
    have above : Decimal.value ⟨first, place⟩ / 2 ^ exponent < (significand : ℚ) + 1 / 2 := by
      rw [div_lt_iff₀ unit, Decimal.value]
      linarith
    split
    · exact ⟨below.le, above.le⟩
    · exact ⟨below, above⟩
  rw [grid, if_pos (by simp [holds, filled])]
  rfl

theorem shortest_around (some : 0 < significand) (small : significand < 2 ^ 53) :
    Around (gap significand exponent) significand
        ((shortest significand exponent).value / 2 ^ exponent) ∧
      (shortest significand exponent).digits ≠ 0 := by
  have positive := interval_den_pos significand exponent
  have mid := interval_mid significand exponent
  have counted : 0 < (interval significand exponent).mid := by
    refine Nat.pos_of_ne_zero fun zero => ?_
    rw [zero, Nat.cast_zero, zero_div] at mid
    have : (0 : ℚ) < significand * 2 ^ exponent := by
      have : (0 : ℚ) < significand := Nat.cast_pos.mpr some
      positivity
    linarith
  have reached := powerOfTen_bounds counted positive
  set place := powerOfTen (interval significand exponent).mid (interval significand exponent).den
    with place_eq
  have last : ((interval significand exponent).onGrid? (place - (16 : Nat))).isSome = true := by
    refine last_grid some small ?_
    rw [← mid]
    push_cast
    rwa [sub_add_cancel]
  obtain ⟨holds, filled⟩ := search_holds last
  rw [shortest]
  simp only [← place_eq]
  exact ⟨by rw [Decimal.value_trimmed]; exact (holds_iff some _).mp holds,
    Decimal.digits_trimmed filled 20⟩

end

/-- Every decimal around a number is far from the exponents at which a reader stops to calculate. -/
theorem around_range {x : Binary64} {negative : Bool} {significand : Nat} {exponent : Int} {q : ℚ}
    (value : x.value = .finite negative significand exponent) (some : 0 < significand)
    (around : Around (gap significand exponent) significand (q / 2 ^ exponent)) :
    (10 : ℚ) ^ (-400 : ℤ) ≤ q ∧ q < 10 ^ (400 : ℤ) := by
  obtain ⟨binades, rfl, small, -, finite, -⟩ := value_finite value
  obtain ⟨low, high⟩ := around.bounds
  have unit : (0 : ℚ) < 2 ^ ((binades : ℤ) - 1074) := by positivity
  rw [le_div_iff₀ unit] at low
  rw [div_le_iff₀ unit] at high
  have one : (1 : ℚ) ≤ significand := Nat.one_le_cast.mpr some
  have large : (significand : ℚ) + 1 ≤ 2 ^ (53 : ℤ) := by exact_mod_cast small
  have half : gap significand ((binades : ℤ) - 1074) ≤ 1 / 2 := by
    unfold gap
    split <;> norm_num
  -- Eight lies between the powers of two, which bound the number, and ten.
  have eight (n : ℤ) : (2 : ℚ) ^ (3 * n) = 8 ^ n := by
    rw [zpow_mul]
    norm_num
  have tens : (8 : ℚ) ^ (400 : ℤ) ≤ 10 ^ (400 : ℤ) :=
    zpow_le_zpow_left₀ (by norm_num) (by norm_num) (by norm_num)
  constructor
  · calc (10 : ℚ) ^ (-400 : ℤ) ≤ 8 ^ (-400 : ℤ) := by
          rw [zpow_neg, zpow_neg]
          exact inv_anti₀ (by positivity) tens
      _ = 2 ^ (-1200 : ℤ) := (eight (-400)).symm
      _ ≤ 2 ^ (-1 + ((binades : ℤ) - 1074)) := zpow_le_zpow_right₀ one_le_two (by omega)
      _ = 1 / 2 * 2 ^ ((binades : ℤ) - 1074) := by
          rw [zpow_add₀ two_ne_zero]
          norm_num
      _ ≤ (significand - gap significand ((binades : ℤ) - 1074)) *
            2 ^ ((binades : ℤ) - 1074) := by
          gcongr
          linarith
      _ ≤ q := low
  · calc q ≤ (significand + 1 / 2) * 2 ^ ((binades : ℤ) - 1074) := high
      _ < 2 ^ (53 : ℤ) * 2 ^ ((binades : ℤ) - 1074) := by
          gcongr
          linarith
      _ = 2 ^ (53 + ((binades : ℤ) - 1074)) := (zpow_add₀ two_ne_zero _ _).symm
      _ ≤ 2 ^ (1200 : ℤ) := zpow_le_zpow_right₀ one_le_two (by omega)
      _ = 8 ^ (400 : ℤ) := eight 400
      _ ≤ 10 ^ (400 : ℤ) := tens

theorem ofDecimal_around {x : Binary64} {negative : Bool} {significand digits : Nat}
    {exponent place : Int} (value : x.value = .finite negative significand exponent)
    (some : 0 < significand)
    (around : Around (gap significand exponent) significand (digits * 10 ^ place / 2 ^ exponent)) :
    ofDecimal negative digits place = x := by
  obtain ⟨low, high⟩ := around_range value some around
  have ten : (1 : ℚ) < 10 := by norm_num
  have power : (0 : ℚ) < 10 ^ place := by positivity
  have counted : 0 < digits := by
    rcases Nat.eq_zero_or_pos digits with rfl | counted
    · rw [Nat.cast_zero, zero_mul] at low
      have : (0 : ℚ) < 10 ^ (-400 : ℤ) := by positivity
      linarith
    · exact counted
  obtain ⟨first, last⟩ := toDigits_bounds counted
  -- The reader gives up on far exponents, so both bounds are needed to open it.
  have under : place + ((Nat.toDigits 10 digits).length - 1) < 400 := by
    refine (zpow_lt_zpow_iff_right₀ ten).mp (lt_of_le_of_lt ?_ high)
    rw [zpow_add₀ (by norm_num), mul_comm]
    gcongr
  have above : -400 < place + (Nat.toDigits 10 digits).length := by
    refine (zpow_lt_zpow_iff_right₀ ten).mp (lt_of_le_of_lt low ?_)
    rw [zpow_add₀ (by norm_num), mul_comm]
    gcongr
  unfold ofDecimal
  simp only
  rw [if_neg (by omega), if_neg (by omega), if_neg (by omega)]
  cases place with
  | ofNat e =>
      refine ofRatio_around Nat.one_pos value some ?_
      rw [Nat.cast_mul, tenTo_cast, Nat.cast_one, div_one]
      exact around
  | negSucc e =>
      refine ofRatio_around (tenTo_pos _) value some ?_
      rw [tenTo_cast, div_eq_mul_inv (digits : ℚ), ← zpow_neg]
      exact around

end Binary64

end FenceCheck
