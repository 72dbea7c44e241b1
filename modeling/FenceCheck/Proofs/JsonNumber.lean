import FenceCheck.Json.Reader
import FenceCheck.Json.Printer
import FenceCheck.Proofs.FloatShortest

/-!
Numbers in JSON. An integer is read back from its digits and a floating-point number from its shortest
decimal, whatever form that has, if what follows does not go on as a number.
-/

namespace FenceCheck

namespace Json

def Stops (rest : Text) : Prop :=
  ∀ c ∈ rest.head?, isDigit c = false ∧ c ≠ .char '.' ∧ c ≠ .char 'e' ∧ c ≠ .char 'E'

def Digits (digits : List Char) : Prop := ∀ c ∈ digits, c.isDigit = true

section

variable {digits more : List Char} {rest : Text}

theorem digits_toDigits (n : Nat) : Digits (Nat.toDigits 10 n) := fun _ member =>
  Nat.isDigit_of_mem_toDigits (by decide) (by decide) member

theorem digits_append (first : Digits digits) (second : Digits more) : Digits (digits ++ more) :=
  List.forall_mem_append.mpr ⟨first, second⟩

theorem digits_replicate (count : Nat) : Digits (List.replicate count '0') := by
  intro c member
  rw [List.eq_of_mem_replicate member]
  rfl

theorem takeWhile_digits (all : Digits digits) (stops : ∀ c ∈ rest.head?, isDigit c = false) :
    (Text.ofChars digits ++ rest).takeWhile isDigit = Text.ofChars digits ∧
      (Text.ofChars digits ++ rest).dropWhile isDigit = rest := by
  have pass : ∀ c ∈ Text.ofChars digits, isDigit c = true := by
    intro c member
    obtain ⟨digit, inside, rfl⟩ := List.mem_map.mp member
    exact all digit inside
  have ends : rest.takeWhile isDigit = [] ∧ rest.dropWhile isDigit = rest := by
    cases rest with
    | nil => exact ⟨rfl, rfl⟩
    | cons c rest => simp [List.takeWhile, List.dropWhile, stops c rfl]
  rw [List.takeWhile_append_of_pos pass, List.dropWhile_append_of_pos pass, ends.1, ends.2,
    List.append_nil]
  exact ⟨rfl, rfl⟩

theorem ofDigits_chars (digits : List Char) :
    Integer.ofDigits (digitValues (Text.ofChars digits)) = Nat.ofDigitChars 10 digits 0 := by
  rw [Integer.ofDigits, digitValues, Text.ofChars, List.map_map, List.foldl_map,
    Nat.ofDigitChars_eq_foldl]
  rfl

end

/-- A number as it is written, in the parts that a reader takes it apart into. -/
structure Numeral where
  negative : Bool
  whole : List Char
  fraction : List Char
  /-- Whether the exponent is negative, and its digits. -/
  power : Option (Bool × List Char)

namespace Numeral

/-- The marks of a proper number: digits where digits belong, at least one of them, and no zero in
front of other digits. -/
structure Proper (n : Numeral) : Prop where
  filled : n.whole ≠ []
  whole : Digits n.whole
  lead : n.whole = ['0'] ∨ n.whole.head? ≠ some '0'
  fraction : Digits n.fraction
  power : ∀ power ∈ n.power, power.2 ≠ [] ∧ Digits power.2

def fractionText (n : Numeral) : Text :=
  if n.fraction.isEmpty then [] else .char '.' :: Text.ofChars n.fraction

def powerText (n : Numeral) : Text :=
  match n.power with
  | none => []
  | some (negative, digits) =>
      .char 'e' :: .char (if negative then '-' else '+') :: Text.ofChars digits

def text (n : Numeral) : Text :=
  (if n.negative then [.char '-'] else []) ++
    (Text.ofChars n.whole ++ (n.fractionText ++ n.powerText))

def exponent (n : Numeral) : Option Int :=
  n.power.map fun power =>
    if power.1 then -(Nat.ofDigitChars 10 power.2 0 : Int) else Nat.ofDigitChars 10 power.2 0

def parts (n : Numeral) : NumberText :=
  { negative := n.negative, whole := Text.ofChars n.whole, fraction := Text.ofChars n.fraction
    exponent := n.exponent, isFloat := !n.fraction.isEmpty || n.power.isSome }

end Numeral

def signOf (t : Text) : Bool × Text :=
  match t with
  | .char '-' :: more => (true, more)
  | _ => (false, t)

/-- The digits in front of a point; a zero stands alone. -/
def wholeOf (body : Text) : Text :=
  match body with
  | .char '0' :: _ => [.char '0']
  | _ => body.takeWhile isDigit

/-- The number that follows a sign. -/
def readUnsigned (negative : Bool) (body : Text) : Option (NumberText × Text) :=
  let whole := wholeOf body
  if whole.isEmpty then none
  else
    let afterWhole := body.drop whole.length
    let (fraction, afterFraction) := (readFraction afterWhole).getD ([], afterWhole)
    let power := readExponent afterFraction
    let (exponent, rest) : Option Int × Text := match power with
      | some (n, rest) => (some n, rest)
      | none => (none, afterFraction)
    some ({ negative, whole, fraction, exponent
            isFloat := !fraction.isEmpty || power.isSome }, rest)

theorem readNumber_signed (t : Text) :
    readNumber t = readUnsigned (signOf t).1 (signOf t).2 := rfl

theorem signOf_unsigned {t : Text} (unsigned : t.head? ≠ some (.char '-')) :
    signOf t = (false, t) := by
  unfold signOf
  split
  case h_1 => exact absurd rfl unsigned
  case h_2 => rfl

theorem wholeOf_digits {t : Text} (lead : t.head? ≠ some (.char '0')) :
    wholeOf t = t.takeWhile isDigit := by
  unfold wholeOf
  split
  case h_1 => exact absurd rfl lead
  case h_2 => rfl

theorem readFraction_none {t : Text} (whole : t.head? ≠ some (.char '.')) :
    readFraction t = none := by
  unfold readFraction
  split
  case h_1 => exact absurd rfl whole
  case h_2 => rfl

section

variable {n : Numeral} {rest : Text}

theorem stops_fraction (stops : Stops rest) :
    ∀ c ∈ (n.powerText ++ rest).head?, isDigit c = false ∧ c ≠ .char '.' := by
  unfold Numeral.powerText
  split
  case h_1 => exact fun c here => ⟨(stops c here).1, (stops c here).2.1⟩
  case h_2 =>
      intro c here
      cases here
      exact ⟨rfl, by decide⟩

theorem stops_whole (stops : Stops rest) :
    ∀ c ∈ (n.fractionText ++ (n.powerText ++ rest)).head?, isDigit c = false := by
  unfold Numeral.fractionText
  split
  case isTrue => exact fun c here => (stops_fraction stops c here).1
  case isFalse =>
      intro c here
      cases here
      rfl

theorem readFraction_text (proper : n.Proper) (stops : Stops rest) :
    (readFraction (n.fractionText ++ (n.powerText ++ rest))).getD
        ([], n.fractionText ++ (n.powerText ++ rest)) =
      (Text.ofChars n.fraction, n.powerText ++ rest) := by
  obtain ⟨taken, left⟩ := takeWhile_digits proper.fraction fun c here => (stops_fraction stops c here).1
  unfold Numeral.fractionText
  split
  case isTrue none =>
      rw [List.isEmpty_iff.mp none, List.nil_append, readFraction_none]
      · rfl
      · exact fun point => (stops_fraction stops _ point).2 rfl
  case isFalse some =>
      have filled : (Text.ofChars n.fraction).isEmpty = false := by
        simpa [Text.ofChars] using some
      rw [List.cons_append, readFraction, taken, left, filled]
      rfl

theorem readExponent_text (proper : n.Proper) (stops : Stops rest) :
    readExponent (n.powerText ++ rest) = n.exponent.map (·, rest) := by
  unfold Numeral.powerText Numeral.exponent
  cases known : n.power with
  | none =>
      cases rest with
      | nil => rfl
      | cons c rest =>
          obtain ⟨-, -, small, large⟩ := stops c rfl
          cases c with
          | surrogate => rfl
          | char c =>
              have other : ¬ (c = 'e' ∨ c = 'E') := by
                rintro (rfl | rfl)
                · exact small rfl
                · exact large rfl
              simp [readExponent, other]
  | some power =>
      obtain ⟨negative, digits⟩ := power
      obtain ⟨some, all⟩ := proper.power _ known
      obtain ⟨taken, left⟩ := takeWhile_digits all fun c here => (stops c here).1
      have filled : (Text.ofChars digits).isEmpty = false := by simpa [Text.ofChars] using some
      cases negative <;>
        simp [readExponent, taken, left, filled, ofDigits_chars]

theorem readUnsigned_text (proper : n.Proper) (stops : Stops rest) (negative : Bool) :
    readUnsigned negative
        (Text.ofChars n.whole ++ (n.fractionText ++ (n.powerText ++ rest))) =
      some ({ n.parts with negative }, rest) := by
  obtain ⟨taken, left⟩ := takeWhile_digits proper.whole (stops_whole (n := n) stops)
  have whole : wholeOf (Text.ofChars n.whole ++ (n.fractionText ++ (n.powerText ++ rest))) =
      Text.ofChars n.whole := by
    rcases proper.lead with zero | lead
    · rw [zero]
      rfl
    · rw [wholeOf_digits, taken]
      cases chars : n.whole with
      | nil => exact absurd chars proper.filled
      | cons c others =>
          rw [chars] at lead
          exact fun same => lead (by cases same; rfl)
  have filled : (Text.ofChars n.whole).isEmpty = false := by
    simpa [Text.ofChars] using proper.filled
  unfold readUnsigned
  simp only [whole, filled, List.drop_left, readFraction_text proper stops,
    readExponent_text proper stops]
  cases known : n.exponent with
  | none =>
      have none : n.power = none := by simpa [Numeral.exponent] using known
      simp [Numeral.parts, Numeral.powerText, known, none, Text.ofChars]
  | some power =>
      have some : n.power.isSome = true := by
        unfold Numeral.exponent at known
        rw [← Option.isSome_map, known]
        rfl
      simp [Numeral.parts, known, some, Text.ofChars]

theorem readNumber_text (proper : n.Proper) (stops : Stops rest) :
    readNumber (n.text ++ rest) = some (n.parts, rest) := by
  have unsigned : (Text.ofChars n.whole ++ (n.fractionText ++ (n.powerText ++ rest))).head? ≠
      some (.char '-') := by
    cases chars : n.whole with
    | nil => exact absurd chars proper.filled
    | cons c others =>
        intro same
        cases same
        cases proper.whole '-' (chars ▸ List.mem_cons_self)
  have joined : n.text ++ rest = (if n.negative then [.char '-'] else []) ++
      (Text.ofChars n.whole ++ (n.fractionText ++ (n.powerText ++ rest))) := by
    simp only [Numeral.text, List.append_assoc]
  have signed : signOf (n.text ++ rest) =
      (n.negative, Text.ofChars n.whole ++ (n.fractionText ++ (n.powerText ++ rest))) := by
    rw [joined]
    cases n.negative with
    | true => rfl
    | false => exact signOf_unsigned unsigned
  rw [readNumber_signed, signed, readUnsigned_text proper stops]
  rfl

end

/-! Texts of numbers as numerals. -/

theorem toDigits_lead {n : Nat} (positive : 0 < n) : (Nat.toDigits 10 n).head? ≠ some '0' := by
  induction n using Nat.strongRecOn with
  | ind n ih =>
      rcases Nat.lt_or_ge n 10 with one | more
      · have digit : ∀ d < 10, 0 < d → Nat.digitChar d ≠ '0' := by decide
        rw [Nat.toDigits_of_lt_base one]
        exact fun same => digit n one positive (Option.some.inj same)
      · rw [Nat.toDigits_of_base_le (by decide) more]
        cases front : Nat.toDigits 10 (n / 10) with
        | nil => exact absurd front Nat.toDigits_ne_nil
        | cons c rest =>
            have less := ih (n / 10) (by omega) (by omega)
            rw [front] at less
            exact less

theorem toDigits_short {n count : Nat} (positive : 0 < count) :
    (Nat.toDigits 10 n).length ≤ count ↔ n < tenTo count :=
  Nat.length_toDigits_le_iff (by decide) positive

def wholeNumeral (n : Int) : Numeral := ⟨decide (n < 0), Nat.toDigits 10 n.natAbs, [], none⟩

theorem wholeNumeral_text (n : Int) : (wholeNumeral n).text = Text.ofInt n := by
  cases n with
  | ofNat n => simp [wholeNumeral, Numeral.text, Numeral.fractionText, Numeral.powerText, Text.ofInt,
      Text.ofNat]
  | negSucc n => simp [wholeNumeral, Numeral.text, Numeral.fractionText, Numeral.powerText, Text.ofInt,
      Text.ofNat, Int.negSucc_lt_zero]

theorem wholeNumeral_proper (n : Int) : (wholeNumeral n).Proper where
  filled := Nat.toDigits_ne_nil
  whole := digits_toDigits _
  lead := by
    rcases Nat.eq_zero_or_pos n.natAbs with zero | some
    · left
      rw [wholeNumeral, zero]
      rfl
    · exact Or.inr (toDigits_lead some)
  fraction := List.forall_mem_nil _
  power := fun _ none => by cases none

theorem wholeNumeral_toJson {n : Int} (short : n.natAbs < tenTo Integer.digitLimit) :
    (wholeNumeral n).parts.toJson = .ok (.int n) := by
  have places := (toDigits_short (by decide)).mpr short
  have within : ¬ (Text.ofChars (Nat.toDigits 10 n.natAbs)).length > Integer.digitLimit := by
    rw [Text.ofChars, List.length_map]
    exact Nat.not_lt.mpr places
  simp only [NumberText.toJson, Numeral.parts, wholeNumeral, List.isEmpty_nil, Bool.not_true,
    Option.isSome_none, Bool.or_self, Bool.false_eq_true, if_false, within, ofDigits_chars,
    Nat.ofDigitChars_ten_toDigits, decide_eq_true_iff]
  clear short places within
  congr 2
  split <;> omega

def Numeral.value (n : Numeral) : ℚ :=
  (Nat.ofDigitChars 10 (n.whole ++ n.fraction) 0 : ℚ) *
    10 ^ (n.exponent.getD 0 - n.fraction.length)

theorem Numeral.toJson_around {n : Numeral} {x : Binary64} {significand : Nat} {exponent : Int}
    (value : x.value = .finite n.negative significand exponent) (positive : 0 < significand)
    (around : Binary64.Around (Binary64.gap significand exponent) significand
      (n.value / 2 ^ exponent))
    (float : n.fraction ≠ [] ∨ n.power.isSome = true) : n.parts.toJson = .ok (.float x) := by
  have real : n.parts.isFloat = true := by
    rcases float with some | some
    · simp [Numeral.parts, some]
    · simp [Numeral.parts, some]
  have digits : Integer.ofDigits (digitValues (n.parts.whole ++ n.parts.fraction)) =
      Nat.ofDigitChars 10 (n.whole ++ n.fraction) 0 := by
    rw [← ofDigits_chars, Text.ofChars, List.map_append]
    rfl
  have places : (n.parts.fraction.length : Int) = n.fraction.length :=
    congrArg Nat.cast (List.length_map CodePoint.char)
  rw [NumberText.toJson, if_pos real]
  simp only [digits, places]
  rw [show n.parts.negative = n.negative from rfl, show n.parts.exponent = n.exponent from rfl,
    Binary64.ofDecimal_around value positive around]

section

variable {d : Binary64.Decimal} {digits : List Char}

structure Shows (digits : List Char) (d : Binary64.Decimal) : Prop where
  all : Digits digits
  filled : digits ≠ []
  lead : digits.head? ≠ some '0'
  value : Nat.ofDigitChars 10 digits 0 = d.digits

theorem shows_toDigits (some : d.digits ≠ 0) : Shows (Nat.toDigits 10 d.digits) d :=
  ⟨digits_toDigits _, Nat.toDigits_ne_nil, toDigits_lead (Nat.pos_of_ne_zero some),
    Nat.ofDigitChars_ten_toDigits⟩

theorem ofDigitChars_zeros (count : Nat) (digits : List Char) :
    Nat.ofDigitChars 10 (List.replicate count '0' ++ digits) 0 = Nat.ofDigitChars 10 digits 0 := by
  rw [Nat.ofDigitChars_append, Nat.ofDigitChars_replicate_zero, Nat.mul_zero]

def positionalNumeral (negative : Bool) (digits : List Char) (point : Int) : Numeral :=
  match point with
  | .ofNat p =>
      if digits.length ≤ p then
        ⟨negative, digits ++ List.replicate (p - digits.length) '0', ['0'], none⟩
      else ⟨negative, if p = 0 then ['0'] else digits.take p, digits.drop p, none⟩
  | .negSucc p => ⟨negative, ['0'], List.replicate (p + 1) '0' ++ digits, none⟩

/-- A numeral is the text of a floating-point number with a sign. -/
structure Writes (n : Numeral) (negative : Bool) (chars : List Char) (q : ℚ) : Prop where
  proper : n.Proper
  sign : n.negative = negative
  float : n.fraction ≠ [] ∨ n.power.isSome = true
  value : n.value = q
  text : n.text = Text.ofChars (if negative then '-' :: chars else chars)

theorem text_positional (n : Numeral) (whole : n.power = none) (some : n.fraction ≠ []) :
    n.text = Text.ofChars (if n.negative then '-' :: (n.whole ++ '.' :: n.fraction)
      else n.whole ++ '.' :: n.fraction) := by
  have filled : n.fraction.isEmpty = false := by simpa using some
  cases sign : n.negative <;>
    simp [Numeral.text, Numeral.fractionText, Numeral.powerText, whole, filled, sign, Text.ofChars]

theorem positional_writes (negative : Bool) (shows : Shows digits d) {point : Int}
    (stands : point = digits.length + d.exponent) :
    Writes (positionalNumeral negative digits point) negative (Binary64.positional digits point)
      d.value := by
  have digit : Digits ['0'] := List.forall_mem_singleton.mpr rfl
  cases point with
  | ofNat p =>
      unfold positionalNumeral Binary64.positional
      by_cases whole : digits.length ≤ p
      · simp only [if_pos whole]
        refine ⟨⟨?_, digits_append shows.all (digits_replicate _), Or.inr ?_, digit,
          fun _ none => by cases none⟩, rfl, Or.inl (List.cons_ne_nil _ _), ?_, ?_⟩
        · exact List.append_ne_nil_of_left_ne_nil shows.filled _
        · rw [List.head?_append_of_ne_nil _ shows.filled]
          exact shows.lead
        · have zeros : digits ++ List.replicate (p - digits.length) '0' ++ ['0'] =
              digits ++ List.replicate (p - digits.length + 1) '0' := by
            rw [List.append_assoc, ← List.replicate_succ']
          have exponent : d.exponent = ((p - digits.length : Nat) : Int) := by
            simp only [Int.ofNat_eq_natCast] at stands
            omega
          rw [Numeral.value, zeros, Nat.ofDigitChars_append, shows.value,
            Nat.ofDigitChars_replicate_zero, Binary64.Decimal.value, exponent, zpow_natCast]
          simp only [Numeral.exponent, Option.map_none, Option.getD_none, List.length_singleton]
          push_cast
          rw [pow_succ, zpow_neg_one]
          ring
        · rw [text_positional _ rfl (List.cons_ne_nil _ _)]
      · have less : p < digits.length := Nat.lt_of_not_le whole
        have exponent : d.exponent = 0 - ((digits.drop p).length : Int) := by
          simp only [Int.ofNat_eq_natCast] at stands
          rw [List.length_drop]
          omega
        have behind : digits.drop p ≠ [] := by simpa using less
        simp only [if_neg whole]
        refine ⟨⟨?_, ?_, ?_, fun c member => shows.all c (List.mem_of_mem_drop member),
          fun _ none => by cases none⟩, rfl, Or.inl behind, ?_, ?_⟩
        · split
          · exact List.cons_ne_nil _ _
          · simpa [shows.filled] using ‹¬ p = 0›
        · split
          · exact digit
          · exact fun c member => shows.all c (List.mem_of_mem_take member)
        · split
          · exact Or.inl rfl
          · rw [List.head?_take, if_neg ‹_›]
            exact Or.inr shows.lead
        · have front : Nat.ofDigitChars 10 ((if p = 0 then ['0'] else digits.take p) ++
              digits.drop p) 0 = d.digits := by
            split
            case isTrue none =>
                rw [none, List.drop_zero, ← shows.value]
                exact ofDigitChars_zeros 1 digits
            case isFalse => rw [List.take_append_drop, shows.value]
          rw [Numeral.value, front, Binary64.Decimal.value, exponent]
          rfl
        · rw [text_positional _ rfl behind]
  | negSucc p =>
      have exponent : d.exponent = 0 - ((List.replicate (p + 1) '0' ++ digits).length : Int) := by
        rw [List.length_append, List.length_replicate]
        push_cast
        omega
      have some : List.replicate (p + 1) '0' ++ digits ≠ [] :=
        List.append_ne_nil_of_right_ne_nil _ shows.filled
      unfold positionalNumeral Binary64.positional
      refine ⟨⟨List.cons_ne_nil _ _, digit, Or.inl rfl, digits_append (digits_replicate _) shows.all,
        fun _ none => by cases none⟩, rfl, Or.inl some, ?_, ?_⟩
      · have zeros : Nat.ofDigitChars 10 (['0'] ++ (List.replicate (p + 1) '0' ++ digits)) 0 =
            d.digits := by
          rw [← shows.value, ← ofDigitChars_zeros (p + 2) digits]
          rfl
        rw [Numeral.value, zeros, Binary64.Decimal.value, exponent]
        rfl
      · rw [text_positional _ rfl some]
        rfl

def scientificNumeral (negative : Bool) (digits : List Char) (exponent : Int) : Numeral :=
  let power := Nat.toDigits 10 exponent.natAbs
  ⟨negative, digits.take 1, digits.drop 1,
    some (decide (exponent < 0), if power.length < 2 then '0' :: power else power)⟩

theorem scientific_writes (negative : Bool) (shows : Shows digits d) {exponent : Int}
    (stands : exponent = digits.length + d.exponent - 1) :
    Writes (scientificNumeral negative digits exponent) negative
      (Binary64.scientific digits exponent) d.value := by
  obtain ⟨first, rest, rfl⟩ := List.exists_cons_of_ne_nil shows.filled
  -- A power of one digit has a zero written in front of it.
  have padded : ∀ power : List Char,
      Nat.ofDigitChars 10 (if power.length < 2 then '0' :: power else power) 0 =
        Nat.ofDigitChars 10 power 0 := by
    intro power
    split
    · exact ofDigitChars_zeros 1 power
    · rfl
  obtain ⟨digit, later⟩ := List.forall_mem_cons.mp shows.all
  refine ⟨⟨List.cons_ne_nil _ _, List.forall_mem_singleton.mpr digit, Or.inr shows.lead, later, ?_⟩,
    rfl, Or.inr rfl, ?_, ?_⟩
  · intro power known
    cases known
    simp only
    split
    · exact ⟨List.cons_ne_nil _ _, digits_append (digits_replicate 1) (digits_toDigits _)⟩
    · exact ⟨Nat.toDigits_ne_nil, digits_toDigits _⟩
  · have power : (scientificNumeral negative (first :: rest) exponent).exponent.getD 0 = exponent := by
      simp only [scientificNumeral, Numeral.exponent, Option.map_some, Option.getD_some, padded,
        Nat.ofDigitChars_ten_toDigits, decide_eq_true_iff]
      split
      case isTrue below => rw [Int.ofNat_natAbs_of_nonpos (Int.le_of_lt below), Int.neg_neg]
      case isFalse above => exact Int.natAbs_of_nonneg (Int.not_lt.mp above)
    have digits : Nat.ofDigitChars 10 ((scientificNumeral negative (first :: rest) exponent).whole ++
        (scientificNumeral negative (first :: rest) exponent).fraction) 0 = d.digits := shows.value
    rw [Numeral.value, power, digits, Binary64.Decimal.value]
    congr 2
    rw [List.length_cons] at stands
    push_cast at stands
    change exponent - (rest.length : Int) = d.exponent
    omega
  · cases negative <;> cases rest <;> by_cases below : exponent < 0 <;>
      simp [scientificNumeral, Numeral.text, Numeral.fractionText, Numeral.powerText,
        Binary64.scientific, Text.ofChars, below]

theorem decimal_writes (negative : Bool) (some : d.digits ≠ 0) :
    let digits := Nat.toDigits 10 d.digits
    let point := digits.length + d.exponent
    ∃ n, Writes n negative
      (if -4 < point ∧ point ≤ 16 then Binary64.positional digits point
        else Binary64.scientific digits (point - 1)) d.value := by
  have shows := shows_toDigits some
  intro digits point
  split
  · exact ⟨_, positional_writes negative shows rfl⟩
  · exact ⟨_, scientific_writes negative shows rfl⟩

end

variable {x : Binary64} {rest : Text}

theorem toText_numeral {negative : Bool} {significand : Nat} {exponent : Int}
    (value : x.value = .finite negative significand exponent) :
    ∃ n : Numeral, n.Proper ∧ n.text = x.toText ∧ n.parts.toJson = .ok (.float x) := by
  obtain ⟨binades, rfl, small, normal, -, same⟩ := Binary64.value_finite value
  rw [Binary64.toText, value]
  simp only
  rcases Nat.eq_zero_or_pos significand with zero | positive
  · refine ⟨⟨negative, ['0'], ['0'], none⟩, ⟨List.cons_ne_nil _ _, List.forall_mem_singleton.mpr rfl,
      Or.inl rfl, List.forall_mem_singleton.mpr rfl, fun _ none => by cases none⟩, ?_, ?_⟩
    · rw [if_pos zero, text_positional _ rfl (List.cons_ne_nil _ _)]
      rfl
    · have least : binades = 0 := by omega
      rw [same, zero, least]
      cases negative <;> rfl
  · obtain ⟨around, some⟩ :=
      @Binary64.shortest_around significand (binades - 1074) positive small
    obtain ⟨n, writes⟩ := decimal_writes negative some
    rw [if_neg (Nat.ne_of_gt positive)]
    exact ⟨n, writes.proper, writes.text,
      Numeral.toJson_around (by rw [value, writes.sign]) positive (by rwa [writes.value]) writes.float⟩

/-! Atoms that follow one another: a number has to end before what follows it. -/

theorem constants_digit {c : Char} (digit : c.isDigit = true) (t : Text) :
    (constants.findSome? fun entry => (Text.dropStart? (.char c :: t) entry.1).map (entry.2, ·)) =
        none ∧
      (constants.findSome? fun entry =>
        (Text.dropStart? (.char '-' :: .char c :: t) entry.1).map (entry.2, ·)) = none := by
  have apart (letter : Char) (other : letter.isDigit = false) : ¬ c = letter := by
    rintro rfl
    rw [digit] at other
    cases other
  simp [constants, Text.ofString, Text.ofChars, Text.dropStart?, apart 'n' rfl, apart 't' rfl,
    apart 'f' rfl, apart 'N' rfl, apart 'I' rfl, apart '-' rfl]

theorem text_digit {n : Numeral} (proper : n.Proper) (rest : Text) :
    ∃ c t, c.isDigit = true ∧
      (n.text ++ rest = .char c :: t ∨ n.text ++ rest = .char '-' :: .char c :: t) := by
  cases chars : n.whole with
  | nil => exact absurd chars proper.filled
  | cons c others =>
      refine ⟨c, Text.ofChars others ++ (n.fractionText ++ (n.powerText ++ rest)),
        proper.whole c (chars ▸ List.mem_cons_self), ?_⟩
      unfold Numeral.text
      rw [chars]
      cases n.negative with
      | true => exact Or.inr (by simp [Text.ofChars])
      | false => exact Or.inl (by simp [Text.ofChars])

theorem readAtom_numeral {n : Numeral} {value : Json} (proper : n.Proper) (stops : Stops rest)
    (made : n.parts.toJson = .ok value) : readAtom (n.text ++ rest) = .ok (value, rest) := by
  have unnamed : (constants.findSome? fun entry =>
      (Text.dropStart? (n.text ++ rest) entry.1).map (entry.2, ·)) = none := by
    obtain ⟨c, t, digit, here | behind⟩ := text_digit proper rest
    · rw [here]
      exact (constants_digit digit t).1
    · rw [behind]
      exact (constants_digit digit t).2
  rw [readAtom, unnamed, readNumber_text proper stops]
  simp only [made]

theorem readAtom_int {n : Int} (short : n.natAbs < tenTo Integer.digitLimit) (stops : Stops rest) :
    readAtom (Text.ofInt n ++ rest) = .ok (.int n, rest) := by
  rw [← wholeNumeral_text]
  exact readAtom_numeral (wholeNumeral_proper n) stops (wholeNumeral_toJson short)

/-- Every floating-point number is read back, but of those that are no number only one. -/
theorem readAtom_float (known : x.value = .notANumber → x = .notANumber) (stops : Stops rest) :
    readAtom (floatText x ++ rest) = .ok (.float x, rest) := by
  unfold floatText
  cases value : x.value with
  | notANumber =>
      rw [known value]
      simp [readAtom, constants, Text.ofString, Text.ofChars, Text.dropStart?]
  | infinite negative =>
      rw [Binary64.value_infinite value]
      cases negative <;>
        simp [readAtom, constants, Text.ofString, Text.ofChars, Text.dropStart?]
  | finite negative significand exponent =>
      obtain ⟨n, proper, text, made⟩ := toText_numeral value
      rw [← text]
      exact readAtom_numeral proper stops made

end Json

end FenceCheck
