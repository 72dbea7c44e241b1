import FenceCheck.Session.Log

/-!
What can be written of a value. A whole number can if it has few enough digits, and a value if all of its
numbers can. The numbers that the program counts or measures itself are machine words, and these can.
-/

namespace FenceCheck

theorem tenTo_le {m n : Nat} (le : m ≤ n) : tenTo m ≤ tenTo n := Nat.pow_le_pow_right (by decide) le

theorem Integer.isShort_of_lt {n : Int} {digits : Nat} (small : n.natAbs < tenTo digits)
    (few : digits ≤ digitLimit) : isShort n = true :=
  isShort_iff.mpr (Nat.lt_of_lt_of_le small (tenTo_le few))

theorem Integer.isShort_of_le {m n : Int} (le : m.natAbs ≤ n.natAbs) (short : isShort n = true) :
    isShort m = true :=
  isShort_iff.mpr (Nat.lt_of_le_of_lt le (isShort_iff.mp short))

theorem Integer.isShort_zero : isShort 0 = true :=
  isShort_of_lt (show (0 : Int).natAbs < tenTo 0 by decide) (Nat.zero_le _)

namespace Datum

theorem areShowable_map (items : List Json) :
    areShowable (ofJsonItems items) = items.all Json.isShowable := by
  induction items with
  | nil => rfl
  | cons item rest ih =>
      rw [ofJsonItems, areShowable, ih, List.all_cons]
      rfl

theorem hasShowable_map (fields : Json.Fields) :
    hasShowable (ofJsonFields fields) = fields.all (·.2.isShowable) := by
  induction fields with
  | nil => rfl
  | cons field rest ih =>
      rw [ofJsonFields, hasShowable, ih, List.all_cons]
      rfl

end Datum

namespace Json

@[simp] theorem isShowable_str (t : Text) : (str t).isShowable = true := rfl

@[simp] theorem isShowable_bool (b : Bool) : (bool b).isShowable = true := rfl

theorem isShowable_int {n : Int} : (int n).isShowable = Integer.isShort n := rfl

theorem isShowable_list (items : List Json) : (list items).isShowable = items.all isShowable :=
  Datum.areShowable_map items

theorem isShowable_object (fields : Fields) :
    (object fields).isShowable = fields.all (·.2.isShowable) :=
  Datum.hasShowable_map fields

end Json

@[simp] theorem Log.isShowable_word (n : Int) : (word n).isShowable = true := by
  have low := (Int64.ofInt n).le_toInt
  have high := (Int64.ofInt n).toInt_lt
  have small : (Int64.ofInt n).toInt.natAbs < tenTo 19 := by
    have bound : (2 : Int) ^ 63 < (tenTo 19 : Nat) := by decide
    omega
  exact Integer.isShort_of_lt small (by decide)

end FenceCheck
