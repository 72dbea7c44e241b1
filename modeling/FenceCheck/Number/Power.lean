/-!
The two powers that number formats are built on.
-/

namespace FenceCheck

/-- The weight of binary place `n`. -/
def twoTo (n : Nat) : Nat := Nat.pow 2 n

/-- The weight of decimal place `n`. -/
def tenTo (n : Nat) : Nat := Nat.pow 10 n

end FenceCheck
