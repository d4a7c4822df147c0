/-!
# Machine words

Positions, flags and stored integers have room in a machine word of sixty-four bits, some options
in half of one. One bit is for the sign.
-/

namespace Passbook

/-- Whether an integer has room in a number of bits, one of them for the sign. -/
def fitsBits (bits : Nat) (n : Int) : Bool :=
  -(Nat.pow 2 (bits - 1) : Int) ≤ n && n < (Nat.pow 2 (bits - 1) : Int)

/-- Whether an integer has room in a machine word. -/
def fitsWord (n : Int) : Bool := fitsBits 64 n

/-- The integers that have room in a machine word. -/
theorem fitsWord_iff {n : Int} :
    fitsWord n = true ↔ -9223372036854775808 ≤ n ∧ n < 9223372036854775808 := by
  have hpower : Nat.pow 2 (64 - 1) = 9223372036854775808 := rfl
  rw [fitsWord, fitsBits, hpower, Bool.and_eq_true, decide_eq_true_eq, decide_eq_true_eq]
  exact Iff.rfl

/-- Whether an integer has room in half a machine word. -/
def fitsHalfWord (n : Int) : Bool := fitsBits 32 n

end Passbook
