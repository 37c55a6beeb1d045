/-!
# Powers of two and of ten

Machine numbers are cut into fields and rounded in units that are powers of two, their texts in
units that are powers of ten.
-/
namespace Reencode

/-- Two to the power of a number. -/
@[inline] def twoTo (n : Nat) : Nat := 1 <<< n

/-- Ten to the power of a number. -/
def tenTo (n : Nat) : Nat := Nat.pow 10 n

theorem twoTo_succ (n : Nat) : twoTo (n + 1) = 2 * twoTo n := Nat.shiftLeft_succ 1 n

theorem twoTo_pos (n : Nat) : 0 < twoTo n := by
  induction n with
  | zero => exact Nat.one_pos
  | succ n ih => rw [twoTo_succ]; omega

end Reencode
