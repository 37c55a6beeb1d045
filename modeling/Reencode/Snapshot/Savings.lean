import Reencode.Failure

/-!
# Savings

How much smaller an output is than its source, in percent; negative when it grew. An empty source
saves nothing. The quotient of the sizes is rounded once, however large they are.
-/
namespace Reencode

/-- The savings for a source and an output size; a quotient no double reaches has none. -/
def savingsOf (source output : Int) : Except Failure Binary64 :=
  if source ≤ 0 then .ok Binary64.zero
  else
    let quotient := Binary64.quotient output source.toNat
    if quotient.isFinite then .ok (Binary64.hundred.mul (Binary64.one.sub quotient))
    else .error (.outside .overflow "integer division result too large for a float")

/-- The savings of sizes that are counted, for which the quotient is never too large. -/
def savings (source output : Nat) : Binary64 :=
  if source = 0 then Binary64.zero
  else Binary64.hundred.mul (Binary64.one.sub (Binary64.quotient output source))

end Reencode
