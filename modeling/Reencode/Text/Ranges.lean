/-!
# Character ranges

A property of characters is kept as a list of closed ranges of code points in ascending order. The
list is data of the standard (Unicode 14); what the library asks of it is membership.
-/
namespace Reencode.Text

/-- Closed ranges of code points, in ascending order. -/
abbrev Ranges := List (Nat × Nat)

/-- Whether a code point lies in one of the ranges. -/
def Ranges.covers (r : Ranges) (code : Nat) : Bool :=
  r.any fun (low, high) => low ≤ code && code ≤ high

theorem Ranges.covers_iff {r : Ranges} {code : Nat} :
    r.covers code = true ↔ ∃ p ∈ r, p.1 ≤ code ∧ code ≤ p.2 := by
  simp [Ranges.covers]

end Reencode.Text
