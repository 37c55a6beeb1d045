import Reencode.Number.Decimal

/-!
# Locators

A locator is a text under which a display layer can ask for bytes, as long as it is live. Every one
given out carries a running number of at least thirty-two digits.
-/
namespace Reencode

/-- A name for bytes. -/
structure Locator where
  text : String
deriving DecidableEq, Inhabited

/-- The locator given out as the `n`-th one. -/
def Locator.nth (n : Nat) : Locator := ⟨"blob:recompress/" ++ paddedDigits 32 n⟩

theorem Locator.nth_inj {m n : Nat} (h : Locator.nth m = Locator.nth n) : m = n := by
  have texts : "blob:recompress/" ++ paddedDigits 32 m = "blob:recompress/" ++ paddedDigits 32 n :=
    congrArg Locator.text h
  exact paddedDigits_inj ((String.append_right_inj _).mp texts)

end Reencode
