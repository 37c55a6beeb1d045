import Reencode.Number.Decimal

/-!
# Entry ids

Every imported image gets an id of its own: the letter `e` and a running number of at least eleven
digits. An id also names the entry a caller asks for, and may then be any text.
-/
namespace Reencode

/-- The name of an entry. -/
structure EntryId where
  text : String
deriving DecidableEq, Inhabited

/-- The id given out as the `n`-th one. -/
def EntryId.nth (n : Nat) : EntryId := ⟨"e" ++ paddedDigits 11 n⟩

theorem EntryId.nth_inj {m n : Nat} (h : EntryId.nth m = EntryId.nth n) : m = n := by
  simp only [EntryId.nth, EntryId.mk.injEq, String.append_right_inj] at h
  exact paddedDigits_inj h

end Reencode
