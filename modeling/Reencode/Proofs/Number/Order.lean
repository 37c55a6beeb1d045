import Mathlib
import Reencode.Number.Basic

/-!
# The order of numbers

Integers and doubles are compared without converting one into the other, and a NaN compares with
nothing.  So it is not plain that numbers of both kinds stand in one order.  They do, because each
has a place on one line (`Number.place`): an integer and a finite double where their values are, in
units of `2 ^ -1074`, and the infinities at the ends.  Comparing two numbers is comparing their
places (`Number.compare?_eq`), and what is known of the line carries over.
-/

namespace Reencode

lemma twoTo_mono {m n : Nat} (le : m ≤ n) : twoTo m ≤ twoTo n := by
  induction le with
  | refl => exact Nat.le_refl _
  | step _ ih => rw [twoTo_succ]; omega

namespace Binary64

variable {x y : Binary64}

/-- The magnitude of the infinities. -/
def limit : Nat := twoTo 52 * twoTo 2046

lemma magnitude_of_isInfinite (h : x.isInfinite = true) : x.magnitude = limit := by
  obtain ⟨e, f⟩ : x.exponentField = 2047 ∧ x.fraction = 0 := by simpa [isInfinite] using h
  simp only [magnitude, significand, unitExponent, e, f, limit]
  rfl

/-- The infinities lie above every finite double. -/
lemma magnitude_lt (finite : x.exponentField ≠ 2047) : x.magnitude < limit := by
  have field : x.exponentField < 2048 := Nat.mod_lt _ (by decide)
  have part : x.fraction < twoTo 52 := Nat.mod_lt _ (twoTo_pos 52)
  have below : x.significand < 2 * twoTo 52 := by
    unfold significand
    split <;> omega
  have unit : twoTo x.unitExponent ≤ twoTo 2045 := twoTo_mono (by unfold unitExponent; omega)
  calc x.magnitude ≤ x.significand * twoTo 2045 := Nat.mul_le_mul_left _ unit
    _ < 2 * twoTo 52 * twoTo 2045 := Nat.mul_lt_mul_of_pos_right below (twoTo_pos _)
    _ = limit := by rw [limit, twoTo_succ 2045, Nat.mul_comm 2, Nat.mul_assoc]

lemma scaled_of_isInfinite (h : x.isInfinite = true) :
    x.scaled = if x.negative then -(limit : Int) else limit := by
  rw [scaled, magnitude_of_isInfinite h]

lemma scaled_lt (number : x.isNaN = false) (finite : x.isInfinite = false) :
    -(limit : Int) < x.scaled ∧ x.scaled < limit := by
  have field : x.exponentField ≠ 2047 := by
    intro e
    simp_all [isNaN, isInfinite]
  have below := magnitude_lt field
  unfold scaled
  split <;> omega

/-- Where a double lies on the line, in units of `2 ^ -1074`.  The infinities lie at its ends. -/
def place (x : Binary64) : WithBot (WithTop Int) :=
  if x.isInfinite then if x.negative then ⊥ else ⊤ else ((x.scaled : Int) : WithTop Int)

lemma place_of_finite (finite : x.isInfinite = false) : x.place = (x.scaled : WithTop Int) := by
  rw [place, finite]
  rfl

lemma place_of_infinite (h : x.isInfinite = true) : x.place = if x.negative then ⊥ else ⊤ := by
  rw [place, h]
  rfl

/-- The scaled values of doubles are in the order of their places. -/
lemma scaled_lt_iff (hx : x.isNaN = false) (hy : y.isNaN = false) :
    x.scaled < y.scaled ↔ x.place < y.place := by
  have positive : (0 : Int) < limit := by
    exact_mod_cast Nat.mul_pos (twoTo_pos 52) (twoTo_pos 2046)
  have apart : -(limit : Int) < limit := by omega
  -- Finite doubles are placed by their exact value; the scaled values of infinities are beyond all
  -- others.
  cases infinite : x.isInfinite <;> cases infinite' : y.isInfinite
  · rw [place_of_finite infinite, place_of_finite infinite', WithBot.coe_lt_coe, WithTop.coe_lt_coe]
  · have bounds := scaled_lt hx infinite
    rw [place_of_finite infinite, place_of_infinite infinite', scaled_of_isInfinite infinite']
    cases y.negative with
    | true => simpa using bounds.1.le
    | false => exact iff_of_true bounds.2 (WithBot.coe_lt_coe.mpr (WithTop.coe_lt_top _))
  · have bounds := scaled_lt hy infinite'
    rw [place_of_infinite infinite, place_of_finite infinite', scaled_of_isInfinite infinite]
    cases x.negative with
    | true => simpa using bounds.1
    | false => simpa using bounds.2.le
  · rw [place_of_infinite infinite, place_of_infinite infinite', scaled_of_isInfinite infinite,
      scaled_of_isInfinite infinite']
    cases x.negative <;> cases y.negative <;> simp [apart]

end Binary64

namespace Number

/-- Whether a number is a NaN. -/
def isNaN : Number → Bool
  | int _ => false
  | real x => x.isNaN

/-- Where a number lies on the line. -/
def place : Number → WithBot (WithTop Int)
  | int n => ((n * twoTo 1074 : Int) : WithTop Int)
  | real x => x.place

variable {a b c : Number}

lemma compare_coe (m n : Int) : compare ((m : WithTop Int) : WithBot (WithTop Int))
    ((n : WithTop Int) : WithBot (WithTop Int)) = compare m n := by
  rw [← cmp_eq_compare, ← cmp_eq_compare]
  exact (WithBot.coe_strictMono.comp WithTop.coe_strictMono).cmp_map_eq m n

lemma compare_int (m n : Int) : compare m n = compare (int m).place (int n).place := by
  have unit : (0 : Int) < twoTo 1074 := by exact_mod_cast twoTo_pos 1074
  rw [place, place, compare_coe, ← cmp_eq_compare, ← cmp_eq_compare]
  exact (StrictMono.cmp_map_eq (fun _ _ lt => Int.mul_lt_mul_of_pos_right lt unit) m n).symm

lemma compareReal_eq (n : Int) {x : Binary64} (number : x.isNaN = false) :
    compareReal n x = some (compare (int n).place x.place) := by
  unfold compareReal
  simp only [number, Bool.false_eq_true, if_false]
  cases infinite : x.isInfinite with
  | false =>
    rw [Binary64.place_of_finite infinite]
    exact congrArg some (compare_coe _ _).symm
  | true =>
    rw [Binary64.place_of_infinite infinite]
    cases x.negative with
    | true => exact congrArg some (compare_gt_iff_gt.mpr (WithBot.bot_lt_coe _)).symm
    | false =>
      have below := WithBot.coe_lt_coe.mpr (WithTop.coe_lt_top (n * twoTo 1074 : Int))
      exact congrArg some (compare_lt_iff_lt.mpr below).symm

lemma compare_real {x y : Binary64} (hx : x.isNaN = false) (hy : y.isNaN = false) :
    compare x.scaled y.scaled = compare x.place y.place := by
  have below := Binary64.scaled_lt_iff hx hy
  have above := Binary64.scaled_lt_iff hy hx
  rcases lt_trichotomy x.scaled y.scaled with lt | eq | gt
  · rw [compare_lt_iff_lt.mpr lt, compare_lt_iff_lt.mpr (below.mp lt)]
  · rw [compare_eq_iff_eq.mpr eq, compare_eq_iff_eq.mpr]
    exact le_antisymm (not_lt.mp (mt above.mpr eq.not_gt)) (not_lt.mp (mt below.mpr eq.not_lt))
  · rw [compare_gt_iff_gt.mpr gt, compare_gt_iff_gt.mpr (above.mp gt)]

/-- Two numbers are compared by where they lie; a NaN compares with nothing. -/
theorem compare?_eq (a b : Number) : a.compare? b =
    if a.isNaN || b.isNaN then none else some (compare a.place b.place) := by
  match a, b with
  | int m, int n => exact congrArg some (compare_int m n)
  | int m, real y =>
    cases number : y.isNaN with
    | true => simp [compare?, compareReal, isNaN, number]
    | false => simpa [compare?, isNaN, number, place] using compareReal_eq m number
  | real x, int n =>
    cases number : x.isNaN with
    | true => simp [compare?, compareReal, isNaN, number]
    | false =>
      simp only [compare?, isNaN, number, compareReal_eq n number, place]
      rw [Option.map_some, ← cmp_eq_compare, cmp_swap, cmp_eq_compare]
      rfl
  | real x, real y =>
    cases number : x.isNaN <;> cases number' : y.isNaN <;>
      simp [compare?, isNaN, number, number', place, compare_real]

theorem lt_iff : a.lt b = true ↔ a.isNaN = false ∧ b.isNaN = false ∧ a.place < b.place := by
  rw [lt, compare?_eq]
  cases a.isNaN <;> cases b.isNaN <;> simp [compare_lt_iff_lt]

theorem le_iff : a.le b = true ↔ a.isNaN = false ∧ b.isNaN = false ∧ a.place ≤ b.place := by
  rw [le, compare?_eq, le_iff_lt_or_eq]
  cases a.isNaN <;> cases b.isNaN <;> simp [compare_lt_iff_lt]

/-- All but a NaN are at most themselves. -/
lemma le_self (number : a.isNaN = false) : a.le a = true := le_iff.mpr ⟨number, number, le_rfl⟩

lemma le_trans (first : a.le b = true) (second : b.le c = true) : a.le c = true := by
  obtain ⟨ha, -, ab⟩ := le_iff.mp first
  obtain ⟨-, hc, bc⟩ := le_iff.mp second
  exact le_iff.mpr ⟨ha, hc, ab.trans bc⟩

lemma le_of_lt (below : a.lt b = true) : a.le b = true := by
  obtain ⟨ha, hb, ab⟩ := lt_iff.mp below
  exact le_iff.mpr ⟨ha, hb, ab.le⟩

/-- Of two numbers of which none is a NaN, one is at most the other unless it is above it. -/
lemma le_of_not_lt (ha : a.isNaN = false) (hb : b.isNaN = false) (not_above : b.lt a = false) :
    a.le b = true := by
  refine le_iff.mpr ⟨ha, hb, not_lt.mp fun above => ?_⟩
  have below := lt_iff.mpr ⟨hb, ha, above⟩
  simp [not_above] at below

/-- A number that is at most another one is not above it. -/
lemma lt_eq_false (h : a.le b = true) : b.lt a = false := by
  rw [← Bool.not_eq_true, lt_iff]
  rintro ⟨-, -, above⟩
  exact absurd above (not_lt.mpr (le_iff.mp h).2.2)

end Number

end Reencode
