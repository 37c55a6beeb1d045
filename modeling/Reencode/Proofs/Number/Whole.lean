import Mathlib.Algebra.Group.Nat.Defs
import Mathlib.Data.Int.Order.Basic
import Mathlib.Tactic.Common
import Reencode.Number.Basic

/-!
# Whole numbers

A whole number is an integer, or a double whose value is one.  Up to `2 ^ 53` on either side of zero
every integer has a double of exactly its value (`Binary64.ofMagnitude_whole`), so that no rounding
takes place in the difference of two whole numbers as long as all three are that small
(`Number.exists_sub_whole`).
-/

namespace Reencode

lemma twoTo_eq (n : Nat) : twoTo n = 2 ^ n := Nat.one_shiftLeft n

lemma twoTo_add (m n : Nat) : twoTo (m + n) = twoTo m * twoTo n := by
  simp only [twoTo_eq, Nat.pow_add]

/-- What is divisible is not rounded. -/
lemma roundEven_mul (n : Nat) {den : Nat} (positive : 0 < den) : roundEven (n * den) den = n := by
  have quotient : n * den / den = n := Nat.mul_div_cancel n positive
  have rest : n * den % den = 0 := Nat.mul_mod_left n den
  simp [roundEven, quotient, rest, positive]

namespace Binary64

variable {x y : Binary64} {m n : Int}

/-! ## Words -/

lemma isNaN_of_isFinite (h : x.isFinite = true) : x.isNaN = false := by
  simp_all [isFinite, isNaN]

lemma isInfinite_of_isFinite (h : x.isFinite = true) : x.isInfinite = false := by
  simp_all [isFinite, isInfinite]

/-- The fields of a word that is put together from a sign and the rest. -/
lemma fields_ofWord (negative : Bool) (rest : Nat) (small : rest < twoTo 63) :
    let x := ofWord ((if negative then twoTo 63 else 0) + rest)
    x.negative = negative ∧ x.exponentField = rest / twoTo 52 ∧ x.fraction = rest % twoTo 52 := by
  intro x
  have top : twoTo 63 = 9223372036854775808 := rfl
  have low : twoTo 52 = 4503599627370496 := rfl
  have whole : x.word = (if negative then twoTo 63 else 0) + rest := by
    refine (UInt64.toNat_ofNat').trans (Nat.mod_eq_of_lt ?_)
    cases negative <;> simp <;> omega
  simp only [Binary64.negative, exponentField, fraction, whole, top, low] at small ⊢
  cases negative <;> simp <;> omega

/-- Turning the sign moves the word by half the range. -/
lemma word_neg (x : Binary64) : x.neg.word / twoTo 63 = 1 - x.word / twoTo 63 ∧
    x.neg.word % twoTo 63 = x.word % twoTo 63 := by
  have turned : x.neg.word = x.word ^^^ 2 ^ 63 := UInt64.toNat_xor ..
  have range : x.word < 2 ^ 64 := x.bits.toNat_lt
  rw [turned, twoTo_eq, Nat.xor_div_two_pow, Nat.xor_mod_two_pow]
  constructor
  · have half : x.word / 2 ^ 63 = 0 ∨ x.word / 2 ^ 63 = 1 := by omega
    rcases half with half | half <;> rw [half] <;> rfl
  · simp

lemma fields_neg (x : Binary64) : x.neg.negative = !x.negative ∧
    x.neg.exponentField = x.exponentField ∧ x.neg.fraction = x.fraction := by
  obtain ⟨sign, rest⟩ := x.word_neg
  have range : x.word < 18446744073709551616 := x.bits.toNat_lt
  have range' : x.neg.word < 18446744073709551616 := x.neg.bits.toNat_lt
  have top : twoTo 63 = 9223372036854775808 := rfl
  have low : twoTo 52 = 4503599627370496 := rfl
  simp only [Binary64.negative, exponentField, fraction, top, low] at sign rest ⊢
  refine ⟨?_, by omega, by omega⟩
  rw [← decide_not, decide_eq_decide]
  omega

lemma isFinite_neg (x : Binary64) : x.neg.isFinite = x.isFinite := by
  rw [isFinite, isFinite, x.fields_neg.2.1]

lemma scaled_neg (x : Binary64) : x.neg.scaled = -x.scaled := by
  obtain ⟨sign, exponent, fraction⟩ := x.fields_neg
  have same : x.neg.magnitude = x.magnitude := by
    simp only [magnitude, significand, unitExponent, exponent, fraction]
  rw [scaled, scaled, sign, same]
  cases x.negative <;> simp

/-! ## Exact magnitudes -/

/-- A full significand, in a unit that is not too large, is rounded to itself. -/
lemma magnitudeWord_full {s unit : Nat} (low : twoTo 52 ≤ s) (high : s < twoTo 53)
    (small : unit ≤ 2045) : magnitudeWord (s * twoTo unit) 1 = unit * twoTo 52 + s := by
  -- The significand has 53 bits, so nothing is rounded off.
  have log : (s * twoTo unit).log2 = 52 + unit := by
    simp only [twoTo_eq] at low high ⊢
    have positive : 0 < s * 2 ^ unit := Nat.mul_pos (by omega) (Nat.two_pow_pos unit)
    refine (Nat.log2_eq_iff (by omega)).mpr ⟨?_, ?_⟩
    · rw [Nat.pow_add]
      exact Nat.mul_le_mul_right _ low
    · rw [Nat.add_right_comm, Nat.pow_add]
      exact Nat.mul_lt_mul_of_pos_right high (Nat.two_pow_pos unit)
  have bound : unit * twoTo 52 + s ≤ infinityWord := by
    have double : twoTo 53 = 2 * twoTo 52 := twoTo_succ 52
    have units : unit * twoTo 52 ≤ 2045 * twoTo 52 := Nat.mul_le_mul_right _ small
    unfold infinityWord
    omega
  simp only [magnitudeWord, Nat.div_one, log, Nat.add_sub_cancel_left, Nat.one_mul,
    roundEven_mul s (twoTo_pos unit)]
  exact Nat.min_eq_right bound

/-- A whole number up to `2 ^ 53` is a full significand in some unit. -/
lemma exists_full {k : Nat} (positive : 0 < k) (small : k ≤ twoTo 53) :
    ∃ s unit, twoTo 52 ≤ s ∧ s < twoTo 53 ∧ unit ≤ 2045 ∧ s * twoTo unit = k * twoTo 1074 := by
  rcases Nat.lt_or_eq_of_le small with less | rfl
  -- Shifted left until its highest bit is the 53rd, the number has the wanted form.
  · have bits : k.log2 ≤ 52 := by
      rw [twoTo_eq] at less
      exact Nat.le_of_lt_succ ((Nat.log2_lt (by omega)).mpr less)
    obtain ⟨low, high⟩ := (Nat.log2_eq_iff (by omega)).mp (rfl : k.log2 = k.log2)
    refine ⟨k * twoTo (52 - k.log2), 1022 + k.log2, ?_, ?_, by omega, ?_⟩
    · calc twoTo 52 = twoTo k.log2 * twoTo (52 - k.log2) := by rw [← twoTo_add]; congr 1; omega
        _ ≤ k * twoTo (52 - k.log2) := Nat.mul_le_mul_right _ (twoTo_eq _ ▸ low)
    · calc k * twoTo (52 - k.log2) < twoTo (k.log2 + 1) * twoTo (52 - k.log2) :=
            Nat.mul_lt_mul_of_pos_right (twoTo_eq _ ▸ high) (twoTo_pos _)
        _ = twoTo 53 := by rw [← twoTo_add]; congr 1; omega
    · rw [Nat.mul_assoc, ← twoTo_add]
      congr 2
      omega
  · refine ⟨twoTo 52, 1075, Nat.le_refl _, by decide, by decide, ?_⟩
    rw [← twoTo_add, ← twoTo_add]

/-- A whole number up to `2 ^ 53` has a double of exactly its value. -/
lemma ofMagnitude_whole (negative : Bool) {k : Nat} (small : k ≤ twoTo 53) :
    let x := ofMagnitude negative (k * twoTo 1074) 1
    x.isFinite = true ∧ x.negative = negative ∧ x.magnitude = k * twoTo 1074 := by
  intro x
  have low : twoTo 52 = 4503599627370496 := rfl
  have full : twoTo 53 = 9007199254740992 := rfl
  have top : twoTo 63 = 9223372036854775808 := rfl
  rcases Nat.eq_zero_or_pos k with rfl | positive
  · have word : x = ofWord ((if negative then twoTo 63 else 0) + 0) := by
      have zero : magnitudeWord 0 1 = 0 := by decide
      rw [← zero, ← Nat.zero_mul (twoTo 1074)]
      rfl
    obtain ⟨sign, exponent, fraction⟩ := fields_ofWord negative 0 (twoTo_pos 63)
    rw [← word] at sign exponent fraction
    simp [isFinite, magnitude, significand, sign, exponent, fraction]
  · obtain ⟨s, unit, hs, hs', hunit, same⟩ := exists_full positive small
    have word : x = ofWord ((if negative then twoTo 63 else 0) + (unit * twoTo 52 + s)) := by
      rw [← magnitudeWord_full hs hs' hunit, same]
      rfl
    rw [low] at hs word
    rw [full] at hs'
    obtain ⟨sign, exponent, fraction⟩ :=
      fields_ofWord negative (unit * 4503599627370496 + s) (by omega)
    rw [← word] at sign exponent fraction
    replace exponent : x.exponentField = unit + 1 := by rw [exponent, low]; omega
    replace fraction : x.fraction = s - 4503599627370496 := by rw [fraction, low]; omega
    refine ⟨?_, sign, ?_⟩
    · rw [isFinite, exponent, bne_iff_ne]
      omega
    · rw [← same, magnitude, significand, unitExponent, exponent, fraction, low,
        if_neg (by omega), Nat.add_sub_cancel, Nat.sub_add_cancel hs]

/-! ## Whole doubles -/

/-- The double is the integer. -/
structure Whole (x : Binary64) (n : Int) : Prop where
  finite : x.isFinite = true
  value : x.scaled = n * twoTo 1074

/-- The double of a sign and a magnitude is the integer of that sign and magnitude. -/
lemma whole_ofMagnitude (negative : Bool) {k : Nat} (small : k ≤ twoTo 53) :
    (ofMagnitude negative (k * twoTo 1074) 1).Whole (if negative then -k else k) := by
  obtain ⟨finite, sign, size⟩ := ofMagnitude_whole negative small
  refine ⟨finite, ?_⟩
  rw [scaled, sign, size]
  cases negative <;>
    simp only [Bool.false_eq_true, if_false, if_true, Int.natCast_mul, Int.neg_mul]

lemma signed_natAbs (n : Int) :
    (if decide (n < 0) then -(n.natAbs : Int) else (n.natAbs : Int)) = n := by
  simp only [decide_eq_true_eq]
  split <;> omega

/-- An integer becomes the double that is this integer. -/
lemma exists_ofInt? (small : n.natAbs ≤ twoTo 53) : ∃ x, ofInt? n = some x ∧ x.Whole n := by
  have whole : (ofInt n).Whole n := by
    have same := whole_ofMagnitude (decide (n < 0)) small
    rwa [signed_natAbs] at same
  exact ⟨ofInt n, by rw [ofInt?, if_pos whole.finite], whole⟩

/-- The difference of two whole doubles is exact. -/
lemma Whole.sub (hx : x.Whole m) (hy : y.Whole n) (small : (m - n).natAbs ≤ twoTo 53) :
    (x.sub y).Whole (m - n) := by
  have finite : y.neg.isFinite = true := y.isFinite_neg.trans hy.finite
  have unit : (0 : Int) < twoTo 1074 := by exact_mod_cast twoTo_pos 1074
  have sum : x.scaled + y.neg.scaled = (m - n) * twoTo 1074 := by
    rw [scaled_neg, hx.value, hy.value, Int.sub_mul, Int.sub_eq_add_neg]
  unfold Binary64.sub add
  simp only [isNaN_of_isFinite hx.finite, isNaN_of_isFinite finite, Bool.or_self,
    isInfinite_of_isFinite hx.finite, isInfinite_of_isFinite finite, Bool.false_eq_true, if_false,
    sum]
  split
  · rename_i zero
    obtain none : m - n = 0 := (Int.mul_eq_zero.mp zero).resolve_right (Int.ne_of_gt unit)
    have made := whole_ofMagnitude (x.negative && y.neg.negative) (Nat.zero_le _)
    rw [Nat.zero_mul] at made
    rw [none]
    simpa using made
  · have size : ((m - n) * twoTo 1074).natAbs = (m - n).natAbs * twoTo 1074 := by
      rw [Int.natAbs_mul, Int.natAbs_natCast]
    have sign : decide ((m - n) * twoTo 1074 < 0) = decide (m - n < 0) := by
      rw [decide_eq_decide, ← Int.not_le, ← Int.not_le, Int.mul_nonneg_iff_of_pos_right unit]
    rw [size, sign]
    have made := whole_ofMagnitude (decide (m - n < 0)) small
    rwa [signed_natAbs] at made

end Binary64

namespace Number

/-- The number is the integer, as one or as a double. -/
def Whole : Number → Int → Prop
  | int m, n => m = n
  | real x, n => x.Whole n

variable {a b : Number} {m n : Int}

lemma Whole.exists_toReal? (h : a.Whole n) (small : n.natAbs ≤ twoTo 53) :
    ∃ x, a.toReal? = some x ∧ x.Whole n := by
  cases a with
  | int k =>
    obtain rfl : k = n := h
    exact Binary64.exists_ofInt? small
  | real x => exact ⟨x, rfl, h⟩

/-- The difference of two whole numbers is exact, unless one of the three is too large. -/
lemma exists_sub_whole (ha : a.Whole m) (hb : b.Whole n) (left : m.natAbs ≤ twoTo 53)
    (right : n.natAbs ≤ twoTo 53) (result : (m - n).natAbs ≤ twoTo 53) :
    ∃ d, a.sub b = some d ∧ d.Whole (m - n) := by
  obtain ⟨x, hx, whole⟩ := ha.exists_toReal? left
  obtain ⟨y, hy, whole'⟩ := hb.exists_toReal? right
  have exact : (real (x.sub y)).Whole (m - n) := whole.sub whole' result
  match a, b with
  | int k, int l => exact ⟨_, rfl, by rw [Whole, ha, hb]⟩
  | int k, real z => exact ⟨_, by simp [sub, combine, hx, hy], exact⟩
  | real z, b => exact ⟨_, by simp [sub, combine, hx, hy], exact⟩

end Number

end Reencode
