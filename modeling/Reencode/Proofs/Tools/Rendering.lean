import Mathlib.Tactic.Common
import Reencode.Proofs.Number.Whole
import Reencode.Proofs.Tools.Listing

/-!
# What a remote caller is given

A remote caller is not given a response but a record.  An error response always is one; the state of
a collection is one if its sizes can be written out.  They are divided as doubles for that, so they
must be within the range of a double, which `2 ^ 1023` is certain to be
(`Binary64.isFinite_ofInt`).

`ToolResponse.Proper` says that the record tells of success, or that it was built from an error
response.
-/

namespace Reencode

/-! ## Integers that are doubles -/

lemma log2_mul_twoTo_lt {n k : Nat} (j : Nat) (positive : 0 < k) (small : n < twoTo k) :
    (n * twoTo j).log2 < k + j := by
  by_cases nothing : n * twoTo j = 0
  · rw [nothing, Nat.log2_zero]
    omega
  · rw [Nat.log2_lt nothing, Nat.pow_add, ← twoTo_eq, ← twoTo_eq]
    exact Nat.mul_lt_mul_of_pos_right small (twoTo_pos j)

namespace Binary64

/-- A rounded significand has at most one bit more than a double keeps. -/
lemma roundEven_significand_le (num : Nat) :
    roundEven num (twoTo (num.log2 - 52)) ≤ twoTo 53 := by
  have below : num < twoTo (num.log2 - 52) * twoTo 53 := by
    rw [twoTo_eq, twoTo_eq, ← Nat.pow_add]
    refine Nat.lt_of_lt_of_le Nat.lt_log2_self (Nat.pow_le_pow_right (by decide) ?_)
    omega
  exact Nat.le_trans (roundEven_le _ _) (Nat.div_lt_of_lt_mul below)

lemma magnitudeWord_lt {num : Nat} (small : num.log2 ≤ 2096) :
    magnitudeWord num 1 < infinityWord := by
  have significand := roundEven_significand_le num
  have unit : twoTo 52 = 4503599627370496 := rfl
  have carry : twoTo 53 = 9007199254740992 := rfl
  rw [carry] at significand
  refine Nat.lt_of_le_of_lt (Nat.min_le_right _ _) ?_
  rw [Nat.div_one, Nat.one_mul, infinityWord, unit]
  omega

/-- An integer of at most 1023 bits is nearest to a double that is a number. -/
lemma isFinite_ofInt {n : Int} (small : n.natAbs < twoTo 1023) : (ofInt n).isFinite = true := by
  have below := magnitudeWord_lt (Nat.le_of_lt_succ (log2_mul_twoTo_lt 1074 (by decide) small))
  have unit : twoTo 52 = 4503599627370496 := rfl
  have sign : twoTo 63 = 9223372036854775808 := rfl
  unfold ofInt ofRatio ofMagnitude
  generalize magnitudeWord _ 1 = m at below ⊢
  rw [infinityWord, unit] at below
  simp only [isFinite, exponentField, word, ofWord, UInt64.toNat_ofNat', unit, sign, bne_iff_ne,
    ne_eq]
  split <;> omega

end Binary64

/-- The text of a size, as a function: matching on a double that is computed from a variable would
unfold the computation. -/
lemma sizeText_eq : sizeText = fun bytes =>
    match Binary64.ofInt? bytes with
    | some x => .ok (sizeTextOf x)
    | none => .error .overflow := rfl

/-- A size within the range of a double has a text. -/
lemma sizeText_ok {bytes : Int} (small : bytes.natAbs < twoTo 1023) :
    ∃ text, sizeText bytes = .ok text := by
  have number : Binary64.ofInt? bytes = some (Binary64.ofInt bytes) :=
    if_pos (Binary64.isFinite_ofInt small)
  refine ⟨sizeTextOf (Binary64.ofInt bytes), ?_⟩
  rw [sizeText_eq]
  dsimp only
  rw [number]

/-! ## Records -/

/-- The sizes that are written out. -/
def CollectionSnapshot.sizes (s : CollectionSnapshot) : List Int :=
  s.sourceTotal :: s.outputTotal :: s.entries.flatMap fun e => [e.sourceSize, e.outputSize]

lemma CollectionSnapshot.summary_ok {s : CollectionSnapshot}
    (small : ∀ n ∈ s.sizes, n.natAbs < twoTo 1023) : ∃ text, s.summary = .ok text := by
  obtain ⟨source, sourceText⟩ := sizeText_ok (small s.sourceTotal (by simp [sizes]))
  obtain ⟨output, outputText⟩ := sizeText_ok (small s.outputTotal (by simp [sizes]))
  unfold summary
  split
  · exact ⟨_, rfl⟩
  · rw [sourceText, outputText]
    exact ⟨_, rfl⟩

namespace ToolResponse

lemma listed_ok {e : EntrySnapshot} (source : e.sourceSize.natAbs < twoTo 1023)
    (output : e.outputSize.natAbs < twoTo 1023) : ∃ image, listed e = .ok image := by
  obtain ⟨sourceText, shown⟩ := sizeText_ok source
  obtain ⟨outputText, shown'⟩ := sizeText_ok output
  rw [listed, EntrySnapshot.outputSizeText, EntrySnapshot.sourceSizeText, shown, shown']
  exact ⟨_, rfl⟩

lemma mapM_ok {α β ε : Type} {f : α → Except ε β} {xs : List α}
    (each : ∀ x ∈ xs, ∃ y, f x = .ok y) : ∃ ys, xs.mapM f = .ok ys := by
  induction xs with
  | nil => exact ⟨[], rfl⟩
  | cons x rest ih =>
    obtain ⟨y, first⟩ := each x List.mem_cons_self
    obtain ⟨ys, others⟩ := ih fun x mem => each x (List.mem_cons_of_mem _ mem)
    rw [List.mapM_cons, first, others]
    exact ⟨_, rfl⟩

/-- The sizes that are written out of a response. -/
def sizes : ToolResponse → List Int
  | state snapshot _ _ => snapshot.sizes
  | _ => []

end ToolResponse

/-- A response whose record tells of success, or that was built to be an error response. -/
def ToolResponse.Proper (r : ToolResponse) : Prop :=
  (∃ v, r.toValue = .ok v ∧ v.field? "success" = some (.bool true)) ∨
    ∃ e, r = .failed e ∧ e.Built

namespace ToolResponse

lemma state_proper {snapshot : CollectionSnapshot} (settled : Bool)
    (imported : Option (List EntryId × Nat))
    (small : ∀ n ∈ snapshot.sizes, n.natAbs < twoTo 1023) :
    (state snapshot settled imported).Proper := by
  obtain ⟨summary, said⟩ := CollectionSnapshot.summary_ok small
  have within : ∀ e ∈ snapshot.entries, e.sourceSize ∈ snapshot.sizes ∧
      e.outputSize ∈ snapshot.sizes := by
    intro e mem
    constructor
    all_goals
      refine List.mem_cons_of_mem _ (List.mem_cons_of_mem _ (List.mem_flatMap.mpr ⟨e, mem, ?_⟩))
      simp
  obtain ⟨images, shown⟩ : ∃ images, snapshot.entries.mapM listed = .ok images :=
    mapM_ok fun e mem => listed_ok (small _ (within e mem).1) (small _ (within e mem).2)
  left
  rw [toValue, said, shown]
  exact ⟨_, rfl, rfl⟩

lemma archive_proper (settled : Bool) (path : String) (size : Nat) (names : List String) :
    (archive settled path size names).Proper := .inl ⟨_, rfl, rfl⟩

lemma file_proper (path : String) (size : Nat) : (file path size).Proper := .inl ⟨_, rfl, rfl⟩

lemma failed_proper {e : ErrorResponse} (built : e.Built) : (failed e).Proper :=
  .inr ⟨e, rfl, built⟩

end ToolResponse

end Reencode
