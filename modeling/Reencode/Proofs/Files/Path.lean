import Mathlib.Data.List.TakeWhile
import Reencode.Files.Path

/-!
# Texts of paths

A text is split into names at its slashes, and what has none of them is one name, whatever it is
added to (`FilePath.splitSlashes_append`).
-/

namespace Reencode.FilePath

lemma names_ofString (s : String) : (ofString s).names =
    ((splitSlashes s.toList).filter fun n => n ≠ [] && n ≠ ['.']).map String.ofList := rfl

/-- A text without a slash is not split. -/
lemma splitSlashes_plain {s : List Char} (plain : '/' ∉ s) : splitSlashes s = [s] := by
  induction s with
  | nil => rfl
  | cons c rest ih =>
    rw [List.mem_cons, not_or] at plain
    rw [splitSlashes, if_neg (Ne.symm plain.1), ih plain.2]

/-- What has no slash belongs to the last name of what it is added to. -/
lemma splitSlashes_append (s : List Char) {tail : List Char} (plain : '/' ∉ tail) :
    ∃ before last, splitSlashes s = before ++ [last] ∧
      splitSlashes (s ++ tail) = before ++ [last ++ tail] := by
  induction s with
  | nil => exact ⟨[], [], rfl, splitSlashes_plain plain⟩
  | cons c rest ih =>
    obtain ⟨before, last, alone, longer⟩ := ih
    rw [List.cons_append, splitSlashes, splitSlashes, alone, longer]
    split
    · exact ⟨[] :: before, last, rfl, rfl⟩
    · cases before with
      | nil => exact ⟨[], c :: last, rfl, rfl⟩
      | cons first more => exact ⟨(c :: first) :: more, last, rfl, rfl⟩

/-- A text without a slash that says something is one name. -/
lemma ofString_plain {s : String} (plain : '/' ∉ s.toList) (long : 1 < s.toList.length) :
    ofString s = ⟨"", [s]⟩ := by
  have rootless : leadingSlashes s.toList = 0 := by
    rw [leadingSlashes, List.length_eq_zero_iff, List.takeWhile_eq_nil_iff]
    intro bound slash
    have first : s.toList.get ⟨0, bound⟩ = '/' := beq_iff_eq.mp slash
    exact plain (first ▸ List.get_mem _ _)
  -- Splitting at slashes leaves the one name, which is neither empty nor a single point.
  have kept : [s.toList].filter (fun n => n ≠ [] && n ≠ ['.']) = [s.toList] := by
    have differs : ∀ short : List Char, short.length ≤ 1 → s.toList ≠ short := by
      intro short few same
      rw [same] at long
      omega
    simp [differs [] (by decide), differs ['.'] (by decide)]
  rw [ofString]
  simp only [rootless, splitSlashes_plain plain, kept]
  simp

lemma names_join (p : FilePath) {q : FilePath} {before : List String} {last : String}
    (names : q.names = before ++ [last]) : ∃ before', (p.join q).names = before' ++ [last] := by
  unfold join
  split
  · exact ⟨p.names ++ before, by rw [names, List.append_assoc]⟩
  · exact ⟨before, names⟩

end Reencode.FilePath
