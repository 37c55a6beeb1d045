import Mathlib.Tactic.Common
import Reencode.Naming.Stem

/-!
# Stems of exported names

What the stem of a name is can be said without searching for it (`HasStem`): it ends at the last
point of the name if something stands before that, and otherwise it is all of the name.  Every name
has one such stem, the one that is found.

An exported name is a stem, a point and an extension that has no point in it.  So if the stem is not
empty, the point between them is the last one of the name, and the stem of the exported name is the
stem that it was made of.  An empty stem is the exception: it is left by the empty name alone, and
the name that is exported for it is all stem.
-/

namespace Reencode

/-! ## Stems -/

/-- What a stem is to a name: it ends at the last point if something stands before that, and
otherwise it is all of the name. -/
inductive HasStem : List Char → List Char → Prop
  | cut {stem ext : List Char} (some_left : stem ≠ []) (plain : '.' ∉ ext) :
      HasStem (stem ++ '.' :: ext) stem
  | whole {name : List Char} (uncut : '.' ∉ name.tail) : HasStem name name

/-- The search for the last point passes over what has none. -/
lemma dropWhile_reverse_plain (front : List Char) {ext : List Char} (plain : '.' ∉ ext) :
    (front ++ ext).reverse.dropWhile (· != '.') = front.reverse.dropWhile (· != '.') := by
  rw [List.reverse_append, List.dropWhile_append_of_pos]
  intro c mem
  have : c ≠ '.' := fun same => plain (same ▸ List.mem_reverse.mp mem)
  simpa using this

/-- The stem of a name ends at its last point. -/
lemma stemChars_append {stem ext : List Char} (some_left : stem ≠ []) (plain : '.' ∉ ext) :
    stemChars (stem ++ '.' :: ext) = stem := by
  have skipped : (stem ++ '.' :: ext).reverse.dropWhile (· != '.') = '.' :: stem.reverse := by
    rw [List.append_cons, dropWhile_reverse_plain _ plain]
    simp
  obtain ⟨c, rest, split⟩ := List.exists_cons_of_ne_nil (mt List.reverse_eq_nil_iff.mp some_left)
  rw [stemChars, skipped, split]
  show (c :: rest).reverse = stem
  rw [← split, List.reverse_reverse]

/-- A name without a point, or with none but a leading one, is all stem. -/
lemma stemChars_of_uncut {name : List Char} (uncut : '.' ∉ name.tail) : stemChars name = name := by
  cases name with
  | nil => rfl
  | cons first rest =>
    have skipped := dropWhile_reverse_plain [first] (show '.' ∉ rest from uncut)
    rw [stemChars, ← List.singleton_append, skipped]
    by_cases point : first = '.' <;> simp [point]

namespace HasStem

variable {name stem : List Char}

lemma eq_stemChars (h : HasStem name stem) : stem = stemChars name := by
  cases h with
  | cut some_left plain => exact (stemChars_append some_left plain).symm
  | whole uncut => exact (stemChars_of_uncut uncut).symm

lemma ne_nil (h : HasStem name stem) (named : name ≠ []) : stem ≠ [] := by
  cases h with
  | cut some_left plain => exact some_left
  | whole uncut => exact named

lemma isPrefix (h : HasStem name stem) : stem <+: name := by
  cases h with
  | cut some_left plain => exact List.prefix_append stem _
  | whole uncut => exact List.prefix_rfl

lemma total (name : List Char) : ∃ stem, HasStem name stem := by
  by_cases point : '.' ∈ name.tail
  · -- The last point is not at the beginning, so something stands before it.
    obtain ⟨back, front, split, plain⟩ := List.eq_append_cons_of_mem (List.mem_reverse.mpr point)
    have rest : name.tail = front.reverse ++ '.' :: back.reverse := by
      simpa using congrArg List.reverse split
    cases name with
    | nil => cases point
    | cons first tail =>
      rw [show tail = _ from rest]
      exact ⟨first :: front.reverse, .cut (List.cons_ne_nil _ _) (by simpa using plain)⟩
  · exact ⟨name, .whole point⟩

end HasStem

lemma hasStem_stemChars (name : List Char) : HasStem name (stemChars name) := by
  obtain ⟨stem, h⟩ := HasStem.total name
  exact h.eq_stemChars ▸ h

lemma stemChars_ne_nil {name : List Char} (some_left : name ≠ []) : stemChars name ≠ [] :=
  (hasStem_stemChars name).ne_nil some_left

/-- A name begins with its stem. -/
lemma stemChars_isPrefix (name : List Char) : stemChars name <+: name :=
  (hasStem_stemChars name).isPrefix

lemma toList_fileStem (name : String) : (fileStem name).toList = stemChars name.toList :=
  String.toList_ofList

lemma Format.plain_extension (f : Format) : '.' ∉ f.extension.toList := by
  cases f <;> decide

/-! ## Exported names -/

lemma toList_exportName (name : String) (f : Format) :
    (exportName name f).toList = stemChars name.toList ++ '.' :: f.extension.toList := by
  simp [exportName, toList_fileStem]

lemma stemChars_exportName {name : String} (named : name ≠ "") (f : Format) :
    stemChars (exportName name f).toList = stemChars name.toList := by
  rw [toList_exportName, stemChars_append (stemChars_ne_nil ?_) f.plain_extension]
  simpa using named

/-- What comes before a point and an extension cannot be told from nothing unless it is nothing. -/
lemma append_extension_ne {stem ext : List Char} (some_left : stem ≠ []) (f : Format) :
    stem ++ '.' :: ext ≠ (exportName "" f).toList := by
  obtain ⟨c, rest, rfl⟩ := List.exists_cons_of_ne_nil some_left
  have leads : (exportName "" f).toList = '.' :: f.extension.toList := toList_exportName "" f
  intro same
  have inside : rest ++ '.' :: ext = f.extension.toList := (List.cons.inj (same.trans leads)).2
  exact f.plain_extension (inside ▸ List.mem_append_right _ List.mem_cons_self)

end Reencode
