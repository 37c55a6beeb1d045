import Reencode.Proofs.Naming.Stem
import Reencode.Proofs.Params.Acceptance

/-!
# Exporting what was exported

A name takes part in its exported name by its stem alone, and the exported name has the same stem
(`fileStem_exportName`).  Everything else follows: to export an exported name again is to export the
name, and two exported names are the same just when their stems and their formats are
(`exportName_eq_iff`).

The empty name is left out, because the name that is exported for it is all stem.
-/

namespace Reencode

variable {name other : String} {f g : Format}

/-! ## Formats -/

lemma Format.extension_injective : Function.Injective extension := by
  intro f g same
  cases f <;> cases g <;> simp_all [extension]

/-- A name is exported in a format by every word for it, and in none by anything else. -/
lemma exportNameAs_eq_ok_iff {target : Value} {exported : String} :
    exportNameAs name target = .ok exported ↔
      ∃ f, target.Names f ∧ exportName name f = exported := by
  constructor
  · intro made
    cases read : Format.read target with
    | error e =>
      rw [exportNameAs, read] at made
      cases made
    | ok f =>
      rw [exportNameAs, read] at made
      exact ⟨f, Format.read_eq_ok_iff.mp read, Except.ok.inj made⟩
  · rintro ⟨f, names, rfl⟩
    rw [exportNameAs, Format.read_eq_ok_iff.mpr names, Except.map]

/-! ## Names -/

/-- The stem of an exported name is the stem of the name. -/
lemma fileStem_exportName (named : name ≠ "") (f : Format) :
    fileStem (exportName name f) = fileStem name := by
  rw [fileStem, stemChars_exportName named, fileStem]

lemma fileStem_ne_empty (named : name ≠ "") : fileStem name ≠ "" := by
  have some_left : (fileStem name).toList ≠ [] :=
    toList_fileStem name ▸ stemChars_ne_nil (by simpa using named)
  simpa using some_left

/-- Exporting an exported name replaces the extension. -/
lemma exportName_exportName (named : name ≠ "") (f g : Format) :
    exportName (exportName name f) g = exportName name g := by
  rw [exportName, fileStem_exportName named, exportName]

/-- Two exported names are the same just when their stems and their formats are. -/
lemma exportName_eq_iff (named : name ≠ "") (others : other ≠ "") :
    exportName name f = exportName other g ↔ fileStem name = fileStem other ∧ f = g := by
  constructor
  · intro same
    have stems : fileStem name = fileStem other := by
      rw [← fileStem_exportName named f, same, fileStem_exportName others]
    rw [exportName, exportName, stems] at same
    exact ⟨stems, Format.extension_injective (String.append_right_inj _ |>.mp same)⟩
  · rintro ⟨stems, rfl⟩
    rw [exportName, exportName, stems]

/-- **Exporting composes.**  The exported name of a name that is not empty has the same stem as the
name, and to export it again is to export the name.  The stem is a beginning of the name and not
empty: it ends at the last point if something stands before that, and is all of the name otherwise.
Names of the same stem are exported under the same name, and no others are.  The format may be given
by any word for it, and by nothing else. -/
theorem exports_compose (named : name ≠ "") (f : Format) :
    fileStem (exportName name f) = fileStem name ∧
      (∀ g, exportName (exportName name f) g = exportName name g) ∧
      (fileStem name ≠ "" ∧ (fileStem name).toList <+: name.toList ∧
        HasStem name.toList (fileStem name).toList) ∧
      (∀ other, other ≠ "" →
        (exportName name f = exportName other f ↔ fileStem name = fileStem other)) ∧
      ∀ target, exportNameAs name target = .ok (exportName name f) ↔ target.Names f := by
  refine ⟨fileStem_exportName named f, exportName_exportName named f,
    ⟨fileStem_ne_empty named, ?_, ?_⟩, ?_, ?_⟩
  · rw [toList_fileStem]
    exact stemChars_isPrefix name.toList
  · rw [toList_fileStem]
    exact hasStem_stemChars name.toList
  · intro other others
    rw [exportName_eq_iff named others, and_iff_left rfl]
  · intro target
    rw [exportNameAs_eq_ok_iff]
    constructor
    · rintro ⟨g, names, same⟩
      obtain ⟨-, rfl⟩ := (exportName_eq_iff named named).mp same
      exact names
    · intro names
      exact ⟨f, names, rfl⟩

/-- The second of two points next to each other is the last one, and a name that ends in a point is
exported like any other of its stem. -/
theorem exports_compose_of_pointed :
    ("a..PNG" ≠ "" ∧ "a.." ≠ "" ∧ (Value.text " Jpg ").Names .jpeg) ∧
      fileStem (exportName "a..PNG" .jpeg) = "a." ∧
      exportName (exportName "a..PNG" .jpeg) .png = "a..png" ∧
      exportName "a..PNG" .jpeg = exportName "a.." .jpeg ∧
      exportNameAs "a..PNG" (.text " Jpg ") = .ok "a..jpg" := by
  have named : "a..PNG" ≠ "" := by decide
  have others : "a.." ≠ "" := by decide
  have word : (Value.text " Jpg ").Names .jpeg := ⟨_, rfl, by decide +kernel⟩
  have stem : fileStem "a..PNG" = "a." := by decide +kernel
  have stems : fileStem "a..PNG" = fileStem "a.." := by decide +kernel
  obtain ⟨kept, replaced, -, same, spelled⟩ := exports_compose named .jpeg
  refine ⟨⟨named, others, word⟩, kept.trans stem, ?_, (same _ others).mpr stems, ?_⟩
  · rw [replaced, exportName, stem]
    rfl
  · rw [(spelled _).mpr word, exportName, stem]
    rfl

/-- The name that is exported for the empty one is hidden, and so all stem. -/
example : fileStem (exportName "" .jpeg) ≠ fileStem "" := by decide +kernel

end Reencode
