import Reencode.Proofs.Params.Spelling

/-!
# The range of parameters

A quality that is out of range is meant to be clamped.  But only integers, doubles and texts of
digits are; a text that they do not recognise is read leniently and kept as it is, and so is an
object of a kind that the library does not know.  Such a value *escapes* when it is read as an
integer out of range (`Value.Escapes`): for texts, an integer with a plus, underscores or a point
and zeros does.  Nothing else escapes: `readQuality_of_spells` goes through the spellings of an
integer, and `readQuality_mem_iff` through all values.

The lenient reader is any; that it never contradicts the digits (`IntegerReader.Agrees`) is asked
only where a text is looked at as a spelling of both.
-/

namespace Reencode

/-- A value spells an integer: it is the integer, a double that is whole, a text that one of the two
grammars reads, or an object that stands for it. -/
inductive Value.Spells (reader : IntegerReader) : Value → Int → Prop
  | int (n : Int) : Spells reader (.int n) n
  | real {x : Binary64} (finite : x.isFinite = true) (whole : x.isWhole = true) :
      Spells reader (.real x) x.truncate
  | digits {s : String} {n : Int} (read : Reencode.readInteger s = .ok n) :
      Spells reader (.text s) n
  | lenient {s : String} {n : Int} (read : reader s = .ok n) : Spells reader (.text s) n
  | other {o : OtherValue} {n : Int} (read : o.integer = .ok n) : Spells reader (.other o) n

/-- A text that is read leniently, or another object, that is an integer out of range. -/
def Value.Escapes (reader : IntegerReader) : Value → Prop
  | .text s => looksWhole s = false ∧ ∃ n, reader s = .ok n ∧ ¬(1 ≤ n ∧ n ≤ 100)
  | .other o => ∃ n, o.integer = .ok n ∧ ¬(1 ≤ n ∧ n ≤ 100)
  | _ => False

/-- Parameters with a quality from 1 to 100 and one of the three formats. -/
structure Params.InRange (p : Params) : Prop where
  low : 1 ≤ p.quality
  high : p.quality ≤ 100
  format : p.format.name ∈ ["JPEG", "WEBP", "PNG"]

lemma Params.inRange_iff {p : Params} : p.InRange ↔ 1 ≤ p.quality ∧ p.quality ≤ 100 :=
  ⟨fun h => ⟨h.low, h.high⟩, fun h => ⟨h.1, h.2, by cases p.format <;> decide⟩⟩

lemma Params.inRange_clampQuality (n : Int) (format : Format) :
    (⟨clampQuality n, format⟩ : Params).InRange :=
  inRange_iff.mpr (clampQuality_mem n)

/-! ## Doubles -/

namespace Binary64

variable {x : Binary64}

lemma toIntEven_of_isWhole (whole : x.isWhole = true) : x.toIntEven = x.truncate := by
  have rest : x.magnitude % twoTo 1074 = 0 := by simpa [isWhole] using whole
  have exact_ : roundEven x.magnitude (twoTo 1074) = x.magnitude / twoTo 1074 := by
    unfold roundEven
    dsimp only
    rw [if_pos]
    rw [rest]
    exact twoTo_pos 1074
  rw [toIntEven, truncate, exact_]

lemma not_special_of_isFinite (finite : x.isFinite = true) :
    x.isNaN = false ∧ x.isInfinite = false := by
  have field : (x.exponentField == 2047) = false := by simpa [isFinite] using finite
  simp [isNaN, isInfinite, field]

end Binary64

/-! ## Reading a quality -/

section

variable {reader : IntegerReader}

/-- A text is read by the first grammar if it looks like it, and by the second one if not. -/
lemma readQuality_text {s : String} {m : Int} (read : readQuality reader (.text s) = .ok m) :
    looksWhole s = true ∧ (∃ n, readInteger s = .ok n ∧ m = clampQuality n) ∨
      looksWhole s = false ∧ reader s = .ok m := by
  simp only [readQuality] at read
  split at read
  · rename_i whole
    refine .inl ⟨whole, ?_⟩
    split at read
    · rename_i n digits
      exact ⟨n, readInteger_trim.mp digits, (Except.ok.inj read).symm⟩
    · cases read
  · rename_i other
    refine .inr ⟨by simpa using other, ?_⟩
    cases lenient : reader s with
    | ok n =>
      rw [lenient] at read
      cases read
      rfl
    | error e =>
      rw [lenient] at read
      cases read

lemma readQuality_other {o : OtherValue} {m : Int} :
    readQuality reader (.other o) = .ok m ↔ o.integer = .ok m := by
  cases read : o.integer <;> simp [readQuality, Value.readInteger, read, Except.mapError]

/-- A quality is in range unless it escapes. -/
theorem readQuality_mem_iff {v : Value} {m : Int} (read : readQuality reader v = .ok m) :
    1 ≤ m ∧ m ≤ 100 ↔ ¬v.Escapes reader := by
  cases v with
  -- A text that looks whole is clamped; any other is taken as the lenient reader gives it.
  | text s =>
    rcases readQuality_text read with ⟨whole, n, -, rfl⟩ | ⟨other, lenient⟩
    · simp [Value.Escapes, whole, clampQuality_mem n]
    · simp [Value.Escapes, other, lenient]
  | other o => simp [Value.Escapes, readQuality_other.mp read]
  | int n =>
    cases read
    simp [Value.Escapes, clampQuality_mem n]
  | real x =>
    simp only [readQuality] at read
    split at read
    · cases read
    · split at read
      · cases read
      · cases read
        simp [Value.Escapes, clampQuality_mem _]
  | null | bool b | list items | record fields => cases read

/-- An integer is clamped however it is spelled, unless the spelling escapes: then it is kept. -/
theorem readQuality_of_spells (agrees : reader.Agrees) {v : Value} {m n : Int}
    (read : readQuality reader v = .ok m) (spells : v.Spells reader n) :
    (¬v.Escapes reader → m = clampQuality n) ∧ (v.Escapes reader → m = n) := by
  -- What is kept although it is in range is what it is clamped to.
  have kept (same : m = n) :
      (¬v.Escapes reader → m = clampQuality n) ∧ (v.Escapes reader → m = n) := by
    refine ⟨fun clamped => ?_, fun _ => same⟩
    obtain ⟨low, high⟩ := (readQuality_mem_iff read).mpr clamped
    rw [← same, clampQuality_of_mem low high]
  cases spells with
  | int n =>
    cases read
    exact ⟨fun _ => rfl, fun escapes => escapes.elim⟩
  | @real x finite whole =>
    obtain ⟨number, bounded⟩ := Binary64.not_special_of_isFinite finite
    simp only [readQuality, number, bounded, Bool.false_eq_true, if_false] at read
    cases read
    rw [Binary64.toIntEven_of_isWhole whole]
    exact ⟨fun _ => rfl, fun escapes => escapes.elim⟩
  | @digits s n digits =>
    rcases readQuality_text read with ⟨whole, n', digits', rfl⟩ | ⟨-, lenient⟩
    · obtain rfl : n = n' := Except.ok.inj (digits.symm.trans digits')
      exact ⟨fun _ => rfl, fun escapes => by simp [Value.Escapes, whole] at escapes⟩
    · exact kept (agrees lenient digits)
  | @lenient s n lenient =>
    rcases readQuality_text read with ⟨whole, n', digits, rfl⟩ | ⟨-, lenient'⟩
    · obtain rfl := agrees lenient digits
      exact ⟨fun _ => rfl, fun escapes => by simp [Value.Escapes, whole] at escapes⟩
    · exact kept (Except.ok.inj (lenient'.symm.trans lenient))
  | @other o n integer =>
    exact kept (Except.ok.inj ((readQuality_other.mp read).symm.trans integer))

end

/-! ## Building and changing parameters -/

namespace Params

variable {reader : IntegerReader} {quality format : Value} {p p' : Params}

lemma quality_of_ofValues (built : ofValues reader quality format = .ok p) :
    readQuality reader quality = .ok p.quality := by
  unfold ofValues at built
  generalize Checked.field "format" _ = checked at built
  cases read : readQuality reader quality with
  | ok q =>
    rw [read] at built
    cases checked with
    | valid f =>
      cases built
      rfl
    | invalid errors => cases built
  | error e =>
    rw [read] at built
    cases e <;> cases checked <;> cases built

/-- Built parameters are in range unless the quality escapes. -/
theorem inRange_of_ofValues (built : ofValues reader quality format = .ok p) :
    p.InRange ↔ ¬quality.Escapes reader :=
  inRange_iff.trans (readQuality_mem_iff (quality_of_ofValues built))

/-- Changing parameters clamps the old quality once more, so only the new one matters. -/
theorem inRange_of_change (changed : p.change reader quality format = .ok p') :
    p'.InRange ↔ ¬quality.Escapes reader := by
  refine (inRange_of_ofValues changed).trans (not_congr ?_)
  cases quality with
  | null => exact Iff.rfl
  | _ => exact Iff.rfl

/-- After several changes parameters are in range if they were, and no new quality escapes. -/
theorem inRange_of_changes {changes : List (Value × Value)} (h : p.InRange)
    (clamped : ∀ c ∈ changes, ¬c.1.Escapes reader)
    (changed : changes.foldlM (fun p c => p.change reader c.1 c.2) p = .ok p') : p'.InRange := by
  -- Induction on the changes, the first one first: what it leaves is in range and is changed on.
  induction changes generalizing p with
  | nil =>
    cases changed
    exact h
  | cons c rest ih =>
    rw [List.foldlM_cons] at changed
    cases first : p.change reader c.1 c.2 with
    | error e =>
      rw [first] at changed
      cases changed
    | ok q =>
      rw [first] at changed
      refine ih ?_ (fun c mem => clamped c (List.mem_cons_of_mem _ mem)) changed
      exact (inRange_of_change first).mpr (clamped c List.mem_cons_self)

end Params

end Reencode
