import Reencode.Proofs.Params.Range

/-!
# What is accepted as parameters

Which values stand for a quality and which for a format (`Value.Quality`, `Value.Names`), and what
becomes of parameters when a quality and a format are asked for: each of the two is taken from its
value, or kept if there is none (`Params.Takes`).  A change succeeds just when it can be taken
(`Params.change_eq_ok_iff`), and whether it can does not depend on the parameters there were
(`Params.exists_takes_iff`).

A change that does not succeed reports the fields that could not be read, with one exception: an
infinite quality is no report but a failure of its own (`Params.change_eq_infinite_iff`).
-/

namespace Reencode

/-! ## Qualities -/

/-- A value stands for a quality: a number for the quality nearest to it, and a text of digits
likewise; a text that is only read leniently, or another object, for the integer that it is read
as. -/
inductive Value.Quality (reader : IntegerReader) : Value → Int → Prop
  | int (n : Int) : Quality reader (.int n) (clampQuality n)
  | real {x : Binary64} (finite : x.isFinite = true) :
      Quality reader (.real x) (clampQuality x.toIntEven)
  | digits {s : String} {n : Int} (whole : looksWhole s = true)
      (read : Reencode.readInteger s = .ok n) : Quality reader (.text s) (clampQuality n)
  | lenient {s : String} {n : Int} (other : looksWhole s = false) (read : reader s = .ok n) :
      Quality reader (.text s) n
  | other {o : OtherValue} {n : Int} (read : o.integer = .ok n) : Quality reader (.other o) n

/-- A value is an infinite double. -/
def Value.IsInfinite : Value → Prop
  | .real x => x.isInfinite = true
  | _ => False

namespace Binary64

variable {x : Binary64}

lemma isFinite_iff : x.isFinite = true ↔ x.isNaN = false ∧ x.isInfinite = false := by
  constructor
  · exact not_special_of_isFinite
  · rintro ⟨number, bounded⟩
    by_contra special
    have field : (x.exponentField == 2047) = true := by simpa [isFinite] using special
    simp only [isNaN, isInfinite, field, Bool.true_and] at number bounded
    simp_all

lemma not_isNaN_of_isInfinite (infinite : x.isInfinite = true) : x.isNaN = false := by
  simp only [isInfinite, Bool.and_eq_true] at infinite
  simpa [isNaN, infinite.1] using infinite.2

end Binary64

variable {reader : IntegerReader}

/-- A quality is read just from the values that stand for one. -/
lemma readQuality_eq_ok_iff {v : Value} {q : Int} :
    readQuality reader v = .ok q ↔ v.Quality reader q := by
  constructor
  · intro read
    cases v with
    | int n =>
      cases read
      exact .int n
    | real x =>
      simp only [readQuality] at read
      split_ifs at read with number bounded
      cases read
      exact .real (Binary64.isFinite_iff.mpr ⟨by simpa using number, by simpa using bounded⟩)
    | text s =>
      rcases readQuality_text read with ⟨whole, n, digits, rfl⟩ | ⟨other, lenient⟩
      · exact .digits whole digits
      · exact .lenient other lenient
    | other o => exact .other (readQuality_other.mp read)
    | null | bool b | list items | record fields => cases read
  -- Each way for a value to stand for a quality is one way through the reader.
  · intro stands
    cases stands with
    | int n => rfl
    | real finite =>
      obtain ⟨number, bounded⟩ := Binary64.not_special_of_isFinite finite
      simp [readQuality, number, bounded]
    | digits whole read => simp [readQuality, whole, readInteger_trim.mpr read]
    | lenient other read => simp [readQuality, other, read, Except.mapError]
    | other read => exact readQuality_other.mpr read

/-- Reading fails by an infinity just for one. -/
lemma readQuality_eq_infinite_iff {v : Value} :
    readQuality reader v = .error .infinite ↔ v.IsInfinite := by
  -- Problems of the kinds that are mapped are never the one that stands for an infinity.
  have plain (r : Except FieldProblem Int) :
      r.mapError .problem ≠ .error QualityError.infinite := by
    cases r <;> simp [Except.mapError]
  cases v with
  | real x =>
    rw [Value.IsInfinite]
    constructor
    · intro read
      simp only [readQuality] at read
      split_ifs at read with number bounded
      · cases read
      · exact bounded
    · intro infinite
      simp [readQuality, Binary64.not_isNaN_of_isInfinite infinite, infinite]
  | text s =>
    simp only [Value.IsInfinite, iff_false, readQuality]
    split_ifs
    · split <;> simp
    · exact plain _
  | int n => simp [Value.IsInfinite, readQuality]
  | bool b => simp [Value.IsInfinite, readQuality]
  | null | list items | record fields | other o =>
    simpa [Value.IsInfinite, readQuality] using plain _

/-! ## Formats -/

/-- A value names a format: it is a text that, without blanks around it and in upper case, is the
name of the format or its alias. -/
def Value.Names (v : Value) (f : Format) : Prop :=
  ∃ word, v = .text word ∧ Format.canonicalWord (Text.trim word) = f.name

lemma Format.ofName?_eq_some_iff {word : String} {f : Format} :
    ofName? word = some f ↔ word = f.name := by
  constructor
  · intro found
    have := List.find?_some found
    simpa [eq_comm] using this
  · rintro rfl
    exact ofName?_name f

lemma Format.read_eq_ok_iff {v : Value} {f : Format} : Format.read v = .ok f ↔ v.Names f := by
  cases v with
  | text word =>
    have named : (Value.text word).Names f ↔ ofName? (canonicalWord (Text.trim word)) = some f := by
      simp [Value.Names, ofName?_eq_some_iff]
    rw [named]
    simp only [read]
    split_ifs with blank
    · -- Nothing but blanks is the name of no format.
      have none : Text.trim word = "" := by
        rw [Text.trim, List.isEmpty_iff.mp blank]
      have nothing : ofName? (canonicalWord "") = Option.none := by decide
      simp [none, nothing]
    · split <;> simp_all
  | null | bool b | int n | real x | list items | record fields | other o =>
    simp [read, Value.Names]

lemma Format.read_name (format : Format) : Format.read (.text format.name) = .ok format := by
  cases format <;> rfl

/-! ## Changes -/

namespace Params

/-- What becomes of parameters when a quality and a format are asked for; null asks for nothing. -/
structure Takes (reader : IntegerReader) (p : Params) (quality format : Value) (p' : Params) :
    Prop where
  quality : if quality.isNull then p'.quality = clampQuality p.quality
    else quality.Quality reader p'.quality
  format : if format.isNull then p'.format = p.format else format.Names p'.format

variable {reader : IntegerReader} {p p' : Params} {quality format : Value}

lemma ofValues_eq_ok_iff : ofValues reader quality format = .ok p ↔
    readQuality reader quality = .ok p.quality ∧ Format.read format = .ok p.format := by
  -- The format is read first, so that its failure may hide one of the quality.
  constructor
  · intro built
    refine ⟨quality_of_ofValues built, ?_⟩
    unfold ofValues at built
    cases read : Format.read format with
    | ok f =>
      cases first : readQuality reader quality with
      | ok q =>
        rw [read, first] at built
        cases built
        rfl
      | error e =>
        rw [read, first] at built
        cases e <;> cases built
    | error e =>
      cases first : readQuality reader quality with
      | ok q =>
        rw [read, first] at built
        cases built
      | error e' =>
        rw [read, first] at built
        cases e' <;> cases built
  · rintro ⟨quality, format⟩
    unfold ofValues
    rw [quality, format]
    rfl

lemma ofValues_eq_infinite_iff :
    ofValues reader quality format = .error .infiniteQuality ↔ quality.IsInfinite := by
  rw [← readQuality_eq_infinite_iff]
  unfold ofValues
  generalize Checked.field "format" _ = checked
  cases readQuality reader quality with
  | ok q => cases checked <;> simp [Functor.map, Checked.map, Seq.seq, Checked.seq]
  | error e =>
    cases e with
    | infinite => simp
    | problem e => cases checked <;> simp [Functor.map, Checked.map, Seq.seq, Checked.seq]

/-- A change succeeds just when it can be taken. -/
lemma change_eq_ok_iff :
    p.change reader quality format = .ok p' ↔ p.Takes reader quality format p' := by
  -- What is absent is taken from the parameters in force, and reading that back gives it clamped.
  have own : readQuality reader (.int p.quality) = .ok p'.quality ↔
      p'.quality = clampQuality p.quality := by
    simp [readQuality, eq_comm]
  have same : Format.read (.text p.format.name) = .ok p'.format ↔ p'.format = p.format := by
    simp [Format.read_name, eq_comm]
  rw [change, ofValues_eq_ok_iff]
  constructor
  · rintro ⟨first, second⟩
    constructor
    · split_ifs at first ⊢ with kept
      · exact own.mp first
      · exact readQuality_eq_ok_iff.mp first
    · split_ifs at second ⊢ with kept
      · exact same.mp second
      · exact Format.read_eq_ok_iff.mp second
  · rintro ⟨first, second⟩
    constructor
    · split_ifs at first ⊢ with kept
      · exact own.mpr first
      · exact readQuality_eq_ok_iff.mpr first
    · split_ifs at second ⊢ with kept
      · exact same.mpr second
      · exact Format.read_eq_ok_iff.mpr second

/-- A change fails by an infinity just when one is asked for. -/
lemma change_eq_infinite_iff :
    p.change reader quality format = .error .infiniteQuality ↔ quality.IsInfinite := by
  rw [change, ofValues_eq_infinite_iff]
  cases quality <;> simp [Value.isNull, Value.IsInfinite]

/-- A change that does not succeed reports fields, unless an infinity is asked for. -/
lemma fields_of_change {problem : ParamsError}
    (refused : p.change reader quality format = .error problem)
    (bounded : ¬quality.IsInfinite) : ∃ errors, problem = .fields errors := by
  cases problem with
  | fields errors => exact ⟨errors, rfl⟩
  | infiniteQuality => exact absurd (change_eq_infinite_iff.mp refused) bounded
  | unknownField name =>
    unfold change ofValues at refused
    generalize Checked.field "format" _ = checked at refused
    split at refused
    · cases checked <;> simp [Functor.map, Checked.map, Seq.seq, Checked.seq] at refused
    · cases checked <;> simp [Functor.map, Checked.map, Seq.seq, Checked.seq] at refused
    · simp at refused

/-- Whether a change can be taken depends on what is asked for alone. -/
lemma exists_takes_iff : (∃ p', p.Takes reader quality format p') ↔
    (quality.isNull = true ∨ ∃ q, quality.Quality reader q) ∧
      (format.isNull = true ∨ ∃ f, format.Names f) := by
  constructor
  · rintro ⟨p', first, second⟩
    constructor
    · split_ifs at first with kept
      · exact .inl kept
      · exact .inr ⟨_, first⟩
    · split_ifs at second with kept
      · exact .inl kept
      · exact .inr ⟨_, second⟩
  · rintro ⟨first, second⟩
    obtain ⟨q, quality⟩ : ∃ q, if quality.isNull then q = clampQuality p.quality
        else quality.Quality reader q := by
      split_ifs with null
      · exact ⟨_, rfl⟩
      · exact first.resolve_left null
    obtain ⟨f, format⟩ : ∃ f, if format.isNull then f = p.format else format.Names f := by
      split_ifs with null
      · exact ⟨_, rfl⟩
      · exact second.resolve_left null
    exact ⟨⟨q, f⟩, quality, format⟩

end Params

end Reencode
