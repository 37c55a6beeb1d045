import Mathlib.Data.List.DropRight
import Reencode.Params.Basic

/-!
# Spellings of an integer

A quality may be spelled in several ways, and a text is read by one of two grammars.  The first one
takes digits of any script, grouped by single underscores; the second one digits of ASCII alone, but
also a point and zeros after them, and zeros and underscores mixed in front; and they do not even
agree on which blanks may stand around.  Still they never disagree on the integer
(`lenientInteger_agrees`).  Without its blanks a text that both can read is one text to them
(`trimChars_eq_trimLenient`), and each of them gives what the digits of the text are worth, turned
if there is a minus (`spelled`): whatever a grammar skips is worth nothing.
-/

namespace Reencode

/-! ## Blanks around a text -/

namespace Text

lemma dropWhile_of_head {text : List Char} (first : ∀ c ∈ text.head?, isBlank c = false) :
    text.dropWhile isBlank = text := by
  cases text with
  | nil => rfl
  | cons c rest => exact List.dropWhile_cons_of_neg (by simp [first c rfl])

/-- Blanks around something that neither begins nor ends with one are removed. -/
lemma trimChars_of_framed {before text after : List Char} (blank : ∀ c ∈ before, isBlank c = true)
    (blank' : ∀ c ∈ after, isBlank c = true) (first : ∀ c ∈ text.head?, isBlank c = false)
    (last : ∀ c ∈ text.getLast?, isBlank c = false) (some : text ≠ []) :
    trimChars (before ++ text ++ after) = text := by
  have front : (before ++ text ++ after).dropWhile isBlank = text ++ after := by
    rw [List.append_assoc, List.dropWhile_append_of_pos blank]
    refine dropWhile_of_head fun c mem => first c ?_
    rwa [List.head?_append_of_ne_nil _ some] at mem
  have back : (text ++ after).reverse.dropWhile isBlank = text.reverse := by
    rw [List.reverse_append,
      List.dropWhile_append_of_pos fun c mem => blank' c (List.mem_reverse.mp mem)]
    refine dropWhile_of_head fun c mem => last c ?_
    rwa [List.head?_reverse] at mem
  rw [trimChars, front, back, List.reverse_reverse]

lemma trimChars_idem (text : List Char) : trimChars (trimChars text) = trimChars text := by
  -- After trimming on the left the first character is no blank, and trimming on the right keeps it.
  have first : (trimChars text).dropWhile isBlank = trimChars text := by
    refine dropWhile_of_head fun c mem => ?_
    obtain ⟨rest, split⟩ := List.rdropWhile_prefix isBlank (text.dropWhile isBlank)
    have kept : c ∈ (text.dropWhile isBlank).head? := by
      rw [← split]
      cases whole : (text.dropWhile isBlank).rdropWhile isBlank with
      | nil =>
        rw [trimChars, ← List.rdropWhile, whole] at mem
        cases mem
      | cons d others =>
        rw [trimChars, ← List.rdropWhile, whole] at mem
        exact mem
    have := List.head?_dropWhile_not isBlank text
    rw [Option.mem_def.mp kept] at this
    exact this
  calc trimChars (trimChars text) = (trimChars text).rdropWhile isBlank := by
        rw [trimChars, first, List.rdropWhile]
    _ = trimChars text := List.rdropWhile_idempotent _ _

/-- A decimal digit is no blank. -/
lemma isBlank_of_decimal {c : Char} (digit : (decimalValue? c).isSome = true) :
    isBlank c = false := by
  have apart : ∀ z ∈ zeros, ∀ p ∈ blankRanges, z + 9 < p.1 ∨ p.2 < z := by decide
  rw [decimalValue?, Option.isSome_map, List.find?_isSome] at digit
  obtain ⟨z, hz, low, high⟩ : ∃ z ∈ zeros, z ≤ c.toNat ∧ c.toNat ≤ z + 9 := by simpa using digit
  refine Bool.eq_false_iff.mpr fun blank => ?_
  obtain ⟨p, hp, low', high'⟩ := Ranges.covers_iff.mp blank
  have := apart z hz p hp
  omega

end Text

lemma isBlank_of_isLenientBlank {c : Char} (blank : isLenientBlank c = true) :
    Text.isBlank c = true := by
  simp only [isLenientBlank, Bool.and_eq_true] at blank
  exact blank.1

/-- What a lenient reading removes are blanks around the text. -/
lemma exists_of_trimLenient (text : List Char) : ∃ before after,
    text = before ++ trimLenient text ++ after ∧ (∀ c ∈ before, Text.isBlank c = true) ∧
      ∀ c ∈ after, Text.isBlank c = true := by
  refine ⟨text.takeWhile isLenientBlank, (text.dropWhile isLenientBlank).rtakeWhile isLenientBlank,
    ?_, ?_, ?_⟩
  · show text = text.takeWhile isLenientBlank ++
      (text.dropWhile isLenientBlank).rdropWhile isLenientBlank ++ _
    rw [List.append_assoc, List.rdropWhile_append_rtakeWhile, List.takeWhile_append_dropWhile]
  · exact fun c mem => isBlank_of_isLenientBlank (List.mem_takeWhile_imp mem)
  · exact fun c mem => isBlank_of_isLenientBlank (List.mem_rtakeWhile_imp mem)

/-- A text that has no blanks but those that a lenient reading removes is trimmed the same way. -/
lemma trimChars_eq_trimLenient {text : List Char} (present : trimLenient text ≠ [])
    (plain : ∀ c ∈ trimLenient text, Text.isBlank c = false) :
    Text.trimChars text = trimLenient text := by
  obtain ⟨before, after, split, blank, blank'⟩ := exists_of_trimLenient text
  conv_lhs => rw [split]
  exact Text.trimChars_of_framed blank blank' (fun c mem => plain c (List.mem_of_head? mem))
    (fun c mem => plain c (List.mem_of_getLast? mem)) present

/-! ## What a text spells -/

/-- What the digits of a text are worth, turned if there is a minus anywhere. -/
def spelled (text : List Char) : Int :=
  if '-' ∈ text then -(ofDigits (text.filterMap Text.decimalValue?) : Int)
  else ofDigits (text.filterMap Text.decimalValue?)

/-- A character that is no minus and worth nothing may go. -/
lemma spelled_cons {c : Char} {text : List Char} (other : c ≠ '-')
    (worthless : Text.decimalValue? c = none) : spelled (c :: text) = spelled text := by
  have minus : '-' ∈ c :: text ↔ '-' ∈ text := by simp [other.symm]
  simp only [spelled, minus, List.filterMap_cons_none worthless]

lemma spelled_zero_cons (text : List Char) : spelled ('0' :: text) = spelled text := by
  have worth : ('0' :: text).filterMap Text.decimalValue? =
      0 :: text.filterMap Text.decimalValue? := List.filterMap_cons_some (by decide)
  have minus : '-' ∈ '0' :: text ↔ '-' ∈ text := by simp
  simp only [spelled, minus, worth]
  rfl

/-- Zeros in front are worth nothing, and underscores neither. -/
lemma spelled_append_of_zeros {skipped text : List Char}
    (zeros : ∀ c ∈ skipped, c = '0' ∨ c = '_') : spelled (skipped ++ text) = spelled text := by
  induction skipped with
  | nil => rfl
  | cons c skipped ih =>
    rw [List.cons_append]
    rcases zeros c List.mem_cons_self with rfl | rfl
    · rw [spelled_zero_cons, ih fun c mem => zeros c (List.mem_cons_of_mem _ mem)]
    · rw [spelled_cons (by decide) (by decide),
        ih fun c mem => zeros c (List.mem_cons_of_mem _ mem)]

lemma decimalValue?_of_isDigit {c : Char} (digit : c.isDigit = true) :
    Text.decimalValue? c = some (c.toNat - '0'.toNat) := by
  have bounds : 0x30 ≤ c.toNat ∧ c.toNat ≤ 0x39 := by
    simpa [Char.isDigit, UInt32.le_iff_toNat_le] using digit
  simp [Text.decimalValue?, Text.zeros, bounds]

/-! ## The first grammar -/

/-- Digits that make up a whole text are those of the text, and only underscores are between. -/
lemma takeDigitsFrom_whole {text : List Char} : ∀ {afterDigit : Bool} {digits : List Nat},
    takeDigitsFrom afterDigit text = (digits, []) → digits = text.filterMap Text.decimalValue? ∧
      ∀ c ∈ text, (Text.decimalValue? c).isSome = true ∨ c = '_' := by
  -- Whether an underscore may stand here depends on what was before, so that has to vary.
  induction text with
  | nil =>
    intro _ _ taken
    cases taken
    exact ⟨rfl, fun c mem => by cases mem⟩
  | cons c rest ih =>
    intro afterDigit digits taken
    rw [takeDigitsFrom] at taken
    split at taken
    · rename_i d value
      rcases taken' : takeDigitsFrom true rest with ⟨more, tail⟩
      rw [taken'] at taken
      cases taken
      obtain ⟨rfl, others⟩ := ih taken'
      refine ⟨(List.filterMap_cons_some value).symm, ?_⟩
      rintro e (_ | ⟨_, mem⟩)
      · exact .inl (by rw [value]; rfl)
      · exact others e mem
    · rename_i value
      split at taken
      · rename_i grouped
        simp only [Bool.and_eq_true, beq_iff_eq] at grouped
        obtain ⟨rfl, others⟩ := ih taken
        refine ⟨(List.filterMap_cons_none value).symm, ?_⟩
        rintro e (_ | ⟨_, mem⟩)
        · exact .inr grouped.1.2
        · exact others e mem
      · cases taken

/-- The first grammar reads what a text spells, and the text has no point. -/
lemma readInteger_eq_spelled {s : String} {n : Int} (read : readInteger s = .ok n) :
    n = spelled (Text.trimChars s.toList) ∧ '.' ∉ Text.trimChars s.toList := by
  unfold readInteger at read
  generalize Text.trimChars s.toList = text at read ⊢
  rcases signed : takeSign text with ⟨negative, body⟩
  rcases taken : takeDigits body with ⟨digits, rest⟩
  simp only [signed, taken] at read
  split at read
  · cases read
  split at read
  · cases read
  rename_i sound
  simp only [Bool.or_eq_true, not_or, Bool.not_eq_true, Bool.not_eq_false', List.isEmpty_iff]
    at sound
  obtain rfl := sound.2
  obtain ⟨rfl, plain⟩ := takeDigitsFrom_whole taken
  -- No character without a worth, but for underscores, is left in the body.
  have absent {c : Char} (worthless : Text.decimalValue? c = none) (other : c ≠ '_') :
      c ∉ body := by
    intro mem
    rcases plain c mem with digit | rfl
    · rw [worthless] at digit
      cases digit
    · exact other rfl
  have no_minus : '-' ∉ body := absent (by decide) (by decide)
  have no_point : '.' ∉ body := absent (by decide) (by decide)
  cases read
  unfold takeSign at signed
  split at signed <;> cases signed
  · refine ⟨?_, by simp [no_point]⟩
    have worth : Text.decimalValue? '-' = none := by decide
    simp [spelled, List.filterMap_cons_none worth]
  · refine ⟨?_, by simp [no_point]⟩
    rw [spelled_cons (by decide) (by decide)]
    simp [spelled, no_minus]
  · exact ⟨by simp [spelled, no_minus], no_point⟩

/-! ## The second grammar -/

/-- A reader gives the integer of the digits wherever the digits alone can be read as well. -/
def IntegerReader.Agrees (reader : IntegerReader) : Prop :=
  ∀ ⦃s m n⦄, reader s = .ok m → readInteger s = .ok n → m = n

lemma lenientInteger_eq_ok_iff {s : String} {n : Int} :
    lenientInteger s = .ok n ↔ lenientInteger? s = some n := by
  rw [lenientInteger]
  split <;> simp_all

/-- The characters of a text that the second grammar takes. -/
def IsPlain (c : Char) : Prop := c.isDigit = true ∨ c ∈ ['+', '-', '_', '.']

lemma IsPlain.isBlank_eq {c : Char} (plain : IsPlain c) : Text.isBlank c = false := by
  rcases plain with digit | mark
  · exact Text.isBlank_of_decimal (by rw [decimalValue?_of_isDigit digit]; rfl)
  · simp only [List.mem_cons, List.not_mem_nil, or_false] at mark
    rcases mark with rfl | rfl | rfl | rfl <;> decide

lemma dropPlus_eq_some {text rest : List Char} (dropped : dropPlus text = some rest) :
    text = rest ∨ text = '+' :: rest := by
  unfold dropPlus at dropped
  split at dropped <;> simp_all

/-- Only zeros and underscores are skipped in front. -/
lemma skipZeros_split {text : List Char} : ∀ {last : Char} {rest : List Char},
    skipZeros last text = some rest → last = '0' ∨ last = '_' →
      ∃ skipped, last :: text = skipped ++ rest ∧ ∀ c ∈ skipped, c = '0' ∨ c = '_' := by
  induction text with
  | nil =>
    intro last rest skips zero
    cases skips
    exact ⟨[], rfl, by simp⟩
  | cons c text ih =>
    intro last rest skips zero
    rw [skipZeros] at skips
    split_ifs at skips with more digit point
    -- Zeros and underscores are skipped up to the first digit, or the point, that stays.
    · obtain ⟨skipped, split, zeros⟩ := ih skips (by simpa using more)
      refine ⟨last :: skipped, by rw [split]; rfl, ?_⟩
      rintro d (_ | ⟨_, mem⟩)
      · exact zero
      · exact zeros d mem
    · cases skips
      exact ⟨[last], rfl, by simpa using zero⟩
    · cases skips
      exact ⟨[], rfl, by simp⟩

lemma dropLeadingZeros_split {text rest : List Char}
    (dropped : dropLeadingZeros text = some rest) :
    ∃ skipped, text = skipped ++ rest ∧ ∀ c ∈ skipped, c = '0' ∨ c = '_' := by
  cases text with
  | nil => cases dropped
  | cons c text =>
    rw [dropLeadingZeros] at dropped
    split_ifs at dropped with zero
    · exact skipZeros_split dropped (.inl zero)
    · cases dropped
      exact ⟨[], rfl, by simp⟩

lemma dropFraction_split (text : List Char) :
    ∃ gone, text = dropFraction text ++ gone ∧ ∀ c ∈ gone, c = '.' ∨ c = '0' := by
  unfold dropFraction
  dsimp only
  split_ifs with fraction
  · refine ⟨text.dropWhile (· != '.'), (List.takeWhile_append_dropWhile).symm, ?_⟩
    simp only [Bool.and_eq_true, List.all_eq_true, beq_iff_eq] at fraction
    cases point : text.dropWhile (· != '.') with
    | nil => simp
    | cons c zeros =>
      have first := List.head?_dropWhile_not (· != '.') text
      rw [point] at first fraction
      rintro d (_ | ⟨_, mem⟩)
      · exact .inl (by simpa using first)
      · exact .inr (fraction.2 d mem)
  · exact ⟨[], (List.append_nil _).symm, by simp⟩

lemma dropFraction_of_no_point {text : List Char} (absent : '.' ∉ text) :
    dropFraction text = text := by
  have whole : text.takeWhile (· != '.') = text :=
    List.takeWhile_eq_self_iff.mpr fun c mem => by
      simpa using fun same : c = '.' => absent (same ▸ mem)
  unfold dropFraction
  dsimp only
  split_ifs
  · exact whole
  · rfl

lemma ungroup_eq (text : List Char) :
    ungroup text = text ∨ ungroup text = text.filter (· != '_') := by
  unfold ungroup
  split_ifs
  · exact .inl rfl
  · exact .inr rfl

lemma spelled_ungroup (text : List Char) : spelled (ungroup text) = spelled text := by
  rcases ungroup_eq text with same | filtered
  · rw [same]
  · have worth : (text.filter (· != '_')).filterMap Text.decimalValue? =
        text.filterMap Text.decimalValue? := by
      rw [List.filterMap_filter]
      refine List.filterMap_congr fun c _ => ?_
      by_cases underscore : c = '_'
      · subst underscore
        decide
      · simp [underscore]
    rw [filtered, spelled, spelled, worth]
    simp

lemma plainNat?_eq_some {digits : List Char} {n : Nat} (read : plainNat? digits = some n) :
    (n : Int) = spelled digits ∧ digits ≠ [] ∧ ∀ c ∈ digits, c.isDigit = true := by
  unfold plainNat? at read
  split at read
  · cases read
  rename_i sound
  simp only [Bool.or_eq_true, not_or, Bool.not_eq_true, Bool.not_eq_false', List.all_eq_true,
    List.isEmpty_eq_false_iff] at sound
  obtain ⟨⟨⟨present, all⟩, -⟩, -⟩ := sound
  have no_minus : '-' ∉ digits := fun mem => absurd (all '-' mem) (by decide)
  cases read
  exact ⟨by rw [spelled, if_neg no_minus], present, all⟩

/-- What is left in the end is digits, and a minus in front of them if any. -/
lemma plainInteger?_eq_some {text : List Char} {n : Int} (read : plainInteger? text = some n) :
    n = spelled text ∧ text ≠ [] ∧ ∀ c ∈ text, c.isDigit = true ∨ c = '-' := by
  unfold plainInteger? at read
  split at read
  · rename_i digits
    obtain ⟨m, number, rfl⟩ := Option.map_eq_some_iff.mp read
    obtain ⟨worth, -, all⟩ := plainNat?_eq_some number
    have no_minus : '-' ∉ digits := fun mem => absurd (all '-' mem) (by decide)
    have worthless : Text.decimalValue? '-' = none := by decide
    refine ⟨?_, by simp, by simpa using fun c mem => .inl (all c mem)⟩
    rw [worth]
    simp [spelled, no_minus, List.filterMap_cons_none worthless]
  · obtain ⟨m, number, rfl⟩ := Option.map_eq_some_iff.mp read
    obtain ⟨worth, present, all⟩ := plainNat?_eq_some number
    exact ⟨worth, present, fun c mem => .inl (all c mem)⟩

section Plain

variable {text rest : List Char}

/-! Each stage of the second grammar takes away nothing but plain characters. -/

lemma isPlain_of_dropPlus (dropped : dropPlus text = some rest) (plain : ∀ c ∈ rest, IsPlain c) :
    ∀ c ∈ text, IsPlain c := by
  rcases dropPlus_eq_some dropped with rfl | rfl
  · exact plain
  · rintro c (_ | ⟨_, mem⟩)
    · exact .inr (by simp)
    · exact plain c mem

lemma isPlain_of_dropLeadingZeros (dropped : dropLeadingZeros text = some rest)
    (plain : ∀ c ∈ rest, IsPlain c) : ∀ c ∈ text, IsPlain c := by
  obtain ⟨skipped, rfl, zero⟩ := dropLeadingZeros_split dropped
  intro c mem
  rcases List.mem_append.mp mem with mem | mem
  · rcases zero c mem with rfl | rfl
    · exact .inl (by decide)
    · exact .inr (by simp)
  · exact plain c mem

lemma isPlain_of_dropFraction (plain : ∀ c ∈ dropFraction text, IsPlain c) :
    ∀ c ∈ text, IsPlain c := by
  obtain ⟨gone, split, fraction⟩ := dropFraction_split text
  rw [split]
  intro c mem
  rcases List.mem_append.mp mem with mem | mem
  · exact plain c mem
  · rcases fraction c mem with rfl | rfl
    · exact .inr (by simp)
    · exact .inl (by decide)

lemma isPlain_of_ungroup (plain : ∀ c ∈ ungroup text, IsPlain c) : ∀ c ∈ text, IsPlain c := by
  intro c mem
  by_cases underscore : c = '_'
  · exact .inr (by simp [underscore])
  · refine plain c ?_
    rcases ungroup_eq text with same | filtered
    · rwa [same]
    · simpa [filtered, underscore] using mem

end Plain

/-- The second grammar takes plain texts alone, and reads what they spell if they have no point. -/
lemma lenientInteger?_eq_spelled {s : String} {n : Int} (read : lenientInteger? s = some n) :
    trimLenient s.toList ≠ [] ∧ (∀ c ∈ trimLenient s.toList, IsPlain c) ∧
      ('.' ∉ trimLenient s.toList → n = spelled (trimLenient s.toList)) := by
  unfold lenientInteger? at read
  generalize trimLenient s.toList = text at read ⊢
  simp only [Option.bind_eq_bind, Option.bind_eq_some_iff] at read
  obtain ⟨unsigned, plus, digits, zeros, number⟩ := read
  obtain ⟨rfl, present, final⟩ := plainInteger?_eq_some number
  have plain : ∀ c ∈ text, IsPlain c :=
    isPlain_of_dropPlus plus <| isPlain_of_dropLeadingZeros zeros <| isPlain_of_dropFraction <|
      isPlain_of_ungroup fun c mem => (final c mem).imp_right fun minus => by simp [minus]
  -- What is taken away is worth nothing, as long as there is no point.
  obtain ⟨skipped, rfl, zero⟩ := dropLeadingZeros_split zeros
  have worth : '.' ∉ digits → spelled (ungroup (dropFraction digits)) =
      spelled (skipped ++ digits) := by
    intro absent
    rw [spelled_ungroup, dropFraction_of_no_point absent, spelled_append_of_zeros zero]
  rcases dropPlus_eq_some plus with rfl | rfl
  · refine ⟨fun none => ?_, plain, fun absent => worth fun mem => absent (by simp [mem])⟩
    obtain rfl := (List.append_eq_nil_iff.mp none).2
    exact present rfl
  · refine ⟨by simp, plain, fun absent => ?_⟩
    rw [spelled_cons (by decide) (by decide)]
    exact worth fun mem => absent (by simp [mem])

/-- **The two grammars agree on what both can read.** -/
theorem lenientInteger_agrees : lenientInteger.Agrees := by
  intro s m n lenient read
  obtain ⟨present, plain, worth⟩ := lenientInteger?_eq_spelled (lenientInteger_eq_ok_iff.mp lenient)
  obtain ⟨rfl, absent⟩ := readInteger_eq_spelled read
  rw [trimChars_eq_trimLenient present fun c mem => (plain c mem).isBlank_eq] at absent ⊢
  exact worth absent

/-- Blanks around a text do not matter to what it is read as. -/
lemma readInteger_trim {s : String} {n : Int} :
    readInteger (Text.trim s) = .ok n ↔ readInteger s = .ok n := by
  unfold readInteger
  rw [Text.trim, String.toList_ofList, Text.trimChars_idem]
  dsimp only
  split
  · simp
  · split <;> simp

end Reencode
