import Mathlib.Data.List.Induction
import Mathlib.Data.List.Nodup
import Mathlib.Data.List.Perm.Subperm
import Reencode.Naming.Unique
import Reencode.Proofs.Naming.Stem

/-!
# Names that are given out

A name that is given out was free (`UniqueNames.choose_not_mem`).  A requested name that is free is
given out as it is, and in the place of any other the first free one of its numbered variants.
There is one, because the variants of a name are distinct, so not all of the first `n + 1` of them
can be among the `n` names that are taken.  Hence trying them one after the other comes to an end
(`UniqueNames.Search`), and it comes to the one that is given out.

A new allocator is followed through all requests (`UniqueNames.given`): the names that are taken are
those it gave out, and their order does not matter for the next one.
-/

namespace Reencode

lemma toList_toString_inj {j k : Nat} (same : (toString j).toList = (toString k).toList) :
    j = k := by
  simp only [Nat.toString_eq_ofList_toDigits, String.toList_ofList] at same
  have values := congrArg (fun digits => Nat.ofDigitChars 10 digits 0) same
  simpa using values

namespace UniqueNames

variable {u : UniqueNames} {name : String}

/-- The first number that leads from a name to a free one. -/
structure FirstFree (u : UniqueNames) (name : String) (k : Nat) : Prop where
  positive : 1 ≤ k
  free : numbered name k ∉ u.taken
  least : ∀ j, 1 ≤ j → j < k → numbered name j ∈ u.taken

lemma numbered_inj {j k : Nat} (same : numbered name j = numbered name k) : j = k := by
  have chars := String.ofList_injective same
  simp only [List.append_assoc, List.cons_append] at chars
  have digits := (List.cons.inj (List.append_cancel_left chars)).2
  exact toList_toString_inj (List.append_cancel_right digits)

/-- The first variants of a name. -/
def variants (name : String) (n : Nat) : List String :=
  (List.range n).map fun i => numbered name (i + 1)

lemma nodup_variants (name : String) (n : Nat) : (variants name n).Nodup := by
  refine List.Nodup.map_on ?_ List.nodup_range
  intro i _ j _ same
  have := numbered_inj same
  omega

/-- Not all of the first variants are taken. -/
lemma exists_free (u : UniqueNames) (name : String) :
    ∃ i < u.taken.length + 1, numbered name (i + 1) ∉ u.taken := by
  by_contra none_free
  push Not at none_free
  have within : variants name (u.taken.length + 1) ⊆ u.taken := by
    intro other mem
    obtain ⟨i, hi, rfl⟩ := List.mem_map.mp mem
    exact none_free i (List.mem_range.mp hi)
  have fits := (List.subperm_of_subset (nodup_variants name _) within).length_le
  rw [variants, List.length_map, List.length_range] at fits
  omega

lemma choose_of_free (free : name ∉ u.taken) : u.choose name = name := if_neg free

/-- In the place of a name that is taken, the first free one of its variants is given out. -/
lemma choose_of_taken (taken : name ∈ u.taken) :
    ∃ k, u.FirstFree name k ∧ u.choose name = numbered name k := by
  obtain ⟨i, found⟩ : ∃ i, (List.range (u.taken.length + 1)).find?
      ((fun k => decide (numbered name k ∉ u.taken)) ∘ (· + 1)) = some i := by
    -- Some number up to one more than there are taken names is free, so the search ends with the
    -- least one.
    obtain ⟨i, hi, free⟩ := u.exists_free name
    rw [← Option.isSome_iff_exists, List.find?_isSome]
    exact ⟨i, List.mem_range.mpr hi, by simpa using free⟩
  obtain ⟨free, -, least⟩ := List.find?_range_eq_some.mp found
  refine ⟨i + 1, ⟨by omega, by simpa using free, ?_⟩, ?_⟩
  · intro j positive below
    obtain ⟨n, rfl⟩ : ∃ n, j = n + 1 := ⟨j - 1, by omega⟩
    simpa using least n (by omega)
  · rw [choose, if_pos taken]
    dsimp only
    rw [List.find?_map, found]
    rfl

/-- What is given out was free. -/
theorem choose_not_mem (u : UniqueNames) (name : String) : u.choose name ∉ u.taken := by
  by_cases taken : name ∈ u.taken
  · obtain ⟨k, first, chosen⟩ := choose_of_taken taken
    rw [chosen]
    exact first.free
  · rw [choose_of_free taken]
    exact taken

/-- A variant of an exported name has the number before the extension. -/
lemma numbered_exportName (named : name ≠ "") (f : Format) (k : Nat) :
    numbered (exportName name f) k =
      fileStem name ++ "_" ++ toString k ++ "." ++ f.extension := by
  have rest : (exportName name f).toList.drop (stemChars name.toList).length =
      '.' :: f.extension.toList := by
    rw [toList_exportName, List.drop_left]
  rw [numbered, stemChars_exportName named]
  apply String.toList_injective
  simp [rest, fileStem]

/-! ## Variants -/

/-- A variant of a name has the number between the stem and the rest. -/
lemma exists_numbered_eq (name : String) : ∃ suffix, name = fileStem name ++ suffix ∧
    ∀ k, numbered name k = fileStem name ++ "_" ++ toString k ++ suffix := by
  refine ⟨String.ofList (name.toList.drop (stemChars name.toList).length), ?_, fun k => ?_⟩
  · apply String.toList_injective
    rw [String.toList_append, fileStem, String.toList_ofList, String.toList_ofList]
    conv_rhs => rw [List.prefix_iff_eq_append.mp (stemChars_isPrefix name.toList)]
  · apply String.toList_injective
    simp [numbered, fileStem]

lemma numbered_ne (name : String) (k : Nat) : numbered name k ≠ name := by
  obtain ⟨suffix, whole, variant⟩ := exists_numbered_eq name
  intro same
  have lengths := congrArg String.length same
  rw [variant] at lengths
  conv_rhs at lengths => rw [whole]
  simp only [String.length_append] at lengths
  have one : "_".length = 1 := rfl
  omega

/-- No more numbers are tried than names are taken: the name itself is one of them and none of its
variants. -/
lemma FirstFree.le_length (first : u.FirstFree name k) (taken : name ∈ u.taken) :
    k ≤ u.taken.length := by
  have distinct : (name :: variants name (k - 1)).Nodup := by
    refine List.nodup_cons.mpr ⟨fun mem => ?_, nodup_variants name _⟩
    obtain ⟨i, -, same⟩ := List.mem_map.mp mem
    exact numbered_ne name _ same
  have within : name :: variants name (k - 1) ⊆ u.taken := by
    refine List.cons_subset.mpr ⟨taken, fun other mem => ?_⟩
    obtain ⟨i, below, rfl⟩ := List.mem_map.mp mem
    have := List.mem_range.mp below
    exact first.least (i + 1) (by omega) (by omega)
  have fits := (List.subperm_of_subset distinct within).length_le
  rw [List.length_cons, variants, List.length_map, List.length_range] at fits
  have := first.positive
  omega

/-- Trying one number after the other, from `k` on, until one leads to a free name. -/
inductive Search (taken : List String) (name : String) : Nat → String → Prop
  | found {k : Nat} (free : numbered name k ∉ taken) : Search taken name k (numbered name k)
  | onward {k : Nat} {result : String} (used : numbered name k ∈ taken)
      (rest : Search taken name (k + 1) result) : Search taken name k result

/-- The search ends at the first number that leads to a free name. -/
lemma FirstFree.search (first : u.FirstFree name k) : Search u.taken name 1 (numbered name k) := by
  have from_below : ∀ n < k, Search u.taken name (k - n) (numbered name k) := by
    intro n
    induction n with
    | zero => exact fun _ => .found first.free
    | succ n ih =>
      intro below
      refine .onward (first.least _ (by omega) (by omega)) ?_
      have next : k - (n + 1) + 1 = k - n := by omega
      rw [next]
      exact ih (by omega)
  have positive := first.positive
  have start := from_below (k - 1) (by omega)
  rwa [Nat.sub_sub_self positive] at start

/-- What answers a request for a name when some names were given out. No name is given out twice,
and a name that nobody has is given out as it is. For any other, one number after the other is
tried; that comes to an end, with the first number that makes a name nobody has. -/
structure Answers (given : List String) (name chosen : String) : Prop where
  fresh : chosen ∉ given
  kept : name ∉ given → chosen = name
  ends : name ∈ given → Search given name 1 chosen
  numbered : name ∈ given → ∃ suffix k, name = fileStem name ++ suffix ∧ 1 ≤ k ∧
    k ≤ given.length ∧ chosen = fileStem name ++ "_" ++ toString k ++ suffix ∧
    ∀ j, 1 ≤ j → j < k → fileStem name ++ "_" ++ toString j ++ suffix ∈ given

lemma choose_answers (u : UniqueNames) (name : String) :
    Answers u.taken name (u.choose name) where
  fresh := u.choose_not_mem name
  kept := choose_of_free
  ends := by
    intro taken
    obtain ⟨k, first, chosen⟩ := choose_of_taken taken
    exact chosen ▸ first.search
  numbered := by
    intro taken
    obtain ⟨k, first, chosen⟩ := choose_of_taken taken
    obtain ⟨suffix, whole, variant⟩ := exists_numbered_eq name
    refine ⟨suffix, k, whole, first.positive, first.le_length taken, chosen.trans (variant k), ?_⟩
    intro j positive below
    exact variant j ▸ first.least j positive below

/-! ## One request after the other -/

/-- The names given out for requests to a new allocator. -/
def given (requests : List String) : List String := (empty.allocateAll requests).1

lemma taken_allocateAll (u : UniqueNames) (requests : List String) :
    (u.allocateAll requests).2.taken = (u.allocateAll requests).1.reverse ++ u.taken := by
  induction requests generalizing u with
  | nil => rfl
  | cons name rest ih =>
    simp only [allocateAll, allocate, List.reverse_cons, List.append_assoc]
    exact ih _

lemma allocateAll_concat (u : UniqueNames) (requests : List String) (name : String) :
    (u.allocateAll (requests ++ [name])).1 =
      (u.allocateAll requests).1 ++ [(u.allocateAll requests).2.choose name] := by
  induction requests generalizing u with
  | nil => rfl
  | cons first rest ih =>
    simp only [List.cons_append, allocateAll, ih]

/-- It does not matter in which order names were taken. -/
lemma choose_reverse (names : List String) (name : String) :
    choose ⟨names.reverse⟩ name = choose ⟨names⟩ name := by
  simp [choose]

lemma given_concat (requests : List String) (name : String) :
    given (requests ++ [name]) = given requests ++ [choose ⟨given requests⟩ name] := by
  have taken : (empty.allocateAll requests).2 = ⟨(given requests).reverse⟩ := by
    have names := empty.taken_allocateAll requests
    rw [show empty.taken = [] from rfl, List.append_nil] at names
    exact congrArg UniqueNames.mk names
  rw [given, allocateAll_concat, taken, choose_reverse]
  rfl

lemma given_length (requests : List String) : (given requests).length = requests.length := by
  induction requests using List.reverseRecOn with
  | nil => rfl
  | append_singleton earlier name ih =>
    simp only [given_concat, List.length_append, ih, List.length_singleton]

lemma nodup_given (requests : List String) : (given requests).Nodup := by
  induction requests using List.reverseRecOn with
  | nil => exact List.nodup_nil
  | append_singleton earlier name ih =>
    rw [given_concat]
    refine ih.append (List.nodup_singleton _) ?_
    simpa using choose_not_mem ⟨given earlier⟩ name

/-- **Names are told apart.**  Whatever was requested so far, there is an answer to each request and
no two of them are the same; and the next request is answered with the requested name if it was not
given out, and otherwise with the first of its numbered variants that was not. -/
theorem requests_are_told_apart (requests : List String) :
    (given requests).length = requests.length ∧ (given requests).Nodup ∧
      ∀ name, ∃ chosen, given (requests ++ [name]) = given requests ++ [chosen] ∧
        Answers (given requests) name chosen :=
  ⟨given_length requests, nodup_given requests, fun name =>
    ⟨_, given_concat requests name, choose_answers ⟨given requests⟩ name⟩⟩

/-- A hidden name is all stem, and a variant may have been requested as such before. -/
example : given ["a.jpg", "a_1.jpg", ".a", "a.jpg", ".a", "a.jpg"] =
    ["a.jpg", "a_1.jpg", ".a", "a_2.jpg", ".a_1", "a_3.jpg"] := by decide +kernel

end UniqueNames

end Reencode
