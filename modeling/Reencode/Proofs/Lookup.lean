import Mathlib.Data.List.Nodup
import Mathlib.Data.List.Perm.Basic

/-!
# Looking up by key

Lists of pairs serve as tables in several places: pending jobs by number, live locators with their
bytes.  As long as no key occurs twice, looking a key up, finding its pair in the list and taking it
out of the list are one and the same.

Other tables are looked up by place: jobs and calls by the order in which they began.  What holds of
all their places is kept when one place is replaced, or one is added at the end.
-/

namespace Reencode.Lookup

variable {K V : Type} [BEq K] [LawfulBEq K] [DecidableEq K] {table : List (K × V)} {k : K} {v : V}

/-- Looking a key up splits its pair off from the others. -/
lemma perm_of_lookup (distinct : (table.map (·.1)).Nodup) (found : table.lookup k = some v) :
    table.Perm ((k, v) :: table.filter fun (other, _) => other ≠ k) := by
  obtain ⟨before, after, rfl, -⟩ := List.lookup_eq_some_iff.mp found
  simp only [List.map_append, List.map_cons, List.nodup_append, List.nodup_cons] at distinct
  have hbefore : before.filter (fun p => p.1 ≠ k) = before := by
    refine List.filter_eq_self.mpr fun p hp => ?_
    simpa using distinct.2.2 p.1 (List.mem_map_of_mem hp) k List.mem_cons_self
  have hafter : after.filter (fun p => p.1 ≠ k) = after := by
    refine List.filter_eq_self.mpr fun p hp => ?_
    have : p.1 ≠ k := fun same => distinct.2.1.1 (same ▸ List.mem_map_of_mem hp)
    simpa using this
  have split : (before ++ (k, v) :: after).filter (fun p => p.1 ≠ k) = before ++ after := by
    rw [List.filter_append, List.filter_cons_of_neg (by simp), hbefore, hafter]
  exact List.perm_middle.trans (by rw [← split])

omit [DecidableEq K] in
/-- A pair of the list is what looking its key up finds. -/
lemma lookup_of_mem (distinct : (table.map (·.1)).Nodup) (mem : (k, v) ∈ table) :
    table.lookup k = some v := by
  obtain ⟨before, after, rfl⟩ := List.append_of_mem mem
  refine List.lookup_eq_some_iff.mpr ⟨before, after, rfl, fun p hp => ?_⟩
  simp only [List.map_append, List.map_cons, List.nodup_append] at distinct
  simpa using (distinct.2.2 p.1 (List.mem_map_of_mem hp) k List.mem_cons_self).symm

lemma isSome_lookup_iff : (table.lookup k).isSome = true ↔ k ∈ table.map (·.1) := by
  induction table with
  | nil => simp
  | cons p rest ih =>
    obtain ⟨key, value⟩ := p
    by_cases same : k = key
    · simp [same]
    · have differs : (k == key) = false := by simpa using same
      simp only [List.lookup_cons, differs, List.map_cons, List.mem_cons, same, false_or]
      exact ih

/-- What is left after a key was taken out finds everything but that key. -/
lemma lookup_filter_ne (table : List (K × V)) (k other : K) :
    (table.filter fun (key, _) => key ≠ k).lookup other =
      if other = k then none else table.lookup other := by
  induction table with
  | nil => simp
  | cons p rest ih =>
    obtain ⟨key, value⟩ := p
    -- An entry with the key is skipped on both sides; any other decides the lookup or passes it on.
    by_cases gone : key = k
    · subst gone
      rw [List.filter_cons_of_neg (by simp), ih]
      by_cases same : other = key
      · simp [same]
      · have differs : (other == key) = false := by simpa using same
        simp [same, List.lookup_cons, differs]
    · rw [List.filter_cons_of_pos (by simpa using gone), List.lookup_cons, List.lookup_cons, ih]
      by_cases same : other = key
      · subst same
        simp [gone]
      · have differs : (other == key) = false := by simpa using same
        simp [differs]

/-- Replacing what a key stands for changes what is found for that key, if there is anything, and
for no other. -/
lemma lookup_map_set (table : List (K × V)) (k : K) (v : V) (other : K) :
    (table.map fun (key, value) => (key, if key = k then v else value)).lookup other =
      if other = k then (table.lookup other).map fun _ => v else table.lookup other := by
  induction table with
  | nil => simp
  | cons p rest ih =>
    obtain ⟨key, value⟩ := p
    rw [List.map_cons, List.lookup_cons, List.lookup_cons]
    by_cases same : other = key
    · subst same
      by_cases here : other = k <;> simp [here]
    · have differs : (other == key) = false := by simpa using same
      simp only [differs]
      exact ih

/-! ## Looking up by place -/

section Place

variable {A : Type} {l : List A} {k : Nat} {a b : A}

/-- Replacing an element counts the new one in place of the old one. -/
lemma countP_set_add (found : l[k]? = some a) (b : A) (p : A → Bool) :
    (l.set k b).countP p + (if p a = true then 1 else 0) =
      l.countP p + if p b = true then 1 else 0 := by
  obtain ⟨bound, here⟩ := List.getElem?_eq_some_iff.mp found
  have split : l.countP p = (l.take k ++ a :: l.drop (k + 1)).countP p := by
    rw [← here, ← List.drop_eq_getElem_cons bound, List.take_append_drop]
  rw [split, List.set_eq_take_append_cons_drop, if_pos bound]
  simp only [List.countP_append, List.countP_cons]
  omega

lemma eq_or_of_getElem?_set {i : Nat} {x : A} (here : (l.set k b)[i]? = some x) :
    i = k ∧ x = b ∨ l[i]? = some x := by
  rw [List.getElem?_set] at here
  split at here
  · rename_i same
    split at here
    · exact .inl ⟨same.symm, (Option.some.inj here).symm⟩
    · cases here
  · exact .inr here

lemma eq_or_of_getElem?_concat {i : Nat} {x : A} (here : (l ++ [b])[i]? = some x) :
    i = l.length ∧ x = b ∨ l[i]? = some x := by
  rcases Nat.lt_trichotomy i l.length with old | new | beyond
  · rw [List.getElem?_append_left old] at here
    exact .inr here
  · subst new
    rw [List.getElem?_concat_length] at here
    exact .inl ⟨rfl, (Option.some.inj here).symm⟩
  · rw [List.getElem?_eq_none (by simp; omega)] at here
    cases here

end Place

end Reencode.Lookup
