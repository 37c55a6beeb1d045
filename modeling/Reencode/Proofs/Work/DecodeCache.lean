import Mathlib.Tactic.Common
import Reencode.Proofs.Lookup
import Reencode.Work.DecodeCache

/-!
# A cache, one operation at a time

What committing, invalidating and ending a retirement do to the surfaces and to the retired entries
of a cache.  A commit comes to one of three ends (`DecodeCache.Committed`); in each of them it keeps
the retired entries, and adds at most a surface of its own entry (`DecodeCache.Grown`).
-/

namespace Reencode

variable {S : Type}

namespace DecodeCache

variable {codec : Codec S} {c c' : DecodeCache S} {id other : EntryId}

/-! ## What is in a cache -/

lemma lookup_eq_some_iff {kept : S} :
    c.lookup id = some kept ↔ c.surfaces.lookup id = some (some kept) :=
  Option.join_eq_some_iff

lemma mem_of_lookup {first : Option S} (there : c.surfaces.lookup id = some first) :
    (id, first) ∈ c.surfaces := by
  obtain ⟨before, after, split, -⟩ := List.lookup_eq_some_iff.mp there
  simp [split]

lemma contains_eq_false_iff : c.contains id = false ↔ ∀ p ∈ c.surfaces, p.1 ≠ id := by
  rw [contains, ← Bool.not_eq_true, Lookup.isSome_lookup_iff]
  constructor
  · exact fun absent p mem same => absent (List.mem_map.mpr ⟨p, mem, same⟩)
  · intro others mem
    obtain ⟨p, hp, same⟩ := List.mem_map.mp mem
    exact others p hp same

lemma mem_retired_invalidate :
    other ∈ (c.invalidate id).retired ↔ other = id ∨ other ∈ c.retired := by
  unfold invalidate
  dsimp only
  split
  · rename_i already
    exact ⟨.inr, fun h => h.elim (· ▸ already) fun mem => mem⟩
  · rw [List.mem_append, List.mem_singleton, or_comm]

lemma mem_retired_releaseRetired :
    other ∈ (c.releaseRetired id).retired ↔ other ∈ c.retired ∧ other ≠ id := by
  simp [releaseRetired]

lemma mem_surfaces_invalidate {p : EntryId × Option S} :
    p ∈ (c.invalidate id).surfaces ↔ p ∈ c.surfaces ∧ p.1 ≠ id := by
  simp [invalidate]

/-! ## Committing -/

/-- The three ends that a commit can come to, with what the caller is given and the cache left: the
entry is retired and the surface is the caller's alone, another call was first and the caller gets
what that one committed, or the surface is stored. -/
inductive Committed (c : DecodeCache S) (id : EntryId) (surface : Option S) :
    Option S × DecodeCache S → Prop
  | barred (retired : id ∈ c.retired) :
      Committed c id surface (surface, { c with decodes := c.decodes + 1 })
  | beaten {first : Option S} (free : id ∉ c.retired) (kept : c.surfaces.lookup id = some first) :
      Committed c id surface (first, { c with decodes := c.decodes + 1 })
  | stored (free : id ∉ c.retired) (absent : c.surfaces.lookup id = none) :
      Committed c id surface (surface, { c with
        decodes := c.decodes + 1
        surfaces := c.surfaces ++ [(id, surface)] })

lemma committed_commit (c : DecodeCache S) (id : EntryId) (surface : Option S) :
    Committed c id surface (c.commit id surface) := by
  unfold commit
  dsimp only
  split
  · rename_i retired
    exact .barred (by simpa [isRetired] using retired)
  · rename_i free
    have free : id ∉ c.retired := by simpa [isRetired] using free
    split
    · rename_i kept
      exact .beaten free kept
    · rename_i absent
      exact .stored free absent

@[simp] lemma retired_commit (c : DecodeCache S) (id : EntryId) (surface : Option S) :
    (c.commit id surface).2.retired = c.retired := by
  generalize made : c.commit id surface = made'
  cases made ▸ c.committed_commit id surface <;> rfl

@[simp] lemma decodes_commit (c : DecodeCache S) (id : EntryId) (surface : Option S) :
    (c.commit id surface).2.decodes = c.decodes + 1 := by
  generalize made : c.commit id surface = made'
  cases made ▸ c.committed_commit id surface <;> rfl

/-- A commit adds at most its own surface, and that to an entry that is not retired. -/
lemma mem_surfaces_commit {p : EntryId × Option S} {surface : Option S}
    (mem : p ∈ (c.commit id surface).2.surfaces) :
    p ∈ c.surfaces ∨ p = (id, surface) ∧ id ∉ c.retired := by
  generalize made : c.commit id surface = made' at mem
  cases made ▸ c.committed_commit id surface with
  | barred | beaten => exact .inl mem
  | stored free =>
    exact (List.mem_append.mp mem).imp_right fun new => ⟨List.mem_singleton.mp new, free⟩

/-- What looking up finds is found after a commit too. -/
lemma lookup_commit_of_some {kept : S} (found : c.lookup other = some kept) (id : EntryId)
    (surface : Option S) : (c.commit id surface).2.lookup other = some kept := by
  have there := lookup_eq_some_iff.mp found
  generalize made : c.commit id surface = made'
  cases made ▸ c.committed_commit id surface with
  | barred | beaten => exact found
  | stored => simp [lookup, List.lookup_append, there]

/-- What looking up finds is what a commit gives, unless its entry is retired. -/
lemma commit_of_lookup {kept : S} (free : id ∉ c.retired) (found : c.lookup id = some kept)
    (surface : Option S) : (c.commit id surface).1 = some kept := by
  have there := lookup_eq_some_iff.mp found
  generalize made : c.commit id surface = made'
  cases made ▸ c.committed_commit id surface with
  | barred retired => exact absurd retired free
  | beaten _ first => exact Option.some.inj (first.symm.trans there)
  | stored _ absent => exact nomatch absent.symm.trans there

/-- Looking up and committing agree: unless its entry is retired, a commit gives the surface that
is found from then on. -/
lemma lookup_commit_of_free (free : id ∉ c.retired) (solid : ∀ p ∈ c.surfaces, p.2 ≠ none)
    {surface : Option S} (made : surface ≠ none) :
    ∃ kept, (c.commit id surface).1 = some kept ∧
      (c.commit id surface).2.lookup id = some kept := by
  generalize result : c.commit id surface = result'
  cases result ▸ c.committed_commit id surface with
  | barred retired => exact absurd retired free
  | @beaten first _ there =>
    obtain ⟨kept, rfl⟩ := Option.ne_none_iff_exists'.mp (solid _ (mem_of_lookup there))
    exact ⟨kept, rfl, by simp [lookup, there]⟩
  | stored _ absent =>
    obtain ⟨kept, rfl⟩ := Option.ne_none_iff_exists'.mp made
    exact ⟨kept, rfl, by simp [lookup, List.lookup_append, absent]⟩

lemma lookup_invalidate_of_ne (apart : other ≠ id) :
    (c.invalidate id).lookup other = c.lookup other := by
  unfold lookup invalidate
  rw [Lookup.lookup_filter_ne, if_neg apart]

/-! ## Growing by a surface -/

/-- A cache that differs at most by a surface of one entry, and by that only if the entry is not
retired. -/
structure Grown (id : EntryId) (c c' : DecodeCache S) : Prop where
  retired : c'.retired = c.retired
  surfaces : ∀ p ∈ c'.surfaces, p ∈ c.surfaces ∨ p.1 = id ∧ id ∉ c.retired

lemma Grown.refl : Grown id c c := ⟨rfl, fun _ mem => .inl mem⟩

lemma commit_grown (c : DecodeCache S) (id : EntryId) (surface : Option S) :
    Grown id c (c.commit id surface).2 where
  retired := c.retired_commit id surface
  surfaces _ mem := (mem_surfaces_commit mem).imp_right fun ⟨new, free⟩ => ⟨new ▸ rfl, free⟩

lemma getOrDecode_grown {data : ByteArray} {surface : Option S}
    (given : (c.getOrDecode codec id data).result = .ok (surface, c')) : Grown id c c' := by
  unfold getOrDecode at given
  split at given
  · cases given
    exact .refl
  · unfold Attempt.andThen at given
    split at given
    · cases given
    · rename_i decoded _
      have made : c.commit id decoded = (surface, c') := Except.ok.inj given
      have grown := c.commit_grown id decoded
      rwa [made] at grown

end DecodeCache

end Reencode
