import Mathlib.Data.List.Nodup
import Mathlib.Tactic.Common
import Reencode.Collection.Basic

/-!
# The shelf of a collection

Every entry ever imported stays on the shelf of its collection, under the id that it was given
then.  Ids are given out by number, so no two entries share one and the next id is new; and an
entry is destroyed exactly when it has left the collection.  `Shelved` says this of a shelf and of
the ids that are still alive; while a collection is cleared entry by entry these are fewer and
fewer of the ids it had.

From it come the facts that all later modules use: looking an entry up finds exactly the entries of
the shelf (`Shelved.find?_eq_some_iff`), and putting a changed entry back changes exactly one place
(`Shelved.exists_split`).
-/

namespace Reencode

/-- A shelf on which the entries `alive`, and no others, have not been destroyed. -/
structure Shelved (alive : List EntryId) (shelf : List Entry) : Prop where
  numbered : shelf.map Entry.id = (List.range shelf.length).map fun n => EntryId.nth (n + 1)
  sublist : alive.Sublist (shelf.map Entry.id)
  destroyed : ∀ e ∈ shelf, e.destroyed = decide (e.id ∉ alive)

/-- The shelf with an entry in the place of the one that has its id. -/
def replaceEntry (e : Entry) (shelf : List Entry) : List Entry :=
  shelf.map fun other => if other.id = e.id then e else other

namespace Shelved

variable {alive : List EntryId} {shelf : List Entry}

lemma nil : Shelved [] [] := ⟨rfl, List.nil_sublist _, by simp⟩

/-! ## Ids -/

lemma nodup_ids (h : Shelved alive shelf) : (shelf.map Entry.id).Nodup := by
  rw [h.numbered]
  refine List.Nodup.map_on ?_ List.nodup_range
  intro m _ n _ same
  have := EntryId.nth_inj same
  omega

lemma nodup_alive (h : Shelved alive shelf) : alive.Nodup := h.nodup_ids.sublist h.sublist

/-- The id that is given out next belongs to no entry. -/
lemma next_not_mem (h : Shelved alive shelf) :
    EntryId.nth (shelf.length + 1) ∉ shelf.map Entry.id := by
  rw [h.numbered]
  intro mem
  obtain ⟨n, hn, same⟩ := List.mem_map.mp mem
  have hlt := List.mem_range.mp hn
  have := EntryId.nth_inj same
  omega

lemma eq_of_id_eq (h : Shelved alive shelf) {a b : Entry} (ha : a ∈ shelf) (hb : b ∈ shelf)
    (same : a.id = b.id) : a = b :=
  List.inj_on_of_nodup_map h.nodup_ids ha hb same

/-- Looking an id up finds the entry of the shelf that has it. -/
lemma find?_eq_some_iff (h : Shelved alive shelf) {id : EntryId} {e : Entry} :
    shelf.find? (·.id = id) = some e ↔ e ∈ shelf ∧ e.id = id := by
  constructor
  · intro found
    exact ⟨List.mem_of_find?_eq_some found, by simpa using List.find?_some found⟩
  · rintro ⟨mem, rfl⟩
    obtain ⟨other, found⟩ : ∃ other, shelf.find? (·.id = e.id) = some other := by
      rw [← Option.isSome_iff_exists, List.find?_isSome]
      exact ⟨e, mem, by simp⟩
    have same : other.id = e.id := by simpa using List.find?_some found
    rw [found, h.eq_of_id_eq (List.mem_of_find?_eq_some found) mem same]

lemma exists_of_mem_alive (h : Shelved alive shelf) {id : EntryId} (mem : id ∈ alive) :
    ∃ e ∈ shelf, e.id = id :=
  List.mem_map.mp (h.sublist.subset mem)

/-- An entry that is not destroyed is alive. -/
lemma mem_alive_iff (h : Shelved alive shelf) {e : Entry} (mem : e ∈ shelf) :
    e.id ∈ alive ↔ e.destroyed = false := by
  rw [h.destroyed e mem]
  simp

/-! ## Changing one entry -/

/-- Putting an entry back changes exactly the place of the one that had its id. -/
lemma exists_split (h : Shelved alive shelf) {e e' : Entry} (mem : e ∈ shelf)
    (same : e'.id = e.id) :
    ∃ before after, shelf = before ++ e :: after ∧
      replaceEntry e' shelf = before ++ e' :: after ∧
      ∀ other ∈ before ++ after, other.id ≠ e.id := by
  obtain ⟨before, after, rfl⟩ := List.append_of_mem mem
  -- Ids on a shelf are distinct, so nothing before or after the entry is replaced.
  have others : ∀ other ∈ before ++ after, other.id ≠ e.id := by
    have distinct := h.nodup_ids
    simp only [List.map_append, List.map_cons, List.nodup_append, List.nodup_cons] at distinct
    intro other hother
    rcases List.mem_append.mp hother with hb | ha
    · exact distinct.2.2 _ (List.mem_map_of_mem hb) _ List.mem_cons_self
    · intro heq
      exact distinct.2.1.1 (heq ▸ List.mem_map_of_mem ha)
  have kept : ∀ l, (∀ other ∈ l, other.id ≠ e.id) → replaceEntry e' l = l := by
    intro l hl
    refine (List.map_congr_left fun other hother => ?_).trans (List.map_id l)
    rw [same, if_neg (hl other hother)]
    rfl
  refine ⟨before, after, rfl, ?_, others⟩
  have hbefore := kept before fun o ho => others o (List.mem_append_left _ ho)
  have hafter := kept after fun o ho => others o (List.mem_append_right _ ho)
  simp only [replaceEntry] at hbefore hafter
  simp only [replaceEntry, List.map_append, List.map_cons, hbefore, hafter, if_pos same.symm]

lemma ids_replaceEntry (e : Entry) (shelf : List Entry) :
    (replaceEntry e shelf).map Entry.id = shelf.map Entry.id := by
  simp only [replaceEntry, List.map_map]
  refine List.map_congr_left fun other _ => ?_
  simp only [Function.comp]
  split
  · rename_i same
    exact same.symm
  · rfl

lemma mem_replaceEntry (h : Shelved alive shelf) {e e' other : Entry} (mem : e ∈ shelf)
    (same : e'.id = e.id) :
    other ∈ replaceEntry e' shelf ↔ other = e' ∨ (other ∈ shelf ∧ other.id ≠ e.id) := by
  obtain ⟨before, after, split, split', others⟩ := h.exists_split mem same
  rw [split', split]
  simp only [List.mem_append, List.mem_cons] at others ⊢
  constructor
  · rintro (hb | rfl | ha)
    · exact .inr ⟨.inl hb, others _ (.inl hb)⟩
    · exact .inl rfl
    · exact .inr ⟨.inr (.inr ha), others _ (.inr ha)⟩
  · rintro (rfl | ⟨hb | rfl | ha, hne⟩)
    · exact .inr (.inl rfl)
    · exact .inl hb
    · exact absurd rfl hne
    · exact .inr (.inr ha)

/-- A changed entry that is as much alive as before may be put back. -/
lemma replace (h : Shelved alive shelf) {e e' : Entry} (mem : e ∈ shelf) (same : e'.id = e.id)
    (life : e'.destroyed = e.destroyed) : Shelved alive (replaceEntry e' shelf) where
  numbered := by
    rw [ids_replaceEntry, h.numbered]
    simp [replaceEntry]
  sublist := by
    rw [ids_replaceEntry]
    exact h.sublist
  destroyed := by
    intro other hother
    rcases (h.mem_replaceEntry mem same).mp hother with rfl | ⟨hold, -⟩
    · rw [life, same, h.destroyed e mem]
    · exact h.destroyed other hold

/-- Putting a destroyed entry back takes it out of those alive. -/
lemma bury (h : Shelved alive shelf) {e e' : Entry} (mem : e ∈ shelf) (same : e'.id = e.id)
    (dead : e'.destroyed = true) :
    Shelved (alive.filter (· ≠ e.id)) (replaceEntry e' shelf) where
  numbered := by
    rw [ids_replaceEntry, h.numbered]
    simp [replaceEntry]
  sublist := by
    rw [ids_replaceEntry]
    exact List.filter_sublist.trans h.sublist
  destroyed := by
    intro other hother
    rcases (h.mem_replaceEntry mem same).mp hother with rfl | ⟨hold, hne⟩
    · simp [dead, same]
    · rw [h.destroyed other hold]
      simp [hne]

/-- A new entry goes to the end. -/
lemma append (h : Shelved alive shelf) {e : Entry} (next : e.id = EntryId.nth (shelf.length + 1))
    (life : e.destroyed = false) : Shelved (alive ++ [e.id]) (shelf ++ [e]) where
  numbered := by
    simp [List.range_succ, h.numbered, next]
  sublist := by
    rw [List.map_append]
    exact h.sublist.append (List.Sublist.refl _)
  destroyed := by
    intro other hother
    -- The id of the new entry is the next one, which no entry on the shelf has.
    rcases List.mem_append.mp hother with hold | hnew
    · have hne : other.id ≠ e.id := by
        intro heq
        exact h.next_not_mem (next ▸ heq ▸ List.mem_map_of_mem hold)
      rw [h.destroyed other hold]
      simp [hne]
    · obtain rfl := List.mem_singleton.mp hnew
      simp [life]

end Shelved

end Reencode
