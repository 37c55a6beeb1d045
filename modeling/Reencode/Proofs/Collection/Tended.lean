import Reencode.Proofs.Collection.Course
import Reencode.Proofs.Collection.Origin
import Reencode.Proofs.Work.Hygiene

/-!
# Tended collections

A collection is *tended* when the cache of its scheduler is clean for its entries, and its
scheduler, once closed, has nothing left to run.  Careful steps keep it so (`Tended.step`).  Two
kinds of them need more than the lemma about the move of the scheduler.  A new entry has no jobs
yet, since every job works for an entry that there was.  And when all entries are removed at once
the shelf tells which of them are alive in between, one forgotten after the other.
-/

namespace Reencode

variable {S : Type}

/-! ## Schedulers at their end -/

namespace Scheduler

/-- A scheduler that has no pending jobs once it is closed. -/
def Ended (s : Scheduler S) : Prop := s.closed = true → s.pending = []

variable {s s' : Scheduler S} {codec : Codec S}

lemma Ended.of_subset (h : s.Ended) (closed : s'.closed = s.closed)
    (fewer : s'.pending ⊆ s.pending) : s'.Ended := by
  intro ends
  have none := h (closed ▸ ends)
  rw [none] at fewer
  exact List.subset_nil.mp fewer

lemma Ended.alike (h : s.Ended) (same : s.Alike s') : s'.Ended :=
  h.of_subset same.closed (same.pending ▸ List.Subset.refl _)

lemma Ended.runPending (h : s.Ended) (k : Nat) : (s.runPending codec k).2.1.Ended := by
  cases found : s.pending.lookup k with
  | none =>
    rw [runPending_eq_self found]
    exact h
  | some j =>
    rw [runPending_eq found]
    refine h.of_subset closed_settled ?_
    rw [pending_settled]
    exact List.filter_sublist.subset

lemma Ended.cancel (h : s.Ended) (k : Nat) : (s.cancel k).2.Ended := by
  cases found : s.pending.lookup k with
  | none =>
    rw [cancel_eq_self found]
    exact h
  | some j =>
    rw [cancel_eq found]
    refine h.of_subset closed_settled ?_
    rw [pending_settled]
    exact List.filter_sublist.subset

lemma Ended.take (h : s.Ended) {o : Outcome} (taken : s.take = some (o, s')) : s'.Ended := by
  unfold Scheduler.take at taken
  split at taken
  · cases taken
  · obtain ⟨-, rfl⟩ := Prod.mk.inj (Option.some.inj taken)
    exact h

lemma Ended.submit (h : s.Ended) (j : Job) : (s.submit codec j).2.1.Ended := by
  by_cases accepted : (s.submit codec j).1 = .ok ()
  · have open_ : (s.submit codec j).2.1.Accepting :=
      .submit ((submit_result s codec j).mp accepted) j
    intro ends
    rw [open_.1] at ends
    cases ends
  · exact h.alike (submit_alike accepted)

lemma Ended.forget (h : s.Ended) (id : EntryId) : (s.forget id).Ended :=
  Ended.alike (s := { s with cache := s.cache.invalidate id }) h (releaseIdle_alike _ id)

end Scheduler

/-! ## Removing entries -/

namespace Shelved

/-- What is alive can be told from the shelf. -/
lemma alive_subset {alive other : List EntryId} {shelf : List Entry} (h : Shelved alive shelf)
    (h' : Shelved other shelf) : alive ⊆ other := by
  intro id mem
  obtain ⟨e, hmem, rfl⟩ := h.exists_of_mem_alive mem
  exact (h'.mem_alive_iff hmem).mpr ((h.mem_alive_iff hmem).mp mem)

end Shelved

namespace Collection

variable {codec : Codec S} {good : Params → Prop} {c c' : Collection S} {d : Deed}

lemma clean_destroy {alive : List EntryId} (clean : c.scheduler.Clean alive) {id : EntryId}
    {e : Entry} (found : c.find? id = some e) :
    (c.destroy e).scheduler.Clean (alive.filter (· ≠ id)) := by
  obtain rfl := id_of_find? found
  have forgets : (c.destroy e).scheduler = c.scheduler.forget e.id :=
    congrArg c.scheduler.forget (e.destroy_id c.registry)
  rw [forgets]
  exact clean.forget e.id

/-- When every entry was removed nothing is left in the cache of any. -/
lemma clean_destroyAll (clean : c.scheduler.Clean c.ids) (shelved : Shelved c.ids c.shelf) :
    ({ c with ids := [] }.destroyAll c.ids).scheduler.Clean [] := by
  have buried := Shelved.destroyAll c.ids c.ids { c with ids := [] } shelved
  rw [show c.ids.filter (· ∉ c.ids) = [] by simp] at buried
  obtain ⟨alive, still, kept⟩ := destroyAll_induction
    (P := fun c' : Collection S => ∃ alive, Shelved alive c'.shelf ∧ c'.scheduler.Clean alive)
    (fun c' id e ⟨alive, shelved', clean'⟩ found =>
      ⟨_, shelved'.destroy found, clean_destroy clean' found⟩)
    c.ids { c with ids := [] } ⟨c.ids, shelved, clean⟩
  have none : alive = [] := List.subset_nil.mp (still.alive_subset buried)
  exact none ▸ kept

/-! ## One careful step after the other -/

/-- A collection whose scheduler is clean for its entries, and has no pending jobs once it is
closed. -/
structure Tended (c : Collection S) : Prop where
  clean : c.scheduler.Clean c.ids
  ended : c.scheduler.Ended

namespace Tended

lemma of_create {settings : Settings} {workers : Option Int} {format : Value} {pace : Pace}
    (made : create settings workers format pace = .ok c) : c.Tended := by
  obtain ⟨n, f, rfl⟩ := create_eq_ok made
  exact ⟨.initial n pace, fun _ => rfl⟩

lemma step {jobs : List Job} {applied : List Outcome} (h : c.Tended)
    (shelved : Shelved c.ids c.shelf) (traced : Traced codec jobs applied c.shelf c.scheduler)
    (st : Step codec c d c') (care : Careful good c d c') : c'.Tended := by
  -- Jobs are submitted for entries that are alive, and what leaves is forgotten by the scheduler.
  cases st with
  | imported name data params =>
    refine ⟨h.clean.mono ?_, h.ended⟩
    intro id new p pending mine
    -- A pending job works for an entry of the shelf.
    obtain ⟨e, mem, same, -⟩ := traced.current p.2 (traced.honest.pending p pending)
    obtain rfl := List.mem_singleton.mp new
    refine shelved.next_not_mem ?_
    exact List.mem_map.mpr ⟨e, mem, same.trans mine⟩
  | removed found =>
    obtain ⟨known, -⟩ := find?_of_get? found
    exact ⟨clean_destroy (c := c.drop _) h.clean known, h.ended.forget _⟩
  | cleared =>
    refine ⟨?_, ?_⟩
    · have clean := clean_destroyAll h.clean shelved
      simpa only [choose, ids_destroyAll] using clean
    · exact destroyAll_induction (P := fun c' : Collection S => c'.scheduler.Ended)
        (fun _ _ _ ended _ => ended.forget _) c.ids { c with ids := [] } h.ended
  | dispatched found accepted =>
    exact ⟨h.clean.submit (care.present _ (.inl rfl)), h.ended.submit _⟩
  | refused found refusal =>
    exact ⟨h.clean.submit (care.present _ (.inr rfl)), h.ended.submit _⟩
  | faulted taken | updated taken | dropped taken =>
    exact ⟨h.clean.take taken, h.ended.take taken⟩
  | ran k => exact ⟨h.clean.runPending k, h.ended.runPending k⟩
  | cancelled k => exact ⟨h.clean.cancel k, h.ended.cancel k⟩
  | executorShut => exact ⟨h.clean.congr rfl rfl rfl rfl, h.ended⟩
  | closed =>
    have lasting : true = c.scheduler.closed := care.lasting rfl
    exact ⟨h.clean.congr rfl rfl rfl rfl, fun _ => h.ended lasting.symm⟩
  | _ => exact ⟨h.clean, h.ended⟩

end Tended

end Collection

end Reencode
