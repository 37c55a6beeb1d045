import Reencode.Proofs.Work.DecodeCache
import Reencode.Proofs.Work.Running

/-!
# A clean cache

A job that finds nothing in the cache decodes, and puts the surface there for the next job of its
entry.  If the entry is removed meanwhile the surface must not come back: nobody would ever take it
out again.  So an entry that is forgotten while jobs of it are unfinished counts as retired, until
the last of them is done with.

`Scheduler.Clean` says for which entries there are surfaces, and which entries are retired, when the
entries `alive` are those of the collection.  Queueing and settling a job keep it, for an entry that
is alive; forgetting an entry makes `alive` shorter.
-/

namespace Reencode

variable {S : Type}

/-! ## What a job does to the cache -/

lemma Job.run_grown (codec : Codec S) (j : Job) (c : DecodeCache S) :
    DecodeCache.Grown j.entry c (j.run codec c).cache := by
  unfold Job.run
  split
  · unfold Job.recode
    dsimp only
    split
    · exact .refl
    · rename_i surface c' given
      rw [Job.encode_cache]
      exact DecodeCache.getOrDecode_grown given
  · exact .refl
  · exact .refl

namespace Scheduler

/-! ## Clean schedulers -/

/-- A scheduler with surfaces for entries that are alive alone, and whose retired entries are those
that are not alive but have unfinished jobs. -/
structure Clean (alive : List EntryId) (s : Scheduler S) : Prop where
  counted : s.Counted
  cached : ∀ p ∈ s.cache.surfaces, p.1 ∈ alive
  retired : ∀ id, id ∈ s.cache.retired ↔ id ∉ alive ∧ ∃ p ∈ s.pending, p.2.entry = id
  distinct : s.cache.retired.Nodup

namespace Clean

variable {s s' : Scheduler S} {codec : Codec S} {alive : List EntryId} {j : Job} {k : Nat}
  {id : EntryId}

lemma initial (workers : Int) (pace : Pace) :
    (Scheduler.initial workers pace .empty : Scheduler S).Clean alive where
  counted := .initial workers pace .empty
  cached := by simp [Scheduler.initial, DecodeCache.empty]
  retired := by simp [Scheduler.initial, DecodeCache.empty]
  distinct := List.nodup_nil

lemma congr (h : s.Clean alive) (pending : s'.pending = s.pending)
    (accepted : s'.accepted = s.accepted) (running : s'.running = s.running)
    (cache : s'.cache = s.cache) : s'.Clean alive where
  counted := h.counted.congr pending accepted running
  cached := cache ▸ h.cached
  retired := by
    rw [cache, pending]
    exact h.retired
  distinct := cache ▸ h.distinct

/-- More entries may come alive that have no jobs yet. -/
lemma mono (h : s.Clean alive) {more : List EntryId}
    (unknown : ∀ id ∈ more, ∀ p ∈ s.pending, p.2.entry ≠ id) : s.Clean (alive ++ more) where
  counted := h.counted
  cached := fun p mem => List.mem_append_left _ (h.cached p mem)
  retired := by
    intro id
    rw [h.retired, List.mem_append, not_or]
    constructor
    · rintro ⟨gone, p, mem, mine⟩
      exact ⟨⟨gone, fun new => unknown id new p mem mine⟩, p, mem, mine⟩
    · rintro ⟨⟨gone, -⟩, pending⟩
      exact ⟨gone, pending⟩
  distinct := h.distinct

/-- Ending an entry's retirement unless jobs of it are left: all depends on whether the retired
entries were right for the others, and for this one if jobs of it are left. -/
lemma of_releaseIdle (counted : s.Counted) (cached : ∀ p ∈ s.cache.surfaces, p.1 ∈ alive)
    (distinct : s.cache.retired.Nodup)
    (others : ∀ other, other ≠ id →
      (other ∈ s.cache.retired ↔ other ∉ alive ∧ ∃ p ∈ s.pending, p.2.entry = other))
    (self : (∃ p ∈ s.pending, p.2.entry = id) → (id ∈ s.cache.retired ↔ id ∉ alive)) :
    (s.releaseIdle id).Clean alive := by
  unfold Scheduler.releaseIdle
  -- With a job left nothing is released; otherwise the entry has no pending job, so it must not be
  -- retired.
  split
  · rename_i busy
    have left := (counted.isRunning_iff id).mp busy
    refine ⟨counted, cached, fun other => ?_, distinct⟩
    by_cases same : other = id
    · subst same
      rw [self left]
      exact ⟨fun gone => ⟨gone, left⟩, fun both => both.1⟩
    · exact others other same
  · rename_i idle
    refine ⟨counted.congr rfl rfl rfl, cached, fun other => ?_, distinct.filter _⟩
    simp only [DecodeCache.releaseRetired, List.mem_filter, decide_eq_true_eq]
    by_cases same : other = id
    · subst same
      exact ⟨fun mem => absurd rfl mem.2,
        fun both => absurd ((counted.isRunning_iff other).mpr both.2) idle⟩
    · rw [others other same]
      exact ⟨fun mem => mem.1, fun both => ⟨both, same⟩⟩

/-! ### One move after the other -/

lemma queued (h : s.Clean alive) (present : j.entry ∈ alive) : (s.queued j).Clean alive where
  counted := h.counted.queued j
  cached := h.cached
  retired := by
    intro id
    show id ∈ s.cache.retired ↔ _
    rw [h.retired]
    -- The new job is of an entry that is alive, which says nothing of those that are gone.
    refine and_congr_right fun gone => ?_
    simp only [Scheduler.queued, List.mem_append, List.mem_singleton]
    constructor
    · rintro ⟨p, mem, mine⟩
      exact ⟨p, .inl mem, mine⟩
    · rintro ⟨p, mem | rfl, mine⟩
      · exact ⟨p, mem, mine⟩
      · exact absurd (mine ▸ present) gone
  distinct := h.distinct

/-- A job that is done with may leave a surface of its entry, and end the entry's retirement. -/
lemma settled (h : s.Clean alive) (found : s.pending.lookup k = some j) {cache : DecodeCache S}
    (grown : DecodeCache.Grown j.entry s.cache cache) (usage : Usage) (outcome : Option Outcome) :
    (s.settled k j cache usage outcome).Clean alive := by
  have apart := Lookup.perm_of_lookup h.counted.numbers found
  have waiting : (k, j) ∈ s.pending := apart.symm.subset List.mem_cons_self
  have cached : ∀ p ∈ cache.surfaces, p.1 ∈ alive := by
    intro p mem
    rcases grown.surfaces p mem with old | ⟨mine, free⟩
    · exact h.cached p old
    · -- A job of an entry that is gone but not retired would not be unfinished.
      by_contra gone
      exact free ((h.retired _).mpr ⟨mine ▸ gone, (k, j), waiting, rfl⟩)
  -- What is settled is finished in a scheduler without the job; the outcome only goes into the
  -- mailbox.
  let left : Scheduler S := { s with
    pending := s.pending.filter fun p => p.1 ≠ k
    cache
    usage }
  have finished : (left.finish j.entry).Clean alive := by
    refine of_releaseIdle ?_ cached (grown.retired.symm ▸ h.distinct) (fun other differs => ?_) ?_
    · have counted : (s.settled k j cache usage none).Counted := h.counted.settled found
      refine counted.congr ?_ ?_ ?_
      · rw [pending_settled]
        rfl
      · rw [accepted_settled]
        rfl
      · rw [running_settled]
        rfl
    · show other ∈ cache.retired ↔ _
      rw [grown.retired, h.retired]
      refine and_congr_right fun _ => ⟨?_, ?_⟩
      · rintro ⟨p, mem, mine⟩
        exact ⟨p, h.counted.mem_of_ne found mem (mine ▸ differs), mine⟩
      · rintro ⟨p, mem, mine⟩
        exact ⟨p, List.mem_of_mem_filter mem, mine⟩
    · rintro -
      show j.entry ∈ cache.retired ↔ _
      rw [grown.retired, h.retired]
      exact and_iff_left ⟨_, waiting, rfl⟩
  cases outcome with
  | none => exact finished.congr rfl rfl rfl rfl
  | some o => exact finished.congr rfl rfl rfl rfl

/-- A refused job changes nothing, for an entry that is alive. -/
lemma turnedAway (h : s.Clean alive) (present : j.entry ∈ alive) :
    (s.turnedAway j).Clean alive := by
  have kept : j.entry ∉ s.cache.retired := fun gone => ((h.retired _).mp gone).1 present
  refine of_releaseIdle ?_ h.cached h.distinct (fun other _ => h.retired other) fun _ => ?_
  · have same := ((s.enter j).leave).finish_alike j.entry
    exact (h.counted.turnedAway j).congr same.pending.symm same.accepted.symm
      (running_finish _ _).symm
  · exact ⟨fun gone => absurd gone kept, fun gone => absurd present gone⟩

/-- An entry that is forgotten is no longer alive, and retired if jobs of it are unfinished. -/
lemma forget (h : s.Clean alive) (id : EntryId) :
    (s.forget id).Clean (alive.filter (· ≠ id)) := by
  refine of_releaseIdle (h.counted.congr rfl rfl rfl) ?_ ?_ ?_ ?_
  · intro p mem
    obtain ⟨old, other⟩ := List.mem_filter.mp mem
    exact List.mem_filter.mpr ⟨h.cached p old, other⟩
  · show (if id ∈ s.cache.retired then s.cache.retired else s.cache.retired ++ [id]).Nodup
    split
    · exact h.distinct
    · rename_i fresh
      exact h.distinct.append (List.nodup_singleton _) (by simpa using fresh)
  -- Invalidating one entry does not touch whether another is retired.
  · intro other differs
    have same : other ∈ (s.cache.invalidate id).retired ↔ other ∈ s.cache.retired := by
      simp only [DecodeCache.invalidate]
      split
      · rfl
      · simp [differs]
    rw [same, h.retired]
    simp [differs]
  · intro _
    simp only [DecodeCache.invalidate]
    split <;> simp_all

lemma take (h : s.Clean alive) {o : Outcome} (taken : s.take = some (o, s')) : s'.Clean alive := by
  unfold Scheduler.take at taken
  split at taken
  · cases taken
  · obtain ⟨-, rfl⟩ := Prod.mk.inj (Option.some.inj taken)
    exact h.congr rfl rfl rfl rfl

lemma runPending (h : s.Clean alive) (k : Nat) : (s.runPending codec k).2.1.Clean alive := by
  cases found : s.pending.lookup k with
  | none =>
    rw [runPending_eq_self found]
    exact h
  | some j =>
    rw [runPending_eq found]
    exact h.settled found (j.run_grown codec s.cache) _ _

lemma runAll (h : s.Clean alive) (numbers : List Nat) : (s.runAll codec numbers).1.Clean alive := by
  induction numbers generalizing s with
  | nil => exact h
  | cons k rest ih => exact ih (h.runPending k)

lemma cancel (h : s.Clean alive) (k : Nat) : (s.cancel k).2.Clean alive := by
  cases found : s.pending.lookup k with
  | none =>
    rw [cancel_eq_self found]
    exact h
  | some j =>
    rw [cancel_eq found]
    exact h.settled found .refl _ _

/-- Whether it is accepted or not, a job for an entry that is alive keeps the cache clean. -/
lemma submit (h : s.Clean alive) (present : j.entry ∈ alive) :
    (s.submit codec j).2.1.Clean alive := by
  cases closed : s.closed with
  | true =>
    rw [submit_closed closed]
    exact h
  | false =>
    cases shut : s.executorShut with
    | true =>
      rw [submit_turnedAway closed shut]
      exact h.turnedAway present
    | false =>
      rw [submit_eq h.counted.bounded closed shut]
      split
      · exact (h.queued present).runPending _
      · exact h.queued present

end Clean

end Scheduler

end Reencode
