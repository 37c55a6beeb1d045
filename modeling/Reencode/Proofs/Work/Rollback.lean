import Reencode.Proofs.Work.Conservation
import Reencode.Proofs.Work.Hygiene

/-!
# Refused jobs

A job is counted before the executor is asked to take it, and if the executor refuses, the counts
are taken back.  The number in flight and the table of running jobs come back to what they were, for
they are changed by one and back.  But taking a job back is the same as counting it as finished, and
that ends the retirement of its entry when no job of the entry is left.  Nothing is lost by it,
because an entry is retired only as long as jobs of it are unfinished (`Scheduler.Watched`): this
holds in the beginning and is kept by whatever is asked of the scheduler, for every entry apart.

So it may fail for an entry alone that was retired in the cache already when the scheduler was made.
-/

namespace Reencode

variable {S : Type}

/-! ## Tables with the same numbers -/

/-- Two tables of the same numbers differ at most in their order. -/
lemma Tallies.perm {table table' : List (EntryId × Nat)} {count : EntryId → Nat}
    (h : Tallies table count) (h' : Tallies table' count) : table.Perm table' := by
  refine (List.perm_ext_iff_of_nodup h.distinct.of_map h'.distinct.of_map).mpr ?_
  have listed : ∀ {t : List (EntryId × Nat)}, Tallies t count → ∀ p, p ∈ t ↔
      t.lookup p.1 = some p.2 := by
    intro t right p
    refine ⟨Lookup.lookup_of_mem right.distinct, fun found => ?_⟩
    exact (Lookup.perm_of_lookup right.distinct found).symm.subset List.mem_cons_self
  intro p
  rw [listed h, listed h', h.lookup, h'.lookup]

namespace Scheduler

variable {s s' : Scheduler S} {codec : Codec S} {j : Job} {k : Nat} {id other : EntryId}

/-! ## Watched entries -/

lemma mem_retired_releaseIdle : id ∈ (s.releaseIdle other).cache.retired ↔
    id ∈ s.cache.retired ∧ (id = other → s.isRunning other = true) := by
  unfold releaseIdle
  split
  · rename_i busy
    exact (and_iff_left fun _ => busy).symm
  · rename_i idle
    rw [DecodeCache.mem_retired_releaseRetired]
    exact and_congr_right fun _ => ⟨fun differs same => absurd same differs, fun h same =>
      idle (h same)⟩

/-- Settling a job ends the retirement of its entry, unless jobs of the entry are left. -/
lemma mem_retired_settled {cache : DecodeCache S} {usage : Usage} {outcome : Option Outcome} :
    id ∈ (s.settled k j cache usage outcome).cache.retired ↔ id ∈ cache.retired ∧
      (id = j.entry → (s.settled k j cache usage outcome).isRunning j.entry = true) := by
  have busy : (s.settled k j cache usage outcome).isRunning j.entry =
      (s.noteFinished j.entry).isRunning j.entry := by
    rw [isRunning, running_settled, isRunning]
  rw [busy]
  cases outcome <;> exact mem_retired_releaseIdle

/-- A scheduler in which an entry is retired only while jobs of it are unfinished. -/
structure Watched (id : EntryId) (s : Scheduler S) : Prop where
  counted : s.Counted
  retired : id ∈ s.cache.retired → ∃ p ∈ s.pending, p.2.entry = id

namespace Watched

lemma of_create {workers : Int} {pace : Pace} {cache : DecodeCache S}
    (created : create workers pace cache = .ok s) (free : id ∉ s.cache.retired) : s.Watched id :=
  ⟨(Conserved.start created).counted, fun mem => absurd mem free⟩

/-- Jobs may be added and retirements ended. -/
lemma of_subset (h : s.Watched id) (counted : s'.Counted) (pending : s.pending ⊆ s'.pending)
    (retired : id ∈ s'.cache.retired → id ∈ s.cache.retired) : s'.Watched id where
  counted := counted
  retired := by
    intro mem
    obtain ⟨p, waiting, mine⟩ := h.retired (retired mem)
    exact ⟨p, pending waiting, mine⟩

lemma congr (h : s.Watched id) (pending : s'.pending = s.pending)
    (accepted : s'.accepted = s.accepted) (running : s'.running = s.running)
    (cache : s'.cache = s.cache) : s'.Watched id :=
  h.of_subset (h.counted.congr pending accepted running) (pending ▸ List.Subset.refl _)
    (cache ▸ fun mem => mem)

/-! ### One move after the other -/

lemma queued (h : s.Watched id) (j : Job) : (s.queued j).Watched id :=
  h.of_subset (h.counted.queued j) (List.subset_append_left _ _) fun mem => mem

lemma settled (h : s.Watched id) (found : s.pending.lookup k = some j) {cache : DecodeCache S}
    (kept : cache.retired = s.cache.retired) (usage : Usage) (outcome : Option Outcome) :
    (s.settled k j cache usage outcome).Watched id where
  counted := h.counted.settled found
  retired := by
    intro mem
    obtain ⟨old, busy⟩ := mem_retired_settled.mp mem
    by_cases mine : id = j.entry
    · subst mine
      exact ((h.counted.settled found).isRunning_iff _).mp (busy rfl)
    · obtain ⟨p, waiting, same⟩ := h.retired (kept ▸ old)
      rw [pending_settled]
      exact ⟨p, h.counted.mem_of_ne found waiting (same ▸ mine), same⟩

lemma turnedAway (h : s.Watched id) (j : Job) : (s.turnedAway j).Watched id := by
  have same := ((s.enter j).leave).finish_alike j.entry
  refine h.of_subset (h.counted.turnedAway j) (same.pending ▸ List.Subset.refl _) fun mem => ?_
  exact (mem_retired_releaseIdle.mp mem).1

lemma forget (h : s.Watched id) (other : EntryId) : (s.forget other).Watched id where
  counted := h.counted.forget other
  retired := by
    intro mem
    have same :=
      ({ s with cache := s.cache.invalidate other } : Scheduler S).releaseIdle_alike other
    obtain ⟨marked, busy⟩ := mem_retired_releaseIdle.mp mem
    rw [Scheduler.forget, same.pending]
    by_cases mine : id = other
    · subst mine
      exact (h.counted.isRunning_iff id).mp (busy rfl)
    · exact h.retired ((DecodeCache.mem_retired_invalidate.mp marked).resolve_left mine)

/-! ### One request after the other -/

lemma runPending (h : s.Watched id) (k : Nat) : (s.runPending codec k).2.1.Watched id := by
  cases found : s.pending.lookup k with
  | none =>
    rw [runPending_eq_self found]
    exact h
  | some j =>
    rw [runPending_eq found]
    exact h.settled found (j.run_grown codec s.cache).retired _ _

lemma runAll (h : s.Watched id) (numbers : List Nat) :
    (s.runAll codec numbers).1.Watched id := by
  induction numbers generalizing s with
  | nil => exact h
  | cons k rest ih => exact ih (h.runPending k)

lemma cancel (h : s.Watched id) (k : Nat) : (s.cancel k).2.Watched id := by
  cases found : s.pending.lookup k with
  | none =>
    rw [cancel_eq_self found]
    exact h
  | some j =>
    rw [cancel_eq found]
    exact h.settled found rfl _ _

lemma cancelAll (h : s.Watched id) (numbers : List Nat) : (s.cancelAll numbers).Watched id := by
  induction numbers generalizing s with
  | nil => exact h
  | cons k rest ih => exact ih (h.cancel k)

lemma submit (h : s.Watched id) (j : Job) : (s.submit codec j).2.1.Watched id := by
  cases closed : s.closed with
  | true =>
    rw [submit_closed closed]
    exact h
  | false =>
    cases shut : s.executorShut with
    | true =>
      rw [submit_turnedAway closed shut]
      exact h.turnedAway j
    | false =>
      rw [submit_eq h.counted.bounded closed shut]
      split
      · exact (h.queued j).runPending _
      · exact h.queued j

lemma next (h : s.Watched id) (timeout : Option Number) : (s.next timeout).2.Watched id := by
  unfold Scheduler.next Scheduler.take
  split
  · exact h
  · cases s.mailbox with
    | nil => exact h
    | cons o rest => exact h.congr rfl rfl rfl rfl

lemma shutdown (h : s.Watched id) (wait : Bool) : (s.shutdown codec wait).1.Watched id := by
  unfold Scheduler.shutdown
  split
  · exact h
  · have shut : ({ s with closed := true }.shutExecutor).Watched id := h.congr rfl rfl rfl rfl
    cases wait with
    | true => exact shut.runAll _
    | false => exact shut.cancelAll _

lemma ask (h : s.Watched id) (r : Request) : (s.ask codec r).1.Watched id := by
  cases r with
  | submit j => exact h.submit j
  | run k => exact h.runPending k
  | cancel k => exact h.cancel k
  | next timeout => exact h.next timeout
  | forget other => exact h.forget other
  | shutExecutor => exact h.congr rfl rfl rfl rfl
  | shutdown wait => exact h.shutdown wait

lemma askAll (h : s.Watched id) (requests : List Request) :
    (s.askAll codec requests).1.Watched id := by
  induction requests generalizing s with
  | nil => exact h
  | cons r rest ih => exact ih (h.ask r)

end Watched

/-! ## Taking a job back -/

/-- A scheduler that is the same but for the order of its table of running jobs, in which the same
numbers are found, and for entries that are retired. -/
structure Reverted (s s' : Scheduler S) : Prop where
  rest : s' = { s with
    running := s'.running
    cache := { s.cache with retired := s'.cache.retired } }
  table : s'.running.Perm s.running
  counts : ∀ id, s'.running.lookup id = s.running.lookup id

lemma Reverted.refl (s : Scheduler S) : s.Reverted s := ⟨rfl, .refl _, fun _ => rfl⟩

lemma turnedAway_reverted (h : s.Counted) (j : Job) : s.Reverted (s.turnedAway j) := by
  have same := ((s.enter j).leave).finish_alike j.entry
  have left : (s.turnedAway j).unfinished = s.unfinished := by
    unfold unfinished
    rw [turnedAway, same.pending]
    rfl
  have right : Tallies (s.turnedAway j).running s.unfinished := left ▸ (h.turnedAway j).tallies
  refine ⟨?_, right.perm h.tallies, fun id => (right.lookup id).trans (h.tallies.lookup id).symm⟩
  unfold turnedAway finish releaseIdle
  split <;>
    simp only [noteFinished, setRunning, enter, leave, DecodeCache.releaseRetired,
      Int.add_sub_cancel]

/-- A refused job ends no retirement of an entry that is watched: if the entry is retired, jobs of
it are left. -/
lemma retired_turnedAway (h : s.Watched j.entry) :
    (s.turnedAway j).cache.retired = s.cache.retired := by
  -- If the entry is retired, one of its jobs is still pending, so that the refused job is not the
  -- last and finishing it does not end the retirement.
  have busy : j.entry ∈ s.cache.retired →
      ((s.enter j).leave.noteFinished j.entry).isRunning j.entry = true := by
    intro mem
    obtain ⟨p, waiting, mine⟩ := h.retired mem
    have same := ((s.enter j).leave).finish_alike j.entry
    have left : (s.turnedAway j).isRunning j.entry = true :=
      ((h.counted.turnedAway j).isRunning_iff _).mpr ⟨p, same.pending ▸ waiting, mine⟩
    rwa [isRunning, turnedAway, running_finish] at left
  unfold turnedAway finish releaseIdle
  split
  · rfl
  · rename_i idle
    refine List.filter_eq_self.mpr fun other mem => ?_
    have differs : other ≠ j.entry := fun same => idle (busy (same ▸ mem))
    simpa using differs

/-- **A refused job is taken back.** Whatever was asked of a scheduler and its executor from the
start on, if a job is refused, because the scheduler is closed or because its executor is shut down,
all is as it was before: what is in flight and in the mailbox, what is pending, the surfaces that
are kept, the numbers of running jobs, and the entries that are retired, unless the entry of the job
was retired in the cache that the scheduler was made with. -/
theorem refused_jobs_are_taken_back {codec : Codec S} {workers : Int} {pace : Pace}
    {cache : DecodeCache S} {s₀ s : Scheduler S} {requests : List Request} {j : Job}
    (created : create workers pace cache = .ok s₀) (reached : (s₀.askAll codec requests).1 = s)
    (refused : (s.submit codec j).1 ≠ .ok ()) :
    ∃ s', s.submit codec j =
        (.error (if s.closed then closedFailure else refusedFailure), s', []) ∧
      s.Reverted s' ∧ (j.entry ∉ s₀.cache.retired → s'.cache.retired = s.cache.retired) := by
  have counted : s.Counted := reached ▸ ((Conserved.start created).askAll requests).counted
  -- A closed scheduler refuses before it notes anything; one whose executor is shut takes its notes
  -- back.
  cases closed : s.closed with
  | true =>
    refine ⟨s, ?_, .refl s, fun _ => rfl⟩
    simp only [submit, closed, if_true]
  | false =>
    have shut : s.executorShut = true := by
      rw [Ne, submit_result] at refused
      simpa [closed] using refused
    refine ⟨s.turnedAway j, ?_, turnedAway_reverted counted j, fun free => ?_⟩
    · simp only [submit, closed, shut, Bool.false_eq_true, if_false, if_true]
      rfl
    · have watched : s.Watched j.entry := reached ▸ (Watched.of_create created free).askAll requests
      exact retired_turnedAway watched

/-- An entry is forgotten while a job of it is pending, and another job of it is refused: the entry
stays retired, and one job is in flight. -/
theorem refused_jobs_are_taken_back_of_forgotten :
    let id : EntryId := .nth 1
    let job (n : Nat) : Job := ⟨id, n, ⟨#[1]⟩, .default, .none⟩
    let start : Scheduler ByteArray := .initial 4 .onDemand .empty
    let s := (start.askAll .verbatim [.submit (job 1), .forget id, .shutExecutor]).1
    create 4 .onDemand .empty = .ok start ∧ s.cache.retired = [id] ∧
      ∃ s', s.submit .verbatim (job 2) = (.error refusedFailure, s', []) ∧
        s'.cache.retired = [id] ∧ s'.inFlight = 1 ∧ s'.running = [(id, 1)] := by
  intro id job start s
  have made : create 4 .onDemand .empty = .ok start := rfl
  have failed : (s.submit .verbatim (job 2)).1 = .error refusedFailure := rfl
  have marked : s.cache.retired = [id] := rfl
  obtain ⟨s', told, reverted, kept⟩ :=
    refused_jobs_are_taken_back (s := s) (j := job 2) made rfl (by rw [failed]; nofun)
  refine ⟨made, marked, s', told, (kept List.not_mem_nil).trans marked, ?_, ?_⟩
  · rw [reverted.rest]
    rfl
  · exact reverted.table.eq_singleton

end Scheduler

end Reencode
