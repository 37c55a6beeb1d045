import Mathlib.Logic.Function.Basic
import Reencode.Proofs.Work.Tickets

/-!
# Unfinished jobs

An accepted job is unfinished as long as it is pending.  When a scheduler wants to know whether an
entry has unfinished jobs it does not search the pending ones: it keeps a table of their numbers,
which is brought up to date whenever a job is accepted, refused, run or cancelled.
`Scheduler.Counted` says that the table is right, and has no place for an entry without jobs.

All operations are made of a few moves.  A job is queued (`Scheduler.queued`), and a pending job is
settled, be it run or cancelled (`Scheduler.settled`); a job that runs at once is queued and settled
(`Scheduler.submit_eq`).  What later modules prove of a scheduler they prove of these moves.
-/

namespace Reencode

variable {S : Type}

/-! ## Tables of numbers -/

/-- A table with the number of every entry whose number is not zero, and with no other entry. -/
structure Tallies (table : List (EntryId × Nat)) (count : EntryId → Nat) : Prop where
  distinct : (table.map (·.1)).Nodup
  lookup : ∀ id, table.lookup id = if count id = 0 then none else some (count id)

namespace Tallies

variable {table : List (EntryId × Nat)} {count : EntryId → Nat}

lemma nil : Tallies [] fun _ => 0 := ⟨List.nodup_nil, fun _ => rfl⟩

lemma getD_lookup (h : Tallies table count) (id : EntryId) :
    (table.lookup id).getD 0 = count id := by
  rw [h.lookup]
  split
  · rename_i none
    exact none.symm
  · rfl

lemma isSome_lookup (h : Tallies table count) (id : EntryId) :
    (table.lookup id).isSome = true ↔ 0 < count id := by
  rw [h.lookup, Nat.pos_iff_ne_zero]
  split <;> simp_all

/-- Setting the number of one entry. -/
lemma set (h : Tallies table count) (id : EntryId) (n : Nat) :
    Tallies
      (if n = 0 then table.filter fun (other, _) => other ≠ id
        else (table.filter fun (other, _) => other ≠ id) ++ [(id, n)])
      (Function.update count id n) := by
  -- The table without the entry has distinct ids, and `id` is none of them.
  have others : ((table.filter fun (other, _) => other ≠ id).map (·.1)).Nodup :=
    h.distinct.sublist (List.filter_sublist.map _)
  have apart : id ∉ (table.filter fun (other, _) => other ≠ id).map (·.1) := by
    intro mem
    obtain ⟨p, hp, rfl⟩ := List.mem_map.mp mem
    simpa using (List.mem_filter.mp hp).2
  constructor
  · split
    · exact others
    · rw [List.map_append]
      refine List.Nodup.append others (List.nodup_singleton _) ?_
      intro other old new
      obtain rfl := List.mem_singleton.mp new
      exact apart old
  · intro other
    have kept := Lookup.lookup_filter_ne table id other
    by_cases same : other = id
    · subst same
      rw [if_pos rfl] at kept
      rw [Function.update_self]
      split
      · exact kept
      · rw [List.lookup_append, kept]
        simp
    · rw [if_neg same, h.lookup] at kept
      rw [Function.update_of_ne same]
      split
      · exact kept
      · have differs : (other == id) = false := by simpa using same
        rw [List.lookup_append, kept]
        simp [List.lookup_cons, differs]

end Tallies

namespace Scheduler

/-! ## The moves of a scheduler -/

/-- The number of unfinished jobs of an entry. -/
def unfinished (s : Scheduler S) (id : EntryId) : Nat :=
  s.pending.countP fun p => p.2.entry = id

/-- The scheduler after a job was accepted that has not run. -/
def queued (s : Scheduler S) (j : Job) : Scheduler S :=
  { s.enter j with
    accepted := s.accepted + 1
    pending := s.pending ++ [(s.accepted + 1, j)] }

/-- The scheduler after a pending job was done with, by running it or otherwise. -/
def settled (s : Scheduler S) (k : Nat) (j : Job) (cache : DecodeCache S) (usage : Usage)
    (outcome : Option Outcome) : Scheduler S :=
  { s with
    pending := s.pending.filter fun (n, _) => n ≠ k
    cache
    usage }.deliver j.entry outcome

/-- The scheduler after a job was counted as accepted and the executor refused it. -/
def turnedAway (s : Scheduler S) (j : Job) : Scheduler S := (s.enter j).leave.finish j.entry

section Moves

variable {s : Scheduler S} {codec : Codec S} {j : Job} {k : Nat} {cache : DecodeCache S}
  {usage : Usage} {outcome : Option Outcome} {id : EntryId}

lemma runPending_eq (found : s.pending.lookup k = some j) :
    (s.runPending codec k).2.1 = s.settled k j (j.run codec s.cache).cache
      (s.usage.append (j.run codec s.cache).usage) (j.run codec s.cache).outcome := by
  simp only [runPending, found]
  rfl

lemma runPending_eq_self (absent : s.pending.lookup k = none) :
    (s.runPending codec k).2.1 = s := by
  simp only [runPending, absent]

lemma cancel_eq (found : s.pending.lookup k = some j) :
    (s.cancel k).2 = s.settled k j s.cache s.usage none := by
  simp only [cancel, found]
  rfl

lemma cancel_eq_self (absent : s.pending.lookup k = none) : (s.cancel k).2 = s := by
  simp only [cancel, absent]

/-- An accepted job waits, or it runs at once. -/
lemma submit_eq (bounded : ∀ p ∈ s.pending, p.1 ≤ s.accepted) (isOpen : s.closed = false)
    (running : s.executorShut = false) :
    (s.submit codec j).2.1 = if s.pace = .immediate then
      ((s.queued j).runPending codec (s.accepted + 1)).2.1 else s.queued j := by
  -- The newest number is above all pending ones, so it is found at the end and nowhere else.
  have fresh : s.pending.filter (fun (n, _) => n ≠ s.accepted + 1) = s.pending := by
    refine List.filter_eq_self.mpr fun p mem => ?_
    have := bounded p mem
    simpa using (by omega : p.1 ≠ s.accepted + 1)
  have absent : s.pending.lookup (s.accepted + 1) = none := by
    refine List.lookup_eq_none_iff.mpr fun p mem => ?_
    have := bounded p mem
    simpa using (by omega : s.accepted + 1 ≠ p.1)
  have found : (s.queued j).pending.lookup (s.accepted + 1) = some j := by
    simp [queued, List.lookup_append, absent]
  have left : (s.queued j).pending.filter (fun (n, _) => n ≠ s.accepted + 1) = s.pending := by
    rw [queued, List.filter_append, fresh]
    simp
  unfold submit
  simp only [isOpen, running, Bool.false_eq_true, if_false]
  split
  · rename_i immediate
    rw [if_pos (show s.pace = .immediate from immediate), runPending_eq found, settled, left]
    rfl
  · rename_i delayed
    rw [if_neg (show ¬s.pace = .immediate from delayed)]
    rfl

lemma submit_turnedAway (isOpen : s.closed = false) (shut : s.executorShut = true) :
    (s.submit codec j).2.1 = s.turnedAway j := by
  simp only [submit, isOpen, shut, Bool.false_eq_true, if_false, if_true]
  rfl

lemma submit_closed (closed : s.closed = true) : (s.submit codec j).2.1 = s := by
  simp only [submit, closed, if_true]

/-! ### What is left of a pending job -/

@[simp] lemma pending_settled : (s.settled k j cache usage outcome).pending =
    s.pending.filter fun (n, _) => n ≠ k := by
  cases outcome <;> exact (finish_alike _ _).pending

@[simp] lemma accepted_settled : (s.settled k j cache usage outcome).accepted = s.accepted := by
  cases outcome <;> exact (finish_alike _ _).accepted

@[simp] lemma mailbox_settled : (s.settled k j cache usage outcome).mailbox =
    s.mailbox ++ outcome.toList := by
  cases outcome with
  | none => exact (finish_alike _ _).mailbox.trans (List.append_nil _).symm
  | some o => exact congrArg (· ++ [o]) (finish_alike _ _).mailbox

@[simp] lemma surfaces_settled : (s.settled k j cache usage outcome).cache.surfaces =
    cache.surfaces := by
  cases outcome <;> exact (finish_alike _ _).surfaces

@[simp] lemma inFlight_settled : (s.settled k j cache usage outcome).inFlight =
    s.inFlight - if outcome.isNone then 1 else 0 := by
  cases outcome with
  | none => exact congrArg (· - 1) (finish_alike _ _).inFlight
  | some o => exact (finish_alike _ _).inFlight.trans (Int.sub_zero _).symm

@[simp] lemma closed_settled : (s.settled k j cache usage outcome).closed = s.closed := by
  cases outcome <;> exact (finish_alike _ _).closed

@[simp] lemma executorShut_settled :
    (s.settled k j cache usage outcome).executorShut = s.executorShut := by
  cases outcome <;> exact (finish_alike _ _).executorShut

lemma running_finish (s : Scheduler S) (id : EntryId) :
    (s.finish id).running = (s.noteFinished id).running := by
  unfold finish releaseIdle
  split <;> rfl

lemma running_settled : (s.settled k j cache usage outcome).running =
    (s.noteFinished j.entry).running := by
  cases outcome <;> exact running_finish _ _

end Moves

/-! ## Right tables -/

/-- A scheduler whose pending jobs have numbers of their own, and whose table has the number of
unfinished jobs of each entry. -/
structure Counted (s : Scheduler S) : Prop where
  numbers : (s.pending.map (·.1)).Nodup
  bounded : ∀ p ∈ s.pending, p.1 ≤ s.accepted
  tallies : Tallies s.running s.unfinished

namespace Counted

variable {s s' : Scheduler S} {codec : Codec S} {j : Job} {k : Nat} {cache : DecodeCache S}
  {usage : Usage} {outcome : Option Outcome}

lemma initial (workers : Int) (pace : Pace) (cache : DecodeCache S) :
    (Scheduler.initial workers pace cache).Counted where
  numbers := List.nodup_nil
  bounded := by simp [Scheduler.initial]
  tallies := .nil

/-- The rest of a scheduler does not matter. -/
lemma congr (h : s.Counted) (pending : s'.pending = s.pending) (accepted : s'.accepted = s.accepted)
    (running : s'.running = s.running) : s'.Counted where
  numbers := pending ▸ h.numbers
  bounded := by
    rw [pending, accepted]
    exact h.bounded
  tallies := by
    rw [running, show s'.unfinished = s.unfinished from by unfold unfinished; rw [pending]]
    exact h.tallies

lemma runningOf_eq (h : s.Counted) (id : EntryId) : s.runningOf id = s.unfinished id :=
  h.tallies.getD_lookup id

/-- An entry has unfinished jobs exactly if the table has it. -/
lemma isRunning_iff (h : s.Counted) (id : EntryId) :
    s.isRunning id = true ↔ ∃ p ∈ s.pending, p.2.entry = id := by
  rw [isRunning, h.tallies.isSome_lookup, unfinished, List.countP_pos_iff]
  simp

lemma lookup_next (h : s.Counted) : s.pending.lookup (s.accepted + 1) = none := by
  refine List.lookup_eq_none_iff.mpr fun p mem => ?_
  have := h.bounded p mem
  simpa using (by omega : s.accepted + 1 ≠ p.1)

lemma queued (h : s.Counted) (j : Job) : (s.queued j).Counted where
  numbers := by
    -- The new number exceeds all that were given out before.
    simp only [Scheduler.queued, List.map_append]
    refine List.Nodup.append h.numbers (List.nodup_singleton _) ?_
    intro n old new
    obtain ⟨p, hp, rfl⟩ := List.mem_map.mp old
    have below := h.bounded p hp
    have next : p.1 = s.accepted + 1 := List.mem_singleton.mp new
    omega
  bounded := by
    intro p hp
    rcases List.mem_append.mp hp with old | new
    · exact Nat.le_succ_of_le (h.bounded p old)
    · obtain rfl := List.mem_singleton.mp new
      exact Nat.le_refl _
  tallies := by
    have more : (s.queued j).unfinished =
        Function.update s.unfinished j.entry (s.unfinished j.entry + 1) := by
      funext id
      simp only [unfinished, Scheduler.queued, List.countP_append, List.countP_singleton,
        decide_eq_true_eq]
      by_cases same : id = j.entry
      · subst same
        rw [Function.update_self, if_pos rfl]
      · rw [Function.update_of_ne same, if_neg (Ne.symm same), Nat.add_zero]
        rfl
    rw [more, ← h.runningOf_eq]
    exact h.tallies.set j.entry (s.runningOf j.entry + 1)

/-- A pending job of another entry than the one that is settled stays. -/
lemma mem_of_ne (h : s.Counted) (found : s.pending.lookup k = some j) {p : Nat × Job}
    (mem : p ∈ s.pending) (differs : p.2.entry ≠ j.entry) :
    p ∈ s.pending.filter fun (n, _) => n ≠ k := by
  refine List.mem_filter.mpr ⟨mem, ?_⟩
  have number : p.1 ≠ k := by
    rintro rfl
    have here := found.symm.trans (Lookup.lookup_of_mem h.numbers mem)
    exact differs (congrArg Job.entry (Option.some.inj here).symm)
  simpa using number

/-- The table loses the job that is settled. -/
lemma settled (h : s.Counted) (found : s.pending.lookup k = some j) :
    (s.settled k j cache usage outcome).Counted where
  numbers := by
    rw [pending_settled]
    exact h.numbers.sublist (List.filter_sublist.map _)
  bounded := by
    intro p hp
    rw [pending_settled] at hp
    rw [accepted_settled]
    exact h.bounded p (List.mem_of_mem_filter hp)
  tallies := by
    have fewer : (s.settled k j cache usage outcome).unfinished =
        Function.update s.unfinished j.entry (s.unfinished j.entry - 1) := by
      -- One pending job fewer of its entry, and as many as before of all others.
      have apart := Lookup.perm_of_lookup h.numbers found
      have count : ∀ id, s.unfinished id = (if j.entry = id then 1 else 0) +
          (s.settled k j cache usage outcome).unfinished id := by
        intro id
        rw [unfinished, apart.countP_eq, List.countP_cons, unfinished, pending_settled,
          Nat.add_comm]
        simp
      funext id
      have := count id
      by_cases same : id = j.entry
      · subst same
        rw [if_pos rfl] at this
        rw [Function.update_self]
        omega
      · rw [if_neg (Ne.symm same)] at this
        rw [Function.update_of_ne same]
        omega
    rw [fewer, running_settled, ← h.runningOf_eq]
    exact h.tallies.set j.entry _

/-- A refused job leaves the numbers of jobs as they were. -/
lemma turnedAway (h : s.Counted) (j : Job) : (s.turnedAway j).Counted := by
  have same := ((s.enter j).leave).finish_alike j.entry
  refine ⟨?_, ?_, ?_⟩
  · exact same.pending ▸ h.numbers
  · rw [Scheduler.turnedAway, same.pending, same.accepted]
    exact h.bounded
  -- Entering adds one to the tally of the entry and finishing takes one away: two updates of one
  -- place.
  · have entered : Tallies (s.enter j).running
        (Function.update s.unfinished j.entry (s.runningOf j.entry + 1)) :=
      h.tallies.set j.entry (s.runningOf j.entry + 1)
    have level : (s.enter j).leave.runningOf j.entry = s.runningOf j.entry + 1 :=
      (entered.getD_lookup j.entry).trans (Function.update_self _ _ _)
    have left := entered.set j.entry ((s.enter j).leave.runningOf j.entry - 1)
    rw [Function.update_idem, level, Nat.add_sub_cancel, h.runningOf_eq,
      Function.update_eq_self] at left
    rw [show (s.turnedAway j).unfinished = s.unfinished from by
      unfold unfinished
      rw [Scheduler.turnedAway, same.pending]
      rfl, Scheduler.turnedAway, running_finish, noteFinished, level, Nat.add_sub_cancel,
      h.runningOf_eq]
    exact left

lemma refused (h : s.Counted) (refused : (s.submit codec j).1 ≠ .ok ()) :
    (s.submit codec j).2.1.Counted := by
  cases closed : s.closed with
  | true =>
    rw [submit_closed closed]
    exact h
  | false =>
    have shut : s.executorShut = true := by
      rw [Ne, submit_result] at refused
      simpa [closed] using refused
    rw [submit_turnedAway closed shut]
    exact h.turnedAway j

lemma forget (h : s.Counted) (id : EntryId) : (s.forget id).Counted := by
  refine h.congr ?_ ?_ ?_
  all_goals
    unfold Scheduler.forget releaseIdle
    split <;> rfl

end Counted

end Scheduler

end Reencode
