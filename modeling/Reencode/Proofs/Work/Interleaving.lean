import Mathlib.Logic.Relation
import Reencode.Proofs.Work.Hygiene

/-!
# Jobs between locks

A scheduler and its cache are each guarded by a lock, and a job takes one of them for a moment only:
to look its entry up, to commit what it decoded, to be counted as finished, and, if it was the last
one of its entry, to end the entry's retirement.  Between two such moments other jobs and the owner
may do anything.  So does the owner, when it forgets an entry: it invalidates the entry and looks
whether jobs of it are running under one lock, and ends the retirement, if there are none, later.

`Threads` is a scheduler with its jobs and its owner in the middle of all this, and
`Threads.step` lets one of them take the next lock.  A job that takes its locks one right after the
other does what `Scheduler.perform` does (`Threads.steps_of_undisturbed`), and an owner who does so
forgets by `Scheduler.forget` (`Threads.steps_of_forgetting`).
-/

namespace Reencode

variable {S : Type}

/-- How far a job has come: it was accepted, it found nothing in the cache, it decoded its source,
it has done its work or will never do it, it was counted as the last one of its entry to finish, or
it is done. -/
inductive Stage (S : Type) where
  | accepted
  | missed
  | decoded (surface : Option S)
  | worked
  | counted
  | done

namespace Stage

/-- Whether a job at this stage counts as running. -/
def isUnfinished : Stage S → Bool
  | counted | done => false
  | _ => true

/-- What a job does when it gets the lock that it needs next, and the stage it comes to. -/
def next (codec : Codec S) (s : Scheduler S) (j : Job) : Stage S → Option (Scheduler S × Stage S)
  | accepted =>
    match j.defect with
    | .none => some (s, if (s.cache.lookup j.entry).isSome then worked else missed)
    | _ => some (s, worked)
  | missed =>
    match (codec.decode j.source).result with
    | .ok surface => some (s, decoded surface)
    | .error _ => some (s, worked)
  | decoded surface => some ({ s with cache := (s.cache.commit j.entry surface).2 }, worked)
  | worked =>
    let s := s.noteFinished j.entry
    some (s, if s.isRunning j.entry then done else counted)
  | counted => some ({ s with cache := s.cache.releaseRetired j.entry }, done)
  | done => none

lemma isUnfinished_of_counting (left : Bool) :
    (if left then done else counted : Stage S).isUnfinished = false := by
  cases left <;> rfl

end Stage

/-- A scheduler with the jobs that were ever accepted, oldest first, and its owner, who may owe the
end of a retirement to an entry that was forgotten while no job of it was running. -/
structure Threads (S : Type) where
  scheduler : Scheduler S
  jobs : List (Job × Stage S)
  owing : Option EntryId

/-- What one of the threads does while it has a lock. Forgetting an entry invalidates it and looks
up whether jobs of it are running; the end of its retirement is a move of its own. A job that has
not begun may be given up, because it is cancelled or was refused. -/
inductive Move where
  | submit (j : Job)
  | forget (id : EntryId)
  | release
  | work (k : Nat)
  | giveUp (k : Nat)

namespace Threads

/-- A scheduler that was just made. -/
def initial (s : Scheduler S) : Threads S := ⟨s, [], none⟩

/-- The threads after one of them had a lock; none if it had nothing to do. -/
def step (codec : Codec S) (m : Threads S) : Move → Option (Threads S)
  | .submit j =>
    if m.owing.isSome then none
    else some { m with scheduler := m.scheduler.enter j, jobs := m.jobs ++ [(j, .accepted)] }
  | .forget id =>
    if m.owing.isSome then none
    else
      let scheduler := { m.scheduler with cache := m.scheduler.cache.invalidate id }
      some { m with scheduler, owing := if scheduler.isRunning id then none else some id }
  | .release =>
    match m.owing with
    | none => none
    | some id => some { m with
        scheduler := { m.scheduler with cache := m.scheduler.cache.releaseRetired id }
        owing := none }
  | .work k =>
    match m.jobs[k]? with
    | none => none
    | some (j, stage) =>
      (stage.next codec m.scheduler j).map fun (scheduler, stage) =>
        { m with scheduler, jobs := m.jobs.set k (j, stage) }
  | .giveUp k =>
    match m.jobs[k]? with
    | some (j, .accepted) => some { m with jobs := m.jobs.set k (j, .worked) }
    | _ => none

/-- The threads after one move after the other. -/
def steps (codec : Codec S) (m : Threads S) : List Move → Option (Threads S)
  | [] => some m
  | move :: rest => (m.step codec move).bind fun m => m.steps codec rest

end Threads

/-! ## Without interruption -/

section Undisturbed

variable {codec : Codec S} {j : Job} {s : Scheduler S}

namespace Stage

/-- What a job alone leads to, by taking one lock after the other. -/
def Leads (codec : Codec S) (j : Job) : Scheduler S × Stage S → Scheduler S × Stage S → Prop :=
  Relation.ReflTransGen fun p q => p.2.next codec p.1 j = some q

lemma leads_to_worked (codec : Codec S) (j : Job) (s : Scheduler S) :
    Leads codec j (s, accepted) ({ s with cache := (j.run codec s.cache).cache }, worked) := by
  unfold Job.run
  -- A sound job goes the way of its run: a hit in the cache ends it, a miss decodes first.
  split
  · rename_i sound
    unfold Job.recode DecodeCache.getOrDecode
    cases kept : s.cache.lookup j.entry with
    | some surface =>
      dsimp only [Attempt.ok]
      rw [Job.encode_cache]
      exact .single (by simp only [next, sound, kept, Option.isSome_some, if_true])
    | none =>
      have looked : next codec s j accepted = some (s, missed) := by
        simp only [next, sound, kept, Option.isSome_none, Bool.false_eq_true, if_false]
      refine .head looked ?_
      cases decoded : (codec.decode j.source).result with
      | error failure =>
        dsimp only [Attempt.andThen]
        simp only [decoded]
        have failed : next codec s j missed = some (s, worked) := by simp only [next, decoded]
        exact .single failed
      | ok surface =>
        dsimp only [Attempt.andThen]
        simp only [decoded, Attempt.ok, Job.encode_cache]
        have gone : next codec s j missed = some (s, .decoded surface) := by
          simp only [next, decoded]
        exact .head gone (.single rfl)
  -- With either defect the job never reaches the cache.
  all_goals
    rename_i defect
    have spared : next codec s j accepted = some (s, worked) := by simp only [next, defect]
    exact .single spared

lemma leads_to_done (codec : Codec S) (j : Job) (s : Scheduler S) :
    Leads codec j (s, worked) (s.finish j.entry, done) := by
  unfold Scheduler.finish Scheduler.releaseIdle
  split
  · rename_i left
    exact .single (by simp only [next, left, if_true])
  · rename_i left
    have counting : next codec s j worked = some (s.noteFinished j.entry, counted) := by
      simp only [next, left, Bool.false_eq_true, if_false]
    exact .head counting (.single rfl)

end Stage

namespace Threads

variable {m : Threads S} {k : Nat}

lemma steps_of_leads {p q : Scheduler S × Stage S} (leads : Stage.Leads codec j p q)
    (found : m.jobs[k]? = some (j, p.2)) (scheduler : m.scheduler = p.1) :
    ∃ n, m.steps codec (List.replicate n (.work k)) =
      some ⟨q.1, m.jobs.set k (j, q.2), m.owing⟩ := by
  -- Induction on the stages that lead there, from the first: each one is a move of job `k`, after
  -- which the job stands at the next.
  induction leads using Relation.ReflTransGen.head_induction_on generalizing m with
  | refl =>
    obtain ⟨bound, here⟩ := List.getElem?_eq_some_iff.mp found
    refine ⟨0, ?_⟩
    rw [← here, List.set_getElem_self, ← scheduler]
    rfl
  | @head p p' next rest ih =>
    obtain ⟨bound, -⟩ := List.getElem?_eq_some_iff.mp found
    have moves : m.step codec (.work k) = some ⟨p'.1, m.jobs.set k (j, p'.2), m.owing⟩ := by
      simp only [step, found, scheduler, next, Option.map_some]
    obtain ⟨n, later⟩ := ih (m := ⟨p'.1, m.jobs.set k (j, p'.2), m.owing⟩)
      (List.getElem?_set_self bound) rfl
    refine ⟨n + 1, ?_⟩
    rw [List.replicate_succ, steps, moves, Option.bind_some, later, List.set_set]

/-- A job that nobody comes between does to the cache and the table what running it does. -/
theorem steps_of_undisturbed (found : m.jobs[k]? = some (j, .accepted)) :
    -- The stages of a job, run through without interruption, come to what performing it at once
    -- does.
    ∃ n m', m.steps codec (List.replicate n (.work k)) = some m' ∧
      m'.jobs = m.jobs.set k (j, .done) ∧ m'.owing = m.owing ∧
      m'.scheduler.cache = (m.scheduler.perform codec j).1.cache ∧
      m'.scheduler.running = (m.scheduler.perform codec j).1.running := by
  have leads := (Stage.leads_to_worked codec j m.scheduler).trans (Stage.leads_to_done codec j _)
  obtain ⟨n, went⟩ := steps_of_leads leads found rfl
  -- What the codec was asked to do has no part in finishing the job.
  have same : ∀ (s : Scheduler S) (usage : Usage) (outcome : Option Outcome),
      ({ s with usage }.deliver j.entry outcome).cache = (s.finish j.entry).cache ∧
      ({ s with usage }.deliver j.entry outcome).running = (s.finish j.entry).running := by
    intro s usage outcome
    have finished : { s with usage }.finish j.entry = { s.finish j.entry with usage } := by
      unfold Scheduler.finish Scheduler.releaseIdle
      by_cases left : (s.noteFinished j.entry).isRunning j.entry = true
      · rw [if_pos left]
        exact if_pos left
      · rw [if_neg left]
        exact if_neg left
    unfold Scheduler.deliver
    cases outcome <;> simp only [finished, Scheduler.leave, and_self]
  refine ⟨n, _, went, rfl, rfl, ?_⟩
  exact ⟨(same _ _ _).1.symm, (same _ _ _).2.symm⟩

/-- An owner whom nobody comes between forgets an entry in one go. -/
theorem steps_of_forgetting (free : m.owing = none) (id : EntryId) :
    m.steps codec (.forget id :: if m.scheduler.isRunning id then [] else [.release]) =
      some { m with scheduler := m.scheduler.forget id } := by
  obtain ⟨scheduler, jobs, owing⟩ := m
  obtain rfl : owing = none := free
  -- With jobs left the owner owes nothing; else it owes the end of the retirement and pays at once.
  by_cases running : scheduler.isRunning id = true
  · have kept : scheduler.forget id = { scheduler with cache := scheduler.cache.invalidate id } :=
      if_pos running
    rw [if_pos running, kept]
    simp only [steps, step, Option.isSome_none, Bool.false_eq_true, if_false, Option.bind_some]
    exact congrArg (fun owing => some (Threads.mk _ jobs owing)) (if_pos running)
  · have kept : scheduler.forget id = { scheduler with
        cache := (scheduler.cache.invalidate id).releaseRetired id } := if_neg running
    have owed : step codec ⟨scheduler, jobs, none⟩ (.forget id) =
        some ⟨{ scheduler with cache := scheduler.cache.invalidate id }, jobs, some id⟩ :=
      congrArg (fun owing => some (Threads.mk _ jobs owing)) (if_neg running)
    rw [if_neg running, kept, steps, owed]
    rfl

end Threads

end Undisturbed

/-! ## What a move does -/

namespace Threads

/-- A job was counted as the last one of an entry, and is about to end the entry's retirement. -/
def CountedLast (m : Threads S) (id : EntryId) (k : Nat) : Prop :=
  ∃ j : Job, m.jobs[k]? = some (j, Stage.counted) ∧ j.entry = id

/-- What a move may do. -/
inductive Moved (m : Threads S) : Move → Threads S → Prop
  | submitted (j : Job) (free : m.owing = none) :
      Moved m (.submit j)
        { m with scheduler := m.scheduler.enter j, jobs := m.jobs ++ [(j, .accepted)] }
  | forgotten (id : EntryId) (free : m.owing = none) :
      Moved m (.forget id) { m with
        scheduler := { m.scheduler with cache := m.scheduler.cache.invalidate id }
        owing := if m.scheduler.isRunning id then none else some id }
  | released {id : EntryId} (owed : m.owing = some id) :
      Moved m .release { m with
        scheduler := { m.scheduler with cache := m.scheduler.cache.releaseRetired id }
        owing := none }
  | wentOn {move : Move} {k : Nat} {j : Job} (stage stage' : Stage S)
      (own : move = .work k ∨ move = .giveUp k) (found : m.jobs[k]? = some (j, stage))
      (before : stage.isUnfinished = true) (after : stage'.isUnfinished = true) :
      Moved m move { m with jobs := m.jobs.set k (j, stage') }
  | committed {k : Nat} {j : Job} {surface : Option S}
      (found : m.jobs[k]? = some (j, .decoded surface)) :
      Moved m (.work k) { m with
        scheduler := { m.scheduler with cache := (m.scheduler.cache.commit j.entry surface).2 }
        jobs := m.jobs.set k (j, .worked) }
  | counted {k : Nat} {j : Job} (found : m.jobs[k]? = some (j, .worked)) :
      Moved m (.work k) { m with
        scheduler := m.scheduler.noteFinished j.entry
        jobs := m.jobs.set k (j, if (m.scheduler.noteFinished j.entry).isRunning j.entry then .done
          else .counted) }
  | settled {k : Nat} {j : Job} (found : m.jobs[k]? = some (j, .counted)) :
      Moved m (.work k) { m with
        scheduler := { m.scheduler with cache := m.scheduler.cache.releaseRetired j.entry }
        jobs := m.jobs.set k (j, .done) }

variable {codec : Codec S} {m m' : Threads S} {move : Move} {id : EntryId}

lemma moved_of_step (moves : m.step codec move = some m') : m.Moved move m' := by
  cases move with
  | submit j =>
    simp only [step] at moves
    split at moves
    · cases moves
    · rename_i free
      cases moves
      exact .submitted j (by simpa using free)
  | forget id =>
    simp only [step] at moves
    split at moves
    · cases moves
    · rename_i free
      cases moves
      exact .forgotten id (by simpa using free)
  | release =>
    simp only [step] at moves
    split at moves
    · cases moves
    · rename_i id owed
      cases moves
      exact .released owed
  | giveUp k =>
    simp only [step] at moves
    split at moves
    · rename_i j found
      cases moves
      exact .wentOn .accepted .worked (.inr rfl) found rfl rfl
    · cases moves
  | work k =>
    simp only [step] at moves
    split at moves
    · cases moves
    · rename_i j stage found
      obtain ⟨⟨scheduler, stage'⟩, went, rfl⟩ := Option.map_eq_some_iff.mp moves
      -- A job that goes on: every stage but the last has one successor, or two by what it finds.
      cases stage with
      | accepted =>
        simp only [Stage.next] at went
        split at went
        · cases went
          refine .wentOn .accepted _ (.inl rfl) found rfl ?_
          split <;> rfl
        · cases went
          exact .wentOn .accepted .worked (.inl rfl) found rfl rfl
      | missed =>
        simp only [Stage.next] at went
        split at went
        · rename_i surface _
          cases went
          exact .wentOn .missed (.decoded surface) (.inl rfl) found rfl rfl
        · cases went
          exact .wentOn .missed .worked (.inl rfl) found rfl rfl
      | decoded surface =>
        cases went
        exact .committed found
      | worked =>
        cases went
        exact .counted found
      | counted =>
        cases went
        exact .settled found
      | done => cases went

end Threads

end Reencode
