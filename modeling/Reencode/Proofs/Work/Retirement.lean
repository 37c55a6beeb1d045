import Reencode.Proofs.Work.Interleaving

/-!
# Forgotten entries

The scheduler means to keep an entry that was forgotten out of the cache for good.  Jobs of it that
are still running must not put their surfaces there, so the entry is retired until the last of them
was counted, and whoever finds that none is left ends the retirement, after it has given its lock
back.

`Threads.Barred` says that the entry is out of the cache and that its retirement lasts, and
`Threads.Attended` that the retirement will be ended.  The latter is kept by every move.  But a
retirement may be ended too early, by a job that was counted as the last one of its entry before the
entry was forgotten, and gets the next lock only now, while a newer job is running.  There is no
other way in which an entry that was forgotten can come back.
-/

namespace Reencode

variable {S : Type}

namespace Threads

variable {codec : Codec S} {m m' : Threads S} {move : Move} {id : EntryId}

/-! ## Numbers of unfinished jobs -/

section Jobs

variable {jobs : List (Job × Stage S)} {k : Nat} {j : Job} {stage : Stage S}

/-- The number of unfinished jobs of an entry in a list. -/
def unfinishedIn (jobs : List (Job × Stage S)) (id : EntryId) : Nat :=
  jobs.countP fun p => decide (p.1.entry = id) && p.2.isUnfinished

/-- Of the numbers of unfinished jobs, the stage of one job matters for its own entry alone. -/
lemma unfinishedIn_set (found : jobs[k]? = some (j, stage)) (stage' : Stage S) (id : EntryId) :
    unfinishedIn (jobs.set k (j, stage')) id +
        (if j.entry = id ∧ stage.isUnfinished = true then 1 else 0) =
      unfinishedIn jobs id + if j.entry = id ∧ stage'.isUnfinished = true then 1 else 0 := by
  simpa [unfinishedIn] using Lookup.countP_set_add found (j, stage')
    fun p => decide (p.1.entry = id) && p.2.isUnfinished

lemma unfinishedIn_set_of_eq (found : jobs[k]? = some (j, stage)) (stage' : Stage S)
    (same : stage'.isUnfinished = stage.isUnfinished) :
    unfinishedIn (jobs.set k (j, stage')) = unfinishedIn jobs := by
  funext id
  have count := unfinishedIn_set found stage' id
  rw [same] at count
  exact Nat.add_right_cancel count

/-- A job that is counted as finished is one less of its entry. -/
lemma unfinishedIn_set_of_finished (found : jobs[k]? = some (j, stage))
    (before : stage.isUnfinished = true) (stage' : Stage S)
    (after : stage'.isUnfinished = false) : unfinishedIn (jobs.set k (j, stage')) =
      Function.update (unfinishedIn jobs) j.entry (unfinishedIn jobs j.entry - 1) := by
  funext id
  have count := unfinishedIn_set found stage' id
  simp only [before, after, and_true, Bool.false_eq_true, and_false, if_false] at count
  by_cases mine : id = j.entry
  · subst mine
    rw [if_pos rfl] at count
    rw [Function.update_self]
    omega
  · rw [if_neg (Ne.symm mine)] at count
    rw [Function.update_of_ne mine]
    exact count

lemma unfinishedIn_pos (found : jobs[k]? = some (j, stage)) (going : stage.isUnfinished = true) :
    0 < unfinishedIn jobs j.entry := by
  refine List.countP_pos_iff.mpr ⟨(j, stage), List.mem_of_getElem? found, ?_⟩
  simp [going]

lemma unfinishedIn_append (jobs : List (Job × Stage S)) (j : Job) :
    unfinishedIn (jobs ++ [(j, .accepted)]) =
      Function.update (unfinishedIn jobs) j.entry (unfinishedIn jobs j.entry + 1) := by
  have begun : (Stage.accepted : Stage S).isUnfinished = true := rfl
  funext id
  simp only [unfinishedIn, List.countP_append, List.countP_singleton, begun, Bool.and_true,
    decide_eq_true_eq]
  by_cases mine : id = j.entry
  · subst mine
    rw [Function.update_self, if_pos rfl]
  · rw [Function.update_of_ne mine, if_neg (Ne.symm mine), Nat.add_zero]
    rfl

end Jobs

/-! ## What interleavings keep -/

/-- The table of running jobs is right. -/
def Tallied (m : Threads S) : Prop := Tallies m.scheduler.running (unfinishedIn m.jobs)

/-- If an entry is retired, somebody will end its retirement: a job that is still to be counted, or
one that was counted as the last one, or the owner. -/
def Attended (id : EntryId) (m : Threads S) : Prop :=
  id ∈ m.scheduler.cache.retired →
    0 < unfinishedIn m.jobs id ∨ (∃ k, m.CountedLast id k) ∨ m.owing = some id

/-- An entry that is out of the cache, and stays out: no job of it will ever commit again, or it is
retired, and its retirement lasts until the last of its jobs is counted, unless one of the `early`
jobs ends it. -/
structure Barred (id : EntryId) (early : Nat → Prop) (m : Threads S) : Prop where
  absent : ∀ p ∈ m.scheduler.cache.surfaces, p.1 ≠ id
  kept : unfinishedIn m.jobs id = 0 ∨
    id ∈ m.scheduler.cache.retired ∧ m.owing ≠ some id ∧ ∀ k, m.CountedLast id k → early k

lemma Tallied.initial {s : Scheduler S} (idle : s.running = []) : (Threads.initial s).Tallied :=
  show Tallies s.running fun _ => 0 from idle ▸ .nil

/-! ### Jobs that were counted -/

section CountedLast

variable {k i : Nat} {j : Job} {stage stage' : Stage S} {scheduler : Scheduler S}

/-- A job that does not end a retirement leaves all jobs that do as they are. -/
lemma CountedLast.of_set (found : m.jobs[k]? = some (j, stage))
    (apart : stage = .counted → j.entry ≠ id) (last : m.CountedLast id i) :
    CountedLast { m with scheduler, jobs := m.jobs.set k (j, stage') } id i := by
  obtain ⟨j', there, named⟩ := last
  have other : k ≠ i := by
    rintro rfl
    rw [found] at there
    cases there
    exact apart rfl named
  refine ⟨j', ?_, named⟩
  rw [← there]
  exact List.getElem?_set_ne other

/-- A job that went on and is about to end a retirement was so before, or was counted just now. -/
lemma countedLast_of_set (stage' : Stage S)
    (apart : stage' = .counted → j.entry ≠ id)
    (last : CountedLast { m with scheduler, jobs := m.jobs.set k (j, stage') } id i) :
    m.CountedLast id i := by
  obtain ⟨j', there, named⟩ := last
  rcases Lookup.eq_or_of_getElem?_set there with ⟨-, here⟩ | old
  · cases here
    exact absurd named (apart rfl)
  · exact ⟨j', old, named⟩

lemma CountedLast.of_append (last : m.CountedLast id i) :
    CountedLast { m with scheduler, jobs := m.jobs ++ [(j, .accepted)] } id i := by
  obtain ⟨j', there, named⟩ := last
  obtain ⟨bound, -⟩ := List.getElem?_eq_some_iff.mp there
  refine ⟨j', ?_, named⟩
  rw [← there]
  exact List.getElem?_append_left bound

lemma countedLast_of_append
    (last : CountedLast { m with scheduler, jobs := m.jobs ++ [(j, .accepted)] } id i) :
    m.CountedLast id i := by
  obtain ⟨j', there, named⟩ := last
  rcases Lookup.eq_or_of_getElem?_concat there with ⟨-, accepted⟩ | old
  · cases accepted
  · exact ⟨j', old, named⟩

end CountedLast

/-! ### One move -/

/-- The table when one job of an entry was counted as finished. -/
lemma Tallied.noteFinished (h : m.Tallied) (id : EntryId) :
    Tallies (m.scheduler.noteFinished id).running
      (Function.update (unfinishedIn m.jobs) id (unfinishedIn m.jobs id - 1)) := by
  rw [← h.getD_lookup]
  exact h.set id (m.scheduler.runningOf id - 1)

lemma Tallied.isRunning_iff (h : m.Tallied) (id : EntryId) :
    m.scheduler.isRunning id = true ↔ 0 < unfinishedIn m.jobs id := h.isSome_lookup id

/-- What a job leaves of the numbers when it is counted as finished. -/
lemma unfinishedIn_of_counted {k : Nat} {j : Job} (found : m.jobs[k]? = some (j, .worked)) :
    unfinishedIn (m.jobs.set k (j, if (m.scheduler.noteFinished j.entry).isRunning j.entry
        then .done else .counted)) =
      Function.update (unfinishedIn m.jobs) j.entry (unfinishedIn m.jobs j.entry - 1) :=
  unfinishedIn_set_of_finished found rfl _ (Stage.isUnfinished_of_counting _)

lemma Tallied.step (h : m.Tallied) (moved : m.Moved move m') : m'.Tallied := by
  cases moved with
  | submitted j free =>
    unfold Tallied
    rw [unfinishedIn_append, ← h.getD_lookup]
    exact h.set j.entry (m.scheduler.runningOf j.entry + 1)
  | forgotten | released => exact h
  -- A job that goes on without finishing stays unfinished, so its place in the list does not
  -- matter.
  | wentOn stage stage' own found before after =>
    unfold Tallied
    rw [unfinishedIn_set_of_eq found stage' (after.trans before.symm)]
    exact h
  | committed found =>
    unfold Tallied
    rw [unfinishedIn_set_of_eq found .worked rfl]
    exact h
  | counted found =>
    unfold Tallied
    rw [unfinishedIn_of_counted found]
    exact h.noteFinished _
  | settled found =>
    unfold Tallied
    rw [unfinishedIn_set_of_eq found .done rfl]
    exact h

/-- Whoever retires an entry sees to it that the retirement will be ended. -/
lemma Attended.of_forget (tallied : m.Tallied) (moved : m.Moved (.forget id) m') :
    m'.Attended id := by
  generalize forgets : Move.forget id = move at moved
  cases moved with
  | forgotten id' free =>
    obtain rfl := Move.forget.inj forgets
    intro _
    by_cases running : m.scheduler.isRunning id = true
    · exact .inl ((tallied.isRunning_iff id).mp running)
    · exact .inr (.inr (if_neg running))
  | wentOn _ _ own => rcases own with rfl | rfl <;> cases forgets
  | _ => cases forgets

lemma Attended.step (h : m.Attended id) (tallied : m.Tallied) (moved : m.Moved move m') :
    m'.Attended id := by
  cases moved with
  | submitted j free =>
    intro mem
    -- Whoever attended to the retirement before still does: a submitted job only adds one.
    rcases h mem with running | ⟨k, last⟩ | owner
    · refine .inl ?_
      rw [unfinishedIn_append]
      by_cases mine : id = j.entry
      · subst mine
        simp
      · rwa [Function.update_of_ne mine]
    · exact .inr (.inl ⟨k, last.of_append⟩)
    · exact .inr (.inr owner)
  | forgotten other free =>
    intro mem
    rcases DecodeCache.mem_retired_invalidate.mp mem with rfl | old
    · exact Attended.of_forget tallied (.forgotten id free) mem
    · rcases h old with running | last | owner
      · exact .inl running
      · exact .inr (.inl last)
      -- The owner who forgets now owed nothing before.
      · rw [free] at owner
        cases owner
  | @released other owed =>
    intro mem
    obtain ⟨old, differs⟩ := DecodeCache.mem_retired_releaseRetired.mp mem
    rcases h old with running | last | owner
    · exact .inl running
    · exact .inr (.inl last)
    · rw [owed] at owner
      exact absurd (Option.some.inj owner).symm differs
  | wentOn stage stage' own found before after =>
    intro mem
    -- A job that is about to end a retirement has no stage before that to come to.
    refine (h mem).imp (fun running => ?_) (.imp_left fun ⟨i, last⟩ => ⟨i, last.of_set found ?_⟩)
    · rwa [unfinishedIn_set_of_eq found stage' (after.trans before.symm)]
    · rintro rfl
      cases before
  | @committed k j surface found =>
    intro mem
    rw [(m.scheduler.cache.commit_grown j.entry surface).retired] at mem
    refine (h mem).imp (fun running => ?_) (.imp_left fun ⟨i, last⟩ => ⟨i, last.of_set found nofun⟩)
    rwa [unfinishedIn_set_of_eq found .worked rfl]
  | @counted k j found =>
    intro mem
    rcases h mem with running | ⟨i, last⟩ | owner
    · by_cases mine : j.entry = id
      · subst mine
        -- Other jobs of the entry are left, or this one was the last.
        by_cases left : (m.scheduler.noteFinished j.entry).isRunning j.entry = true
        · refine .inl ?_
          rw [unfinishedIn_of_counted found]
          exact ((tallied.noteFinished j.entry).isSome_lookup _).mp left
        · obtain ⟨bound, -⟩ := List.getElem?_eq_some_iff.mp found
          refine .inr (.inl ⟨k, j, ?_, rfl⟩)
          rw [List.getElem?_set_self bound, if_neg left]
      · refine .inl ?_
        rwa [unfinishedIn_of_counted found, Function.update_of_ne (Ne.symm mine)]
    · exact .inr (.inl ⟨i, last.of_set found nofun⟩)
    · exact .inr (.inr owner)
  | @settled k j found =>
    intro mem
    obtain ⟨old, differs⟩ := DecodeCache.mem_retired_releaseRetired.mp mem
    refine (h old).imp (fun running => ?_)
      (.imp_left fun ⟨i, last⟩ => ⟨i, last.of_set found fun _ => differs.symm⟩)
    rwa [unfinishedIn_set_of_eq found .done rfl]

/-- Forgetting an entry bars it from the cache.  The jobs that may still let it in were counted as
the last ones before, and were not, since others are running. -/
lemma Barred.of_forget (tallied : m.Tallied) (moved : m.Moved (.forget id) m') :
    m'.Barred id fun k => m.scheduler.isRunning id = true ∧ m.CountedLast id k := by
  generalize forgets : Move.forget id = move at moved
  cases moved with
  | forgotten id' free =>
    obtain rfl := Move.forget.inj forgets
    refine ⟨fun p mem => (DecodeCache.mem_surfaces_invalidate.mp mem).2, ?_⟩
    -- Either a job runs, and then the owner owes nothing, or no job of the entry is left at all.
    by_cases running : m.scheduler.isRunning id = true
    · refine .inr ⟨DecodeCache.mem_retired_invalidate.mpr (.inl rfl), ?_, fun k last =>
        ⟨running, last⟩⟩
      dsimp only
      rw [if_pos running]
      exact nofun
    · refine .inl (Nat.eq_zero_of_not_pos fun left => running ?_)
      exact (tallied.isRunning_iff id).mpr left
  | wentOn _ _ own => rcases own with rfl | rfl <;> cases forgets
  | _ => cases forgets

/-- Only submitting a job of an entry makes its unfinished jobs more. -/
lemma Moved.unfinishedIn_le (moved : m.Moved move m')
    (unasked : ∀ j, move = .submit j → j.entry ≠ id) :
    unfinishedIn m'.jobs id ≤ unfinishedIn m.jobs id := by
  cases moved with
  | submitted j free =>
    rw [unfinishedIn_append]
    exact Nat.le_of_eq (Function.update_of_ne (Ne.symm (unasked j rfl)) _ _)
  | forgotten | released => exact Nat.le_refl _
  | wentOn stage stage' own found before after =>
    exact Nat.le_of_eq
      (congrFun (unfinishedIn_set_of_eq found stage' (after.trans before.symm)) id)
  | committed found => exact Nat.le_of_eq (congrFun (unfinishedIn_set_of_eq found .worked rfl) id)
  | @counted k j found =>
    rw [unfinishedIn_of_counted found]
    by_cases mine : id = j.entry
    · subst mine
      rw [Function.update_self]
      exact Nat.sub_le _ _
    · exact Nat.le_of_eq (Function.update_of_ne mine _ _)
  | settled found => exact Nat.le_of_eq (congrFun (unfinishedIn_set_of_eq found .done rfl) id)

/-- A job is counted as the last one of its entry when no other one is left. -/
lemma Moved.countedLast (tallied : m.Tallied) (moved : m.Moved move m') {k : Nat}
    (last : m'.CountedLast id k) : m.CountedLast id k ∨ unfinishedIn m'.jobs id = 0 := by
  cases moved with
  | submitted j free => exact .inl (countedLast_of_append last)
  | forgotten | released => exact .inl last
  -- To have been counted last is a stage that only counting comes to.
  | wentOn stage stage' own found before after =>
    refine .inl (countedLast_of_set stage' ?_ last)
    rintro rfl
    cases after
  | committed => exact .inl (countedLast_of_set .worked nofun last)
  | @counted k j found =>
    -- While jobs are left, counting one does not make it the last.
    refine or_iff_not_imp_right.mpr fun some_left => countedLast_of_set _ ?_ last
    rintro counted rfl
    rw [unfinishedIn_of_counted found] at some_left
    have running : (m.scheduler.noteFinished j.entry).isRunning j.entry = true :=
      ((tallied.noteFinished j.entry).isSome_lookup j.entry).mpr (Nat.pos_of_ne_zero some_left)
    rw [if_pos running] at counted
    cases counted
  | settled => exact .inl (countedLast_of_set .done nofun last)

section Barred

variable {early : Nat → Prop}

lemma Barred.absent_step (h : m.Barred id early) (moved : m.Moved move m') :
    ∀ p ∈ m'.scheduler.cache.surfaces, p.1 ≠ id := by
  cases moved with
  | forgotten other free =>
    exact fun p mem => h.absent p (DecodeCache.mem_surfaces_invalidate.mp mem).1
  | @committed k j surface found =>
    intro p mem
    rcases (m.scheduler.cache.commit_grown j.entry surface).surfaces p mem with old | ⟨mine, free⟩
    · exact h.absent p old
    · -- A job that commits is unfinished, so its entry would still be retired.
      rintro rfl
      rcases h.kept with none_left | ⟨retired, -⟩
      · have left := unfinishedIn_pos found rfl
        rw [← mine, none_left] at left
        cases left
      · exact free (mine ▸ retired)
  | _ => exact h.absent

/-- A retirement that is not to be ended yet lasts, unless one of the early jobs ends it. -/
lemma Barred.retired_step (h : m.Barred id early) (tallied : m.Tallied)
    (moved : m.Moved move m') (before : unfinishedIn m.jobs id ≠ 0) :
    (id ∈ m'.scheduler.cache.retired ∧ m'.owing ≠ some id) ∨
      ∃ k, move = .work k ∧ early k ∧ m.CountedLast id k ∧ m.scheduler.isRunning id = true := by
  obtain ⟨retired, unowed, known⟩ := h.kept.resolve_left before
  have running := (tallied.isRunning_iff id).mpr (Nat.pos_of_ne_zero before)
  -- The retirement is ended by the owner, who does not owe it, or by a job that was counted last.
  cases moved with
  | forgotten other free =>
    refine .inl ⟨DecodeCache.mem_retired_invalidate.mpr (.inr retired), fun owner => ?_⟩
    dsimp only at owner
    split at owner
    · cases owner
    · rename_i idle
      exact idle (Option.some.inj owner ▸ running)
  | @released other owed =>
    refine .inl ⟨DecodeCache.mem_retired_releaseRetired.mpr ⟨retired, ?_⟩, nofun⟩
    rintro rfl
    exact unowed owed
  | @committed k j surface found =>
    exact .inl ⟨(m.scheduler.cache.commit_grown j.entry surface).retired ▸ retired, unowed⟩
  | @settled k j found =>
    by_cases mine : j.entry = id
    · have last : m.CountedLast id k := ⟨j, found, mine⟩
      exact .inr ⟨k, rfl, known k last, last, running⟩
    · exact .inl ⟨DecodeCache.mem_retired_releaseRetired.mpr ⟨retired, Ne.symm mine⟩, unowed⟩
  | _ => exact .inl ⟨retired, unowed⟩

/-- A barred entry stays barred, as long as no job of it is submitted, unless one of the early jobs
ends its retirement while another job of it is running. -/
lemma Barred.step (h : m.Barred id early) (tallied : m.Tallied) (moved : m.Moved move m')
    (unasked : ∀ j, move = .submit j → j.entry ≠ id) :
    m'.Barred id early ∨ ∃ k, move = .work k ∧ early k ∧ m.CountedLast id k ∧
      m.scheduler.isRunning id = true := by
  have absent := h.absent_step moved
  by_cases none_left : unfinishedIn m'.jobs id = 0
  · exact .inl ⟨absent, .inl none_left⟩
  · have before : unfinishedIn m.jobs id ≠ 0 := fun nothing =>
      none_left (Nat.le_zero.mp (nothing ▸ moved.unfinishedIn_le unasked))
    refine (h.retired_step tallied moved before).imp_left fun ⟨retired, unowed⟩ => ?_
    refine ⟨absent, .inr ⟨retired, unowed, fun k last => ?_⟩⟩
    obtain ⟨-, -, known⟩ := h.kept.resolve_left before
    exact known k ((moved.countedLast tallied last).resolve_right none_left)

end Barred

/-! ### Many moves -/

section Steps

variable {moves : List Move}

lemma steps_cons (codec : Codec S) (m : Threads S) (move : Move) (rest : List Move) :
    m.steps codec (move :: rest) = (m.step codec move).bind fun m => m.steps codec rest := rfl

lemma Tallied.steps (h : m.Tallied) (went : m.steps codec moves = some m') : m'.Tallied := by
  induction moves generalizing m with
  | nil =>
    cases went
    exact h
  | cons move rest ih =>
    obtain ⟨n, first, later⟩ := Option.bind_eq_some_iff.mp went
    exact ih (h.step (moved_of_step first)) later

lemma Attended.steps (h : m.Attended id) (tallied : m.Tallied)
    (went : m.steps codec moves = some m') : m'.Attended id := by
  induction moves generalizing m with
  | nil =>
    cases went
    exact h
  | cons move rest ih =>
    obtain ⟨n, first, later⟩ := Option.bind_eq_some_iff.mp went
    have moved := moved_of_step first
    exact ih (h.step tallied moved) (tallied.step moved) later

/-- A barred entry stays barred, up to the first move by which one of the early jobs ends its
retirement while another job of it is running. -/
lemma Barred.steps {early : Nat → Prop} (h : m.Barred id early) (tallied : m.Tallied)
    (went : m.steps codec moves = some m') (unasked : ∀ j, Move.submit j ∈ moves → j.entry ≠ id) :
    m'.Barred id early ∨ ∃ k first rest n, moves = first ++ .work k :: rest ∧
      m.steps codec first = some n ∧ early k ∧ n.CountedLast id k ∧
      n.scheduler.isRunning id = true := by
  -- Induction on the moves, with the bar as invariant; the first move that breaks it is the one to
  -- name.
  induction moves generalizing m with
  | nil =>
    cases went
    exact .inl h
  | cons move rest ih =>
    obtain ⟨n, first, later⟩ := Option.bind_eq_some_iff.mp went
    have moved := moved_of_step first
    have here : ∀ j, move = .submit j → j.entry ≠ id := fun j asked =>
      unasked j (asked ▸ List.mem_cons_self)
    rcases h.step tallied moved here with barred | ⟨k, rfl, known, last, running⟩
    · have onward : ∀ j, Move.submit j ∈ rest → j.entry ≠ id := fun j mem =>
        unasked j (List.mem_cons_of_mem _ mem)
      rcases ih barred (tallied.step moved) later onward with
        barred | ⟨k, moves, rest, n', rfl, prior, rest⟩
      · exact .inl barred
      · refine .inr ⟨k, move :: moves, _, n', rfl, ?_, rest⟩
        rw [steps_cons, first]
        exact prior
    · exact .inr ⟨k, [], rest, m, rfl, rfl, known, last, running⟩

end Steps

/-- An entry that was forgotten, and of which no job is submitted any more, is out of the cache from
then on, in whatever order the jobs and the owner get their locks, with one exception: a job of it
was counted as the last one before the entry was forgotten, was slow to end the retirement, and ends
it after that, while another job of the entry is running.  In any case the entry is not retired any
more when all its jobs are over and the owner has done with it. -/
theorem forgotten_stay_out {workers : Int} {pace : Pace} {cache : DecodeCache S} {s : Scheduler S}
    {codec : Codec S} {before after : List Move} {m m' m'' : Threads S} {id : EntryId}
    (made : Scheduler.create workers pace cache = .ok s)
    (lived : (initial s).steps codec before = some m)
    (forgotten : m.step codec (.forget id) = some m')
    (went : m'.steps codec after = some m'')
    (unasked : ∀ j, Move.submit j ∈ after → j.entry ≠ id) :
    (m''.scheduler.cache.contains id = true →
      m.scheduler.isRunning id = true ∧ ∃ k first rest n, after = first ++ .work k :: rest ∧
        m'.steps codec first = some n ∧ m.CountedLast id k ∧ n.CountedLast id k ∧
        n.scheduler.isRunning id = true) ∧
    ((∀ p ∈ m''.jobs, p.1.entry = id → p.2 = .done) → m''.owing ≠ some id →
      id ∉ m''.scheduler.cache.retired) := by
  have idle : s.running = [] := by
    unfold Scheduler.create at made
    split at made
    · cases made
    · cases made
      rfl
  have tallied : m.Tallied := (Tallied.initial idle).steps lived
  have moved := moved_of_step forgotten
  have tallied' := tallied.step moved
  constructor
  -- What keeps the entry out is that it is barred. The bar falls only to a job that was counted
  -- last before the entry was forgotten, while a newer one is running.
  · intro there
    rcases (Barred.of_forget tallied moved).steps tallied' went unasked with
      barred | ⟨k, first, rest, n, parts, prior, ⟨running, last⟩, late⟩
    · rw [DecodeCache.contains_eq_false_iff.mpr barred.absent] at there
      cases there
    · exact ⟨running, k, first, rest, n, parts, prior, last, late⟩
  -- A retirement is attended by a running job, by one that is about to end it, or by the owner;
  -- when all are done, nobody is left.
  · intro finished settled mem
    rcases (Attended.of_forget tallied moved).steps tallied' went mem with
      running | ⟨k, j, there, named⟩ | owner
    · obtain ⟨p, hp, going⟩ := List.countP_pos_iff.mp running
      simp only [Bool.and_eq_true, decide_eq_true_eq] at going
      rw [finished p hp going.1] at going
      cases going.2
    · have same : Stage.counted = .done := finished _ (List.mem_of_getElem? there) named
      cases same
    · exact settled owner

/-- An entry is forgotten while one job of it has decoded and another one has just begun. -/
theorem forgotten_stay_out_of_decoded :
    let id : EntryId := .nth 1
    let job (n : Nat) : Job := ⟨id, n, ⟨#[1]⟩, .default, .none⟩
    let start : Scheduler ByteArray := .initial 4 .onDemand .empty
    ∃ m m' m'' : Threads ByteArray, Scheduler.create 4 .onDemand .empty = .ok start ∧
      (initial start).steps .verbatim [.submit (job 1), .submit (job 2), .work 0, .work 0] =
        some m ∧
      m.step .verbatim (.forget id) = some m' ∧
      m'.steps .verbatim [.work 0, .work 0, .work 1, .work 1, .work 1, .work 1, .work 1] =
        some m'' ∧
      m''.scheduler.cache.contains id ≠ true ∧ id ∉ m''.scheduler.cache.retired := by
  intro id job start
  have made : Scheduler.create 4 .onDemand .empty = .ok start := rfl
  obtain ⟨m, m', m'', lived, forgotten, went, busy, finished, free⟩ :
      ∃ m m' m'' : Threads ByteArray, (initial start).steps .verbatim
          [.submit (job 1), .submit (job 2), .work 0, .work 0] = some m ∧
        m.step .verbatim (.forget id) = some m' ∧
        m'.steps .verbatim [.work 0, .work 0, .work 1, .work 1, .work 1, .work 1, .work 1] =
          some m'' ∧
        m.jobs = [(job 1, .decoded (some ⟨#[1]⟩)), (job 2, .accepted)] ∧
        m''.jobs = [(job 1, .done), (job 2, .done)] ∧ m''.owing = none :=
    ⟨_, _, _, rfl, rfl, rfl, rfl, rfl, rfl⟩
  obtain ⟨kept, ended⟩ := forgotten_stay_out made lived forgotten went (by simp)
  refine ⟨m, m', m'', made, lived, forgotten, went, fun there => ?_, ended ?_ ?_⟩
  · obtain ⟨-, k, -, -, -, -, -, ⟨j, counted, -⟩, -⟩ := kept there
    rw [busy] at counted
    have mem := List.mem_of_getElem? counted
    simp at mem
  · rw [finished]
    simp
  · rw [free]
    exact nofun

/-- The owner forgets an entry between the counting of its one job and the end of the retirement
that goes with it, and after another job of the entry was submitted.  The first job ends the
retirement then, and the second one puts its surface into the cache. -/
theorem forgotten_comes_back_of_late_release :
    let id : EntryId := .nth 1
    let job (n : Nat) : Job := ⟨id, n, ⟨#[1]⟩, .default, .none⟩
    let start : Scheduler ByteArray := .initial 4 .onDemand .empty
    ∃ m m' m'' : Threads ByteArray, Scheduler.create 4 .onDemand .empty = .ok start ∧
      (initial start).steps .verbatim [.submit (job 1), .work 0, .work 0, .work 0, .work 0,
        .submit (job 2)] = some m ∧
      m.step .verbatim (.forget id) = some m' ∧
      m'.steps .verbatim [.work 0, .work 1, .work 1, .work 1, .work 1, .work 1] = some m'' ∧
      m''.jobs = [(job 1, .done), (job 2, .done)] ∧ m''.owing = none ∧
      m''.scheduler.cache.contains id = true := by
  exact ⟨_, _, _, rfl, rfl, rfl, rfl, rfl, rfl, by decide +kernel⟩

end Threads

end Reencode
