import Reencode.Proofs.Lookup
import Reencode.Proofs.Work.Result
import Reencode.Work.Scheduler

/-!
# What a scheduler owes

A scheduler owes its owner one outcome for every job it accepted, be the job still pending or its
outcome already in the mailbox.  `Scheduler.tickets` lists these debts: the entry, token and
parameters of each.  Accepting a job adds a ticket, running one only moves it from the pending jobs
to the mailbox, taking an outcome out or cancelling a job removes it, and nothing else touches them.

`Scheduler.Honest` is what a scheduler keeps on top of it: its cache is faithful, every pending job
is one of those handed to it, every outcome in the mailbox is the result of such a job, and the
number in flight is the number of tickets.
-/

namespace Reencode

variable {S : Type}

/-- Which outcome is owed: of which entry, for which token, made with which parameters. -/
structure Ticket where
  entry : EntryId
  token : Int
  params : Params

/-- The ticket of a job. -/
def Job.ticket (j : Job) : Ticket := ⟨j.entry, j.token, j.params⟩

/-- The ticket that an outcome redeems. -/
def Outcome.ticket (o : Outcome) : Ticket := ⟨o.entry, o.token, o.params⟩

@[simp] lemma Job.result_ticket (codec : Codec S) (j : Job) :
    (j.result codec).ticket = j.ticket := by
  simp [Outcome.ticket, Job.ticket]

namespace Scheduler

/-- The outcomes that are owed. -/
def tickets (s : Scheduler S) : List Ticket :=
  s.pending.map (·.2.ticket) ++ s.mailbox.map Outcome.ticket

/-! ## Counting the unfinished jobs of an entry

How many jobs of an entry are unfinished decides when its retirement ends, and nothing else. -/

/-- Two schedulers that differ at most in running counts, retired entries and usage. -/
structure Alike (s s' : Scheduler S) : Prop where
  pending : s'.pending = s.pending
  accepted : s'.accepted = s.accepted
  mailbox : s'.mailbox = s.mailbox
  inFlight : s'.inFlight = s.inFlight
  surfaces : s'.cache.surfaces = s.cache.surfaces
  closed : s'.closed = s.closed
  executorShut : s'.executorShut = s.executorShut

lemma Alike.tickets {s s' : Scheduler S} (h : s.Alike s') : s'.tickets = s.tickets := by
  simp only [Scheduler.tickets, h.pending, h.mailbox]

lemma releaseIdle_alike (s : Scheduler S) (id : EntryId) : s.Alike (s.releaseIdle id) := by
  unfold releaseIdle
  split <;> exact ⟨rfl, rfl, rfl, rfl, rfl, rfl, rfl⟩

lemma finish_alike (s : Scheduler S) (id : EntryId) : s.Alike (s.finish id) := by
  have released := (s.noteFinished id).releaseIdle_alike id
  exact ⟨released.pending, released.accepted, released.mailbox, released.inFlight,
    released.surfaces, released.closed, released.executorShut⟩

/-! ## Honest schedulers -/

/-- A scheduler that was handed the jobs `jobs`, each of which works on the source of its entry. -/
structure Honest (codec : Codec S) (sources : EntryId → Option ByteArray) (jobs : List Job)
    (s : Scheduler S) : Prop where
  known : ∀ j ∈ jobs, sources j.entry = some j.source ∧ j.defect = .none
  faithful : s.cache.Faithful codec sources
  pending : ∀ p ∈ s.pending, p.2 ∈ jobs
  numbers : (s.pending.map (·.1)).Nodup
  bounded : ∀ p ∈ s.pending, p.1 ≤ s.accepted
  mailbox : ∀ o ∈ s.mailbox, ∃ j ∈ jobs, o = j.result codec
  balance : s.inFlight = s.tickets.length

variable {codec : Codec S} {sources : EntryId → Option ByteArray} {jobs : List Job}
  {s s' : Scheduler S}

namespace Honest

lemma initial (workers : Int) (pace : Pace) :
    (Scheduler.initial workers pace DecodeCache.empty : Scheduler S).Honest codec sources [] where
  known := by simp
  faithful := DecodeCache.faithful_empty
  pending := by simp [Scheduler.initial]
  numbers := List.nodup_nil
  bounded := by simp [Scheduler.initial]
  mailbox := by simp [Scheduler.initial]
  balance := rfl

/-- What is left of a scheduler is honest: pending jobs may have gone, and results of jobs may have
come, if the count was kept. -/
lemma of_sublist (h : s.Honest codec sources jobs) (faithful : s'.cache.Faithful codec sources)
    (pending : s'.pending.Sublist s.pending) (accepted : s.accepted ≤ s'.accepted)
    (mailbox : ∀ o ∈ s'.mailbox, o ∈ s.mailbox ∨ ∃ j ∈ jobs, o = j.result codec)
    (balance : s'.inFlight = s'.tickets.length) : s'.Honest codec sources jobs where
  known := h.known
  faithful := faithful
  pending := fun p hp => h.pending p (pending.subset hp)
  numbers := h.numbers.sublist (pending.map _)
  bounded := fun p hp => Nat.le_trans (h.bounded p (pending.subset hp)) accepted
  mailbox := by
    intro o ho
    rcases mailbox o ho with old | new
    · exact h.mailbox o old
    · exact new
  balance := balance

/-- Honesty survives a change of what `Alike` leaves open, and even the loss of surfaces. -/
lemma of_alike (h : s.Honest codec sources jobs) (pending : s'.pending = s.pending)
    (accepted : s'.accepted = s.accepted) (mailbox : s'.mailbox = s.mailbox)
    (inFlight : s'.inFlight = s.inFlight)
    (surfaces : ∀ p ∈ s'.cache.surfaces, p ∈ s.cache.surfaces) :
    s'.Honest codec sources jobs := by
  refine h.of_sublist (h.faithful.of_subset surfaces) (pending ▸ List.Sublist.refl _)
    (Nat.le_of_eq accepted.symm) (fun o ho => .inl (mailbox ▸ ho)) ?_
  simp only [Scheduler.tickets, pending, mailbox, inFlight]
  exact h.balance

lemma alike (h : s.Honest codec sources jobs) (same : s.Alike s') :
    s'.Honest codec sources jobs :=
  h.of_alike same.pending same.accepted same.mailbox same.inFlight
    fun _ mem => same.surfaces ▸ mem

/-- More entries may become known, with their sources. -/
lemma mono (h : s.Honest codec sources jobs) {sources' : EntryId → Option ByteArray}
    (more : ∀ id data, sources id = some data → sources' id = some data) :
    s.Honest codec sources' jobs :=
  { h with
    known := fun j mem => ⟨more _ _ (h.known j mem).1, (h.known j mem).2⟩
    faithful := h.faithful.mono more }

/-- One more job may be handed over. -/
lemma handed (h : s.Honest codec sources jobs) {j : Job} (known : sources j.entry = some j.source)
    (sound : j.defect = .none) : s.Honest codec sources (jobs ++ [j]) :=
  { h with
    known := by
      intro i mem
      rcases List.mem_append.mp mem with old | new
      · exact h.known i old
      · obtain rfl := List.mem_singleton.mp new
        exact ⟨known, sound⟩
    pending := fun p hp => List.mem_append_left _ (h.pending p hp)
    mailbox := by
      intro o ho
      obtain ⟨i, hi, rfl⟩ := h.mailbox o ho
      exact ⟨i, List.mem_append_left _ hi, rfl⟩ }

/-- The ticket of a job handed over is the ticket of what is owed. -/
lemma exists_job_of_ticket (h : s.Honest codec sources jobs) {t : Ticket} (mem : t ∈ s.tickets) :
    ∃ j ∈ jobs, j.ticket = t := by
  rcases List.mem_append.mp mem with waiting | mailed
  · obtain ⟨p, hp, rfl⟩ := List.mem_map.mp waiting
    exact ⟨p.2, h.pending p hp, rfl⟩
  · obtain ⟨o, ho, rfl⟩ := List.mem_map.mp mailed
    obtain ⟨j, hj, rfl⟩ := h.mailbox o ho
    exact ⟨j, hj, (j.result_ticket codec).symm⟩

/-- When nothing is in flight, nothing is pending and no outcome waits. -/
lemma idle (h : s.Honest codec sources jobs) (none : s.inFlight = 0) :
    s.pending = [] ∧ s.mailbox = [] := by
  have empty : s.tickets.length = 0 := by
    have := h.balance
    omega
  simp only [Scheduler.tickets, List.length_append, List.length_map] at empty
  exact ⟨List.length_eq_zero_iff.mp (by omega), List.length_eq_zero_iff.mp (by omega)⟩

end Honest

/-! ## Running a job -/

/-- A scheduler that differs by an outcome put into the mailbox. -/
structure Delivered (codec : Codec S) (sources : EntryId → Option ByteArray) (o : Outcome)
    (s s' : Scheduler S) : Prop where
  pending : s'.pending = s.pending
  accepted : s'.accepted = s.accepted
  mailbox : s'.mailbox = s.mailbox ++ [o]
  inFlight : s'.inFlight = s.inFlight
  faithful : s'.cache.Faithful codec sources

lemma Delivered.tickets {o : Outcome} (done : Delivered codec sources o s s') :
    s'.tickets.Perm (o.ticket :: s.tickets) := by
  simp only [Scheduler.tickets, done.pending, done.mailbox, List.map_append, List.map_cons,
    List.map_nil]
  rw [← List.append_assoc]
  exact List.perm_append_singleton _ _

/-- The mailbox then holds results of jobs, if it did before. -/
lemma Delivered.mem_mailbox {j : Job} (done : Delivered codec sources (j.result codec) s s')
    (mem : j ∈ jobs) : ∀ o ∈ s'.mailbox, o ∈ s.mailbox ∨ ∃ i ∈ jobs, o = i.result codec := by
  intro o ho
  rw [done.mailbox] at ho
  rcases List.mem_append.mp ho with old | new
  · exact .inl old
  · exact .inr ⟨j, mem, List.mem_singleton.mp new⟩

/-- A job that works on the source of its entry delivers its result. -/
lemma perform_delivered (faithful : s.cache.Faithful codec sources) {j : Job}
    (known : sources j.entry = some j.source) (sound : j.defect = .none) :
    Delivered codec sources (j.result codec) s (s.perform codec j).1 := by
  obtain ⟨outcome, kept⟩ := Job.run_outcome faithful known sound
  have same := ({ s with cache := (j.run codec s.cache).cache,
                         usage := s.usage.append (j.run codec s.cache).usage } :
    Scheduler S).finish_alike j.entry
  simp only [perform, deliver, outcome]
  exact ⟨same.pending, same.accepted, congrArg (· ++ [j.result codec]) same.mailbox, same.inFlight,
    kept.of_subset fun p mem => same.surfaces ▸ mem⟩

lemma tickets_perm_of_lookup {k : Nat} {j : Job} (distinct : (s.pending.map (·.1)).Nodup)
    (found : s.pending.lookup k = some j) :
    s.tickets.Perm (j.ticket :: ((s.pending.filter fun (n, _) => n ≠ k).map (·.2.ticket) ++
      s.mailbox.map Outcome.ticket)) :=
  ((Lookup.perm_of_lookup distinct found).map (·.2.ticket)).append_right _

namespace Honest

/-- Running a pending job moves its ticket to the mailbox. -/
theorem runPending (h : s.Honest codec sources jobs) (k : Nat) :
    (s.runPending codec k).2.1.Honest codec sources jobs ∧
      (s.runPending codec k).2.1.tickets.Perm s.tickets := by
  unfold Scheduler.runPending
  cases found : s.pending.lookup k with
  | none => exact ⟨h, List.Perm.refl _⟩
  | some j =>
    have apart := Lookup.perm_of_lookup h.numbers found
    have mem : j ∈ jobs := h.pending (k, j) (apart.symm.subset List.mem_cons_self)
    obtain ⟨known, sound⟩ := h.known j mem
    have done := perform_delivered
      (s := { s with pending := s.pending.filter fun (n, _) => n ≠ k }) h.faithful known sound
    dsimp only
    generalize (Scheduler.perform codec
      { s with pending := s.pending.filter fun (n, _) => n ≠ k } j).1 = s' at done ⊢
    -- The ticket of the job goes from the pending ones to the mailbox.
    have moved : s'.tickets.Perm s.tickets := by
      have delivered := done.tickets
      rw [Job.result_ticket] at delivered
      exact delivered.trans (tickets_perm_of_lookup h.numbers found).symm
    refine ⟨h.of_sublist done.faithful ?_ ?_ (done.mem_mailbox mem) ?_, moved⟩
    · rw [done.pending]
      exact List.filter_sublist
    · exact Nat.le_of_eq done.accepted.symm
    · rw [done.inFlight, moved.length_eq]
      exact h.balance

/-! ## Accepting, cancelling and taking out -/

/-- A job that is accepted waits behind the pending ones, with the next number. -/
lemma queued (h : s.Honest codec sources jobs) {j : Job} (mem : j ∈ jobs) :
    Scheduler.Honest codec sources jobs
      { s.enter j with
        accepted := s.accepted + 1
        pending := s.pending ++ [(s.accepted + 1, j)] } where
  known := h.known
  faithful := h.faithful
  pending := by
    intro p hp
    rcases List.mem_append.mp hp with old | new
    · exact h.pending p old
    · obtain rfl := List.mem_singleton.mp new
      exact mem
  numbers := by
    -- The new number exceeds all that were given out before.
    rw [List.map_append]
    refine List.Nodup.append h.numbers (List.nodup_singleton _) ?_
    intro n old new
    obtain ⟨p, hp, rfl⟩ := List.mem_map.mp old
    have below := h.bounded p hp
    have next : p.1 = s.accepted + 1 := List.mem_singleton.mp new
    omega
  bounded := by
    intro p hp
    rcases List.mem_append.mp hp with old | new
    · exact Nat.le_succ_of_le (h.bounded p old)
    · obtain rfl := List.mem_singleton.mp new
      exact Nat.le_refl _
  mailbox := h.mailbox
  balance := by
    have count := h.balance
    simp only [enter, setRunning, Scheduler.tickets, List.length_append, List.length_map,
      List.length_cons, List.length_nil] at count ⊢
    omega

/-- A job that is accepted adds its ticket. -/
theorem submit (h : s.Honest codec sources jobs) {j : Job}
    (known : sources j.entry = some j.source) (sound : j.defect = .none)
    (isOpen : s.closed = false) (running : s.executorShut = false) :
    (s.submit codec j).2.1.Honest codec sources (jobs ++ [j]) ∧
      (s.submit codec j).2.1.tickets.Perm (j.ticket :: s.tickets) := by
  have handed := h.handed known sound
  have mem : j ∈ jobs ++ [j] := List.mem_append_right _ List.mem_cons_self
  unfold Scheduler.submit
  simp only [isOpen, running, Bool.false_eq_true, if_false]
  split
  -- At an immediate pace the job is performed at once; otherwise it is queued, and either way owes
  -- its ticket.
  · have done := perform_delivered (s := { s.enter j with accepted := s.accepted + 1 })
      h.faithful known sound
    dsimp only
    generalize (Scheduler.perform codec { s.enter j with accepted := s.accepted + 1 } j).1
      = s' at done ⊢
    have added : s'.tickets.Perm (j.ticket :: s.tickets) := by
      have delivered := done.tickets
      rwa [Job.result_ticket] at delivered
    refine ⟨handed.of_sublist done.faithful ?_ ?_ (done.mem_mailbox mem) ?_, added⟩
    · rw [done.pending]
      exact List.Sublist.refl _
    · rw [done.accepted]
      exact Nat.le_succ _
    · have entered : s'.inFlight = s.inFlight + 1 := done.inFlight
      rw [entered, added.length_eq, h.balance, List.length_cons, Int.natCast_succ]
  · refine ⟨handed.queued mem, ?_⟩
    show (((s.pending ++ [(s.accepted + 1, j)]).map (·.2.ticket)) ++
      s.mailbox.map Outcome.ticket).Perm (j.ticket :: s.tickets)
    simp only [List.map_append, List.map_cons, List.map_nil, List.append_assoc,
      List.singleton_append]
    exact List.perm_middle

/-- Cancelling a pending job gives its ticket up. -/
theorem cancel (h : s.Honest codec sources jobs) (k : Nat) :
    (s.cancel k).2.Honest codec sources jobs ∧
      ((s.cancel k).2.tickets.Perm s.tickets ∨
        ∃ t, s.tickets.Perm (t :: (s.cancel k).2.tickets)) := by
  unfold Scheduler.cancel
  cases found : s.pending.lookup k with
  | none => exact ⟨h, .inl (List.Perm.refl _)⟩
  | some j =>
    have same := ({ s with pending := s.pending.filter fun (n, _) => n ≠ k } :
      Scheduler S).finish_alike j.entry
    dsimp only [deliver, leave]
    generalize Scheduler.finish { s with pending := s.pending.filter fun (n, _) => n ≠ k } j.entry
      = s' at same ⊢
    -- A cancelled job takes its ticket with it.
    have fewer : s.tickets.Perm (j.ticket :: s'.tickets) := by
      rw [same.tickets]
      exact tickets_perm_of_lookup h.numbers found
    refine ⟨h.of_sublist ?_ ?_ ?_ ?_ ?_, .inr ⟨j.ticket, fewer⟩⟩
    · exact h.faithful.of_subset fun p mem => same.surfaces ▸ mem
    · dsimp only
      rw [same.pending]
      exact List.filter_sublist
    · exact Nat.le_of_eq same.accepted.symm
    · exact fun o ho => .inl (same.mailbox ▸ ho)
    · have count := fewer.length_eq
      have balance := h.balance
      have kept : s'.inFlight = s.inFlight := same.inFlight
      simp only [Scheduler.tickets, List.length_cons] at count balance ⊢
      omega

/-- Taking the oldest outcome out redeems its ticket. -/
theorem take (h : s.Honest codec sources jobs) {o : Outcome} (taken : s.take = some (o, s')) :
    s'.Honest codec sources jobs ∧ s.tickets.Perm (o.ticket :: s'.tickets) ∧
      ∃ j ∈ jobs, o = j.result codec := by
  unfold Scheduler.take at taken
  split at taken
  · cases taken
  · rename_i first rest mail
    obtain ⟨rfl, rfl⟩ := Prod.mk.inj (Option.some.inj taken)
    have fewer : s.tickets.Perm (first.ticket :: (s.pending.map (·.2.ticket) ++
        rest.map Outcome.ticket)) := by
      simp only [Scheduler.tickets, mail, List.map_cons]
      exact List.perm_middle
    refine ⟨?_, fewer, h.mailbox first (mail ▸ List.mem_cons_self)⟩
    refine h.of_sublist h.faithful (List.Sublist.refl _) (Nat.le_refl _) ?_ ?_
    · exact fun o ho => .inl (mail ▸ List.mem_cons_of_mem _ ho)
    · have count := fewer.length_eq
      have balance := h.balance
      simp only [leave, Scheduler.tickets, List.length_cons] at balance count ⊢
      omega

/-- A fault in the mailbox has the token of its outcome. -/
lemma token_of_fault (h : s.Honest codec sources jobs) {o : Outcome}
    (taken : s.take = some (o, s')) {f : Fault} (payload : o.payload = .fault f) :
    f.token = o.token := by
  obtain ⟨-, -, j, -, rfl⟩ := h.take taken
  rw [Job.result_token, Job.result_fault_token payload]

/-- Forgetting an entry gives no ticket up. -/
theorem forget (h : s.Honest codec sources jobs) (id : EntryId) :
    (s.forget id).Honest codec sources jobs ∧ (s.forget id).tickets = s.tickets := by
  have same := ({ s with cache := s.cache.invalidate id } : Scheduler S).releaseIdle_alike id
  refine ⟨h.of_alike same.pending same.accepted same.mailbox same.inFlight ?_, same.tickets⟩
  intro p mem
  rw [Scheduler.forget, same.surfaces] at mem
  exact List.mem_of_mem_filter mem

end Honest

/-! ## Refused jobs and the scheduler's state -/

lemma submit_result (s : Scheduler S) (codec : Codec S) (j : Job) :
    (s.submit codec j).1 = .ok () ↔ s.closed = false ∧ s.executorShut = false := by
  unfold submit
  cases s.closed <;> cases s.executorShut <;> simp
  split <;> rfl

/-- A refused job leaves all behind as it was. -/
lemma submit_alike (refused : (s.submit codec j).1 ≠ .ok ()) : s.Alike (s.submit codec j).2.1 := by
  rw [Ne, submit_result] at refused
  unfold submit
  split
  · exact ⟨rfl, rfl, rfl, rfl, rfl, rfl, rfl⟩
  · rename_i isOpen
    have shut : s.executorShut = true := by simpa [isOpen] using refused
    simp only [shut, if_true]
    have same := ((s.enter j).leave).finish_alike j.entry
    have level : (s.enter j).leave.inFlight = s.inFlight := by
      simp only [enter, leave, setRunning]
      omega
    exact ⟨same.pending, same.accepted, same.mailbox, same.inFlight.trans level, same.surfaces,
      same.closed, same.executorShut⟩

/-! ## Accepting schedulers -/

/-- Whether neither the scheduler nor its executor was shut down. -/
def Accepting (s : Scheduler S) : Prop := s.closed = false ∧ s.executorShut = false

lemma Accepting.alike (h : s.Accepting) (same : s.Alike s') : s'.Accepting :=
  ⟨same.closed.trans h.1, same.executorShut.trans h.2⟩

lemma Accepting.perform (h : s.Accepting) (j : Job) : (s.perform codec j).1.Accepting := by
  have same := ({ s with cache := (j.run codec s.cache).cache,
                         usage := s.usage.append (j.run codec s.cache).usage } :
    Scheduler S).finish_alike j.entry
  simp only [Scheduler.perform, deliver]
  split <;> exact ⟨same.closed.trans h.1, same.executorShut.trans h.2⟩

lemma Accepting.runPending (h : s.Accepting) (k : Nat) : (s.runPending codec k).2.1.Accepting := by
  unfold Scheduler.runPending
  split
  · exact h
  · rename_i j _
    exact Accepting.perform (s := { s with pending := s.pending.filter fun (n, _) => n ≠ k }) h j

lemma Accepting.submit (h : s.Accepting) (j : Job) : (s.submit codec j).2.1.Accepting := by
  unfold Scheduler.submit
  simp only [h.1, h.2, Bool.false_eq_true, if_false]
  split
  · exact Accepting.perform (s := { s.enter j with accepted := s.accepted + 1 }) h j
  · exact h

lemma Accepting.take (h : s.Accepting) {o : Outcome} (taken : s.take = some (o, s')) :
    s'.Accepting := by
  unfold Scheduler.take at taken
  split at taken
  · cases taken
  · obtain ⟨-, rfl⟩ := Prod.mk.inj (Option.some.inj taken)
    exact h

lemma Accepting.forget (h : s.Accepting) (id : EntryId) : (s.forget id).Accepting :=
  Accepting.alike (s := { s with cache := s.cache.invalidate id }) h (releaseIdle_alike _ id)

end Scheduler

end Reencode
