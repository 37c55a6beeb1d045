import Reencode.Proofs.Collection.Origin

/-!
# Answers to single requests

`Fresh` follows all entries of a collection as long as the scheduler accepts jobs.  Here one request
is followed on its own, whatever has become of the scheduler: an entry whose newest token is that of
the request is *answered* when the outcome is still owed, or when it was taken over and the entry
shows it (`Entry.Answered`).

Running jobs and taking outcomes out changes nothing about that.  No two tickets have a key in
common, so the one ticket is redeemed by the outcome of this very request, and the entry cannot
ignore it.
-/

namespace Reencode

variable {S : Type}

/-- What an entry shows once it has taken over the outcome of a request; a codec that gives nothing
leaves nothing to show. -/
def Entry.Reflects (codec : Codec S) (t : Ticket) (e : Entry) : Prop :=
  match codec.recode e.source t.params with
  | .ok (.data data) => e.readOutput = .ok (some (data, t.params)) ∧ e.fault = none
  | .ok _ => True
  | .error failure => e.fault = some (Fault.ofFailure failure t.entry t.token).1

/-- An entry whose newest request is owed an outcome, or has got it. -/
structure Entry.Answered (codec : Codec S) (t : Ticket) (owed : List Ticket) (e : Entry) :
    Prop where
  mine : e.id = t.entry
  newest : e.token = t.token
  life : e.destroyed = false
  answer : t ∈ owed ∨ t.key ∉ owed.map Ticket.key ∧ e.Reflects codec t

namespace Traced

variable {codec : Codec S} {jobs : List Job} {applied : List Outcome} {alive : List EntryId}
  {shelf : List Entry} {s s' : Scheduler S} {e e' : Entry} {o : Outcome} {t : Ticket}

/-! ## What entries show -/

lemma reflects_of_fault (h : Traced codec jobs applied shelf s) (shelved : Shelved alive shelf)
    (taken : s.take = some (o, s')) (mem : e ∈ shelf) (mine : o.entry = e.id) {f : Fault}
    (payload : o.payload = .fault f) :
    ({ e with fault := some f } : Entry).Reflects codec o.ticket := by
  obtain ⟨-, -, j, hj, rfl⟩ := h.honest.take taken
  obtain ⟨failure, recoded, rfl⟩ := Job.recode_of_result_fault payload
  rw [h.source_eq shelved hj mem (Job.result_entry.symm.trans mine)] at recoded
  simp only [Entry.Reflects, Job.result_ticket, Job.ticket, recoded]
  rfl

lemma reflects_of_data (h : Traced codec jobs applied shelf s) (shelved : Shelved alive shelf)
    (taken : s.take = some (o, s')) (mem : e ∈ shelf) (mine : o.entry = e.id) {data : ByteArray}
    (payload : o.payload = .data data) (locator : Option Locator) :
    (e.withOutput (.held data locator) data o.params).Reflects codec o.ticket := by
  obtain ⟨-, -, j, hj, rfl⟩ := h.honest.take taken
  have recoded := Job.recode_of_result_data payload
  rw [h.source_eq shelved hj mem (Job.result_entry.symm.trans mine)] at recoded
  simp only [Entry.Reflects, Entry.withOutput, Job.result_ticket, Job.ticket, recoded,
    Job.result_params]
  exact ⟨rfl, trivial⟩

lemma reflects_of_nothing (h : Traced codec jobs applied shelf s) (shelved : Shelved alive shelf)
    (taken : s.take = some (o, s')) (mem : e ∈ shelf) (mine : o.entry = e.id)
    (payload : o.payload = .nothing) : e.Reflects codec o.ticket := by
  obtain ⟨-, -, j, hj, rfl⟩ := h.honest.take taken
  have recoded := Job.recode_of_result_nothing payload
  rw [h.source_eq shelved hj mem (Job.result_entry.symm.trans mine)] at recoded
  simp only [Entry.Reflects, Job.result_ticket, Job.ticket, recoded]

/-! ## Taking outcomes out -/

/-- An outcome that is taken out redeems the ticket in question, or has nothing to do with it. -/
lemma redeems (h : Traced codec jobs applied shelf s) (taken : s.take = some (o, s'))
    (answered : e.Answered codec t s.tickets) :
    o.ticket = t ∧ t.key ∉ s'.tickets.map Ticket.key ∨
      ¬(o.entry = e.id ∧ o.token = e.token) ∧ e.Answered codec t s'.tickets := by
  obtain ⟨-, tickets, -⟩ := h.honest.take taken
  have keys := tickets.map Ticket.key
  have distinct : ((o.ticket :: s'.tickets).map Ticket.key).Nodup := by
    have all := h.once
    rw [List.map_append] at all
    exact keys.nodup_iff.mp all.of_append_left
  rw [List.map_cons, List.nodup_cons] at distinct
  -- Keys of tickets are distinct, so that the outcome either redeems this very ticket or leaves it
  -- as it is.
  by_cases same : o.ticket.key = t.key
  · rcases answered.answer with owed | ⟨gone, -⟩
    · rcases List.mem_cons.mp (tickets.mem_iff.mp owed) with rfl | left
      · exact .inl ⟨rfl, distinct.1⟩
      · exact absurd (List.mem_map_of_mem left) (same ▸ distinct.1)
    · refine absurd (keys.mem_iff.mpr ?_) gone
      rw [← same]
      exact List.mem_cons_self
  · refine .inr ⟨?_, answered.mine, answered.newest, answered.life, ?_⟩
    · rintro ⟨mine, newest⟩
      exact same (Prod.ext (mine.trans answered.mine) (newest.trans answered.newest))
    · rcases answered.answer with owed | ⟨gone, shown⟩
      · rcases List.mem_cons.mp (tickets.mem_iff.mp owed) with rfl | left
        · exact absurd rfl same
        · exact .inl left
      · exact .inr ⟨fun left => gone (keys.mem_iff.mpr (List.mem_cons_of_mem _ left)), shown⟩

/-- The entry that takes an outcome over is the one that was to be answered, and shows it, or
another one. -/
lemma answered_of_applied (h : Traced codec jobs applied shelf s) (shelved : Shelved alive shelf)
    (taken : s.take = some (o, s')) (mem : e ∈ shelf) (mine : o.entry = e.id)
    (newest : o.token = e.token) (same : e'.id = e.id) (token : e'.token = e.token)
    (life : e'.destroyed = e.destroyed) (shows : e'.Reflects codec o.ticket)
    (answered : ∃ a ∈ shelf, a.Answered codec t s.tickets) :
    ∃ a ∈ replaceEntry e' shelf, a.Answered codec t s'.tickets := by
  obtain ⟨a, ha, answered⟩ := answered
  rcases h.redeems taken answered with ⟨rfl, gone⟩ | ⟨other, still⟩
  · obtain rfl := shelved.eq_of_id_eq ha mem (answered.mine.trans mine)
    refine ⟨e', (shelved.mem_replaceEntry ha same).mpr (.inl rfl), ?_⟩
    exact ⟨same.trans answered.mine, token.trans answered.newest, life.trans answered.life,
      .inr ⟨gone, shows⟩⟩
  · have apart : a.id ≠ e.id := by
      intro named
      obtain rfl := shelved.eq_of_id_eq ha mem named
      exact other ⟨mine, newest⟩
    exact ⟨a, (shelved.mem_replaceEntry mem same).mpr (.inr ⟨ha, apart⟩), still⟩

/-! ## Steps -/

/-- Getting work done leaves an answered request answered. -/
theorem answered_step {c c' : Collection S} {d : Deed}
    (h : Traced codec jobs applied c.shelf c.scheduler) (shelved : Shelved c.ids c.shelf)
    (st : Collection.Step codec c d c') (harvest : d.isHarvest = true)
    (answered : ∃ a ∈ c.shelf, a.Answered codec t c.scheduler.tickets) :
    ∃ a ∈ c'.shelf, a.Answered codec t c'.scheduler.tickets := by
  -- Only a step that takes an outcome can redeem the ticket; the new state of the entry then shows
  -- the answer.
  cases st with
  | ran k =>
    obtain ⟨a, ha, answered⟩ := answered
    have moved := (h.honest.runPending k).2
    refine ⟨a, ha, answered.mine, answered.newest, answered.life, ?_⟩
    rw [moved.mem_iff, (moved.map Ticket.key).mem_iff]
    exact answered.answer
  | faulted taken found payload recorded =>
    obtain ⟨mem, mine⟩ := shelved.mem_of_get? found
    obtain ⟨current, -, rfl⟩ := Entry.recordFault_eq_some recorded
    have newest := (h.honest.token_of_fault taken payload).symm.trans current
    exact h.answered_of_applied shelved taken mem mine.symm newest rfl rfl rfl
      (h.reflects_of_fault shelved taken mem mine.symm payload) answered
  | updated taken found payload replaced =>
    obtain ⟨mem, mine⟩ := shelved.mem_of_get? found
    obtain ⟨newest, -, handle, stored, rfl⟩ := Entry.applyOutput_eq_some replaced
    obtain ⟨locator, rfl⟩ := Entry.held_of_storeOutput stored
    exact h.answered_of_applied shelved taken mem mine.symm newest rfl rfl rfl
      (h.reflects_of_data shelved taken mem mine.symm payload locator) answered
  | dropped taken ignored =>
    obtain ⟨a, ha, answered⟩ := answered
    rcases h.redeems taken answered with ⟨rfl, gone⟩ | ⟨-, still⟩
    · have nothing := h.nothing_of_ignored shelved taken ha answered.life answered.mine.symm
        answered.newest.symm ignored
      have shown := h.reflects_of_nothing shelved taken ha answered.mine.symm nothing
      exact ⟨a, ha, answered.mine, answered.newest, answered.life, .inr ⟨gone, shown⟩⟩
    · exact ⟨a, ha, still⟩
  | _ => cases harvest

/-- However much work gets done, an answered request stays answered. -/
theorem answered_steps {c c' : Collection S} {ds : List Deed}
    (h : Traced codec jobs applied c.shelf c.scheduler) (shelved : Shelved c.ids c.shelf)
    (st : Collection.Steps codec c ds c') (harvest : ∀ d ∈ ds, d.isHarvest = true)
    (answered : ∃ a ∈ c.shelf, a.Answered codec t c.scheduler.tickets) :
    ∃ a ∈ c'.shelf, a.Answered codec t c'.scheduler.tickets := by
  induction st with
  | start => exact answered
  | step before last ih =>
    have earlier := ih fun d mem => harvest d (List.mem_append_left _ mem)
    exact (h.steps shelved before).answered_step (shelved.steps before) last
      (harvest _ (List.mem_append_right _ List.mem_cons_self)) earlier

end Traced

end Reencode
