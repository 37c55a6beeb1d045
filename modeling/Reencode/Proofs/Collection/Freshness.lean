import Reencode.Proofs.Collection.Origin

/-!
# Being up to date

An entry is settled when it shows what its parameters in force come to: the output that they give,
or the fault that they leave.  As long as the scheduler accepts jobs, an entry that is not in debt
is settled or has an answer to its newest request coming (`Entry.UpToDate`); for a job with the
newest token has the parameters in force, and its outcome cannot be dropped.

`Fresh` says this of a whole collection, and `Fresh.step` that steps keep it as long as no work is
cancelled.  Once nothing is in flight no answer is coming, so every entry is settled.
-/

namespace Reencode

variable {S : Type}

/-- Whether an entry shows what its source and its parameters in force come to. -/
def Entry.Settled (codec : Codec S) (e : Entry) : Prop :=
  match codec.recode e.source e.params with
  | .ok payload => ∃ data locator, payload = .data data ∧
      e.output = some (.held data locator) ∧ e.outputParams = some e.params ∧ e.fault = none
  | .error failure => e.fault = some (Fault.ofFailure failure e.id e.token).1

/-- Whether an entry is settled or going to be, by the outcome of its newest job. -/
structure Entry.UpToDate (codec : Codec S) (jobs : List Job) (tickets : List Ticket) (e : Entry) :
    Prop where
  newest : ∀ j ∈ jobs, j.entry = e.id → j.token = e.token → j.params = e.params
  answered : (e.id, e.token) ∈ tickets.map Ticket.key ∨ e.Settled codec

/-- A collection whose scheduler accepts jobs, and whose entries are up to date unless they are in
debt. -/
structure Fresh (codec : Codec S) (jobs : List Job) (debts : List EntryId) (shelf : List Entry)
    (s : Scheduler S) : Prop where
  accepting : s.Accepting
  entries : ∀ e ∈ shelf, e.destroyed = false → e.id ∉ debts → e.UpToDate codec jobs s.tickets

/-- An outcome that is not owed any more was that of the newest request, or leaves an entry as up
to date as it was. -/
lemma Entry.UpToDate.of_tickets {codec : Codec S} {jobs : List Job} {ts ts' : List Ticket}
    {e : Entry} (h : e.UpToDate codec jobs ts)
    (kept : (e.id, e.token) ∈ ts.map Ticket.key → (e.id, e.token) ∈ ts'.map Ticket.key) :
    e.UpToDate codec jobs ts' :=
  ⟨h.newest, h.answered.imp_left kept⟩

namespace Fresh

variable {codec : Codec S} {jobs : List Job} {applied : List Outcome} {debts debts' : List EntryId}
  {alive : List EntryId} {shelf : List Entry} {s s' : Scheduler S} {e e' : Entry} {o : Outcome}

lemma of_create {settings : Settings} {workers : Option Int} {format : Value} {pace : Pace}
    {c : Collection S} (made : Collection.create settings workers format pace = .ok c) :
    Fresh codec [] [] c.shelf c.scheduler := by
  obtain ⟨n, f, rfl⟩ := Collection.create_eq_ok made
  exact ⟨⟨rfl, rfl⟩, by simp [Collection.empty]⟩

/-! ## Changes that answer nothing -/

lemma withScheduler (h : Fresh codec jobs debts shelf s) (accepting : s'.Accepting)
    (same : s'.tickets.Perm s.tickets) : Fresh codec jobs debts shelf s' where
  accepting := accepting
  entries := by
    intro e mem life free
    refine (h.entries e mem life free).of_tickets fun owed => ?_
    exact (same.map Ticket.key).mem_iff.mpr owed

lemma more_debts (h : Fresh codec jobs debts shelf s) (more : debts ⊆ debts') :
    Fresh codec jobs debts' shelf s :=
  ⟨h.accepting, fun e mem life free => h.entries e mem life fun owes => free (more owes)⟩

lemma append (h : Fresh codec jobs debts shelf s) :
    Fresh codec jobs (e.id :: debts) (shelf ++ [e]) s where
  accepting := h.accepting
  entries := by
    intro other mem life free
    rcases List.mem_append.mp mem with old | new
    · exact h.entries other old life fun owes => free (List.mem_cons_of_mem _ owes)
    · obtain rfl := List.mem_singleton.mp new
      exact absurd List.mem_cons_self free

/-- Putting back an entry that is in debt, gone, or as up to date as it has to be. -/
lemma replace (h : Fresh codec jobs debts shelf s) (shelved : Shelved alive shelf)
    (mem : e ∈ shelf) (same : e'.id = e.id)
    (own : e'.destroyed = false → e'.id ∉ debts → e'.UpToDate codec jobs s.tickets) :
    Fresh codec jobs debts (replaceEntry e' shelf) s where
  accepting := h.accepting
  entries := by
    intro other hother life free
    rcases (shelved.mem_replaceEntry mem same).mp hother with rfl | ⟨old, -⟩
    · exact own life free
    · exact h.entries other old life free

lemma destroy {c : Collection S} (h : Fresh codec jobs debts c.shelf c.scheduler)
    (traced : Traced codec jobs applied c.shelf c.scheduler) (shelved : Shelved alive c.shelf)
    {id : EntryId} (found : c.find? id = some e) :
    Fresh codec jobs debts (c.destroy e).shelf (c.destroy e).scheduler := by
  obtain ⟨mem, -⟩ := shelved.mem_of_find? found
  have buried : Fresh codec jobs debts (c.destroy e).shelf c.scheduler := by
    refine h.replace shelved mem (e.destroy_id c.registry) fun life => ?_
    have dead := e.destroy_destroyed c.registry
    exact absurd (dead.symm.trans life) (by decide)
  exact buried.withScheduler (h.accepting.forget _)
    ((traced.honest.forget (e.destroy c.registry).1.id).2 ▸ List.Perm.refl _)

lemma destroyAll {c : Collection S} (h : Fresh codec jobs debts c.shelf c.scheduler)
    (traced : Traced codec jobs applied c.shelf c.scheduler) (shelved : Shelved alive c.shelf)
    (ids : List EntryId) :
    Fresh codec jobs debts (c.destroyAll ids).shelf (c.destroyAll ids).scheduler := by
  have kept := shelved.destroyAll_induction
    (P := fun c' => Traced codec jobs applied c'.shelf c'.scheduler ∧
      Fresh codec jobs debts c'.shelf c'.scheduler) ?_ ids ⟨traced, h⟩
  · exact kept.2
  · rintro _ c' id e shelved' ⟨traced', h'⟩ found
    exact ⟨traced'.destroy shelved' found, h'.destroy traced' shelved' found⟩

/-! ## Dispatching -/

/-- A request that the scheduler accepts settles the debt of its entry. -/
lemma dispatch (h : Fresh codec jobs debts shelf s)
    (traced : Traced codec jobs applied shelf s) (shelved : Shelved alive shelf)
    (mem : e ∈ shelf) :
    Fresh codec (jobs ++ [e.request]) (debts.filter (· ≠ e.id)) (replaceEntry e.advance shelf)
      (s.submit codec e.request).2.1 := by
  have tickets := (traced.honest.submit (j := e.request) (sourcesOf_eq shelved mem) rfl
    h.accepting.1 h.accepting.2).2
  refine ⟨h.accepting.submit e.request, ?_⟩
  intro other hother life free
  -- The entry with the new token is answered by the new job; every other one by what answered it
  -- before.
  rcases (shelved.mem_replaceEntry mem e.advance_id).mp hother with rfl | ⟨old, hne⟩
  · refine ⟨?_, .inl ((tickets.map Ticket.key).mem_iff.mpr List.mem_cons_self)⟩
    intro j hj mine newest
    rcases List.mem_append.mp hj with before | new
    · -- No earlier job of the entry has a token that new.
      obtain ⟨o, ho, named, below⟩ := traced.current j before
      obtain rfl := shelved.eq_of_id_eq ho mem (named.trans mine)
      rw [Entry.advance_token] at newest
      omega
    · obtain rfl := List.mem_singleton.mp new
      rfl
  · have free' : other.id ∉ debts := by
      intro owes
      exact free (List.mem_filter.mpr ⟨owes, by simpa using hne⟩)
    have upToDate := h.entries other old life free'
    refine ⟨?_, upToDate.answered.imp_left fun owed => ?_⟩
    · intro j hj mine newest
      rcases List.mem_append.mp hj with before | new
      · exact upToDate.newest j before mine newest
      · obtain rfl := List.mem_singleton.mp new
        exact absurd mine.symm hne
    · exact (tickets.map Ticket.key).mem_iff.mpr (List.mem_cons_of_mem _ owed)

/-! ## Taking over outcomes -/

/-- Taking an outcome out changes nothing for entries that it is no answer to. -/
lemma answered_of_take (traced : Traced codec jobs applied shelf s)
    (taken : s.take = some (o, s')) (upToDate : e.UpToDate codec jobs s.tickets)
    (other : ¬(o.entry = e.id ∧ o.token = e.token)) : e.UpToDate codec jobs s'.tickets := by
  obtain ⟨-, tickets, -⟩ := traced.honest.take taken
  refine upToDate.of_tickets fun owed => ?_
  rcases List.mem_cons.mp ((tickets.map Ticket.key).mem_iff.mp owed) with same | kept
  · obtain ⟨mine, newest⟩ := Prod.mk.inj same
    exact absurd ⟨mine.symm, newest.symm⟩ other
  · exact kept

/-- The entry that takes an outcome over is settled by it. -/
lemma settle (h : Fresh codec jobs debts shelf s) (traced : Traced codec jobs applied shelf s)
    (shelved : Shelved alive shelf) (taken : s.take = some (o, s')) (mem : e ∈ shelf)
    (mine : o.entry = e.id) (newest : o.token = e.token) (life : e.destroyed = false)
    (same : e'.id = e.id) (token : e'.token = e.token) (params : e'.params = e.params)
    (settled : o.params = e.params → e'.Settled codec) :
    Fresh codec jobs debts (replaceEntry e' shelf) s' where
  accepting := h.accepting.take taken
  entries := by
    intro other hother life' free
    obtain ⟨-, -, j, hj, rfl⟩ := traced.honest.take taken
    -- The outcome of the newest job settles its entry and answers for no other.
    rcases (shelved.mem_replaceEntry mem same).mp hother with rfl | ⟨old, hne⟩
    · have upToDate := h.entries e mem life (same ▸ free)
      refine ⟨?_, .inr (settled ?_)⟩
      · rw [same, token, params]
        exact upToDate.newest
      · rw [Job.result_params]
        exact upToDate.newest j hj (Job.result_entry.symm.trans mine)
          (Job.result_token.symm.trans newest)
    · refine answered_of_take traced taken (h.entries other old life' free) ?_
      rintro ⟨named, -⟩
      exact hne (named.symm.trans mine)

/-- No outcome of the newest request is dropped. -/
lemma not_ignored {c : Collection S} (traced : Traced codec jobs applied c.shelf c.scheduler)
    (shelved : Shelved c.ids c.shelf) (bytes : codec.GivesBytes)
    (taken : c.scheduler.take = some (o, s')) (mem : e ∈ c.shelf) (life : e.destroyed = false)
    (mine : o.entry = e.id) (newest : o.token = e.token) : ¬c.Ignores o := by
  intro ignored
  have nothing := traced.nothing_of_ignored shelved taken mem life mine newest ignored
  obtain ⟨-, -, j, -, rfl⟩ := traced.honest.take taken
  obtain ⟨data, given⟩ := bytes.recode (Job.recode_of_result_nothing nothing)
  cases given

/-! ## Steps -/

/-- As long as no work is cancelled, every step keeps entries up to date. -/
theorem step {c c' : Collection S} {d : Deed} (h : Fresh codec jobs debts c.shelf c.scheduler)
    (traced : Traced codec jobs applied c.shelf c.scheduler) (shelved : Shelved c.ids c.shelf)
    (bytes : codec.GivesBytes) (st : Collection.Step codec c d c') (goes_on : d.isEnding = false) :
    Fresh codec (jobs ++ d.job?.toList) (d.owing debts) c'.shelf c'.scheduler := by
  have plain (no_job : d.job? = none)
      (kept : Fresh codec jobs (d.owing debts) c'.shelf c'.scheduler) :
      Fresh codec (jobs ++ d.job?.toList) (d.owing debts) c'.shelf c'.scheduler := by
    simpa [no_job] using kept
  -- A debt is made where parameters are set, and paid where the job for them is dispatched or
  -- skipped.
  cases st with
  | imported name data params =>
    exact plain rfl (h.append (e := (c.insert name data params).1))
  | removed found =>
    exact plain rfl
      (Fresh.destroy (c := c.drop _) h traced shelved (Collection.find?_of_get? found).1)
  | cleared => exact plain rfl (Fresh.destroyAll (c := { c with ids := [] }) h traced shelved c.ids)
  | @paramsSet id e params found =>
    obtain ⟨mem, rfl⟩ := shelved.mem_of_find? found
    have owing := h.more_debts (List.subset_cons_self e.id debts)
    exact plain rfl (owing.replace shelved mem rfl fun _ free => absurd List.mem_cons_self free)
  | @dispatched id e found accepted =>
    obtain ⟨mem, rfl⟩ := shelved.mem_of_find? found
    exact h.dispatch traced shelved mem
  | @refused id e found refusal =>
    exact absurd ((Scheduler.submit_result c.scheduler codec e.request).mpr h.accepting) refusal
  | @skipped id unknown =>
    refine plain rfl ⟨h.accepting, fun e mem life free => ?_⟩
    have hne : e.id ≠ id := by
      rintro rfl
      rw [Collection.find?, shelved.find?_eq_some_iff.mpr ⟨mem, rfl⟩] at unknown
      cases unknown
    have free' : e.id ∉ debts := fun owes => free (List.mem_filter.mpr ⟨owes, by simpa using hne⟩)
    exact h.entries e mem life free'
  | @faulted o rest e e' f taken found payload recorded =>
    obtain ⟨mem, mine⟩ := shelved.mem_of_get? found
    obtain ⟨current, life, rfl⟩ := Entry.recordFault_eq_some recorded
    obtain ⟨-, -, j, hj, rfl⟩ := traced.honest.take taken
    have named : j.entry = e.id := Job.result_entry.symm.trans mine.symm
    have token : j.token = e.token := (Job.result_fault_token payload).symm.trans current
    refine plain rfl (h.settle traced shelved taken mem mine.symm (Job.result_token.trans token)
      life rfl rfl rfl fun params => ?_)
    obtain ⟨failure, recoded, rfl⟩ := Job.recode_of_result_fault payload
    rw [traced.source_eq shelved hj mem named, Job.result_params.symm.trans params] at recoded
    simp only [Entry.Settled, recoded, Job.fault, named, token]
  | @updated o rest e e' data r taken found payload replaced =>
    obtain ⟨mem, mine⟩ := shelved.mem_of_get? found
    obtain ⟨newest, life, handle, stored, rfl⟩ := Entry.applyOutput_eq_some replaced
    obtain ⟨-, -, j, hj, rfl⟩ := traced.honest.take taken
    have named : j.entry = e.id := Job.result_entry.symm.trans mine.symm
    refine plain rfl (h.settle traced shelved taken mem mine.symm newest life rfl rfl rfl
      fun params => ?_)
    have recoded := Job.recode_of_result_data payload
    rw [traced.source_eq shelved hj mem named, Job.result_params.symm.trans params] at recoded
    obtain ⟨locator, held⟩ := Entry.held_of_storeOutput stored
    simp only [Entry.Settled, Entry.withOutput, recoded]
    exact ⟨data, locator, rfl, congrArg some held, congrArg some params, trivial⟩
  | @dropped o rest taken ignored =>
    refine plain rfl ⟨h.accepting.take taken, fun e mem life free => ?_⟩
    refine answered_of_take traced taken (h.entries e mem life free) ?_
    rintro ⟨mine, newest⟩
    exact not_ignored traced shelved bytes taken mem life mine newest ignored
  | ran k =>
    exact plain rfl (h.withScheduler (h.accepting.runPending k) (traced.honest.runPending k).2)
  | cancelled | executorShut | closed => cases goes_on
  | _ => exact plain rfl h

/-- As long as no work is cancelled, entries are up to date unless they are in debt. -/
theorem steps {c c' : Collection S} {ds : List Deed}
    (h : Fresh codec jobs debts c.shelf c.scheduler)
    (traced : Traced codec jobs applied c.shelf c.scheduler) (shelved : Shelved c.ids c.shelf)
    (bytes : codec.GivesBytes) (st : Collection.Steps codec c ds c')
    (go_on : ∀ d ∈ ds, d.isEnding = false) :
    Fresh codec (jobs ++ jobsOf ds) (owingAfter debts ds) c'.shelf c'.scheduler := by
  induction st with
  | start => simpa [jobsOf, owingAfter] using h
  | @step ds c₁ c₂ d before last ih =>
    have earlier := ih fun d mem => go_on d (List.mem_append_left _ mem)
    have prolonged := earlier.step (traced.steps shelved before) (shelved.steps before) bytes last
      (go_on d (List.mem_append_right _ List.mem_cons_self))
    simpa [jobsOf_singleton, owingAfter] using prolonged

/-- When nothing is in flight, every entry that is not in debt is settled. -/
theorem settled_of_idle (h : Fresh codec jobs debts shelf s)
    (traced : Traced codec jobs applied shelf s) (idle : s.inFlight = 0) (mem : e ∈ shelf)
    (life : e.destroyed = false) (free : e.id ∉ debts) : e.Settled codec := by
  obtain ⟨pending, mailbox⟩ := traced.honest.idle idle
  rcases (h.entries e mem life free).answered with owed | settled
  · simp [Scheduler.tickets, pending, mailbox] at owed
  · exact settled

end Fresh

end Reencode
