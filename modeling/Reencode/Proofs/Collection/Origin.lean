import Mathlib.Data.List.Perm.Subperm
import Reencode.Proofs.Collection.Step
import Reencode.Proofs.Work.Tickets

/-!
# Where outputs come from

`Traced` ties everything that a collection knows of finished and unfinished work to the jobs that
its entries dispatched: pending jobs, outcomes in the mailbox and cached surfaces (through
`Scheduler.Honest`), the outcomes that were taken over, and the outputs of the entries.  Two facts
carry the rest.  Each job is owed, or was taken over, at most once (`Traced.once`), and no job has a
token beyond the newest one of its entry (`Traced.current`).  So an outcome that is taken over has
a token above those of all outcomes of its entry taken over before.

`Traced.step` says that every step keeps this up, with the history that the step prolongs.
-/

namespace Reencode

variable {S : Type}

/-- The sources of the entries of a shelf. -/
def sourcesOf (shelf : List Entry) (id : EntryId) : Option ByteArray :=
  (shelf.find? (·.id = id)).map Entry.source

/-- What tells tickets apart. -/
def Ticket.key (t : Ticket) : EntryId × Int := (t.entry, t.token)

lemma sourcesOf_eq {alive : List EntryId} {shelf : List Entry} (h : Shelved alive shelf)
    {e : Entry} (mem : e ∈ shelf) : sourcesOf shelf e.id = some e.source := by
  rw [sourcesOf, h.find?_eq_some_iff.mpr ⟨mem, rfl⟩]
  rfl

lemma sourcesOf_append {shelf more : List Entry} {id : EntryId} {data : ByteArray}
    (known : sourcesOf shelf id = some data) : sourcesOf (shelf ++ more) id = some data := by
  obtain ⟨e, found, rfl⟩ := Option.map_eq_some_iff.mp known
  rw [sourcesOf, List.find?_append, found]
  rfl

lemma sourcesOf_replace {alive : List EntryId} {shelf : List Entry} (h : Shelved alive shelf)
    {e e' : Entry} (mem : e ∈ shelf) (same : e'.id = e.id) (source : e'.source = e.source)
    {id : EntryId} {data : ByteArray} (known : sourcesOf shelf id = some data) :
    sourcesOf (replaceEntry e' shelf) id = some data := by
  obtain ⟨other, found, rfl⟩ := Option.map_eq_some_iff.mp known
  obtain ⟨hother, rfl⟩ := h.find?_eq_some_iff.mp found
  by_cases hid : other.id = e.id
  · obtain rfl := h.eq_of_id_eq hother mem hid
    -- Only the ids of the shelf matter for what is found, and they stay.
    have place : (replaceEntry e' shelf).find? (·.id = other.id) = some e' := by
      obtain ⟨before, after, -, split', others⟩ := h.exists_split mem same
      rw [split', List.find?_append, List.find?_eq_none.mpr, Option.none_or, List.find?_cons_of_pos]
      · simp [same]
      · intro o ho
        simpa using others o (List.mem_append_left _ ho)
    rw [sourcesOf, place]
    exact congrArg some source
  · have kept : other ∈ replaceEntry e' shelf :=
      (h.mem_replaceEntry mem same).mpr (.inr ⟨hother, hid⟩)
    obtain ⟨first, hfirst⟩ :
        ∃ first, (replaceEntry e' shelf).find? (·.id = other.id) = some first := by
      rw [← Option.isSome_iff_exists, List.find?_isSome]
      exact ⟨other, kept, by simp⟩
    have named : first.id = other.id := by simpa using List.find?_some hfirst
    rcases (h.mem_replaceEntry mem same).mp (List.mem_of_find?_eq_some hfirst) with rfl | ⟨old, -⟩
    · exact absurd (named.symm.trans same) hid
    · rw [sourcesOf, hfirst, h.eq_of_id_eq old hother named]
      rfl

/-- The output of an entry is what a job of that very entry came to. -/
def Entry.OutputFrom (codec : Codec S) (jobs : List Job) (e : Entry) : Prop :=
  ∀ handle, e.output = some handle → ∃ j ∈ jobs, j.entry = e.id ∧
    ∃ data locator, handle = .held data locator ∧ e.outputParams = some j.params ∧
      codec.recode j.source j.params = .ok (.data data)

/-- A shelf and a scheduler of which all work can be traced back to the jobs `jobs`, when the
outcomes `applied` were taken over so far. -/
structure Traced (codec : Codec S) (jobs : List Job) (applied : List Outcome) (shelf : List Entry)
    (s : Scheduler S) : Prop where
  honest : s.Honest codec (sourcesOf shelf) jobs
  current : ∀ j ∈ jobs, ∃ e ∈ shelf, e.id = j.entry ∧ j.token ≤ e.token
  once : ((s.tickets ++ applied.map Outcome.ticket).map Ticket.key).Nodup
  results : ∀ o ∈ applied, ∃ j ∈ jobs, o = j.result codec
  increasing : applied.Pairwise fun a b => a.entry = b.entry → a.token < b.token
  outputs : ∀ e ∈ shelf, e.OutputFrom codec jobs

namespace Traced

variable {codec : Codec S} {jobs : List Job} {applied : List Outcome} {alive : List EntryId}
  {shelf : List Entry} {s s' : Scheduler S} {e e' : Entry}

lemma initial (workers : Int) (pace : Pace) :
    Traced codec [] [] [] (Scheduler.initial workers pace DecodeCache.empty) where
  honest := .initial workers pace
  current := by simp
  once := List.nodup_nil
  results := by simp
  increasing := List.Pairwise.nil
  outputs := by simp

lemma of_create {settings : Settings} {workers : Option Int} {format : Value} {pace : Pace}
    {c : Collection S} (made : Collection.create settings workers format pace = .ok c) :
    Traced codec [] [] c.shelf c.scheduler := by
  obtain ⟨n, f, rfl⟩ := Collection.create_eq_ok made
  exact .initial n pace

/-- A job works on the source of its entry. -/
lemma source_eq (h : Traced codec jobs applied shelf s) (shelved : Shelved alive shelf) {j : Job}
    (hj : j ∈ jobs) (mem : e ∈ shelf) (mine : j.entry = e.id) : j.source = e.source := by
  have known := (h.honest.known j hj).1
  rw [mine, sourcesOf_eq shelved mem] at known
  exact (Option.some.inj known).symm

/-- No ticket of an entry, and no outcome of it taken over, has a token beyond the newest one. -/
lemma token_le (h : Traced codec jobs applied shelf s) (shelved : Shelved alive shelf)
    (mem : e ∈ shelf) {t : Ticket} (ht : t ∈ s.tickets ++ applied.map Outcome.ticket)
    (mine : t.entry = e.id) : t.token ≤ e.token := by
  obtain ⟨j, hj, rfl⟩ : ∃ j ∈ jobs, j.ticket = t := by
    rcases List.mem_append.mp ht with owed | done
    · exact h.honest.exists_job_of_ticket owed
    · obtain ⟨o, ho, rfl⟩ := List.mem_map.mp done
      obtain ⟨j, hj, rfl⟩ := h.results o ho
      exact ⟨j, hj, (j.result_ticket codec).symm⟩
  obtain ⟨other, hother, named, below⟩ := h.current j hj
  obtain rfl := shelved.eq_of_id_eq hother mem (named.trans mine)
  exact below

/-! ## Changes of the shelf -/

lemma append (h : Traced codec jobs applied shelf s) (none : e.output = none) :
    Traced codec jobs applied (shelf ++ [e]) s where
  honest := h.honest.mono fun _ _ => sourcesOf_append
  current := fun j hj => by
    obtain ⟨other, hother, rest⟩ := h.current j hj
    exact ⟨other, List.mem_append_left _ hother, rest⟩
  once := h.once
  results := h.results
  increasing := h.increasing
  outputs := fun other hother => by
    rcases List.mem_append.mp hother with old | new
    · exact h.outputs other old
    · obtain rfl := List.mem_singleton.mp new
      intro handle out
      rw [none] at out
      cases out

lemma replace (h : Traced codec jobs applied shelf s) (shelved : Shelved alive shelf)
    (mem : e ∈ shelf) (same : e'.id = e.id) (source : e'.source = e.source)
    (newer : e.token ≤ e'.token) (output : e'.OutputFrom codec jobs) :
    Traced codec jobs applied (replaceEntry e' shelf) s where
  honest := h.honest.mono fun _ _ => sourcesOf_replace shelved mem same source
  current := fun j hj => by
    obtain ⟨other, hother, named, below⟩ := h.current j hj
    by_cases hid : other.id = e.id
    · obtain rfl := shelved.eq_of_id_eq hother mem hid
      exact ⟨e', (shelved.mem_replaceEntry mem same).mpr (.inl rfl), same.trans named,
        Int.le_trans below newer⟩
    · exact ⟨other, (shelved.mem_replaceEntry mem same).mpr (.inr ⟨hother, hid⟩), named, below⟩
  once := h.once
  results := h.results
  increasing := h.increasing
  outputs := fun other hother => by
    rcases (shelved.mem_replaceEntry mem same).mp hother with rfl | ⟨old, -⟩
    · exact output
    · exact h.outputs other old

/-- An entry that keeps its output keeps where it came from. -/
lemma outputFrom_congr (from_ : e.OutputFrom codec jobs) (same : e'.id = e.id)
    (output : e'.output = e.output) (params : e'.outputParams = e.outputParams) :
    e'.OutputFrom codec jobs := by
  intro handle out
  obtain ⟨j, hj, named, data, locator, held, made, recoded⟩ := from_ handle (output ▸ out)
  exact ⟨j, hj, named.trans same.symm, data, locator, held, params.trans made, recoded⟩

/-! ## Changes of the scheduler -/

lemma withScheduler (h : Traced codec jobs applied shelf s)
    (honest : s'.Honest codec (sourcesOf shelf) jobs) (fewer : s'.tickets.Subperm s.tickets) :
    Traced codec jobs applied shelf s' where
  honest := honest
  current := h.current
  once := by
    obtain ⟨kept, same, sub⟩ := fewer
    have distinct : ((kept ++ applied.map Outcome.ticket).map Ticket.key).Nodup :=
      h.once.sublist ((sub.append_right _).map _)
    exact (((same.append_right _).map _).nodup_iff).mp distinct
  results := h.results
  increasing := h.increasing
  outputs := h.outputs

lemma alike (h : Traced codec jobs applied shelf s) (same : s.Alike s') :
    Traced codec jobs applied shelf s' :=
  h.withScheduler (h.honest.alike same) (same.tickets ▸ List.Subperm.refl _)

lemma forget (h : Traced codec jobs applied shelf s) (id : EntryId) :
    Traced codec jobs applied shelf (s.forget id) := by
  obtain ⟨honest, tickets⟩ := h.honest.forget id
  exact h.withScheduler honest (tickets ▸ List.Subperm.refl _)

lemma drop (h : Traced codec jobs applied shelf s) {o : Outcome}
    (taken : s.take = some (o, s')) : Traced codec jobs applied shelf s' := by
  obtain ⟨honest, tickets, -⟩ := h.honest.take taken
  exact h.withScheduler honest ((List.sublist_cons_self _ _).subperm.trans tickets.symm.subperm)

/-- An outcome with the newest token of its entry may be taken over. -/
lemma redeem (h : Traced codec jobs applied shelf s) (shelved : Shelved alive shelf)
    (mem : e ∈ shelf) {o : Outcome} (taken : s.take = some (o, s')) (mine : o.entry = e.id)
    (newest : o.token = e.token) : Traced codec jobs (applied ++ [o]) shelf s' := by
  obtain ⟨honest, tickets, j, hj, rfl⟩ := h.honest.take taken
  -- A ticket goes from the open ones to the applied ones, so that all in all they are the same.
  have moved : ((s'.tickets ++ (applied ++ [j.result codec]).map Outcome.ticket)).Perm
      (s.tickets ++ applied.map Outcome.ticket) := by
    rw [List.map_append, ← List.append_assoc]
    exact (List.perm_append_singleton _ _).trans (tickets.symm.append_right _)
  have fresh : ∀ a ∈ applied, a.entry = (j.result codec).entry →
      a.token < (j.result codec).token := by
    intro a ha same
    have le : a.token ≤ e.token :=
      h.token_le shelved mem (List.mem_append_right _ (List.mem_map_of_mem ha)) (same.trans mine)
    have ne : a.token ≠ e.token := by
      intro equal
      -- Both would redeem one ticket.
      have redeems := (tickets.append_right (applied.map Outcome.ticket)).map Ticket.key
      have distinct := redeems.nodup_iff.mp h.once
      simp only [List.cons_append, List.map_cons, List.nodup_cons] at distinct
      refine distinct.1 (List.mem_map.mpr ⟨a.ticket, ?_, ?_⟩)
      · exact List.mem_append_right _ (List.mem_map_of_mem ha)
      · exact Prod.ext same (equal.trans newest.symm)
    omega
  exact {
    honest := honest
    current := h.current
    once := ((moved.map Ticket.key).nodup_iff).mpr h.once
    results := by
      intro a ha
      rcases List.mem_append.mp ha with old | new
      · exact h.results a old
      · exact ⟨j, hj, List.mem_singleton.mp new⟩
    increasing := by
      refine List.pairwise_append.mpr ⟨h.increasing, List.pairwise_singleton _ _, ?_⟩
      intro a ha b hb
      obtain rfl := List.mem_singleton.mp hb
      exact fresh a ha
    outputs := h.outputs }

/-- An entry dispatches a job with a new token. -/
lemma dispatch (h : Traced codec jobs applied shelf s) (shelved : Shelved alive shelf)
    (mem : e ∈ shelf) (accepted : (s.submit codec e.request).1 = .ok ()) :
    Traced codec (jobs ++ [e.request]) applied (replaceEntry e.advance shelf)
      (s.submit codec e.request).2.1 := by
  obtain ⟨isOpen, running⟩ := (Scheduler.submit_result s codec e.request).mp accepted
  have advanced := h.replace shelved mem e.advance_id e.advance_source
    (by rw [Entry.advance_token]; omega) (outputFrom_congr (h.outputs e mem) rfl rfl rfl)
  have known : sourcesOf (replaceEntry e.advance shelf) e.id = some e.source :=
    sourcesOf_replace shelved mem e.advance_id e.advance_source (sourcesOf_eq shelved mem)
  obtain ⟨honest, tickets⟩ := advanced.honest.submit (j := e.request) known rfl isOpen running
  have more : ∀ {other : Entry}, other.OutputFrom codec jobs →
      other.OutputFrom codec (jobs ++ [e.request]) := by
    intro other from_ handle out
    obtain ⟨j, hj, rest⟩ := from_ handle out
    exact ⟨j, List.mem_append_left _ hj, rest⟩
  exact {
    honest := honest
    current := by
      intro j hj
      rcases List.mem_append.mp hj with old | new
      · exact advanced.current j old
      · obtain rfl := List.mem_singleton.mp new
        exact ⟨e.advance, (shelved.mem_replaceEntry mem e.advance_id).mpr (.inl rfl), rfl,
          Int.le_refl _⟩
    once := by
      refine (((tickets.append_right _).map Ticket.key).nodup_iff).mpr ?_
      rw [List.cons_append, List.map_cons, List.nodup_cons]
      refine ⟨?_, h.once⟩
      -- The new token exceeds all tokens that the entry ever had.
      intro taken
      obtain ⟨t, ht, same⟩ := List.mem_map.mp taken
      obtain ⟨mine, token⟩ := Prod.mk.inj same
      have := h.token_le shelved mem ht mine
      simp only [Job.ticket, Entry.request] at token
      omega
    results := by
      intro o ho
      obtain ⟨j, hj, rfl⟩ := h.results o ho
      exact ⟨j, List.mem_append_left _ hj, rfl⟩
    increasing := h.increasing
    outputs := fun other hother => more (advanced.outputs other hother) }

/-! ## Steps -/

lemma outputFrom_destroy (from_ : e.OutputFrom codec jobs) (r : Registry) :
    (e.destroy r).1.OutputFrom codec jobs := by
  unfold Entry.destroy
  split
  · exact from_
  · intro handle out
    cases out

lemma destroy {c : Collection S} (h : Traced codec jobs applied c.shelf c.scheduler)
    (shelved : Shelved alive c.shelf) {id : EntryId} (found : c.find? id = some e) :
    Traced codec jobs applied (c.destroy e).shelf (c.destroy e).scheduler := by
  obtain ⟨mem, -⟩ := shelved.mem_of_find? found
  have buried : Traced codec jobs applied (c.destroy e).shelf c.scheduler :=
    h.replace shelved mem (e.destroy_id _) (e.destroy_source _)
      (Int.le_of_eq (e.destroy_token _).symm) (outputFrom_destroy (h.outputs e mem) _)
  exact buried.forget _

lemma destroyAll {c : Collection S} (h : Traced codec jobs applied c.shelf c.scheduler)
    (shelved : Shelved alive c.shelf) (ids : List EntryId) :
    Traced codec jobs applied (c.destroyAll ids).shelf (c.destroyAll ids).scheduler := by
  refine shelved.destroyAll_induction
    (P := fun c' => Traced codec jobs applied c'.shelf c'.scheduler) ?_ ids h
  intro _ c' id e shelved' h' found
  exact h'.destroy shelved' found

/-- Every step keeps all work traceable, to the jobs and outcomes that it brings as well. -/
theorem step {c c' : Collection S} {d : Deed}
    (h : Traced codec jobs applied c.shelf c.scheduler) (shelved : Shelved c.ids c.shelf)
    (st : Collection.Step codec c d c') :
    Traced codec (jobs ++ d.job?.toList) (applied ++ d.applied?.toList) c'.shelf c'.scheduler := by
  -- All but three kinds of steps bring neither a job nor an outcome.
  have plain (no_job : d.job? = none) (no_outcome : d.applied? = none)
      (kept : Traced codec jobs applied c'.shelf c'.scheduler) :
      Traced codec (jobs ++ d.job?.toList) (applied ++ d.applied?.toList) c'.shelf
        c'.scheduler := by
    simpa [no_job, no_outcome] using kept
  cases st with
  | imported name data params => exact plain rfl rfl (h.append rfl)
  | removed found =>
    exact plain rfl rfl
      (Traced.destroy (c := c.drop _) h shelved (Collection.find?_of_get? found).1)
  | cleared => exact plain rfl rfl (Traced.destroyAll (c := { c with ids := [] }) h shelved c.ids)
  | paramsSet params found =>
    obtain ⟨mem, -⟩ := shelved.mem_of_find? found
    exact plain rfl rfl (h.replace shelved mem rfl rfl (Int.le_refl _)
      (outputFrom_congr (h.outputs _ mem) rfl rfl rfl))
  | dispatched found accepted =>
    obtain ⟨mem, -⟩ := shelved.mem_of_find? found
    simpa [Deed.job?, Deed.applied?] using h.dispatch shelved mem accepted
  | @refused id e found refusal =>
    obtain ⟨mem, -⟩ := shelved.mem_of_find? found
    have advanced := h.replace shelved mem e.advance_id e.advance_source
      (by rw [Entry.advance_token]; omega) (outputFrom_congr (h.outputs e mem) rfl rfl rfl)
    exact plain rfl rfl (advanced.alike (Scheduler.submit_alike refusal))
  | @faulted o rest e e' f taken found payload recorded =>
    obtain ⟨mem, mine⟩ := shelved.mem_of_get? found
    obtain ⟨current, -, rfl⟩ := Entry.recordFault_eq_some recorded
    have newest : o.token = e.token := (h.honest.token_of_fault taken payload).symm.trans current
    have redeemed := h.redeem shelved mem taken mine.symm newest
    simp only [Deed.job?, Deed.applied?, Option.toList, List.append_nil]
    exact redeemed.replace shelved mem rfl rfl (Int.le_refl _)
      (outputFrom_congr (h.outputs e mem) rfl rfl rfl)
  | @updated o rest e e' data r taken found payload replaced =>
    obtain ⟨mem, mine⟩ := shelved.mem_of_get? found
    obtain ⟨newest, -, handle, stored, rfl⟩ := Entry.applyOutput_eq_some replaced
    obtain ⟨-, -, j, hj, rfl⟩ := h.honest.take taken
    have redeemed := h.redeem shelved mem taken mine.symm newest
    have made : (e.withOutput handle data (j.result codec).params).OutputFrom codec jobs := by
      intro handle' out
      obtain rfl : handle = handle' := Option.some.inj out
      obtain ⟨locator, held⟩ := Entry.held_of_storeOutput stored
      refine ⟨j, hj, ?_, data, locator, held, ?_, Job.recode_of_result_data payload⟩
      · have same : (j.result codec).entry = j.entry := Job.result_entry
        exact same.symm.trans mine.symm
      · exact congrArg some Job.result_params
    simp only [Deed.job?, Deed.applied?, Option.toList, List.append_nil]
    exact redeemed.replace shelved mem rfl rfl (Int.le_refl _) made
  | dropped taken ignored => exact plain rfl rfl (h.drop taken)
  | ran k =>
    obtain ⟨honest, moved⟩ := h.honest.runPending k
    exact plain rfl rfl (h.withScheduler honest moved.subperm)
  | cancelled k =>
    obtain ⟨honest, fewer⟩ := h.honest.cancel k
    refine plain rfl rfl (h.withScheduler honest ?_)
    rcases fewer with same | ⟨t, fewer⟩
    · exact same.subperm
    · exact (List.sublist_cons_self _ _).subperm.trans fewer.symm.subperm
  | executorShut | closed =>
    -- Only the marks of the end change.
    exact plain rfl rfl (h.withScheduler (h.honest.of_alike rfl rfl rfl rfl fun _ mem => mem)
      (List.Subperm.refl _))
  | _ => exact plain rfl rfl h

/-- Every sequence of steps keeps all work traceable. -/
theorem steps {c c' : Collection S} {ds : List Deed}
    (h : Traced codec jobs applied c.shelf c.scheduler) (shelved : Shelved c.ids c.shelf)
    (st : Collection.Steps codec c ds c') :
    Traced codec (jobs ++ jobsOf ds) (applied ++ appliedOf ds) c'.shelf c'.scheduler := by
  induction st with
  | start => simpa [jobsOf, appliedOf] using h
  | step before last ih =>
    have prolonged := ih.step (shelved.steps before) last
    simpa [jobsOf_singleton, appliedOf_singleton] using prolonged

/-! ## Ignored outcomes -/

/-- An outcome with the newest token is ignored only if there is nothing in it. -/
lemma nothing_of_ignored {c : Collection S} (h : Traced codec jobs applied c.shelf c.scheduler)
    (shelved : Shelved c.ids c.shelf) {o : Outcome} (taken : c.scheduler.take = some (o, s'))
    (mem : e ∈ c.shelf) (life : e.destroyed = false) (mine : o.entry = e.id)
    (newest : o.token = e.token) (ignored : c.Ignores o) : o.payload = .nothing := by
  have alive : e.id ∈ c.ids := (shelved.mem_alive_iff mem).mpr life
  have found : c.get? o.entry = some e :=
    shelved.get?_eq_some_iff.mpr ⟨shelved.mem_entries.mpr ⟨mem, alive⟩, mine.symm⟩
  have refused := ignored e found
  have current : e.isCurrent o.token = true := by simp [Entry.isCurrent, newest, life]
  cases payload : o.payload with
  | nothing => rfl
  | fault f =>
    rw [payload] at refused
    rw [← h.honest.token_of_fault taken payload] at current
    simp [Entry.recordFault, current] at refused
  | data data =>
    rw [payload] at refused
    have held : ∀ old, e.output = some old → ∃ data locator, old = .held data locator := by
      intro old out
      obtain ⟨-, -, -, data, locator, held, -⟩ := h.outputs e mem old out
      exact ⟨data, locator, held⟩
    obtain ⟨made, stored⟩ := Entry.storeOutput_ok held c.registry data
    refine absurd ?_ (refused (e.withOutput made.1 data o.params) made.2)
    rw [Entry.applyOutput_eq, current, stored]
    rfl

end Traced

end Reencode
