import Reencode.Proofs.Collection.Origin

/-!
# What entries will come to

Jobs finish in any order, but what an entry will come to once everything owed was taken over is
settled beforehand.  At most one of the results that are still owed can count for it: the one with
its newest token, because no two tickets have a key in common.  What that result is depends on the
source of the entry and the parameters on the ticket alone.  `Entry.prospect` is the entry with this
result taken over, if there is one.

Running jobs and taking outcomes out changes no prospect (`Collection.Steps.outlook_eq`), and when
nothing is owed any more each entry is what its prospect said.  Locators are left out of this: they
are given out in the order in which the outcomes are taken over.
-/

namespace Reencode

variable {S : Type}

/-! ## Without locators -/

/-- A handle whose bytes are not listed. -/
def Handle.unlocated : Handle → Handle
  | held data _ => .unlisted data
  | released => released

/-- An entry whose bytes are not listed. -/
def Entry.unlocated (e : Entry) : Entry :=
  { e with
    sourceHandle := e.sourceHandle.unlocated
    output := e.output.map Handle.unlocated }

/-! ## Prospects -/

namespace Entry

/-- The ticket whose outcome will count for an entry. -/
def due (owed : List Ticket) (e : Entry) : Option Ticket :=
  if e.destroyed then none else owed.find? fun t => decide (t.key = (e.id, e.token))

/-- The entry that has taken over the outcome of a ticket. -/
def redeem (codec : Codec S) (e : Entry) (t : Ticket) : Entry :=
  match codec.recode e.source t.params with
  | .ok (.data data) => e.withOutput (.unlisted data) data t.params
  | .ok _ => e
  | .error failure => { e with fault := some (Fault.ofFailure failure t.entry t.token).1 }

/-- What an entry will have come to once everything owed was taken over. -/
def prospect (codec : Codec S) (owed : List Ticket) (e : Entry) : Entry :=
  ((e.due owed).elim e (e.redeem codec)).unlocated

variable {codec : Codec S} {owed owed' : List Ticket} {e : Entry}

lemma find?_key_iff (distinct : (owed.map Ticket.key).Nodup) {k : EntryId × Int} {t : Ticket} :
    owed.find? (fun t => decide (t.key = k)) = some t ↔ t ∈ owed ∧ t.key = k := by
  constructor
  · intro found
    exact ⟨List.mem_of_find?_eq_some found, by simpa using List.find?_some found⟩
  · rintro ⟨mem, rfl⟩
    obtain ⟨other, found⟩ :
        ∃ other, owed.find? (fun u => decide (u.key = t.key)) = some other := by
      rw [← Option.isSome_iff_exists, List.find?_isSome]
      exact ⟨t, mem, by simp⟩
    have same : other.key = t.key := by simpa using List.find?_some found
    rw [found, List.inj_on_of_nodup_map distinct (List.mem_of_find?_eq_some found) mem same]

/-- The order of what is owed does not matter. -/
lemma due_perm (distinct : (owed.map Ticket.key).Nodup) (same : owed.Perm owed') :
    e.due owed' = e.due owed := by
  have distinct' := (same.map Ticket.key).nodup_iff.mp distinct
  unfold due
  split
  · rfl
  · ext t
    rw [find?_key_iff distinct, find?_key_iff distinct', same.mem_iff]

lemma due_cons (t : Ticket) : e.due (t :: owed) =
    if e.destroyed = false ∧ t.key = (e.id, e.token) then some t else e.due owed := by
  unfold due
  cases e.destroyed with
  | true => simp
  | false =>
    simp only [Bool.false_eq_true, if_false, true_and, List.find?_cons]
    split <;> simp_all

lemma due_eq_none (gone : (e.id, e.token) ∉ owed.map Ticket.key) : e.due owed = none := by
  unfold due
  split
  · rfl
  · refine List.find?_eq_none.mpr fun t mem => ?_
    have differs : t.key ≠ (e.id, e.token) := fun same => gone (same ▸ List.mem_map_of_mem mem)
    simpa using differs

lemma prospect_nil (codec : Codec S) (e : Entry) : e.prospect codec [] = e.unlocated := by
  rw [prospect, due_eq_none (by simp)]
  rfl

end Entry

namespace Traced

variable {codec : Codec S} {jobs : List Job} {applied : List Outcome} {alive : List EntryId}
  {shelf : List Entry} {s s' : Scheduler S} {e e' : Entry} {o : Outcome}

lemma nodup_keys (h : Traced codec jobs applied shelf s) :
    (s.tickets.map Ticket.key).Nodup := by
  have all := h.once
  rw [List.map_append] at all
  exact all.of_append_left

/-- The ticket of an outcome that is taken out was due for its entry alone, and is no more. -/
lemma due_of_take (h : Traced codec jobs applied shelf s) (taken : s.take = some (o, s'))
    (e : Entry) : e.due s.tickets =
        (if e.destroyed = false ∧ o.ticket.key = (e.id, e.token) then some o.ticket
          else e.due s'.tickets) ∧
      (o.ticket.key = (e.id, e.token) → e.due s'.tickets = none) := by
  obtain ⟨-, tickets, -⟩ := h.honest.take taken
  have distinct := (tickets.map Ticket.key).nodup_iff.mp h.nodup_keys
  refine ⟨?_, fun mine => Entry.due_eq_none ?_⟩
  · rw [← Entry.due_cons, Entry.due_perm h.nodup_keys tickets]
  · rw [List.map_cons, List.nodup_cons] at distinct
    exact mine ▸ distinct.1

lemma redeem_of_fault (h : Traced codec jobs applied shelf s) (shelved : Shelved alive shelf)
    (taken : s.take = some (o, s')) (mem : e ∈ shelf) (mine : o.entry = e.id) {f : Fault}
    (payload : o.payload = .fault f) :
    e.redeem codec o.ticket = { e with fault := some f } := by
  obtain ⟨-, -, j, hj, rfl⟩ := h.honest.take taken
  obtain ⟨failure, recoded, rfl⟩ := Job.recode_of_result_fault payload
  rw [h.source_eq shelved hj mem (Job.result_entry.symm.trans mine)] at recoded
  simp only [Entry.redeem, Job.result_ticket, Job.ticket, recoded]
  rfl

lemma redeem_of_data (h : Traced codec jobs applied shelf s) (shelved : Shelved alive shelf)
    (taken : s.take = some (o, s')) (mem : e ∈ shelf) (mine : o.entry = e.id) {data : ByteArray}
    (payload : o.payload = .data data) :
    e.redeem codec o.ticket = e.withOutput (.unlisted data) data o.params := by
  obtain ⟨-, -, j, hj, rfl⟩ := h.honest.take taken
  have recoded := Job.recode_of_result_data payload
  rw [h.source_eq shelved hj mem (Job.result_entry.symm.trans mine)] at recoded
  simp only [Entry.redeem, Job.result_ticket, Job.ticket, recoded, Job.result_params]

lemma redeem_of_nothing (h : Traced codec jobs applied shelf s) (shelved : Shelved alive shelf)
    (taken : s.take = some (o, s')) (mem : e ∈ shelf) (mine : o.entry = e.id)
    (payload : o.payload = .nothing) : e.redeem codec o.ticket = e := by
  obtain ⟨-, -, j, hj, rfl⟩ := h.honest.take taken
  have recoded := Job.recode_of_result_nothing payload
  rw [h.source_eq shelved hj mem (Job.result_entry.symm.trans mine)] at recoded
  simp only [Entry.redeem, Job.result_ticket, Job.ticket, recoded]

/-! ## Taking outcomes out -/

/-- An entry that takes over the outcome that is due for it keeps its prospect, and so do all
others. -/
lemma prospects_of_applied (h : Traced codec jobs applied shelf s) (shelved : Shelved alive shelf)
    (taken : s.take = some (o, s')) (mem : e ∈ shelf) (life : e.destroyed = false)
    (mine : o.entry = e.id) (newest : o.token = e.token) (same : e'.id = e.id)
    (token : e'.token = e.token)
    (comes_to : e'.unlocated = (e.redeem codec o.ticket).unlocated) :
    (replaceEntry e' shelf).map (Entry.prospect codec s'.tickets) =
      shelf.map (Entry.prospect codec s.tickets) := by
  rw [replaceEntry, List.map_map]
  refine List.map_congr_left fun other hother => ?_
  obtain ⟨before, after⟩ := h.due_of_take taken other
  simp only [Function.comp, same]
  -- The entry that takes the outcome over has nothing due any more, and has become what was due;
  -- all others are as before.
  split
  · rename_i named
    obtain rfl := shelved.eq_of_id_eq hother mem named
    have key : o.ticket.key = (other.id, other.token) := Prod.ext mine newest
    have settled : e'.due s'.tickets = none := by
      refine (h.due_of_take taken e').2 ?_
      rw [same, token]
      exact key
    rw [Entry.prospect, Entry.prospect, settled, before, if_pos ⟨life, key⟩]
    exact comes_to
  · rename_i apart
    have others : ¬(other.destroyed = false ∧ o.ticket.key = (other.id, other.token)) := by
      rintro ⟨-, key⟩
      exact apart ((Prod.mk.inj key).1.symm.trans mine)
    rw [Entry.prospect, Entry.prospect, before, if_neg others]

/-- An outcome that is ignored changes no prospect. -/
lemma prospects_of_ignored {c : Collection S}
    (h : Traced codec jobs applied c.shelf c.scheduler) (shelved : Shelved c.ids c.shelf)
    (taken : c.scheduler.take = some (o, s')) (ignored : c.Ignores o) :
    c.shelf.map (Entry.prospect codec s'.tickets) =
      c.shelf.map (Entry.prospect codec c.scheduler.tickets) := by
  refine List.map_congr_left fun e mem => ?_
  obtain ⟨before, after⟩ := h.due_of_take taken e
  rw [Entry.prospect, Entry.prospect, before]
  split
  · rename_i due
    obtain ⟨life, key⟩ := due
    obtain ⟨mine, newest⟩ := Prod.mk.inj key
    have nothing := h.nothing_of_ignored shelved taken mem life mine newest ignored
    rw [after key]
    exact congrArg _ (h.redeem_of_nothing shelved taken mem mine nothing).symm
  · rfl

end Traced

/-! ## Getting work done -/

/-- What will have become of a collection once everything owed was taken over. -/
structure Outlook where
  ids : List EntryId
  selected : Option EntryId
  globalFormat : Format
  preview : Preview
  shelf : List Entry

namespace Collection

variable {codec : Codec S} {c c' : Collection S} {d : Deed} {ds : List Deed} {jobs : List Job}
  {applied : List Outcome}

/-- The outlook of a collection. -/
def outlook (codec : Codec S) (c : Collection S) : Outlook :=
  ⟨c.ids, c.selected, c.globalFormat, c.preview,
    c.shelf.map (Entry.prospect codec c.scheduler.tickets)⟩

/-- Getting work done does not change the outlook. -/
theorem Step.outlook_eq (traced : Traced codec jobs applied c.shelf c.scheduler)
    (shelved : Shelved c.ids c.shelf) (st : Step codec c d c') (harvest : d.isHarvest = true) :
    c'.outlook codec = c.outlook codec := by
  -- A harvest does not change what entries come to: what a job brings is due already while it is
  -- pending.
  cases st with
  | ran k =>
    have moved := (traced.honest.runPending k).2
    refine congrArg (Outlook.mk _ _ _ _) (List.map_congr_left fun e _ => ?_)
    rw [Entry.prospect, Entry.prospect, Entry.due_perm traced.nodup_keys moved.symm]
  | faulted taken found payload recorded =>
    obtain ⟨mem, mine⟩ := shelved.mem_of_get? found
    obtain ⟨current, life, rfl⟩ := Entry.recordFault_eq_some recorded
    have newest := (traced.honest.token_of_fault taken payload).symm.trans current
    have comes_to := congrArg Entry.unlocated
      (traced.redeem_of_fault shelved taken mem mine.symm payload)
    exact congrArg (Outlook.mk _ _ _ _) (traced.prospects_of_applied shelved taken mem life
      mine.symm newest rfl rfl comes_to.symm)
  | updated taken found payload replaced =>
    obtain ⟨mem, mine⟩ := shelved.mem_of_get? found
    obtain ⟨newest, life, handle, stored, rfl⟩ := Entry.applyOutput_eq_some replaced
    obtain ⟨locator, rfl⟩ := Entry.held_of_storeOutput stored
    have comes_to := congrArg Entry.unlocated
      (traced.redeem_of_data shelved taken mem mine.symm payload)
    exact congrArg (Outlook.mk _ _ _ _) (traced.prospects_of_applied shelved taken mem life
      mine.symm newest rfl rfl comes_to.symm)
  | dropped taken ignored =>
    exact congrArg (Outlook.mk _ _ _ _) (traced.prospects_of_ignored shelved taken ignored)
  | _ => cases harvest

/-- However much work gets done, the outlook stays the same. -/
theorem Steps.outlook_eq (traced : Traced codec jobs applied c.shelf c.scheduler)
    (shelved : Shelved c.ids c.shelf) (steps : Steps codec c ds c')
    (harvest : ∀ d ∈ ds, d.isHarvest = true) : c'.outlook codec = c.outlook codec := by
  induction steps with
  | start => rfl
  | step before last ih =>
    have latest := last.outlook_eq (traced.steps shelved before) (shelved.steps before)
      (harvest _ (List.mem_append_right _ List.mem_cons_self))
    exact latest.trans (ih fun d mem => harvest d (List.mem_append_left _ mem))

/-! ## Nothing owed -/

/-- Collections that are the same up to locators, apart from what their schedulers keep. -/
structure Resembles (c c' : Collection S) : Prop where
  ids : c.ids = c'.ids
  selected : c.selected = c'.selected
  globalFormat : c.globalFormat = c'.globalFormat
  preview : c.preview = c'.preview
  entries : c.entries.map Entry.unlocated = c'.entries.map Entry.unlocated

lemma entries_unlocated (c : Collection S) : c.entries.map Entry.unlocated =
    c.ids.filterMap fun id => (c.shelf.map Entry.unlocated).find? (·.id = id) := by
  simp only [entries, List.map_filterMap, List.find?_map]
  rfl

lemma outlook_of_idle (codec : Codec S) (idle : c.scheduler.tickets = []) : c.outlook codec =
    ⟨c.ids, c.selected, c.globalFormat, c.preview, c.shelf.map Entry.unlocated⟩ := by
  rw [outlook, idle]
  exact congrArg (Outlook.mk _ _ _ _)
    (List.map_congr_left fun e _ => Entry.prospect_nil codec e)

/-- Collections with one outlook that are owed nothing are the same up to locators. -/
theorem resembles_of_outlook_eq (same : c.outlook codec = c'.outlook codec)
    (idle : c.scheduler.tickets = []) (idle' : c'.scheduler.tickets = []) : c.Resembles c' := by
  rw [outlook_of_idle codec idle, outlook_of_idle codec idle'] at same
  obtain ⟨ids, selected, globalFormat, preview, shelf⟩ := Outlook.mk.inj same
  refine ⟨ids, selected, globalFormat, preview, ?_⟩
  rw [entries_unlocated, entries_unlocated, ids, shelf]

end Collection

end Reencode
