import Reencode.Proofs.Collection.Shelf
import Reencode.Session.Operation

/-!
# Steps of a collection

Everything that ever happens to a collection is a sequence of small steps: an entry is imported,
another one selected, a job dispatched, a job run, an outcome taken over.  `Step` lists them, each
with a *deed* that tells what was done; `Steps` are sequences of them, with the deeds in order as
the history.  Steps of the owner and steps of the executor may alternate in any way, so what holds
after all sequences of steps holds whatever jobs finish when, also in the middle of an operation.

An event is told right after the deed it tells of (`Deed.event?`).  A deed that makes the parameters
in force differ from those of the newest job leaves a debt, which dispatching a job pays
(`Deed.owing`).
-/

namespace Reencode

variable {S : Type}

/-- What was done to a collection. A job that is dispatched was accepted by the scheduler, a refused
one was not, and a skipped one is for an entry that there never was. An outcome is applied, or
dropped once it is out of the mailbox. The executor is shut down alone or with the scheduler. -/
inductive Deed where
  | imported (id : EntryId)
  | removed (id : EntryId)
  | cleared
  | chosen (id : Option EntryId)
  | paramsSet (id : EntryId)
  | announced (id : EntryId)
  | dispatched (j : Job)
  | refused (j : Job)
  | skipped (id : EntryId)
  | applied (o : Outcome)
  | dropped (o : Outcome)
  | ran (number : Nat)
  | cancelled (number : Nat)
  | shut
  | formatSet (format : Format)
  | modeSet (showSource : Bool)
  | subscribed (tag : ObserverTag)
  | unsubscribed (tag : ObserverTag)

namespace Deed

/-- The event that tells of a deed. -/
def event? : Deed → Option Event
  | imported id => some (.about .added id)
  | removed id => some (.about .removed id)
  | cleared => some .cleared
  | chosen id => some (.selection id)
  | announced id => some (.about .paramsChanged id)
  | applied o =>
    match o.payload with
    | .fault f => some (.failed o.entry f)
    | .data _ => some (.about .outputUpdated o.entry)
    | .nothing => none
  | _ => none

/-- The job that was dispatched, if the deed is that. -/
def job? : Deed → Option Job
  | dispatched j => some j
  | _ => none

/-- The outcome that was taken over, if the deed is that. -/
def applied? : Deed → Option Outcome
  | applied o => some o
  | _ => none

/-- The entries whose newest job does not have the parameters in force, after a deed. -/
def owing (debts : List EntryId) : Deed → List EntryId
  | imported id => id :: debts
  | paramsSet id => id :: debts
  | dispatched j => debts.filter (· ≠ j.entry)
  | refused j => debts.filter (· ≠ j.entry)
  | skipped id => debts.filter (· ≠ id)
  | _ => debts

/-- Whether a deed belongs to the end of a scheduler's work. -/
def isEnding : Deed → Bool
  | cancelled _ | shut => true
  | _ => false

/-- Whether a deed gets work done that was begun before. -/
def isHarvest : Deed → Bool
  | ran _ | applied _ | dropped _ => true
  | _ => false

/-- Whether a deed changes who is told of events. -/
def isSubscription : Deed → Bool
  | subscribed _ | unsubscribed _ => true
  | _ => false

/-- Whether a deed switches the preview between the source and the output. -/
def isSwitch : Deed → Bool
  | modeSet _ => true
  | _ => false

end Deed

/-- The jobs that were dispatched in a history, oldest first. -/
def jobsOf (deeds : List Deed) : List Job := deeds.filterMap Deed.job?

/-- The outcomes that were taken over in a history, oldest first. -/
def appliedOf (deeds : List Deed) : List Outcome := deeds.filterMap Deed.applied?

/-- The events that tell of a history, oldest first. -/
def eventsOf (deeds : List Deed) : List Event := deeds.filterMap Deed.event?

/-- The entries that a history leaves in debt, of those in debt before and those it brings. -/
def owingAfter (debts : List EntryId) (deeds : List Deed) : List EntryId :=
  deeds.foldl Deed.owing debts

@[simp] lemma jobsOf_append (ds es : List Deed) : jobsOf (ds ++ es) = jobsOf ds ++ jobsOf es :=
  List.filterMap_append

@[simp] lemma appliedOf_append (ds es : List Deed) :
    appliedOf (ds ++ es) = appliedOf ds ++ appliedOf es :=
  List.filterMap_append

@[simp] lemma eventsOf_append (ds es : List Deed) :
    eventsOf (ds ++ es) = eventsOf ds ++ eventsOf es :=
  List.filterMap_append

@[simp] lemma owingAfter_append (debts : List EntryId) (ds es : List Deed) :
    owingAfter debts (ds ++ es) = owingAfter (owingAfter debts ds) es :=
  List.foldl_append

lemma jobsOf_singleton (d : Deed) : jobsOf [d] = d.job?.toList := by
  cases h : d.job? <;> simp [jobsOf, h]

lemma appliedOf_singleton (d : Deed) : appliedOf [d] = d.applied?.toList := by
  cases h : d.applied? <;> simp [appliedOf, h]

lemma eventsOf_singleton (d : Deed) : eventsOf [d] = d.event?.toList := by
  cases h : d.event? <;> simp [eventsOf, h]

/-- The job that an entry's next dispatch hands over. -/
def Entry.request (e : Entry) : Job := ⟨e.id, e.token + 1, e.source, e.params, .none⟩

namespace Collection

/-- Whether an outcome changes nothing when it is taken over: its entry has left the collection, or
its token is stale. -/
def Ignores (c : Collection S) (o : Outcome) : Prop :=
  ∀ e, c.get? o.entry = some e →
    match o.payload with
    | .fault f => e.recordFault f = none
    | .data data =>
      ∀ e' r, e.applyOutput c.registry o.token data (some o.params) ≠ .ok (some (e', r))
    | .nothing => True

lemma Ignores.of_get? {c : Collection S} {o : Outcome} {e : Entry}
    (found : c.get? o.entry = some e)
    (unchanged : match o.payload with
      | .fault f => e.recordFault f = none
      | .data data =>
        ∀ e' r, e.applyOutput c.registry o.token data (some o.params) ≠ .ok (some (e', r))
      | .nothing => True) : c.Ignores o := by
  intro e' found'
  obtain rfl : e = e' := Option.some.inj (found.symm.trans found')
  exact unchanged

/-- One step of a collection, and the deed it is. -/
inductive Step (codec : Codec S) : Collection S → Deed → Collection S → Prop
  | imported (c : Collection S) (name : String) (data : ByteArray) (params : Params) :
      Step codec c (.imported c.nextId) (c.insert name data params).2
  | removed {c : Collection S} {id : EntryId} {e : Entry} (found : c.get? id = some e) :
      Step codec c (.removed id) ((c.drop id).destroy e)
  | cleared (c : Collection S) :
      Step codec c .cleared (({ c with ids := [] }.destroyAll c.ids).choose none)
  | chosen (c : Collection S) (id : Option EntryId) : Step codec c (.chosen id) (c.choose id)
  | paramsSet {c : Collection S} {id : EntryId} {e : Entry} (params : Params)
      (found : c.find? id = some e) : Step codec c (.paramsSet id) (c.setEntry { e with params })
  | announced (c : Collection S) (id : EntryId) : Step codec c (.announced id) c
  | dispatched {c : Collection S} {id : EntryId} {e : Entry} (found : c.find? id = some e)
      (accepted : (c.scheduler.submit codec e.request).1 = .ok ()) :
      Step codec c (.dispatched e.request)
        { c.setEntry e.advance with scheduler := (c.scheduler.submit codec e.request).2.1 }
  | refused {c : Collection S} {id : EntryId} {e : Entry} (found : c.find? id = some e)
      (refusal : (c.scheduler.submit codec e.request).1 ≠ .ok ()) :
      Step codec c (.refused e.request)
        { c.setEntry e.advance with scheduler := (c.scheduler.submit codec e.request).2.1 }
  | skipped {c : Collection S} {id : EntryId} (unknown : c.find? id = none) :
      Step codec c (.skipped id) c
  | faulted {c : Collection S} {o : Outcome} {rest : Scheduler S} {e e' : Entry} {f : Fault}
      (taken : c.scheduler.take = some (o, rest)) (found : c.get? o.entry = some e)
      (payload : o.payload = .fault f) (recorded : e.recordFault f = some e') :
      Step codec c (.applied o) ({ c with scheduler := rest }.setEntry e')
  | updated {c : Collection S} {o : Outcome} {rest : Scheduler S} {e e' : Entry}
      {data : ByteArray} {r : Registry}
      (taken : c.scheduler.take = some (o, rest)) (found : c.get? o.entry = some e)
      (payload : o.payload = .data data)
      (replaced : e.applyOutput c.registry o.token data (some o.params) = .ok (some (e', r))) :
      Step codec c (.applied o) { { c with scheduler := rest }.setEntry e' with registry := r }
  | dropped {c : Collection S} {o : Outcome} {rest : Scheduler S}
      (taken : c.scheduler.take = some (o, rest)) (ignored : c.Ignores o) :
      Step codec c (.dropped o) { c with scheduler := rest }
  | ran (c : Collection S) (k : Nat) :
      Step codec c (.ran k) { c with scheduler := (c.scheduler.runPending codec k).2.1 }
  | cancelled (c : Collection S) (k : Nat) :
      Step codec c (.cancelled k) { c with scheduler := (c.scheduler.cancel k).2 }
  | executorShut (c : Collection S) :
      Step codec c .shut { c with scheduler := c.scheduler.shutExecutor }
  | closed (c : Collection S) :
      Step codec c .shut
        { c with scheduler := { c.scheduler with closed := true }.shutExecutor }
  | formatSet (c : Collection S) (format : Format) :
      Step codec c (.formatSet format) { c with globalFormat := format }
  | modeSet (c : Collection S) (showSource : Bool) :
      Step codec c (.modeSet showSource) { c with preview := c.preview.setMode showSource }
  | subscribed (c : Collection S) (tag : ObserverTag) :
      Step codec c (.subscribed tag) (c.subscribe tag)
  | unsubscribed (c : Collection S) (tag : ObserverTag) :
      Step codec c (.unsubscribed tag) (c.unsubscribe tag)

/-- A sequence of steps, and its deeds as the history. -/
inductive Steps (codec : Codec S) (start : Collection S) : List Deed → Collection S → Prop
  | start : Steps codec start [] start
  | step {deeds : List Deed} {c c' : Collection S} {d : Deed} :
      Steps codec start deeds c → Step codec c d c' → Steps codec start (deeds ++ [d]) c'

lemma Steps.trans {codec : Codec S} {a b c : Collection S} {ds es : List Deed}
    (first : Steps codec a ds b) (then_ : Steps codec b es c) : Steps codec a (ds ++ es) c := by
  induction then_ with
  | start => simpa using first
  | step _ last ih =>
    rw [← List.append_assoc]
    exact .step ih last

/-! ## Parts of steps -/

@[simp] lemma shelf_setEntry (c : Collection S) (e : Entry) :
    (c.setEntry e).shelf = replaceEntry e c.shelf := rfl

lemma id_of_find? {c : Collection S} {id : EntryId} {e : Entry} (found : c.find? id = some e) :
    e.id = id := by
  simpa using List.find?_some found

/-- An entry of the collection is one of the shelf. -/
lemma find?_of_get? {c : Collection S} {id : EntryId} {e : Entry} (found : c.get? id = some e) :
    c.find? id = some e ∧ id ∈ c.ids := by
  unfold get? contains at found
  split at found
  · rename_i mem
    exact ⟨found, by simpa using mem⟩
  · cases found

lemma get?_eq {c : Collection S} {id : EntryId} (mem : id ∈ c.ids) : c.get? id = c.find? id := by
  simp [get?, contains, mem]

/-- What every destruction of an entry keeps is kept by destroying several. -/
lemma destroyAll_induction {P : Collection S → Prop}
    (keep : ∀ c id e, P c → c.find? id = some e → P (c.destroy e)) (ids : List EntryId) :
    ∀ c : Collection S, P c → P (c.destroyAll ids) := by
  induction ids with
  | nil => exact fun _ h => h
  | cons id rest ih =>
    intro c h
    simp only [destroyAll]
    cases found : c.find? id with
    | none => exact ih c h
    | some e => exact ih _ (keep c id e h found)

lemma scheduler_of_create {workers : Int} {pace : Pace} {s : Scheduler S}
    (started : Scheduler.create workers pace .empty = .ok s) :
    s = Scheduler.initial workers pace .empty := by
  unfold Scheduler.create at started
  split at started
  · cases started
  · exact (Except.ok.inj started).symm

/-- A collection that was just made is empty, and its scheduler has no jobs. -/
lemma create_eq_ok {settings : Settings} {workers : Option Int} {format : Value} {pace : Pace}
    {c : Collection S} (made : create settings workers format pace = .ok c) :
    ∃ n f, c = empty (Scheduler.initial n pace .empty) f := by
  unfold create at made
  simp only [bind, Except.bind] at made
  split at made
  · cases made
  · rename_i scheduler started
    obtain rfl := scheduler_of_create started
    split at made
    · rename_i f _
      exact ⟨_, f, (Except.ok.inj made).symm⟩
    · cases made

lemma ids_destroyAll (ids : List EntryId) (c : Collection S) : (c.destroyAll ids).ids = c.ids :=
  destroyAll_induction (P := fun c' => c'.ids = c.ids) (fun _ _ _ h _ => h) ids c rfl

end Collection

/-! ## Entries under steps -/

namespace Entry

variable {e e' : Entry} {r r' : Registry}

@[simp] lemma advance_id (e : Entry) : e.advance.id = e.id := rfl

@[simp] lemma advance_source (e : Entry) : e.advance.source = e.source := rfl

@[simp] lemma advance_token (e : Entry) : e.advance.token = e.token + 1 := rfl

@[simp] lemma destroy_id (e : Entry) (r : Registry) : (e.destroy r).1.id = e.id := by
  unfold destroy
  split <;> rfl

@[simp] lemma destroy_source (e : Entry) (r : Registry) : (e.destroy r).1.source = e.source := by
  unfold destroy
  split <;> rfl

@[simp] lemma destroy_token (e : Entry) (r : Registry) : (e.destroy r).1.token = e.token := by
  unfold destroy
  split <;> rfl

@[simp] lemma destroy_destroyed (e : Entry) (r : Registry) : (e.destroy r).1.destroyed = true := by
  unfold destroy
  split
  · assumption
  · rfl

/-- Recording a fault needs the newest token, and changes the fault alone. -/
lemma recordFault_eq_some {f : Fault} (h : e.recordFault f = some e') :
    f.token = e.token ∧ e.destroyed = false ∧ e' = { e with fault := some f } := by
  unfold recordFault isCurrent at h
  split at h
  · rename_i current
    simp only [Bool.and_eq_true, decide_eq_true_eq, Bool.not_eq_true'] at current
    exact ⟨current.1, current.2, (Option.some.inj h).symm⟩
  · cases h

/-- Where the bytes of a new output go: into a new handle, or into the one there is. -/
def storeOutput (e : Entry) (r : Registry) (data : ByteArray) :
    Except Failure (Handle × Registry) :=
  match e.output with
  | none => .ok (Handle.make e.listed r data)
  | some old => old.replace r data

/-- An output that was not released takes new bytes. -/
lemma storeOutput_ok (held : ∀ old, e.output = some old → ∃ data locator, old = .held data locator)
    (r : Registry) (data : ByteArray) : ∃ made, e.storeOutput r data = .ok made := by
  unfold storeOutput
  split
  · exact ⟨_, rfl⟩
  · rename_i old out
    obtain ⟨_, locator, rfl⟩ := held old out
    cases locator <;> exact ⟨_, rfl⟩

/-- A stored output holds the bytes. -/
lemma held_of_storeOutput {data : ByteArray} {handle : Handle}
    (stored : e.storeOutput r data = .ok (handle, r')) :
    ∃ locator, handle = .held data locator := by
  unfold storeOutput at stored
  split at stored
  · unfold Handle.make at stored
    split at stored <;> cases stored <;> exact ⟨_, rfl⟩
  · rename_i old out
    cases old with
    | released => cases stored
    | held _ locator => cases locator <;> cases stored <;> exact ⟨_, rfl⟩

/-- The entry with a new output. -/
def withOutput (e : Entry) (handle : Handle) (data : ByteArray) (p : Params) : Entry :=
  { e with
    output := some handle
    outputParams := some p
    outputSize := data.size
    savings := Reencode.savings e.sourceSize data.size
    fault := none }

/-- Taking over an output stores its bytes if its token is the newest one. -/
lemma applyOutput_eq (e : Entry) (r : Registry) (token : Int) (data : ByteArray) (p : Params) :
    e.applyOutput r token data (some p) =
      if e.isCurrent token then
        (e.storeOutput r data).map fun made => some (e.withOutput made.1 data p, made.2)
      else .ok none := by
  unfold applyOutput storeOutput
  cases current : e.isCurrent token with
  | false => rfl
  | true =>
    cases out : e.output with
    | none => rfl
    | some old =>
      simp only [Bool.not_true, Bool.false_eq_true, if_false, if_true]
      cases old.replace r data with
      | error failure => rfl
      | ok made => rfl

/-- Taking over an output needs the newest token; the new output holds the bytes. -/
lemma applyOutput_eq_some {token : Int} {data : ByteArray} {p : Params}
    (h : e.applyOutput r token data (some p) = .ok (some (e', r'))) :
    token = e.token ∧ e.destroyed = false ∧ ∃ handle,
      e.storeOutput r data = .ok (handle, r') ∧ e' = e.withOutput handle data p := by
  rw [applyOutput_eq] at h
  split at h
  · rename_i current
    simp only [isCurrent, Bool.and_eq_true, decide_eq_true_eq, Bool.not_eq_true'] at current
    cases stored : e.storeOutput r data with
    | error failure =>
      rw [stored] at h
      cases h
    | ok made =>
      rw [stored] at h
      obtain ⟨rfl, rfl⟩ := Prod.mk.inj (Option.some.inj (Except.ok.inj h))
      exact ⟨current.1, current.2, made.1, rfl, rfl⟩
  · cases h

end Entry

/-! ## The shelf under steps -/

namespace Shelved

variable {codec : Codec S}

lemma mem_of_find? {alive : List EntryId} {c : Collection S} (h : Shelved alive c.shelf)
    {id : EntryId} {e : Entry} (found : c.find? id = some e) : e ∈ c.shelf ∧ e.id = id :=
  h.find?_eq_some_iff.mp found

lemma mem_of_get? {alive : List EntryId} {c : Collection S} (h : Shelved alive c.shelf)
    {id : EntryId} {e : Entry} (found : c.get? id = some e) : e ∈ c.shelf ∧ e.id = id :=
  h.mem_of_find? (Collection.find?_of_get? found).1

lemma destroy {alive : List EntryId} {c : Collection S} (h : Shelved alive c.shelf)
    {id : EntryId} {e : Entry} (found : c.find? id = some e) :
    Shelved (alive.filter (· ≠ id)) (c.destroy e).shelf := by
  obtain ⟨mem, rfl⟩ := h.mem_of_find? found
  exact h.bury mem (e.destroy_id _) (e.destroy_destroyed _)

/-- What every destruction of an entry of the shelf keeps is kept by destroying several. -/
lemma destroyAll_induction {P : Collection S → Prop}
    (keep : ∀ {alive : List EntryId} {c : Collection S} {id : EntryId} {e : Entry},
      Shelved alive c.shelf → P c → c.find? id = some e → P (c.destroy e))
    {alive : List EntryId} {c : Collection S} (h : Shelved alive c.shelf) (ids : List EntryId)
    (start : P c) : P (c.destroyAll ids) := by
  have both := Collection.destroyAll_induction
    (P := fun c' : Collection S => (∃ alive, Shelved alive c'.shelf) ∧ P c') ?_ ids c
    ⟨⟨_, h⟩, start⟩
  · exact both.2
  · rintro c' id e ⟨⟨alive', h'⟩, kept⟩ found
    exact ⟨⟨_, h'.destroy found⟩, keep h' kept found⟩

lemma destroyAll (ids : List EntryId) : ∀ (alive : List EntryId) (c : Collection S),
    Shelved alive c.shelf → Shelved (alive.filter (· ∉ ids)) (c.destroyAll ids).shelf := by
  induction ids with
  | nil =>
    intro alive c h
    simpa [Collection.destroyAll] using h
  | cons id rest ih =>
    intro alive c h
    have split : alive.filter (· ∉ id :: rest) =
        (alive.filter (· ≠ id)).filter (· ∉ rest) := by
      simp [List.filter_filter, Bool.and_comm]
    rw [split]
    simp only [Collection.destroyAll]
    cases found : c.find? id with
    | none =>
      -- An unknown id was not alive either.
      have absent : id ∉ alive := by
        intro mem
        obtain ⟨e, he, rfl⟩ := h.exists_of_mem_alive mem
        rw [Collection.find?, h.find?_eq_some_iff.mpr ⟨he, rfl⟩] at found
        cases found
      have same : alive.filter (· ≠ id) = alive := by
        refine List.filter_eq_self.mpr fun other mem => ?_
        have : other ≠ id := fun heq => absent (heq ▸ mem)
        simpa using this
      rw [same]
      exact ih alive c h
    | some e => exact ih _ _ (h.destroy found)

lemma of_create {settings : Settings} {workers : Option Int} {format : Value} {pace : Pace}
    {c : Collection S} (made : Collection.create settings workers format pace = .ok c) :
    Shelved c.ids c.shelf := by
  obtain ⟨n, f, rfl⟩ := Collection.create_eq_ok made
  exact .nil

/-- The entries of a collection are those of its shelf that are still alive. -/
lemma mem_entries {c : Collection S} (h : Shelved c.ids c.shelf) {e : Entry} :
    e ∈ c.entries ↔ e ∈ c.shelf ∧ e.id ∈ c.ids := by
  rw [Collection.entries, List.mem_filterMap]
  constructor
  · rintro ⟨id, alive, found⟩
    obtain ⟨mem, rfl⟩ := h.find?_eq_some_iff.mp found
    exact ⟨mem, alive⟩
  · rintro ⟨mem, alive⟩
    exact ⟨e.id, alive, h.find?_eq_some_iff.mpr ⟨mem, rfl⟩⟩

/-- Looking an id up finds the entry of the collection that has it. -/
lemma get?_eq_some_iff {c : Collection S} (h : Shelved c.ids c.shelf) {id : EntryId} {e : Entry} :
    c.get? id = some e ↔ e ∈ c.entries ∧ e.id = id := by
  constructor
  · intro found
    obtain ⟨onShelf, rfl⟩ := h.mem_of_get? found
    exact ⟨h.mem_entries.mpr ⟨onShelf, (Collection.find?_of_get? found).2⟩, rfl⟩
  · rintro ⟨mem, rfl⟩
    obtain ⟨onShelf, alive⟩ := h.mem_entries.mp mem
    rw [Collection.get?_eq alive]
    exact h.find?_eq_some_iff.mpr ⟨onShelf, rfl⟩

/-- The entries of a collection come in the order of its ids. -/
lemma ids_entries {c : Collection S} (h : Shelved c.ids c.shelf) :
    c.entries.map Entry.id = c.ids := by
  have walk : ∀ ids : List EntryId, ids ⊆ c.shelf.map Entry.id →
      (ids.filterMap c.find?).map Entry.id = ids := by
    intro ids known
    induction ids with
    | nil => rfl
    | cons id rest ih =>
      obtain ⟨e, mem, rfl⟩ := List.mem_map.mp (known List.mem_cons_self)
      have found : c.find? e.id = some e := h.find?_eq_some_iff.mpr ⟨mem, rfl⟩
      rw [List.filterMap_cons, found]
      simp only [List.map_cons]
      rw [ih fun other hother => known (List.mem_cons_of_mem _ hother)]
  exact walk c.ids h.sublist.subset

/-- The entries of a collection are, up to their order, those of its shelf that are alive. -/
lemma entries_perm {c : Collection S} (h : Shelved c.ids c.shelf) :
    c.entries.Perm (c.shelf.filter fun e => !e.destroyed) := by
  have distinct : c.entries.Nodup := List.Nodup.of_map _ (h.ids_entries ▸ h.nodup_alive)
  have distinct' : (c.shelf.filter fun e => !e.destroyed).Nodup :=
    (List.Nodup.of_map _ h.nodup_ids).filter _
  refine (List.perm_ext_iff_of_nodup distinct distinct').mpr fun e => ?_
  rw [h.mem_entries, List.mem_filter]
  constructor
  · rintro ⟨mem, alive⟩
    exact ⟨mem, by simp [(h.mem_alive_iff mem).mp alive]⟩
  · rintro ⟨mem, life⟩
    exact ⟨mem, (h.mem_alive_iff mem).mpr (by simpa using life)⟩

/-- Every step keeps the shelf in order. -/
theorem step {c c' : Collection S} {d : Deed} (h : Shelved c.ids c.shelf)
    (st : Collection.Step codec c d c') : Shelved c'.ids c'.shelf := by
  -- An entry that is put back under its id, alive or destroyed as it was, leaves the shelf in
  -- order.
  have put : ∀ {id : EntryId} {e e' : Entry}, c.find? id = some e → e'.id = e.id →
      e'.destroyed = e.destroyed → Shelved c.ids (replaceEntry e' c.shelf) := by
    intro id e e' found same life
    exact h.replace (h.find?_eq_some_iff.mp found).1 same life
  cases st with
  | imported name data params => exact h.append rfl rfl
  | removed found => exact Shelved.destroy (c := c.drop _) h (Collection.find?_of_get? found).1
  | cleared =>
    have buried := Shelved.destroyAll c.ids c.ids { c with ids := [] } h
    have none_left : c.ids.filter (· ∉ c.ids) = [] := by simp
    rw [none_left] at buried
    simp only [Collection.choose, Collection.ids_destroyAll]
    exact buried
  | paramsSet params found => exact put found rfl rfl
  | dispatched found accepted => exact put found rfl rfl
  | refused found refusal => exact put found rfl rfl
  | faulted taken found payload recorded =>
    obtain ⟨-, -, rfl⟩ := Entry.recordFault_eq_some recorded
    exact put (Collection.find?_of_get? found).1 rfl rfl
  | updated taken found payload replaced =>
    obtain ⟨-, -, handle, -, rfl⟩ := Entry.applyOutput_eq_some replaced
    exact put (Collection.find?_of_get? found).1 rfl rfl
  | _ => exact h

theorem steps {c c' : Collection S} {ds : List Deed} (h : Shelved c.ids c.shelf)
    (st : Collection.Steps codec c ds c') : Shelved c'.ids c'.shelf := by
  induction st with
  | start => exact h
  | step _ last ih => exact ih.step last

end Shelved

end Reencode
