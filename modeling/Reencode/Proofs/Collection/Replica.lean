import Reencode.Proofs.Collection.Step

/-!
# Replicas

Whoever hears the events of a collection can keep a replica of it: the ids in order, the selected
one, which entries have an output and what fault each has.  `Replica.hear` says how an event changes
the replica.  It reads nothing but the event and the replica, so the events tell everything exactly
if hearing those of a step leads from the replica before the step to the replica after it
(`Collection.Step.replica_eq`).

Most steps put a changed entry back.  Looking entries up commutes with that
(`Collection.entries_setEntry`), so the change can be seen on the list of entries.
-/

namespace Reencode

variable {S : Type}

/-- What can be told of an entry by hearing the events. -/
structure Replica.Record where
  id : EntryId
  hasOutput : Bool
  fault : Option Fault
deriving DecidableEq

/-- What can be told of a collection by hearing its events. -/
structure Replica where
  records : List Replica.Record
  selected : Option EntryId
deriving DecidableEq

namespace Replica

/-- Nothing was heard yet. -/
def empty : Replica := ⟨[], none⟩

/-- The replica with the record of an entry changed. -/
def update (r : Replica) (id : Option EntryId) (change : Record → Record) : Replica :=
  { r with records := r.records.map fun record =>
      if some record.id = id then change record else record }

/-- The replica after an event was heard. -/
def hear (r : Replica) (event : Event) : Replica :=
  match event.kind with
  | .added => { r with records := r.records ++ event.entry.toList.map fun id => ⟨id, false, none⟩ }
  | .removed => { r with records := r.records.filter fun record => some record.id ≠ event.entry }
  | .cleared => empty
  | .selected => { r with selected := event.entry }
  | .paramsChanged => r
  | .outputUpdated =>
    r.update event.entry fun record => { record with hasOutput := true, fault := none }
  | .fault => r.update event.entry fun record => { record with fault := event.fault }

/-- The replica after events were heard from the beginning on. -/
def replay (events : List Event) : Replica := events.foldl hear empty

end Replica

/-- What there is to tell of an entry. -/
def Entry.record (e : Entry) : Replica.Record := ⟨e.id, e.hasOutput, e.fault⟩

namespace Collection

/-- What there is to tell of a collection. -/
def replica (c : Collection S) : Replica := ⟨c.entries.map Entry.record, c.selected⟩

/-! ## Entries of a changed collection -/

lemma find?_replaceEntry (e : Entry) (shelf : List Entry) (id : EntryId) :
    (replaceEntry e shelf).find? (·.id = id) =
      (shelf.find? (·.id = id)).map fun other => if other.id = e.id then e else other := by
  have sameId : ∀ other : Entry, (if other.id = e.id then e else other).id = other.id := by
    intro other
    split
    · rename_i same
      exact same.symm
    · rfl
  simp only [replaceEntry, List.find?_map, Function.comp_def, sameId]

/-- Putting an entry back changes it in the list of entries, and nothing else. -/
lemma entries_setEntry (c : Collection S) (e : Entry) :
    (c.setEntry e).entries = replaceEntry e c.entries := by
  have found : (c.setEntry e).find? = fun id =>
      (c.find? id).map fun other => if other.id = e.id then e else other :=
    funext fun id => find?_replaceEntry e c.shelf id
  simp only [entries, found, replaceEntry, List.map_filterMap]
  rfl

lemma entries_drop (c : Collection S) (id : EntryId) :
    (c.drop id).entries = c.entries.filter fun e => e.id ≠ id := by
  simp only [entries, drop, List.filterMap_filter, List.filter_filterMap]
  refine List.filterMap_congr fun other _ => ?_
  show (if decide (other ≠ id) = true then c.find? other else none) = _
  cases found : c.find? other with
  | none => simp
  | some e =>
    have same : e.id = other := id_of_find? found
    by_cases gone : other = id
    · simp [Option.filter, same, gone]
    · simp [Option.filter, same, gone]

/-- A removed entry is missing, and the others are what they were. -/
lemma entries_removed {c : Collection S} {id : EntryId} {e : Entry} (found : c.get? id = some e) :
    ((c.drop id).destroy e).entries = c.entries.filter fun other => other.id ≠ id := by
  have named : e.id = id := id_of_find? (find?_of_get? found).1
  have gone : ∀ other ∈ (c.drop id).entries, other.id ≠ (e.destroy c.registry).1.id := by
    intro other mem
    rw [entries_drop, List.mem_filter] at mem
    rw [e.destroy_id, named]
    simpa using mem.2
  have placed : ((c.drop id).destroy e).entries =
    ((c.drop id).setEntry (e.destroy c.registry).1).entries := rfl
  rw [placed, entries_setEntry, ← entries_drop]
  refine (List.map_congr_left fun other mem => ?_).trans (List.map_id _)
  exact if_neg (gone other mem)

lemma entries_cleared (c : Collection S) :
    (({ c with ids := [] }.destroyAll c.ids).choose none).entries = [] := by
  have none_left : (({ c with ids := [] }.destroyAll c.ids).choose none).ids = [] :=
    ids_destroyAll c.ids { c with ids := [] }
  rw [entries, none_left, List.filterMap_nil]

/-- A new entry comes last. -/
lemma entries_insert {c : Collection S} (shelved : Shelved c.ids c.shelf) (name : String)
    (data : ByteArray) (params : Params) :
    (c.insert name data params).2.entries = c.entries ++ [(c.insert name data params).1] := by
  -- The new id is not on the shelf yet, so that old ids find what they found and the new one finds
  -- the new entry.
  have fresh : c.shelf.find? (·.id = c.nextId) = none := by
    refine List.find?_eq_none.mpr fun e mem => ?_
    have : e.id ≠ c.nextId := by
      intro same
      have taken : c.nextId ∈ c.shelf.map Entry.id := same ▸ List.mem_map_of_mem mem
      exact shelved.next_not_mem taken
    simpa using this
  have old : ∀ id ∈ c.ids, (c.insert name data params).2.find? id = c.find? id := by
    intro id mem
    obtain ⟨e, he, rfl⟩ := shelved.exists_of_mem_alive mem
    have found := shelved.find?_eq_some_iff.mpr ⟨he, rfl⟩
    simp only [find?, insert, List.find?_append, found, Option.some_or]
  have new : (c.insert name data params).2.find? c.nextId =
      some (c.insert name data params).1 := by
    simp only [find?, insert, List.find?_append, fresh, Option.none_or]
    exact List.find?_cons_of_pos (by simp [Entry.create])
  have split : (c.insert name data params).2.ids = c.ids ++ [c.nextId] := rfl
  rw [entries, split, List.filterMap_append, List.filterMap_cons, new]
  exact congrArg (· ++ [(c.insert name data params).1]) (List.filterMap_congr old)

/-- Putting an entry back changes its record as it changed the entry's. -/
lemma records_setEntry {c : Collection S} (shelved : Shelved c.ids c.shelf) {e : Entry}
    (mem : e ∈ c.shelf) (e' : Entry) (change : Replica.Record → Replica.Record)
    (same : e'.id = e.id) (made : e'.record = change e.record) :
    (c.setEntry e').entries.map Entry.record =
      (c.entries.map Entry.record).map fun r => if some r.id = some e.id then change r else r := by
  rw [entries_setEntry, replaceEntry, List.map_map, List.map_map]
  refine List.map_congr_left fun other hother => ?_
  obtain ⟨onShelf, -⟩ := shelved.mem_entries.mp hother
  simp only [Function.comp, same]
  by_cases mine : other.id = e.id
  · obtain rfl := shelved.eq_of_id_eq onShelf mem mine
    rw [if_pos rfl, made]
    exact (if_pos rfl).symm
  · have apart : ¬some other.record.id = some e.id := fun equal => mine (Option.some.inj equal)
    rw [if_neg mine, if_neg apart]

/-- Putting an entry back that looks as before leaves alone what the entries look like. -/
lemma map_entries_setEntry {α : Type} {view : Entry → α} {c : Collection S}
    (shelved : Shelved c.ids c.shelf) {e e' : Entry} (mem : e ∈ c.shelf) (sameId : e'.id = e.id)
    (same : view e' = view e) : (c.setEntry e').entries.map view = c.entries.map view := by
  rw [entries_setEntry, replaceEntry, List.map_map]
  refine List.map_congr_left fun other hother => ?_
  simp only [Function.comp]
  split
  · rename_i mine
    obtain rfl := shelved.eq_of_id_eq (shelved.mem_entries.mp hother).1 mem (mine.trans sameId)
    exact same
  · rfl

/-- Putting an entry back that there is nothing new to tell of changes no record. -/
lemma records_setEntry_same {c : Collection S} (shelved : Shelved c.ids c.shelf) {e e' : Entry}
    (mem : e ∈ c.shelf) (same : e'.record = e.record) :
    (c.setEntry e').entries.map Entry.record = c.entries.map Entry.record :=
  map_entries_setEntry shelved mem (congrArg Replica.Record.id same) same

/-! ## Steps -/

/-- Hearing the event of a step, if there is one, leads to the replica after the step. -/
theorem Step.replica_eq {codec : Codec S} {c c' : Collection S} {d : Deed}
    (shelved : Shelved c.ids c.shelf) (st : Step codec c d c') :
    c'.replica = d.event?.elim c.replica c.replica.hear := by
  -- A step that is told changes the record it tells of; one that is not told changes no record.
  cases st with
  | imported name data params =>
    have last := entries_insert shelved name data params
    simp only [replica, last, List.map_append]
    rfl
  | @removed id e found =>
    have others : ((c.drop id).destroy e).entries.map Entry.record =
        (c.entries.map Entry.record).filter fun r => some r.id ≠ some id := by
      rw [entries_removed found, List.filter_map]
      refine congrArg _ (List.filter_congr fun other _ => ?_)
      show decide (other.id ≠ id) = decide (some other.id ≠ some id)
      exact decide_eq_decide.mpr (by simp)
    exact congrArg (Replica.mk · c.selected) others
  | cleared =>
    exact congrArg (Replica.mk · none) (congrArg (List.map Entry.record) (entries_cleared c))
  | chosen id => rfl
  | paramsSet params found =>
    obtain ⟨mem, -⟩ := shelved.mem_of_find? found
    exact congrArg (Replica.mk · c.selected) (records_setEntry_same shelved mem rfl)
  | announced id => rfl
  | dispatched found accepted =>
    obtain ⟨mem, -⟩ := shelved.mem_of_find? found
    exact congrArg (Replica.mk · c.selected) (records_setEntry_same shelved mem rfl)
  | refused found refusal =>
    obtain ⟨mem, -⟩ := shelved.mem_of_find? found
    exact congrArg (Replica.mk · c.selected) (records_setEntry_same shelved mem rfl)
  | @faulted o rest e e' f taken found payload recorded =>
    obtain ⟨mem, mine⟩ := shelved.mem_of_get? found
    obtain ⟨-, -, rfl⟩ := Entry.recordFault_eq_some recorded
    have told := records_setEntry shelved mem { e with fault := some f }
      (fun record => { record with fault := some f }) rfl rfl
    simp only [Deed.event?, payload, ← mine]
    exact congrArg (Replica.mk · c.selected) told
  | @updated o rest e e' data r taken found payload replaced =>
    obtain ⟨mem, mine⟩ := shelved.mem_of_get? found
    obtain ⟨-, -, handle, -, rfl⟩ := Entry.applyOutput_eq_some replaced
    have told := records_setEntry shelved mem (e.withOutput handle data o.params)
      (fun record => { record with hasOutput := true, fault := none }) rfl rfl
    simp only [Deed.event?, payload, ← mine]
    exact congrArg (Replica.mk · c.selected) told
  | _ => rfl

/-- Hearing the events of a history leads from the replica before it to the one after it. -/
theorem Steps.replica_eq {codec : Codec S} {c c' : Collection S} {ds : List Deed}
    (shelved : Shelved c.ids c.shelf) (steps : Steps codec c ds c') :
    c'.replica = (eventsOf ds).foldl Replica.hear c.replica := by
  induction steps with
  | start => rfl
  | @step ds c₁ c₂ d before last ih =>
    rw [last.replica_eq (shelved.steps before), eventsOf_append, List.foldl_append, ← ih,
      eventsOf_singleton]
    cases d.event? <;> rfl

end Collection

end Reencode
