import Reencode.Proofs.Session.Course
import Reencode.Proofs.Session.Harvest

/-!
# Requests that are refused

An operation that changes what an entry is to be encoded with first writes down what is asked for,
tells of it, and only then dispatches a job.  When the scheduler refuses the job, the operation
fails and takes nothing back: what it has written down stays.  `Operation.Requests` says what that
is; it is about a single entry, be it the first of many that were to be changed.

Nothing else happens: while observers are told jobs may run, and a scheduler that refuses a job
takes its own counts back, so it still owes what it owed before (`Collection.Meanwhile`).  Therefore
the requests of all other entries are answered as if the refused one had never been made.
-/

namespace Reencode

variable {S O α β : Type}

namespace Collection

variable {codec : Codec S} {c : Collection S}

/-! ## What is asked for -/

/-- Selects an entry if that is wanted. -/
def chooseIf (c : Collection S) (wanted : Bool) (id : EntryId) : Collection S :=
  if wanted then c.choose (some id) else c

section ChooseIf

variable (wanted : Bool) (id : EntryId)

@[simp] lemma scheduler_chooseIf : (c.chooseIf wanted id).scheduler = c.scheduler := by
  cases wanted <;> rfl

@[simp] lemma find?_chooseIf (other : EntryId) :
    (c.chooseIf wanted id).find? other = c.find? other := by
  cases wanted <;> rfl

@[simp] lemma entries_chooseIf : (c.chooseIf wanted id).entries = c.entries := by
  cases wanted <;> rfl

@[simp] lemma registry_chooseIf : (c.chooseIf wanted id).registry = c.registry := by
  cases wanted <;> rfl

@[simp] lemma setEntry_chooseIf (e : Entry) :
    (c.chooseIf wanted id).setEntry e = (c.setEntry e).chooseIf wanted id := by
  cases wanted <;> rfl

end ChooseIf

/-- The collection in which it is written down that an entry is to be encoded with parameters. -/
def ask (c : Collection S) (e : Entry) (p : Params) : Collection S :=
  c.setEntry { e with params := p, token := e.token + 1 }

lemma find?_setParams {e : Entry} (known : c.find? e.id = some e) (p : Params) :
    (c.setEntry { e with params := p }).find? e.id = some { e with params := p } := by
  unfold find? at known ⊢
  rw [shelf_setEntry, replaceEntry, List.find?_map]
  have kept : ((fun other : Entry => decide (other.id = e.id)) ∘
      fun other => if other.id = e.id then { e with params := p } else other) =
        fun other => decide (other.id = e.id) := by
    funext other
    simp only [Function.comp]
    split <;> simp_all
  rw [kept, known]
  simp

/-- Parameters are written down first, and the token afterwards. -/
lemma setEntry_advance (c : Collection S) (e : Entry) (p : Params) :
    (c.setEntry { e with params := p }).setEntry (Entry.advance { e with params := p }) =
      c.ask e p := by
  simp only [ask, setEntry, Entry.advance, List.map_map]
  congr 1
  refine List.map_congr_left fun other _ => ?_
  simp only [Function.comp]
  split <;> simp_all

lemma mem_entries_ask (shelved : Shelved c.ids c.shelf) {a e : Entry} (mem : e ∈ c.shelf)
    (other : a.id ≠ e.id) (p : Params) : a ∈ (c.ask e p).entries ↔ a ∈ c.entries := by
  have shelved' : Shelved (c.ask e p).ids (c.ask e p).shelf := shelved.replace mem rfl rfl
  have same : ({ e with params := p, token := e.token + 1 } : Entry).id = e.id := rfl
  have place : a ∈ (c.ask e p).shelf ↔ a ∈ c.shelf := by
    refine (shelved.mem_replaceEntry mem same).trans ?_
    constructor
    · rintro (rfl | ⟨old, -⟩)
      · exact absurd rfl other
      · exact old
    · exact fun old => .inr ⟨old, other⟩
  rw [shelved'.mem_entries, shelved.mem_entries, place]
  rfl

/-- A new entry comes last, under the next id. -/
lemma insert_shelved (shelved : Shelved c.ids c.shelf) {name : String} {data : ByteArray}
    {p : Params} {e : Entry} {c' : Collection S} (inserted : c.insert name data p = (e, c')) :
    Shelved c'.ids c'.shelf ∧ c'.shelf = c.shelf ++ [e] ∧ c'.ids = c.ids ++ [e.id] ∧
      e.id = c.nextId := by
  cases inserted
  exact ⟨shelved.append rfl rfl, rfl, rfl, rfl⟩

end Collection

/-- What is left of an operation whose job was refused: of which entry it is, and the collection
that it leaves behind but for the scheduler. A new entry is there, and selected if nothing was;
changed parameters are those that were asked for; an entry that was reset has the default quality
and is selected; and a global format is set, of which the first entry is the first to hear. -/
inductive Operation.Requests (reader : IntegerReader) (settings : Settings) (c : Collection S) :
    Operation → EntryId → Collection S → Prop
  | add {name : String} {data : ByteArray} {e : Entry} {c' : Collection S}
      (free : c.findByName name = none)
      (inserted : c.insert name data (Session.importParams settings c) = (e, c')) :
      Requests reader settings c (.add name data) c.nextId
        ((c'.ask e e.params).chooseIf c.selected.isNone c.nextId)
  | setParams {id : EntryId} {source : Session.ParamsSource} {quality format : Value} {e : Entry}
      {p : Params} (found : c.get? id = some e)
      (changed : e.params.change reader (source.resolve quality format).1
        (source.resolve quality format).2 = .ok p) :
      Requests reader settings c (.setParams id source quality format) id (c.ask e p)
  | resetParams {id : EntryId} {e : Entry} (found : c.get? id = some e) :
      Requests reader settings c (.resetParams id) id
        ((c.ask e ⟨clampQuality settings.quality, e.params.format⟩).chooseIf
          (c.selected ≠ some id) id)
  | setGlobalFormat {value : Value} {format : Format} {id : EntryId} {rest : List EntryId}
      {e : Entry} (read : Format.read value = .ok format) (first : c.ids = id :: rest)
      (found : c.get? id = some e) :
      Requests reader settings c (.setGlobalFormat value) id
        ({ c with globalFormat := format }.ask e ⟨clampQuality e.params.quality, format⟩)

namespace Operation.Requests

variable {settings : Settings} {c c' : Collection S} {op : Operation} {id : EntryId}

/-- A request is about one entry, and leaves all others as they are. -/
lemma others (h : op.Requests reader settings c id c') (shelved : Shelved c.ids c.shelf) {a : Entry}
    (other : a.id ≠ id) : a ∈ c'.entries ↔ a ∈ c.entries := by
  -- Each request concerns one entry, the one that it is made for, so any other is as it was.
  cases h with
  | @add name data e c₁ free inserted =>
    obtain ⟨shelved', shelf, ids, named⟩ := Collection.insert_shelved shelved inserted
    have last : e ∈ c₁.shelf := by simp [shelf]
    have differs : a ≠ e := by
      rintro rfl
      exact other named
    rw [Collection.entries_chooseIf, Collection.mem_entries_ask shelved' last (named ▸ other),
      shelved'.mem_entries, shelved.mem_entries, shelf, ids, named]
    simp [other, differs]
  | setParams found changed =>
    obtain ⟨mem, rfl⟩ := shelved.mem_of_get? found
    exact Collection.mem_entries_ask shelved mem other _
  | resetParams found =>
    obtain ⟨mem, rfl⟩ := shelved.mem_of_get? found
    rw [Collection.entries_chooseIf]
    exact Collection.mem_entries_ask shelved mem other _
  | @setGlobalFormat value format id rest e read first found =>
    obtain ⟨mem, rfl⟩ := shelved.mem_of_get? found
    exact Collection.mem_entries_ask (c := { c with globalFormat := format }) shelved mem other _

lemma id_of_setParams {known : EntryId} {source : Session.ParamsSource} {quality format : Value}
    (h : Operation.Requests reader settings c (.setParams known source quality format) id c') :
    id = known := by
  cases h
  rfl

/-- No job is handed over yet. -/
lemma scheduler (h : op.Requests reader settings c id c') : c'.scheduler = c.scheduler := by
  cases h with
  | add free inserted =>
    rw [Collection.scheduler_chooseIf]
    cases inserted
    rfl
  | resetParams found => exact Collection.scheduler_chooseIf _ _
  | _ => rfl

/-- No locator comes or goes but that of a new source. -/
lemma registry (h : op.Requests reader settings c id c') : c'.registry = c.registry ∨
    ∃ name data, op = .add name data ∧ c'.registry = (c.registry.create data).2 := by
  cases h with
  | @add name data e c₁ free inserted =>
    refine .inr ⟨name, data, rfl, ?_⟩
    rw [Collection.registry_chooseIf]
    cases inserted
    rfl
  | resetParams found => exact .inl (Collection.registry_chooseIf _ _)
  | _ => exact .inl rfl

end Operation.Requests

variable {w : Surroundings S O}

namespace Session

/-! ## Acts that fail -/

/-- An act that fails and leaves a collection behind, but for what the executor did meanwhile. -/
def Refused (w : Surroundings S O) (s : Session S O) (a : Act S O α) (c : Collection S) : Prop :=
  ∃ failure s', s.run a = (.error failure, s') ∧ c.Meanwhile w.codec s'.collection

variable {s s' : Session S O} {c : Collection S} {a : Act S O α} {f : α → Act S O β} {e : Entry}

lemma Refused.bind (h : Refused w s a c) : Refused w s (a >>= f) c := by
  obtain ⟨failure, s', failed, left⟩ := h
  refine ⟨failure, s', ?_, left⟩
  rw [run_bind, failed]

lemma Refused.map {g : α → β} (h : Refused w s a c) : Refused w s (g <$> a) c := by
  obtain ⟨failure, s', failed, left⟩ := h
  refine ⟨failure, s', ?_, left⟩
  rw [run_map, failed]
  rfl

lemma Refused.of_run_eq {b : Act S O α} (same : s.run a = s'.run b) (h : Refused w s' b c) :
    Refused w s a c := by
  obtain ⟨failure, s'', failed, left⟩ := h
  exact ⟨failure, s'', same.trans failed, left⟩

/-- A scheduler that accepts no jobs refuses the one that is dispatched. -/
lemma dispatch_refused (known : c.find? e.id = some e) (shut : ¬c.scheduler.Accepting)
    (so_far : c.Meanwhile w.codec s.collection) :
    Refused w s (dispatch w e.id) (c.setEntry e.advance) := by
  have found : s.collection.find? e.id = some e := (so_far.find? e.id).trans known
  have refused : (s.collection.scheduler.submit w.codec e.request).1 ≠ .ok () := by
    obtain ⟨scheduler, same, upholds⟩ := so_far
    rw [Ne, Scheduler.submit_result, same]
    exact upholds.not_accepting shut
  cases result : (s.collection.scheduler.submit w.codec e.request).1 with
  | ok u => exact absurd result refused
  | error failure =>
    refine ⟨failure, _, (run_dispatch found).trans (by rw [result]), ?_⟩
    exact (so_far.setEntry _).trans ⟨_, rfl, .of_alike (Scheduler.submit_alike refused)⟩

section Acts

variable (quiet : w.Quiet)

include quiet

lemma setEntryParams_refused (known : c.find? e.id = some e) (shut : ¬c.scheduler.Accepting)
    (so_far : c.Meanwhile w.codec s.collection) (p : Params) :
    Refused w s (setEntryParams w e.id p) (c.ask e p) := by
  have found : s.collection.find? e.id = some e := (so_far.find? e.id).trans known
  have written := Collection.find?_setParams known p
  have refused := dispatch_refused (e := { e with params := p }) written shut
    ((so_far.setEntry _).trans (told_meanwhile quiet (.about .paramsChanged e.id)
      (s.withCollection (s.collection.setEntry { e with params := p }))))
  rw [Collection.setEntry_advance] at refused
  exact .of_run_eq (run_setEntryParams found p) refused

lemma setSelection_meanwhile (id : Option EntryId) (so_far : c.Meanwhile w.codec s.collection) :
    ∃ s', s.run (setSelection w id) = (.ok (), s') ∧
      (c.choose id).Meanwhile w.codec s'.collection := by
  exact ⟨_, run_setSelection s id, (so_far.choose id).trans (told_meanwhile quiet _ _)⟩

lemma select_meanwhile {id : EntryId} (present : id ∈ c.ids)
    (so_far : c.Meanwhile w.codec s.collection) :
    ∃ s', s.run (select w id) = (.ok true, s') ∧
      (c.chooseIf (c.selected ≠ some id) id).Meanwhile w.codec s'.collection := by
  have same : s.collection.ids = c.ids ∧ s.collection.selected = c.selected := by
    obtain ⟨_, same, -⟩ := so_far
    rw [same]
    exact ⟨rfl, rfl⟩
  have known : s.collection.contains id = true := by simp [Collection.contains, same.1, present]
  rw [select, run_bind_ok (run_collection? s), known, same.2, if_neg (by simp)]
  by_cases already : c.selected = some id
  · rw [if_neg (not_not.mpr already), Collection.chooseIf, if_neg (by simp [already])]
    exact ⟨s, rfl, so_far⟩
  · rw [if_pos already, Collection.chooseIf, if_pos (by simp [already])]
    obtain ⟨s', chosen, after⟩ := setSelection_meanwhile quiet (some id) so_far
    exact ⟨s', run_bind_ok chosen _, after⟩

/-! ## Operations that ask for a job -/

lemma add_refused {name : String} {data : ByteArray} {c' : Collection S}
    (shelved : Shelved s.collection.ids s.collection.shelf)
    (shut : ¬s.collection.scheduler.Accepting) (free : s.collection.findByName name = none)
    (inserted : s.collection.insert name data (importParams s.settings s.collection) = (e, c')) :
    Refused w s (add w name data)
      ((c'.ask e e.params).chooseIf s.collection.selected.isNone s.collection.nextId) := by
  obtain ⟨shelved', shelf, -, named⟩ := Collection.insert_shelved shelved inserted
  have known : c'.find? e.id = some e :=
    shelved'.find?_eq_some_iff.mpr ⟨by simp [shelf], rfl⟩
  have selected : c'.selected = s.collection.selected := by cases inserted; rfl
  have shut' : ¬c'.scheduler.Accepting := by cases inserted; exact shut
  have c'_eq : (s.collection.insert name data (importParams s.settings s.collection)).2 = c' := by
    rw [inserted]
  obtain ⟨records, same⟩ := run_add (w := w) free data
  rw [c'_eq, ← named] at same
  let told := ((s.withCollection c').logged records).told w (.about .added e.id)
  -- While observers are told, jobs may run, but the entry and the refusing scheduler stay.
  have so_far : c'.Meanwhile w.codec told.collection := told_meanwhile quiet _ _
  have still : told.collection.selected = s.collection.selected := by
    obtain ⟨_, same, -⟩ := so_far
    rw [same, selected]
  refine .of_run_eq (same.trans (run_bind_ok (run_collection? told) _)) ?_
  rw [still, ← named]
  cases wanted : s.collection.selected.isNone with
  | true =>
    simp only [if_true]
    obtain ⟨s', chosen, after⟩ := setSelection_meanwhile quiet (some e.id) so_far
    have asked := dispatch_refused (e := e) (c := c'.choose (some e.id)) known shut' after
    exact .of_run_eq (run_bind_ok chosen _) asked.bind
  | false =>
    simp only [Bool.false_eq_true, if_false]
    exact (dispatch_refused known shut' so_far).bind

lemma setParams_refused {id : EntryId} {source : ParamsSource} {quality format : Value}
    {p : Params} (shut : ¬s.collection.scheduler.Accepting)
    (found : s.collection.get? id = some e)
    (changed : e.params.change w.reader (source.resolve quality format).1
      (source.resolve quality format).2 = .ok p) :
    Refused w s (setParams w id source quality format) (s.collection.ask e p) := by
  obtain ⟨known, -⟩ := Collection.find?_of_get? found
  obtain rfl := Collection.id_of_find? known
  have same : s.run (setParams w e.id source quality format) =
      s.run (do setEntryParams w e.id p; return true) := by
    rw [setParams, run_bind_ok (run_collection? s), found]
    simp only [changed]
  exact .of_run_eq same (setEntryParams_refused quiet known shut .refl p).bind

lemma giveFormat_refused {format : Format} {rest : List EntryId}
    (known : c.find? e.id = some e) (shut : ¬c.scheduler.Accepting)
    (so_far : c.Meanwhile w.codec s.collection) :
    Refused w s (giveFormat w format (e.id :: rest))
      (c.ask e ⟨clampQuality e.params.quality, format⟩) := by
  have found : s.collection.find? e.id = some e := (so_far.find? e.id).trans known
  have same : s.run (giveFormat w format (e.id :: rest)) = s.run (do
      setEntryParams w e.id ⟨clampQuality e.params.quality, format⟩
      giveFormat w format rest) := by
    rw [giveFormat, run_bind_ok (run_collection? s), found]
  exact .of_run_eq same (setEntryParams_refused quiet known shut so_far _).bind

omit quiet in
lemma run_setGlobalFormat {value : Value} {format : Format}
    (read : Format.read value = .ok format) : s.run (setGlobalFormat w value) =
      ((s.withCollection { s.collection with globalFormat := format }).logged
        [⟨.debug, "全局格式设置为 " ++ format.name⟩]).run (giveFormat w format s.collection.ids) := by
  simp [setGlobalFormat, run_bind, read]

/-- The first entry is the last one to get the format. -/
lemma setGlobalFormat_refused {value : Value} {format : Format} {id : EntryId}
    {rest : List EntryId} (shut : ¬s.collection.scheduler.Accepting)
    (read : Format.read value = .ok format) (first : s.collection.ids = id :: rest)
    (found : s.collection.get? id = some e) :
    Refused w s (setGlobalFormat w value)
      ({ s.collection with globalFormat := format }.ask e
        ⟨clampQuality e.params.quality, format⟩) := by
  obtain ⟨known, -⟩ := Collection.find?_of_get? found
  obtain rfl := Collection.id_of_find? known
  have same := run_setGlobalFormat (w := w) (s := s) read
  rw [first] at same
  exact .of_run_eq same (giveFormat_refused quiet known shut .refl)

lemma resetParams_refused {id : EntryId} (shut : ¬s.collection.scheduler.Accepting)
    (found : s.collection.get? id = some e) :
    Refused w s (resetParams w id)
      ((s.collection.ask e ⟨clampQuality s.settings.quality, e.params.format⟩).chooseIf
        (s.collection.selected ≠ some id) id) := by
  obtain ⟨known, present⟩ := Collection.find?_of_get? found
  obtain rfl := Collection.id_of_find? known
  let p : Params := ⟨clampQuality s.settings.quality, e.params.format⟩
  let written := s.collection.setEntry { e with params := p }
  have same := run_resetParams (w := w) found
  obtain ⟨s', selected, so_far⟩ := select_meanwhile quiet (s := s.withCollection written)
    (c := written) present .refl
  have known' : written.find? e.id = some { e with params := p } :=
    Collection.find?_setParams known p
  have asked := dispatch_refused (e := { e with params := p })
    ((Collection.find?_chooseIf _ _ _).trans known') (by rwa [Collection.scheduler_chooseIf])
    (so_far.trans (told_meanwhile quiet (.about .paramsChanged e.id) s'))
  rw [Collection.setEntry_chooseIf, Collection.setEntry_advance] at asked
  exact .of_run_eq (same.trans (run_bind_ok selected _))
    (.of_run_eq (run_bind_ok (run_emit w _ s') _) asked.bind)

end Acts

end Session

/-! ## Operations -/

/-- Whether a failure says that a job could not be submitted. -/
def Failure.IsRefusal (f : Failure) : Prop :=
  f = Scheduler.closedFailure ∨ f = Scheduler.refusedFailure

/-- Whether an operation asks for a job for each entry that it changes. -/
def Operation.asks : Operation → Bool
  | add .. | setParams .. | setGlobalFormat _ | resetParams _ => true
  | _ => false

namespace Session

/-- What a session leads to when an operation fails and leaves its request behind. -/
def LeavesRequest (w : Surroundings S O) (op : Operation) (s s' : Session S O) : Prop :=
  ∃ id c, op.Requests w.reader s.settings s.collection id c ∧ c.Meanwhile w.codec s'.collection

variable {s s' : Session S O} {f : Failure}

lemma Refused.leaves {op : Operation} {id : EntryId} {c : Collection S}
    (refused : Refused w s (op.perform w) c)
    (requests : op.Requests w.reader s.settings s.collection id c)
    (failed : s.run (op.perform w) = (.error f, s')) : LeavesRequest w op s s' := by
  obtain ⟨_, s'', failed', meanwhile⟩ := refused
  obtain ⟨-, rfl⟩ := Prod.mk.inj (failed.symm.trans failed')
  exact ⟨id, c, requests, meanwhile⟩

lemma parameterFailure_not_isRefusal (parameter : String) (asked : Value) (reason : String)
    (id : Option EntryId) : ¬(parameterFailure parameter asked reason id).IsRefusal := by
  unfold parameterFailure Value.shown
  split_ifs
  · rintro (closed | refused)
    · cases closed
    · cases refused
  · rintro (closed | refused)
    · exact absurd (Failure.outside.inj closed).1 (by decide)
    · exact absurd (Failure.outside.inj refused).1 (by decide)

lemma paramsFailure_not_isRefusal (id : EntryId) (quality format : Value) (problem : ParamsError) :
    ¬(paramsFailure id quality format problem).IsRefusal := by
  cases problem with
  | fields errors => exact parameterFailure_not_isRefusal _ _ _ _
  | infiniteQuality | unknownField =>
    rintro (closed | refused)
    · cases closed
    · cases refused

lemma add_leaves (quiet : w.Quiet) (shelved : Shelved s.collection.ids s.collection.shelf)
    (shut : ¬s.collection.scheduler.Accepting) {name : String} {data : ByteArray}
    (failed : s.run ((Operation.add name data).perform w) = (.error f, s')) :
    LeavesRequest w (.add name data) s s' := by
  cases taken : s.collection.findByName name with
  | some e => simp [Operation.perform, add, run_bind, run_map, taken, Except.map] at failed
  | none =>
    rcases inserted : s.collection.insert name data (importParams s.settings s.collection)
      with ⟨e, c⟩
    exact (add_refused quiet shelved shut taken inserted).map.leaves (.add taken inserted) failed

lemma setParams_leaves (quiet : w.Quiet) (shut : ¬s.collection.scheduler.Accepting) {id : EntryId}
    {source : ParamsSource} {quality format : Value}
    (failed : s.run ((Operation.setParams id source quality format).perform w) = (.error f, s'))
    (refusal : f.IsRefusal) : LeavesRequest w (.setParams id source quality format) s s' := by
  cases found : s.collection.get? id with
  | none => simp [Operation.perform, setParams, run_bind, run_map, found, Except.map] at failed
  | some e =>
    cases changed : e.params.change w.reader (source.resolve quality format).1
        (source.resolve quality format).2 with
    | error problem =>
      obtain ⟨invalid, -⟩ : paramsFailure id (source.resolve quality format).1
          (source.resolve quality format).2 problem = f ∧ s = s' := by
        simpa [Operation.perform, setParams, run_bind, found, changed] using failed
      exact absurd (invalid ▸ refusal) (paramsFailure_not_isRefusal _ _ _ _)
    | ok p =>
      have refused := setParams_refused (w := w) quiet shut found changed
      exact refused.map.leaves (.setParams found changed) failed

lemma setGlobalFormat_leaves (quiet : w.Quiet)
    (shelved : Shelved s.collection.ids s.collection.shelf)
    (shut : ¬s.collection.scheduler.Accepting) {value : Value}
    (failed : s.run ((Operation.setGlobalFormat value).perform w) = (.error f, s'))
    (refusal : f.IsRefusal) : LeavesRequest w (.setGlobalFormat value) s s' := by
  cases read : Format.read value with
  | error e =>
    obtain ⟨invalid, -⟩ : parameterFailure "全局格式" value e.message none = f ∧ s = s' := by
      simpa [Operation.perform, setGlobalFormat, read] using failed
    exact absurd (invalid ▸ refusal) (parameterFailure_not_isRefusal _ _ _ _)
  | ok format =>
    -- With nothing to give the format to, nothing could be refused.
    cases first : s.collection.ids with
    | nil =>
      simp [Operation.perform, run_map, run_setGlobalFormat read, first, giveFormat, Except.map]
        at failed
    | cons id rest =>
      have present : id ∈ s.collection.ids := first ▸ List.mem_cons_self
      obtain ⟨e, mem, mine⟩ := shelved.exists_of_mem_alive present
      have found : s.collection.get? id = some e :=
        shelved.get?_eq_some_iff.mpr ⟨shelved.mem_entries.mpr ⟨mem, mine ▸ present⟩, mine⟩
      have refused : Refused w s ((Operation.setGlobalFormat value).perform w) _ :=
        (setGlobalFormat_refused quiet shut read first found).bind
      exact refused.leaves (.setGlobalFormat read first found) failed

lemma resetParams_leaves (quiet : w.Quiet) (shut : ¬s.collection.scheduler.Accepting)
    {id : EntryId} (failed : s.run ((Operation.resetParams id).perform w) = (.error f, s')) :
    LeavesRequest w (.resetParams id) s s' := by
  cases found : s.collection.get? id with
  | none => simp [Operation.perform, resetParams, run_bind, found] at failed
  | some e => exact (resetParams_refused quiet shut found).map.leaves (.resetParams found) failed

end Session

open Session in
/-- An operation that fails because its job could not be submitted leaves its request behind. -/
theorem Operation.leaves (quiet : w.Quiet) {s s' : Session S O}
    (shelved : Shelved s.collection.ids s.collection.shelf)
    (shut : ¬s.collection.scheduler.Accepting) {op : Operation} (asks : op.asks = true)
    {f : Failure} (failed : s.run (op.perform w) = (.error f, s')) (refusal : f.IsRefusal) :
    LeavesRequest w op s s' := by
  cases op with
  | add name data => exact add_leaves quiet shelved shut failed
  | setParams id source quality format => exact setParams_leaves quiet shut failed refusal
  | setGlobalFormat value => exact setGlobalFormat_leaves quiet shelved shut failed refusal
  | resetParams id => exact resetParams_leaves quiet shut failed
  | _ => cases asks

/-- **A refused request concerns one entry.**  An operation that fails because its job could not be
submitted leaves its request behind at a single entry, and apart from that the collection is what it
was: so are all other entries, and the live locators but for that of a new source.  The scheduler
owes what it owed, and the outcome of every other entry's newest request is taken over when it is
drained. -/
theorem refused_requests_are_local (quiet : w.Quiet) {settings : Settings} {workers : Option Int}
    {format : Value} {pace : Pace} {start : Collection S}
    (made : Collection.create settings workers format pace = .ok start)
    {s s' : Session S O} {deeds : List Deed}
    (reached : Collection.Steps w.codec start deeds s.collection)
    (shut : ¬s.collection.scheduler.Accepting) {op : Operation} (asks : op.asks = true)
    {f : Failure} (failed : s.run (op.perform w) = (.error f, s')) (refusal : f.IsRefusal) :
    ∃ id c, op.Requests w.reader s.settings s.collection id c ∧
      s'.collection = { c with scheduler := s'.collection.scheduler } ∧
      (∀ e, e.id ≠ id → (e ∈ s'.collection.entries ↔ e ∈ s.collection.entries)) ∧
      (s'.collection.registry = s.collection.registry ∨ ∃ name data, op = .add name data ∧
        s'.collection.registry = (s.collection.registry.create data).2) ∧
      s'.collection.scheduler.tickets.Perm s.collection.scheduler.tickets ∧
      ∀ e ∈ s.collection.entries, e.id ≠ id →
        ∀ t ∈ s.collection.scheduler.tickets, e.id = t.entry → e.token = t.token →
          ∀ ops : List Operation, (∀ op ∈ ops, op.harvests = true) →
            t ∈ (s'.after w ops).collection.scheduler.tickets ∨
              ∃ a ∈ (s'.after w ops).collection.entries, a.id = e.id ∧ a.Reflects w.codec t := by
  have shelved := (Shelved.of_create made).steps reached
  have traced := (Traced.of_create made).steps (Shelved.of_create made) reached
  -- What the operation left is the request without its job, and that upholds the tickets of all
  -- others.
  obtain ⟨id, c, requests, scheduler, same, upholds⟩ :=
    op.leaves quiet shelved shut asks failed refusal
  have others : ∀ e, e.id ≠ id → (e ∈ s'.collection.entries ↔ e ∈ s.collection.entries) := by
    intro e other
    rw [same]
    exact requests.others shelved other
  have unheeded : c.scheduler = s.collection.scheduler := requests.scheduler
  have owed : s'.collection.scheduler.tickets.Perm s.collection.scheduler.tickets := by
    rw [same, ← unheeded]
    exact (upholds.owed _ _ (unheeded ▸ traced.honest)).2
  refine ⟨id, c, requests, ?_, others, ?_, owed, ?_⟩
  · rw [same]
  · rw [same]
    exact requests.registry
  -- Nothing of the other entry has changed, so that its ticket is answered as it would have been.
  · intro e mem other t ticket mine newest ops harvest
    obtain ⟨more, onward⟩ := Session.after_steps quiet.lawful s [op]
    have last : s.after w [op] = s' := congrArg Prod.snd failed
    rw [last] at onward
    exact Session.answered_after quiet (traced.steps shelved onward) (shelved.steps onward)
      (owed.mem_iff.mpr ticket) ((others e other).mpr mem) mine newest harvest

/-- Two images wait for their first jobs when the executor is shut down.  New parameters for the
first one make its job stale, though the new job is refused; the second one gets its output. -/
theorem refused_requests_are_local_of_two :
    let start : Collection ByteArray := .empty (.initial 4 .onDemand .empty) .jpeg
    let w := Surroundings.unobserved Codec.verbatim 0
    let s := (Session.fresh start ()).after w
      [.add "a.png" ⟨#[1, 2]⟩, .add "b.png" ⟨#[3]⟩, .shutExecutor]
    let act := (Operation.setParams (.nth 1) .none (.int 40) .null).perform w
    let more : List Operation := [.runJobs [2, 1], .drain]
    (s.run act).1 = .error Scheduler.refusedFailure ∧
      ((s.run act).2.after w more).collection.entries.map
        (fun e => (e.token, e.params.quality, e.hasOutput)) = [(2, 40, false), (1, 75, true)] ∧
      ∃ e ∈ ((s.run act).2.after w more).collection.entries, e.id = .nth 2 ∧
        e.Reflects .verbatim ⟨.nth 2, 1, ⟨75, .jpeg⟩⟩ := by
  intro start w s act more
  have made : Collection.create Settings.default none .null .onDemand = .ok start := rfl
  have quiet : w.Quiet := Surroundings.unobserved_quiet _ 0
  obtain ⟨deeds, reached⟩ := Session.after_steps quiet.lawful (Session.fresh start ())
    [.add "a.png" ⟨#[1, 2]⟩, .add "b.png" ⟨#[3]⟩, .shutExecutor]
  have shut : ¬s.collection.scheduler.Accepting := fun h => absurd h.2 (by decide +kernel)
  have refusal : (s.run act).1 = .error Scheduler.refusedFailure := by decide +kernel
  have failed : s.run act = (.error Scheduler.refusedFailure, (s.run act).2) :=
    Session.run_eq_error refusal
  obtain ⟨id, c, requests, -, -, -, -, others⟩ :=
    refused_requests_are_local quiet made reached shut rfl failed (.inr rfl)
  obtain rfl : id = .nth 1 := requests.id_of_setParams
  refine ⟨refusal, by decide +kernel, ?_⟩
  obtain ⟨e, mem, mine, newest⟩ : ∃ e ∈ s.collection.entries, e.id = .nth 2 ∧ e.token = 1 := by
    decide +kernel
  obtain ⟨⟨_, _, _⟩, owed, rfl, rfl, rfl⟩ : ∃ t ∈ s.collection.scheduler.tickets,
      t.entry = .nth 2 ∧ t.token = 1 ∧ t.params = ⟨75, .jpeg⟩ := by decide +kernel
  have apart : e.id ≠ .nth 1 := fun same => absurd (mine.symm.trans same) (by decide)
  -- With no ticket left open, the entry of the other request has to show its result.
  have done : ∀ t ∈ ((s.run act).2.after w more).collection.scheduler.tickets, False := by
    decide +kernel
  rcases others e mem apart _ owed mine newest more (by decide) with
    waiting | ⟨a, ha, same, shown⟩
  · exact (done _ waiting).elim
  · exact ⟨a, ha, same.trans mine, shown⟩

/-- None of the requests is taken back when it is refused: a new entry stays, with its locator, and
so do parameters, a selection and a format; and the first entry has no use any more for the outcome
that it was owed. -/
theorem refused_requests_are_kept :
    let start : Collection ByteArray := .empty (.initial 4 .onDemand .empty) .jpeg
    let w := Surroundings.unobserved Codec.verbatim 0
    let s := (Session.fresh start ()).after w
      [.add "a.png" ⟨#[1, 2]⟩, .add "b.png" ⟨#[3]⟩, .shutExecutor]
    let left (op : Operation) := (s.run (op.perform w)).2
    let newParams := left (.setParams (.nth 1) .none (.int 40) .null)
    (∀ op ∈ [Operation.add "c.png" ⟨#[4]⟩, .setParams (.nth 1) .none (.int 40) .null,
        .resetParams (.nth 2), .setGlobalFormat (.text "webp")],
      (s.run (op.perform w)).1 = .error Scheduler.refusedFailure) ∧
    (left (.add "c.png" ⟨#[4]⟩)).collection.ids ≠ s.collection.ids ∧
    (left (.add "c.png" ⟨#[4]⟩)).collection.registry.liveCount ≠ s.collection.registry.liveCount ∧
    (left (.resetParams (.nth 2))).collection.selected ≠ s.collection.selected ∧
    (left (.setGlobalFormat (.text "webp"))).collection.globalFormat ≠ s.collection.globalFormat ∧
    newParams.collection.entries.map (fun e => (e.params.quality, e.token)) ≠
      s.collection.entries.map (fun e => (e.params.quality, e.token)) ∧
    (s.after w [.runJobs [1, 2], .drain]).collection.entries.map (·.hasOutput) = [true, true] ∧
    (newParams.after w [.runJobs [1, 2], .drain]).collection.entries.map (·.hasOutput) =
      [false, true] := by
  intro start w s left newParams
  refine ⟨by decide +kernel, by decide +kernel, by decide +kernel, by decide +kernel,
    by decide +kernel, by decide +kernel, by decide +kernel, by decide +kernel⟩

end Reencode
