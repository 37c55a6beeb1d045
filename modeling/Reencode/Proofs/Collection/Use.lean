import Mathlib.Logic.Relation
import Reencode.Proofs.Collection.Origin
import Reencode.Proofs.Collection.Roster

/-!
# Uses of a collection

A `Step` may import an image under a name that is taken.  Nobody who uses a collection does that:
it is looked up first whether the name is free.  On the other hand whoever uses a collection may
release the output of an entry, which is no step.  A *use* is either of the two, or a step that
imports nothing.  So what is kept by `Collection.Use` is kept by everything that can happen to a
collection.

Two things are.  Names stay distinct; and an output that can be read was made, with the parameters
that are noted with it, from the source of its own entry (`Sourced`).  For a collection in which
outputs are never released `Traced` says more; here an output may be gone, so what is said is only
of those that are not.
-/

namespace Reencode

variable {S : Type} {codec : Codec S}

/-! ## Outputs that can be read -/

namespace Entry

/-- The output of an entry can be read, and these are its bytes. -/
def Holds (e : Entry) (data : ByteArray) : Prop := ∃ locator, e.output = some (.held data locator)

/-- The bytes of the output, the parameters that they were made with, and that they were. -/
structure Produced (codec : Codec S) (e : Entry) (data : ByteArray) (p : Params) : Prop where
  held : e.Holds data
  params : e.outputParams = some p
  made : codec.recode e.source p = .ok (.data data)

/-- Whatever output of an entry can be read was made from its source. -/
def Backed (codec : Codec S) (e : Entry) : Prop :=
  ∀ data, e.Holds data → ∃ p, e.Produced codec data p

variable {e e' : Entry}

lemma Holds.unique {data data' : ByteArray} (h : e.Holds data) (h' : e.Holds data') :
    data = data' := by
  obtain ⟨locator, output⟩ := h
  obtain ⟨locator', output'⟩ := h'
  have same := Option.some.inj (output.symm.trans output')
  exact (Handle.held.inj same).1

lemma Produced.unique {data data' : ByteArray} {p p' : Params} (h : e.Produced codec data p)
    (h' : e.Produced codec data' p') : data = data' ∧ p = p' :=
  ⟨h.held.unique h'.held, Option.some.inj (h.params.symm.trans h'.params)⟩

lemma Backed.congr (h : e.Backed codec) (source : e'.source = e.source)
    (output : e'.output = e.output) (params : e'.outputParams = e.outputParams) :
    e'.Backed codec := by
  intro data held
  obtain ⟨p, -, noted, made⟩ := h data (held.imp fun _ => output.symm.trans)
  exact ⟨p, held, params.trans noted, source ▸ made⟩

lemma backed_of_not_holds (nothing : ∀ data, ¬e.Holds data) : e.Backed codec :=
  fun data held => absurd held (nothing data)

lemma not_holds_of_none (output : e.output = none) (data : ByteArray) : ¬e.Holds data := by
  rintro ⟨locator, held⟩
  rw [output] at held
  cases held

lemma not_holds_of_released (output : e.output = some .released) (data : ByteArray) :
    ¬e.Holds data := by
  rintro ⟨locator, held⟩
  rw [output] at held
  cases held

lemma releaseOutput_eq_ok {r r' : Registry} (gone : e.releaseOutput r = .ok (e', r')) :
    e' = { e with output := some .released } := by
  unfold releaseOutput at gone
  split at gone
  · exact (Prod.mk.inj (Except.ok.inj gone)).1.symm
  · cases gone

lemma Backed.destroy (h : e.Backed codec) (r : Registry) : (e.destroy r).1.Backed codec := by
  unfold Entry.destroy
  split
  · exact h
  · exact backed_of_not_holds (not_holds_of_none rfl)

end Entry

/-! ## Where outputs come from -/

/-- A shelf and a scheduler of which all outputs, those to come included, are made from the sources
of their entries. -/
structure Sourced (codec : Codec S) (shelf : List Entry) (s : Scheduler S) : Prop where
  jobs : ∃ jobs, s.Honest codec (sourcesOf shelf) jobs
  outputs : ∀ e ∈ shelf, e.Backed codec

namespace Sourced

variable {alive : List EntryId} {shelf : List Entry} {s s' : Scheduler S} {e e' : Entry}

lemma withScheduler (h : Sourced codec shelf s) (honest : ∀ jobs,
    s.Honest codec (sourcesOf shelf) jobs → s'.Honest codec (sourcesOf shelf) jobs) :
    Sourced codec shelf s' :=
  ⟨h.jobs.imp honest, h.outputs⟩

lemma append (h : Sourced codec shelf s) (none : e.output = none) :
    Sourced codec (shelf ++ [e]) s where
  jobs := h.jobs.imp fun _ honest => honest.mono fun _ _ => sourcesOf_append
  outputs := by
    refine List.forall_mem_append.mpr ⟨h.outputs, fun other new => ?_⟩
    obtain rfl := List.mem_singleton.mp new
    exact Entry.backed_of_not_holds (Entry.not_holds_of_none none)

lemma replace (h : Sourced codec shelf s) (shelved : Shelved alive shelf) (mem : e ∈ shelf)
    (same : e'.id = e.id) (source : e'.source = e.source) (backed : e'.Backed codec) :
    Sourced codec (replaceEntry e' shelf) s where
  jobs := h.jobs.imp fun _ honest =>
    honest.mono fun _ _ => sourcesOf_replace shelved mem same source
  outputs := by
    intro other placed
    rcases (shelved.mem_replaceEntry mem same).mp placed with rfl | ⟨old, -⟩
    · exact backed
    · exact h.outputs other old

lemma advance (h : Sourced codec shelf s) (shelved : Shelved alive shelf) (mem : e ∈ shelf) :
    Sourced codec (replaceEntry e.advance shelf) s :=
  h.replace shelved mem e.advance_id e.advance_source ((h.outputs e mem).congr rfl rfl rfl)

/-- An entry dispatches a job for its source, be it that the scheduler refuses it. -/
lemma dispatch (h : Sourced codec shelf s) (shelved : Shelved alive shelf) (mem : e ∈ shelf) :
    Sourced codec (replaceEntry e.advance shelf) (s.submit codec e.request).2.1 := by
  have advanced := h.advance shelved mem
  obtain ⟨jobs, honest⟩ := advanced.jobs
  refine ⟨?_, advanced.outputs⟩
  by_cases accepted : (s.submit codec e.request).1 = .ok ()
  · obtain ⟨isOpen, running⟩ := (Scheduler.submit_result s codec e.request).mp accepted
    have known : sourcesOf (replaceEntry e.advance shelf) e.id = some e.source :=
      sourcesOf_replace shelved mem e.advance_id e.advance_source (sourcesOf_eq shelved mem)
    exact ⟨_, (honest.submit (j := e.request) known rfl isOpen running).1⟩
  · exact ⟨jobs, honest.alike (Scheduler.submit_alike accepted)⟩

lemma destroy {c : Collection S} (h : Sourced codec c.shelf c.scheduler)
    (shelved : Shelved alive c.shelf) {id : EntryId} (found : c.find? id = some e) :
    Sourced codec (c.destroy e).shelf (c.destroy e).scheduler := by
  obtain ⟨mem, -⟩ := shelved.mem_of_find? found
  have buried : Sourced codec (c.destroy e).shelf c.scheduler :=
    h.replace shelved mem (e.destroy_id _) (e.destroy_source _) ((h.outputs e mem).destroy _)
  exact buried.withScheduler fun _ honest => (honest.forget _).1

/-- Every step keeps outputs sourced. -/
theorem step {c c' : Collection S} {d : Deed} (h : Sourced codec c.shelf c.scheduler)
    (shelved : Shelved c.ids c.shelf) (st : Collection.Step codec c d c') :
    Sourced codec c'.shelf c'.scheduler := by
  have kept : ∀ {e e' : Entry}, e ∈ c.shelf → e'.source = e.source → e'.output = e.output →
      e'.outputParams = e.outputParams → e'.Backed codec :=
    fun mem source output params => (h.outputs _ mem).congr source output params
  have drained : ∀ {o : Outcome} {rest : Scheduler S}, c.scheduler.take = some (o, rest) →
      Sourced codec c.shelf rest :=
    fun taken => h.withScheduler fun _ honest => (honest.take taken).1
  cases st with
  | imported name data params => exact h.append rfl
  | removed found =>
    exact Sourced.destroy (c := c.drop _) h shelved (Collection.find?_of_get? found).1
  | cleared =>
    exact shelved.destroyAll_induction (c := { c with ids := [] })
      (P := fun c' => Sourced codec c'.shelf c'.scheduler)
      (fun shelved' h' found => h'.destroy shelved' found) c.ids h
  | paramsSet params found =>
    obtain ⟨mem, -⟩ := shelved.mem_of_find? found
    exact h.replace shelved mem rfl rfl (kept mem rfl rfl rfl)
  | dispatched found accepted | refused found refusal =>
    exact h.dispatch shelved (shelved.mem_of_find? found).1
  | faulted taken found payload recorded =>
    obtain ⟨mem, -⟩ := shelved.mem_of_get? found
    obtain ⟨-, -, rfl⟩ := Entry.recordFault_eq_some recorded
    exact (drained taken).replace shelved mem rfl rfl (kept mem rfl rfl rfl)
  | @updated o rest e e' data r taken found payload replaced =>
    obtain ⟨mem, mine⟩ := shelved.mem_of_get? found
    obtain ⟨-, -, handle, stored, rfl⟩ := Entry.applyOutput_eq_some replaced
    obtain ⟨locator, rfl⟩ := Entry.held_of_storeOutput stored
    obtain ⟨jobs, honest⟩ := h.jobs
    obtain ⟨-, -, j, hj, rfl⟩ := honest.take taken
    -- The job worked on the source of the entry that takes its result over.
    have source : j.source = e.source := by
      have known := (honest.known j hj).1
      have named : j.entry = e.id := Job.result_entry.symm.trans mine.symm
      rw [named, sourcesOf_eq shelved mem] at known
      exact (Option.some.inj known).symm
    have made : (e.withOutput (.held data locator) data (j.result codec).params).Backed codec := by
      intro data' held
      obtain rfl : data = data' := Entry.Holds.unique ⟨locator, rfl⟩ held
      refine ⟨j.params, held, congrArg some Job.result_params, ?_⟩
      exact source ▸ Job.recode_of_result_data payload
    exact (drained taken).replace shelved mem rfl rfl made
  | dropped taken ignored => exact drained taken
  | ran k => exact h.withScheduler fun _ honest => (honest.runPending k).1
  | cancelled k => exact h.withScheduler fun _ honest => (honest.cancel k).1
  | executorShut | closed =>
    -- Only the marks of the end change.
    exact h.withScheduler fun _ honest => honest.of_alike rfl rfl rfl rfl fun _ mem => mem
  | _ => exact h

end Sourced

/-! ## Uses -/

/-- Whether an entry was imported. -/
def Deed.isImport : Deed → Bool
  | imported _ => true
  | _ => false

namespace Collection

/-- What may happen to a collection. -/
inductive Use (codec : Codec S) : Collection S → Collection S → Prop
  | imported {c : Collection S} {name : String} (free : c.findByName name = none)
      (data : ByteArray) (params : Params) : Use codec c (c.insert name data params).2
  | step {c c' : Collection S} {d : Deed} (st : Step codec c d c') (known : d.isImport = false) :
      Use codec c c'
  | released {c : Collection S} {id : EntryId} {e e' : Entry} {r : Registry}
      (found : c.find? id = some e) (gone : e.releaseOutput c.registry = .ok (e', r)) :
      Use codec c { c.setEntry e' with registry := r }

/-- What may happen to a collection in the course of time. -/
abbrev Uses (codec : Codec S) : Collection S → Collection S → Prop :=
  Relation.ReflTransGen (Use codec)

/-- A collection as it can be found in use. -/
structure Sincere (codec : Codec S) (c : Collection S) : Prop where
  shelved : Shelved c.ids c.shelf
  names : c.roster.names.Nodup
  sourced : Sourced codec c.shelf c.scheduler

variable {c c' : Collection S} {d : Deed}

lemma Step.names_sublist (shelved : Shelved c.ids c.shelf) (st : Step codec c d c')
    (known : d.isImport = false) : c'.roster.names.Sublist c.roster.names := by
  by_cases enrolls : d.enrolls = true
  · cases st with
    | imported => cases known
    | removed found =>
      rw [roster_removed found]
      exact List.filter_sublist.map _
    | cleared =>
      rw [roster_cleared]
      exact List.nil_sublist _
    | chosen | executorShut | closed => exact List.Sublist.refl _
    | _ => cases enrolls
  · rw [st.roster_eq shelved (by simpa using enrolls)]

lemma Sincere.step (h : Sincere codec c) (st : Step codec c d c') (known : d.isImport = false) :
    Sincere codec c' where
  shelved := h.shelved.step st
  names := h.names.sublist (st.names_sublist h.shelved known)
  sourced := h.sourced.step h.shelved st

/-- Whoever finds the name free may import. -/
lemma Sincere.insert (h : Sincere codec c) {name : String} (free : c.findByName name = none)
    (data : ByteArray) (params : Params) : Sincere codec (c.insert name data params).2 where
  shelved := h.shelved.append rfl rfl
  names := by
    have split : (c.insert name data params).2.roster.names = c.roster.names ++ [name] := by
      rw [roster_insert h.shelved]
      exact List.map_append
    -- A free name is that of no entry.
    rw [split]
    refine h.names.append (List.nodup_singleton name) ?_
    intro other old new
    obtain rfl := List.mem_singleton.mp new
    rw [names_roster] at old
    obtain ⟨e, mem, same⟩ := List.mem_map.mp old
    have different := List.find?_eq_none.mp free e mem
    simp [same] at different
  sourced := h.sourced.step h.shelved (.imported c name data params)

lemma Sincere.release (h : Sincere codec c) {id : EntryId} {e e' : Entry} {r : Registry}
    (found : c.find? id = some e) (gone : e.releaseOutput c.registry = .ok (e', r)) :
    Sincere codec { c.setEntry e' with registry := r } := by
  obtain ⟨mem, -⟩ := h.shelved.mem_of_find? found
  obtain rfl := Entry.releaseOutput_eq_ok gone
  exact {
    shelved := h.shelved.replace mem rfl rfl
    names := by
      have same : (c.setEntry { e with output := some .released }).roster = c.roster :=
        roster_setEntry h.shelved mem rfl
      exact (congrArg (fun r => r.names.Nodup) same).mpr h.names
    sourced := h.sourced.replace h.shelved mem rfl rfl
      (Entry.backed_of_not_holds (Entry.not_holds_of_released rfl)) }

/-- Every use of a collection keeps it sincere. -/
theorem Use.sincere (use : Use codec c c') (h : Sincere codec c) : Sincere codec c' := by
  cases use with
  | imported free data params => exact h.insert free data params
  | step st known => exact h.step st known
  | released found gone => exact h.release found gone

theorem Uses.sincere (uses : Uses codec c c') (h : Sincere codec c) : Sincere codec c' := by
  induction uses with
  | refl => exact h
  | tail _ last ih => exact last.sincere ih

lemma Sincere.of_create {settings : Settings} {workers : Option Int} {format : Value} {pace : Pace}
    (made : create settings workers format pace = .ok c) : Sincere codec c := by
  obtain ⟨n, f, rfl⟩ := create_eq_ok made
  exact ⟨.nil, List.nodup_nil, ⟨⟨[], .initial n pace⟩, by simp [empty]⟩⟩

end Collection

end Reencode
