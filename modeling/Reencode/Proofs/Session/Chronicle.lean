import Reencode.Proofs.Collection.Presence
import Reencode.Proofs.Session.Course
import Reencode.Proofs.Session.Reaction

/-!
# Chronicles

While observers call back, operations run in the middle of each other, and what an operation found
when it began need not be so any more when it goes on.  Still every operation that goes on does so
in a way that can be accounted for.  It asks for jobs only for entries that were in the collection
when it began, or came later; and it makes the selection dangle only by selecting an entry that
came and left meanwhile (`Session.Chronicle`).

This is proved act by act, for acts that go on with a chronicle that began earlier: what an act may
dispatch or select depends on what there was then, and not on what there is by now
(`Session.Chronicled.snoc`).  Operations that remove entries are followed from after the removal on,
because for them the selection may dangle until they see to it at the end
(`Operation.perform_chronicled`); the removal is put in front when the operation is over
(`Operation.chronicle_of_opened`).

That observers react in the same way is a premise here (`Surroundings.Accountable`); for those that
call back it is proved later on, by induction on the depth of their calls.
-/

namespace Reencode

variable {S M O α β : Type}

namespace Session

/-- A history between two sessions, and what observers saw meanwhile, in which entries that leave
account for every dangling selection. What dangles at the end dangled when this began, or both came
and left meanwhile. Every sighting is of a moment of the history, and what dangled then dangled when
this began, or left before. -/
structure Accounted (codec : Codec S) (s : Session S (Recollection S M)) (ds : List Deed)
    (seen : List (Sighting S)) (s' : Session S (Recollection S M)) : Prop where
  steps : Collection.Steps codec s.collection ds s'.collection
  noted : s'.memory.1 = s.memory.1 ++ seen
  dangling : ∀ id, s'.collection.Dangles id → s.collection.Dangles id ∨
    ¬s.collection.Knows id ∧ id ∈ leaversOf s.collection.ids ds
  sightings : ∀ g ∈ seen, ∃ before, before <+: ds ∧
    Collection.Steps codec s.collection before g.collection ∧
      ∀ id, g.collection.Dangles id → s.collection.Dangles id ∨
        id ∈ leaversOf s.collection.ids before

/-- Such a history of deeds of an allowed kind, in which jobs are for entries that were there when
it began, or came later. -/
structure Chronicle (codec : Codec S) (may : Deed → Prop) (s : Session S (Recollection S M))
    (ds : List Deed) (seen : List (Sighting S)) (s' : Session S (Recollection S M)) : Prop
    extends Accounted codec s ds seen s' where
  kind : ∀ d ∈ ds, may d
  jobs : ∀ d ∈ ds, ∀ j, d = .dispatched j ∨ d = .refused j → s.collection.Admits j.entry

/-- One session leads to another, and the selection does not come to dangle but through entries
that leave meanwhile. -/
def Chronicled (codec : Codec S) (may : Deed → Prop) (s s' : Session S (Recollection S M)) : Prop :=
  Shelved s.collection.ids s.collection.shelf → ∃ ds seen, Chronicle codec may s ds seen s'

variable {codec : Codec S} {may : Deed → Prop} {s s₀ s' s'' : Session S (Recollection S M)}
  {ds es : List Deed} {seen seen' : List (Sighting S)} {c : Collection S} {d : Deed} {id : EntryId}

lemma Chronicle.trans (first : Chronicle codec may s ds seen s')
    (shelved : Shelved s.collection.ids s.collection.shelf)
    (then_ : Chronicle codec may s' es seen' s'') :
    Chronicle codec may s (ds ++ es) (seen ++ seen') s'' where
  steps := first.steps.trans then_.steps
  kind := List.forall_mem_append.mpr ⟨first.kind, then_.kind⟩
  noted := by rw [then_.noted, first.noted, List.append_assoc]
  jobs := List.forall_mem_append.mpr ⟨first.jobs, fun d mem j asked =>
    first.steps.admits shelved (then_.jobs d mem j asked)⟩
  dangling := by
    intro id dangles
    -- Whoever dangles after the second part dangled before it, and the first part accounts for
    -- that, or came and left in it.
    rw [leaversOf_append, ← first.steps.ids_eq, List.mem_append]
    rcases then_.dangling id dangles with before | ⟨new, left⟩
    · exact (first.dangling id before).imp_right fun h => ⟨h.1, .inl h.2⟩
    · exact .inr ⟨fun known => new (first.steps.knows known), .inr left⟩
  sightings := by
    refine List.forall_mem_append.mpr ⟨fun g early => ?_, fun g late => ?_⟩
    · obtain ⟨before, initial, steps, excused⟩ := first.sightings g early
      exact ⟨before, initial.trans (List.prefix_append ds es), steps, excused⟩
    · obtain ⟨before, initial, steps, excused⟩ := then_.sightings g late
      refine ⟨ds ++ before, (List.prefix_append_right_inj ds).mpr initial,
        first.steps.trans steps, fun id dangles => ?_⟩
      rw [leaversOf_append, ← first.steps.ids_eq, List.mem_append]
      rcases excused id dangles with old | left
      · exact (first.dangling id old).imp_right fun h => .inl h.2
      · exact .inr (.inr left)

lemma Chronicle.mono {may' : Deed → Prop} (h : Chronicle codec may s ds seen s')
    (more : ∀ d, may d → may' d) : Chronicle codec may' s ds seen s' :=
  ⟨h.toAccounted, fun d mem => more d (h.kind d mem), h.jobs⟩

namespace Chronicled

lemma refl : Chronicled codec may s s := fun _ =>
  ⟨[], [], ⟨.start, by simp, fun _ dangles => .inl dangles, by simp⟩, by simp, by simp⟩

lemma trans (first : Chronicled codec may s s') (then_ : Chronicled codec may s' s'') :
    Chronicled codec may s s'' := by
  intro shelved
  obtain ⟨ds, seen, early⟩ := first shelved
  obtain ⟨es, seen', late⟩ := then_ (shelved.steps early.steps)
  exact ⟨_, _, early.trans shelved late⟩

lemma of_shelved (h : Shelved s.collection.ids s.collection.shelf → Chronicled codec may s s') :
    Chronicled codec may s s' := fun shelved => h shelved shelved

/-- Nothing but the collection and the sightings matters. -/
lemma congr (h : Chronicled codec may s s') (collection : s''.collection = s'.collection)
    (sightings : s''.memory.1 = s'.memory.1) : Chronicled codec may s s'' := by
  intro shelved
  obtain ⟨ds, seen, past⟩ := h shelved
  exact ⟨ds, seen, ⟨collection ▸ past.steps, sightings ▸ past.noted, collection ▸ past.dangling,
    past.sightings⟩, past.kind, past.jobs⟩

lemma logged (h : Chronicled codec may s s') (records : List LogRecord) :
    Chronicled codec may s (s'.logged records) := h.congr rfl rfl

/-- One more deed: a job needs an entry that was there in the beginning, or came later; and a
selection may come to dangle only if the entry came and left meanwhile. -/
lemma snoc (h : Chronicled codec may s s') (st : Collection.Step codec s'.collection d c)
    (kind : may d)
    (jobs : ∀ j, d = .dispatched j ∨ d = .refused j → s.collection.Admits j.entry)
    (dangling : ∀ id, c.Dangles id → s'.collection.Dangles id ∨
      ¬s.collection.Knows id ∧ s'.collection.Knows id ∧ id ∉ s'.collection.ids) :
    Chronicled codec may s (s'.withCollection c) := by
  intro shelved
  obtain ⟨ds, seen, past⟩ := h shelved
  refine ⟨ds ++ [d], seen, ⟨past.steps.step st, past.noted, ?_, ?_⟩,
    List.forall_mem_append.mpr ⟨past.kind, by simpa using kind⟩,
    List.forall_mem_append.mpr ⟨past.jobs, by simpa using jobs⟩⟩
  · intro id dangles
    rw [leaversOf_append, List.mem_append]
    rcases dangling id dangles with old | ⟨new, known, gone⟩
    · exact (past.dangling id old).imp_right fun h => ⟨h.1, .inl h.2⟩
    · exact .inr ⟨new, .inl ((past.steps.present_or_left (.inr new) known).resolve_left gone)⟩
  · intro g mem
    obtain ⟨before, initial, steps, excused⟩ := past.sightings g mem
    exact ⟨before, initial.trans (List.prefix_append ds [d]), steps, excused⟩

/-- An observer sees what there is. -/
lemma of_witnessed (tag : ObserverTag) (event : Event) :
    Chronicled codec may s (s.witnessed ⟨tag, event, s.collection⟩) := by
  intro _
  refine ⟨[], [⟨tag, event, s.collection⟩],
    ⟨.start, rfl, fun _ dangles => .inl dangles, fun g mem => ?_⟩, by simp, by simp⟩
  obtain rfl := List.mem_singleton.mp mem
  exact ⟨[], List.nil_prefix, .start, fun _ dangles => .inl dangles⟩

/-- What is done after a chronicle goes on with it. -/
lemma bind {a : Act S (Recollection S M) α} {f : α → Act S (Recollection S M) β}
    (first : Chronicled codec may s₀ (s.run a).2)
    (then_ : ∀ x s', Chronicled codec may s₀ s' → Chronicled codec may s₀ (s'.run (f x)).2) :
    Chronicled codec may s₀ (s.run (a >>= f)).2 :=
  run_bind_of (R := fun _ => Chronicled codec may s₀) (T := fun _ => Chronicled codec may s₀) id
    (fun _ last => last) first then_

lemma map {a : Act S (Recollection S M) α} (h : Chronicled codec may s₀ (s.run a).2) (g : α → β) :
    Chronicled codec may s₀ (s.run (g <$> a)).2 := by
  rw [run_map]
  exact h

end Chronicled

end Session

/-- Observers that react in a way that can be accounted for, by deeds of an allowed kind. -/
def Surroundings.Accountable (w : Surroundings S (Recollection S M)) (may : Deed → Prop) : Prop :=
  ∀ (event : Event) (s : Session S (Recollection S M)),
    Session.Chronicled w.codec may s (s.told w event)

namespace Session

variable {w : Surroundings S (Recollection S M)} {may : Deed → Prop}
  {s s₀ s' : Session S (Recollection S M)} {c : Collection S} {d : Deed} {id : EntryId}

/-! ## Parts of operations -/

section Acts

variable (usual : ∀ d, d.isRemoval = false → may d) (tells : w.Accountable may)

include usual in
lemma Chronicled.placid (h : Chronicled w.codec may s s')
    (st : Collection.Step w.codec s'.collection d c) (placid : d.isPlacid = true) :
    Chronicled w.codec may s (s'.withCollection c) := by
  refine h.snoc st ?_ ?_ fun id dangles => .inl (st.dangles_of_isPlacid placid dangles)
  · exact usual d (by cases d <;> first | rfl | cases placid)
  · rintro j (rfl | rfl) <;> cases placid

include tells in
lemma Chronicled.told (h : Chronicled w.codec may s s') (event : Event) :
    Chronicled w.codec may s (s'.told w event) := h.trans (tells event s')

include usual tells

/-- Getting work done, and the like. -/
lemma Chronicled.of_path {ds : List Deed} (path : Path w s ds s')
    (placid : ∀ d ∈ ds, d.isPlacid = true) : Chronicled w.codec may s s' := by
  induction path with
  | start => exact .refl
  | log _ records ih => exact (ih placid).logged records
  | silent _ step _ ih =>
    obtain ⟨early, last⟩ := List.forall_mem_append.mp placid
    exact (ih early).placid usual step (last _ List.mem_cons_self)
  | told _ step records _ ih =>
    obtain ⟨early, last⟩ := List.forall_mem_append.mp placid
    exact (((ih early).placid usual step (last _ List.mem_cons_self)).logged records).told tells _

lemma Harvests.chronicled {a : Act S (Recollection S M) α} (h : Harvests w a)
    (s : Session S (Recollection S M)) : Chronicled w.codec may s (s.run a).2 := by
  obtain ⟨ds, path, harvest⟩ := h s
  exact .of_path usual tells path fun d mem => Deed.isPlacid_of_isHarvest (harvest d mem)

omit tells in
/-- A job is dispatched for an entry that was there in the beginning, or came later. -/
lemma Chronicled.dispatch (h : Chronicled w.codec may s₀ s) (admitted : s₀.collection.Admits id) :
    Chronicled w.codec may s₀ (s.run (dispatch w id)).2 := by
  cases found : s.collection.find? id with
  | none =>
    rw [run_dispatch_unknown found]
    exact h
  | some e =>
    obtain rfl := Collection.id_of_find? found
    rw [run_dispatch found]
    -- A job is for an entry that was there or came meanwhile, which the caller knows of this one.
    have mine : ∀ j, e.request = j → s₀.collection.Admits j.entry := by
      rintro j rfl
      exact admitted
    by_cases accepted : (s.collection.scheduler.submit w.codec e.request).1 = .ok ()
    · refine (h.snoc (.dispatched found accepted) (usual _ rfl) ?_
        fun id dangles => .inl dangles).logged _
      rintro j (same | other)
      · exact mine j (Deed.dispatched.inj same)
      · cases other
    · refine (h.snoc (.refused found accepted) (usual _ rfl) ?_
        fun id dangles => .inl dangles).logged _
      rintro j (other | same)
      · cases other
      · exact mine j (Deed.refused.inj same)

/-- Somebody who is present is selected, or nobody is. -/
lemma Chronicled.setSelection (h : Chronicled w.codec may s₀ s) {id : Option EntryId}
    (present : ∀ x, id = some x → x ∈ s.collection.ids) :
    Chronicled w.codec may s₀ (s.run (setSelection w id)).2 := by
  rw [run_setSelection]
  refine Chronicled.told tells (h.snoc (.chosen s.collection id) (usual _ rfl) ?_ ?_) _
  · rintro j (other | other) <;> cases other
  · rintro x ⟨selected, gone⟩
    exact absurd (present x selected) gone

lemma Chronicled.select (h : Chronicled w.codec may s₀ s) (id : EntryId) :
    Chronicled w.codec may s₀ (s.run (select w id)).2 := by
  rw [Session.select, run_bind_ok (run_collection? s)]
  split
  · exact h
  · rename_i known
    split
    · refine (h.setSelection usual tells ?_).bind fun _ _ selected => selected
      intro x mine
      obtain rfl := Option.some.inj mine
      simpa [Collection.contains] using known
    · exact h

/-- It is told that an entry got parameters, and a job is dispatched. -/
lemma Chronicled.setEntryParams (h : Chronicled w.codec may s₀ s)
    (admitted : s₀.collection.Admits id) (params : Params) :
    Chronicled w.codec may s₀ (s.run (setEntryParams w id params)).2 := by
  cases found : s.collection.find? id with
  | none =>
    rw [run_setEntryParams_unknown found]
    exact (h.told tells _).dispatch usual admitted
  | some e =>
    rw [run_setEntryParams found]
    exact ((h.placid usual (.paramsSet params found) rfl).told tells _).dispatch usual admitted

/-! ## Importing -/

/-- The new entry may leave while it is told of.  It is selected all the same if nothing is, and a
job is dispatched for it. -/
lemma add_chronicled (name : String) (data : ByteArray) (s : Session S (Recollection S M)) :
    Chronicled w.codec may s (s.run (add w name data)).2 := by
  refine .of_shelved fun shelved => ?_
  cases taken : s.collection.findByName name with
  | some e =>
    rw [run_add_taken taken]
    exact Chronicled.refl.logged _
  | none =>
    obtain ⟨records, same⟩ := run_add (w := w) taken data
    have new : ¬s.collection.Knows s.collection.nextId := shelved.next_not_mem
    have insertion : Collection.Step w.codec s.collection _ _ :=
      .imported s.collection name data (importParams s.settings s.collection)
    have imported : Chronicled w.codec may s (s.withCollection (s.collection.insert name data
        (importParams s.settings s.collection)).2) := by
      refine Chronicled.refl.snoc insertion (usual _ rfl) ?_ ?_
      · rintro j (other | other) <;> cases other
      · rintro id ⟨selected, gone⟩
        exact .inl ⟨selected, fun old => gone (List.mem_append_left _ old)⟩
    have told := (imported.logged records).told tells (.about .added s.collection.nextId)
    -- Observers may remove the new entry again before it is selected or dispatched, but it stays
    -- known.
    have known : (((s.withCollection (s.collection.insert name data
        (importParams s.settings s.collection)).2).logged records).told w
          (.about .added s.collection.nextId)).collection.Knows s.collection.nextId := by
      obtain ⟨ds, _, meanwhile⟩ := tells (.about .added s.collection.nextId)
        ((s.withCollection _).logged records) (shelved.step insertion)
      exact meanwhile.steps.knows insertion.knows_of_imported
    rw [same, run_bind_ok (run_collection? _)]
    generalize Session.told w _ _ = s' at told known ⊢
    have dispatched : ∀ s' : Session S (Recollection S M), Chronicled w.codec may s s' →
        Chronicled w.codec may s (s'.run (do
          dispatch w s.collection.nextId
          return some s.collection.nextId)).2 :=
      fun s' h => (h.dispatch usual (.inr new)).bind fun _ _ last => last
    split
    · refine Chronicled.bind ?_ fun _ s' selected => dispatched s' selected
      rw [run_setSelection]
      -- If the new entry is selected although it is gone, then it came and left meanwhile.
      refine Chronicled.told tells (told.snoc (.chosen s'.collection _) (usual _ rfl) ?_ ?_) _
      · rintro j (other | other) <;> cases other
      · rintro id ⟨selected, gone⟩
        obtain rfl := Option.some.inj selected
        exact .inr ⟨new, known, gone⟩
    · exact dispatched s' told

lemma addMany_chronicled (files : List (String × ByteArray)) :
    ∀ s : Session S (Recollection S M), Chronicled w.codec may s (s.run (addMany w files)).2 := by
  induction files with
  | nil => exact fun s => .refl
  | cons file rest ih =>
    intro s
    rw [addMany]
    split
    · exact (Chronicled.refl.logged _).trans (ih _)
    · refine (add_chronicled usual tells _ _ s).bind fun _ s' added => ?_
      exact (added.trans (ih s')).bind fun _ _ last => last

/-! ## Parameters -/

lemma setParams_chronicled (id : EntryId) (source : ParamsSource) (quality format : Value)
    (s : Session S (Recollection S M)) :
    Chronicled w.codec may s (s.run (setParams w id source quality format)).2 := by
  rw [setParams, run_bind_ok (run_collection? s)]
  split
  · exact .logged .refl _
  · rename_i e found
    have admitted : s.collection.Admits id := .inl (Collection.find?_of_get? found).2
    dsimp only
    split
    · exact .refl
    · exact (Chronicled.refl.setEntryParams usual tells admitted _).bind fun _ _ last => last

lemma giveFormat_chronicled (format : Format) (ids : List EntryId) :
    ∀ s : Session S (Recollection S M), Chronicled w.codec may s₀ s →
      (∀ id ∈ ids, s₀.collection.Admits id) →
        Chronicled w.codec may s₀ (s.run (giveFormat w format ids)).2 := by
  induction ids with
  | nil => exact fun s h _ => h
  | cons id rest ih =>
    intro s h admitted
    have others : ∀ other ∈ rest, s₀.collection.Admits other :=
      fun other mem => admitted other (List.mem_cons_of_mem _ mem)
    rw [giveFormat, run_bind_ok (run_collection? s)]
    split
    · exact ih s h others
    · have mine := h.setEntryParams usual tells (admitted id List.mem_cons_self)
      exact (mine _).bind fun _ s' given => ih s' given others

lemma setGlobalFormat_chronicled (value : Value) (s : Session S (Recollection S M)) :
    Chronicled w.codec may s (s.run (setGlobalFormat w value)).2 := by
  unfold setGlobalFormat
  split
  · exact .refl
  · rename_i format _
    rw [run_bind_ok (run_change s _), run_bind_ok (run_log _ _ _),
      run_bind_ok (run_collection? _)]
    have formatSet : Chronicled w.codec may s
        (s.withCollection { s.collection with globalFormat := format }) :=
      .placid usual .refl (.formatSet s.collection format) rfl
    exact giveFormat_chronicled usual tells format _ _ (formatSet.logged _)
      fun id mem => .inl mem

lemma resetParams_chronicled (id : EntryId) (s : Session S (Recollection S M)) :
    Chronicled w.codec may s (s.run (resetParams w id)).2 := by
  cases found : s.collection.get? id with
  | none =>
    rw [run_resetParams_unknown found]
    exact .refl
  | some e =>
    obtain ⟨known, present⟩ := Collection.find?_of_get? found
    rw [run_resetParams found]
    have set : Chronicled w.codec may s (s.withCollection (s.collection.setEntry
        { e with params := ⟨clampQuality s.settings.quality, e.params.format⟩ })) :=
      .placid usual .refl (.paramsSet _ known) rfl
    refine (set.select usual tells id).bind fun _ s' selected => ?_
    rw [run_bind_ok (run_emit w _ s')]
    exact ((selected.told tells _).dispatch usual (.inl present)).bind fun _ _ last => last

/-! ## Removing -/

/-- The selection is the last thing that a removal sees to. -/
lemma remove_chronicled {e : Entry} (found : s.collection.get? id = some e) :
    Chronicled w.codec may (s.withCollection ((s.collection.drop id).destroy e))
      (s.run (remove w id)).2 := by
  obtain ⟨records, same⟩ := run_remove (w := w) found
  have told : Chronicled w.codec may (s.withCollection ((s.collection.drop id).destroy e))
      (((s.withCollection ((s.collection.drop id).destroy e)).logged records).told w
        (.about .removed id)) := .told tells (.logged .refl records) _
  rw [same, run_bind_ok (run_collection? _)]
  split
  · refine (told.setSelection usual tells ?_).bind fun _ _ last => last
    exact fun x first => List.mem_of_mem_head? first
  · exact told

omit usual in
/-- An entry that was removed is not selected afterwards. -/
lemma remove_deselects {e : Entry} (found : s.collection.get? id = some e)
    (shelved : Shelved s.collection.ids s.collection.shelf) :
    ¬(s.run (remove w id)).2.collection.Dangles id := by
  obtain ⟨records, same⟩ := run_remove (w := w) found
  have removal : Collection.Step w.codec s.collection _ _ := .removed found
  obtain ⟨ds, _, meanwhile⟩ := tells (.about .removed id)
    ((s.withCollection ((s.collection.drop id).destroy e)).logged records) (shelved.step removal)
  have known := meanwhile.steps.knows (removal.knows
    (.of_mem shelved (Collection.find?_of_get? found).2))
  have shelved' := (shelved.step removal).steps meanwhile.steps
  -- If the removed entry was selected, the first that is left is selected instead; were it to
  -- dangle, it would have left after that.
  rw [same, run_bind_ok (run_collection? _)]
  generalize Session.told w _ _ = s' at known shelved' ⊢
  split
  · rw [run_bind_ok (run_setSelection s' _)]
    have chosen : Collection.Step w.codec s'.collection _ _ :=
      .chosen s'.collection s'.collection.ids.head?
    obtain ⟨es, _, later⟩ := tells (.selection s'.collection.ids.head?)
      (s'.withCollection (s'.collection.choose s'.collection.ids.head?)) (shelved'.step chosen)
    intro dangles
    rcases later.dangling id dangles with ⟨first, gone⟩ | ⟨new, -⟩
    · exact gone (List.mem_of_mem_head? first)
    · exact new (chosen.knows known)
  · rename_i other
    exact fun dangles => other dangles.1

omit usual in
lemma clear_chronicled (s : Session S (Recollection S M)) :
    Chronicled w.codec may (s.withCollection
      (({ s.collection with ids := [] }.destroyAll s.collection.ids).choose none))
      (s.run (clear w)).2 := by
  obtain ⟨records, same⟩ := run_clear (w := w) s
  rw [same]
  exact .told tells (.logged .refl records) _

lemma close_chronicled (s : Session S (Recollection S M)) :
    Chronicled w.codec may (s.withCollection
      (({ s.collection with ids := [] }.destroyAll s.collection.ids).choose none))
      (s.run (Operation.close.perform w)).2 := by
  obtain ⟨ds, path, kind⟩ := shutdown_path (w := w) (s.run (clear w)).2
  have shut : Chronicled w.codec may (s.run (clear w)).2 (s.shutDown w) := by
    refine .logged (.of_path usual tells path fun d mem => ?_) _
    rcases kind d mem with rfl | harvest
    · rfl
    · exact Deed.isPlacid_of_isHarvest harvest
  rw [run_close]
  exact ((clear_chronicled tells s).trans shut).trans
    (drain_harvests.chronicled usual tells _)

end Acts

end Session

/-! ## Operations -/

namespace Operation

/-- Whether an operation removes entries. -/
def removes : Operation → Bool
  | remove _ | clear | close => true
  | _ => false

/-- The removal that an operation begins with. -/
def opening (c : Collection S) : Operation → List Deed
  | remove id => if (c.get? id).isSome then [.removed id] else []
  | clear | close => [.cleared]
  | _ => []

/-- The collection after the removal that an operation begins with. -/
def opened (c : Collection S) : Operation → Collection S
  | remove id => (c.get? id).elim c ((c.drop id).destroy ·)
  | clear | close => ({ c with ids := [] }.destroyAll c.ids).choose none
  | _ => c

variable {c : Collection S} {op : Operation} {id : EntryId} {d : Deed}

lemma steps_opened (op : Operation) (codec : Codec S) (c : Collection S) :
    Collection.Steps codec c (op.opening c) (op.opened c) := by
  cases op with
  | remove id =>
    rw [opening, opened]
    cases found : c.get? id with
    | none => exact .start
    | some e => exact .step .start (.removed found)
  | clear | close => exact .step .start (.cleared c)
  | _ => exact .start

lemma isRemoval_of_mem_opening (mem : d ∈ op.opening c) : d.isRemoval = true := by
  cases op with
  | remove id =>
    rw [opening] at mem
    split at mem
    · rw [List.mem_singleton.mp mem, Deed.isRemoval]
    · cases mem
  | clear | close => rw [List.mem_singleton.mp mem, Deed.isRemoval]
  | _ => cases mem

lemma removes_of_mem_opening (mem : d ∈ op.opening c) : op.removes = true := by
  cases op <;> first | rfl | cases mem

/-- No job is dispatched before the opening removal is over. -/
lemma split_after_opening {ds before after : List Deed} {j : Job}
    (split : op.opening c ++ ds = before ++ .dispatched j :: after) :
    ∃ late, before = op.opening c ++ late ∧ ds = late ++ .dispatched j :: after := by
  rcases List.append_eq_append_iff.mp split with late | ⟨more, opening_eq, rest_eq⟩
  · exact late
  · cases more with
    | nil => exact ⟨[], by simpa using opening_eq.symm, rest_eq.symm⟩
    | cons d more =>
      obtain rfl : Deed.dispatched j = d := (List.cons.inj rest_eq).1
      have opens : Deed.dispatched j ∈ op.opening c :=
        opening_eq ▸ List.mem_append_right _ List.mem_cons_self
      cases isRemoval_of_mem_opening opens

/-- The opening removal makes the selection dangle if it takes the selected entry, and in no other
way. -/
lemma eq_remove_of_dangles_opened (dangles : (op.opened c).Dangles id) :
    c.Dangles id ∨ op = .remove id ∧ c.selected = some id := by
  cases op with
  | remove other =>
    -- Removing is the only opening that leaves a selection as it is.
    rw [opened] at dangles
    cases found : c.get? other with
    | none =>
      rw [found] at dangles
      exact .inl dangles
    | some e =>
      rw [found] at dangles
      obtain ⟨selected, gone⟩ : c.selected = some id ∧ id ∉ c.ids.filter (· ≠ other) := dangles
      by_cases same : id = other
      · exact .inr ⟨same ▸ rfl, selected⟩
      · exact .inl ⟨selected, fun mem => gone (List.mem_filter.mpr ⟨mem, by simpa using same⟩)⟩
  | clear | close => cases dangles.1
  | _ => exact .inl dangles

open Session

variable {w : Surroundings S (Recollection S M)} {may : Deed → Prop}

/-- From the removal on that it may begin with, every operation can be accounted for. -/
theorem perform_chronicled (usual : ∀ d, d.isRemoval = false → may d)
    (tells : w.Accountable may) (op : Operation) (s : Session S (Recollection S M)) :
    Chronicled w.codec may (s.withCollection (op.opened s.collection))
      (s.run (op.perform w)).2 := by
  cases op with
  | add name data => exact (add_chronicled usual tells name data s).map _
  | addMany files => exact (addMany_chronicled usual tells files s).map _
  | remove id =>
    rw [opened]
    cases found : s.collection.get? id with
    | none =>
      refine Chronicled.map ?_ _
      rw [run_remove_unknown found]
      exact .refl
    | some e => exact (remove_chronicled usual tells found).map _
  | clear => exact (clear_chronicled tells s).bind fun _ _ last => last
  | close => exact close_chronicled usual tells s
  | select id => exact (Chronicled.refl.select usual tells id).map _
  | setParams id source quality format =>
    exact (setParams_chronicled usual tells id source quality format s).map _
  | setGlobalFormat format =>
    exact (setGlobalFormat_chronicled usual tells format s).bind fun _ _ last => last
  | resetParams id => exact (resetParams_chronicled usual tells id s).map _
  | setPreviewMode showSource =>
    exact .placid usual .refl (.modeSet s.collection showSource) rfl
  | drain | waitIdle | runJob | runJobs =>
    exact (Operation.perform_harvests rfl).chronicled usual tells s
  | subscribe tag => exact .placid usual .refl (.subscribed s.collection tag) rfl
  | unsubscribe tag => exact .placid usual .refl (.unsubscribed s.collection tag) rfl
  | cancelJob number => exact .placid usual .refl (.cancelled s.collection number) rfl
  | shutExecutor => exact .placid usual .refl (.executorShut s.collection) rfl

/-- What the opening removal leaves dangling does not dangle any more when the operation is over. -/
lemma dangles_of_perform (tells : w.Accountable may) {s : Session S (Recollection S M)}
    (shelved : Shelved s.collection.ids s.collection.shelf)
    (dangles : (s.run (op.perform w)).2.collection.Dangles id)
    (before : (op.opened s.collection).Dangles id) : s.collection.Dangles id := by
  rcases eq_remove_of_dangles_opened before with old | ⟨rfl, selected⟩
  · exact old
  · rw [perform, run_map] at dangles
    cases found : s.collection.get? id with
    | none =>
      rw [opened, found] at before
      exact before
    | some e => exact absurd dangles (remove_deselects tells found shelved)

/-- What happened in the course of an operation, with the removal it began with. -/
lemma chronicle_of_opened {may' : Deed → Prop} (tells : w.Accountable may')
    {s : Session S (Recollection S M)}
    (shelved : Shelved s.collection.ids s.collection.shelf) {ds : List Deed}
    {seen : List (Sighting S)} (kind : ∀ d ∈ op.opening s.collection, may d)
    (rest : Chronicle w.codec may (s.withCollection (op.opened s.collection)) ds seen
      (s.run (op.perform w)).2) :
    Chronicle w.codec may s (op.opening s.collection ++ ds) seen (s.run (op.perform w)).2 := by
  have opens : Collection.Steps w.codec s.collection (op.opening s.collection)
    (op.opened s.collection) := op.steps_opened w.codec s.collection
  have removals : ∀ d ∈ op.opening s.collection, d.isRemoval = true :=
    fun d mem => isRemoval_of_mem_opening mem
  refine ⟨⟨opens.trans rest.steps, rest.noted, ?_, ?_⟩,
    List.forall_mem_append.mpr ⟨kind, rest.kind⟩, List.forall_mem_append.mpr ⟨?_, ?_⟩⟩
  -- What dangles after the opening dangled before, or is the removed entry, which is then
  -- deselected.
  · intro id dangles
    rcases rest.dangling id dangles with old | ⟨new, left⟩
    · exact .inl (dangles_of_perform tells shelved dangles old)
    · rw [leaversOf_append, ← opens.ids_eq]
      exact .inr ⟨fun known => new (opens.knows known), List.mem_append_right _ left⟩
  · intro g mem
    obtain ⟨before, initial, steps, excused⟩ := rest.sightings g mem
    refine ⟨op.opening s.collection ++ before, (List.prefix_append_right_inj _).mpr initial,
      opens.trans steps, fun id dangles => ?_⟩
    rw [leaversOf_append, ← opens.ids_eq, List.mem_append]
    rcases excused id dangles with old | left
    -- An entry that was there and is not there after the opening left in it.
    · by_cases present : id ∈ s.collection.ids
      · have known := opens.knows (Collection.Knows.of_mem shelved present)
        exact .inr (.inl ((opens.present_or_left (.inl present) known).resolve_left old.2))
      · rcases eq_remove_of_dangles_opened old with dangled | ⟨-, selected⟩
        · exact .inl dangled
        · exact .inl ⟨selected, present⟩
    · exact .inr (.inr left)
  · rintro d mem j (rfl | rfl) <;> cases removals _ mem
  · exact fun d mem j asked => opens.admits shelved (rest.jobs d mem j asked)

theorem chronicled (usual : ∀ d, d.isRemoval = false → may d)
    (tells : w.Accountable may) (op : Operation) {s : Session S (Recollection S M)}
    (kind : ∀ d ∈ op.opening s.collection, may d) :
    Chronicled w.codec may s (s.run (op.perform w)).2 := by
  intro shelved
  obtain ⟨ds, seen, rest⟩ := op.perform_chronicled usual tells s
    (shelved.steps (op.steps_opened w.codec s.collection))
  exact ⟨_, _, chronicle_of_opened tells shelved kind rest⟩

end Operation

end Reencode
