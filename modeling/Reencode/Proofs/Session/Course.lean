import Reencode.Proofs.Collection.Course
import Reencode.Proofs.Collection.Meanwhile
import Reencode.Proofs.Session.Observers

/-!
# Operations are careful

Whoever dispatches a job looks its entry up first, and nothing can remove the entry in between, as
long as observers do not call back.  So with `Quiet` observers every operation but closing takes its
collection along a `Collection.Course`: this is `Operation.courses`, and it is proved act by act.
Acts that dispatch need that no entry comes or goes before they do; of such acts `Stays` is said.

Closing shuts the scheduler down while jobs are pending, but then it runs them.  What it does in
between is said where it is needed.
-/

namespace Reencode

variable {S O α β : Type}

lemma Collection.Meanwhile.of_runs {codec : Codec S} {c c' : Collection S} {ds : List Deed}
    (steps : Collection.Steps codec c ds c') (runs : ∀ d ∈ ds, d.isRun = true) :
    c.Meanwhile codec c' := by
  induction steps with
  | start => exact .refl
  | step _ last ih =>
    have before := ih fun d mem => runs d (List.mem_append_left _ mem)
    have ran := runs _ (List.mem_append_right _ List.mem_cons_self)
    cases last with
    | ran k => exact before.trans ⟨_, rfl, .ran k⟩
    | _ => cases ran

lemma Deed.isCalm_of_isRun {d : Deed} (runs : d.isRun = true) : d.isCalm = true := by
  cases d <;> first | rfl | cases runs

variable {w : Surroundings S O}

namespace Session

/-- One session leads to another by a course of its collection. -/
def Courses (codec : Codec S) (good : Params → Prop) (s s' : Session S O) : Prop :=
  ∃ ds, Collection.Course codec good s.collection ds s'.collection

/-- One session leads to another by a course on which no entry comes or goes. -/
structure Stays (codec : Codec S) (good : Params → Prop) (s s' : Session S O) : Prop where
  course : Courses codec good s s'
  ids : s'.collection.ids = s.collection.ids

variable {codec : Codec S} {good : Params → Prop} {s s' s'' : Session S O} {c : Collection S}
  {d : Deed}

lemma Courses.refl : Courses codec good s s := ⟨[], .start⟩

lemma Courses.trans (first : Courses codec good s s') (then_ : Courses codec good s' s'') :
    Courses codec good s s'' := by
  obtain ⟨ds, course⟩ := first
  obtain ⟨es, course'⟩ := then_
  exact ⟨ds ++ es, course.trans course'⟩

lemma Courses.of_step (st : Collection.Step codec s.collection d c)
    (care : Collection.Careful good s.collection d c) : Courses codec good s (s.withCollection c) :=
  ⟨[d], .of_step st care⟩

lemma Courses.of_calm (st : Collection.Step codec s.collection d c) (calm : d.isCalm = true) :
    Courses codec good s (s.withCollection c) := .of_step st (.of_calm st calm)

lemma Courses.logged (h : Courses codec good s s') (records : List LogRecord) :
    Courses codec good s (s'.logged records) := h

lemma Stays.refl : Stays codec good s s := ⟨.refl, rfl⟩

lemma Stays.trans (first : Stays codec good s s') (then_ : Stays codec good s' s'') :
    Stays codec good s s'' :=
  ⟨first.course.trans then_.course, then_.ids.trans first.ids⟩

lemma Stays.of_step (st : Collection.Step codec s.collection d c)
    (care : Collection.Careful good s.collection d c) (ids : c.ids = s.collection.ids) :
    Stays codec good s (s.withCollection c) :=
  ⟨.of_step st care, ids⟩

lemma Stays.of_calm (st : Collection.Step codec s.collection d c) (calm : d.isCalm = true)
    (ids : c.ids = s.collection.ids) : Stays codec good s (s.withCollection c) :=
  .of_step st (.of_calm st calm) ids

lemma Stays.logged (h : Stays codec good s s') (records : List LogRecord) :
    Stays codec good s (s'.logged records) := ⟨h.course, h.ids⟩

/-- What leads from session to session is put together as acts are. -/
lemma run_bind_of {R T : Session S O → Session S O → Prop} (weaker : ∀ {s s'}, R s s' → T s s')
    (trans : ∀ {s s' s''}, R s s' → T s' s'' → T s s'') {a : Act S O α} {f : α → Act S O β}
    (first : R s (s.run a).2) (then_ : ∀ x s', R s s' → T s' (s'.run (f x)).2) :
    T s (s.run (a >>= f)).2 := by
  rw [run_bind]
  rcases result : s.run a with ⟨failure | x, s'⟩
  · rw [result] at first
    exact weaker first
  · rw [result] at first
    exact trans first (then_ x s' first)

lemma Courses.bind {a : Act S O α} {f : α → Act S O β} (first : Courses codec good s (s.run a).2)
    (then_ : ∀ x s', Courses codec good s s' → Courses codec good s' (s'.run (f x)).2) :
    Courses codec good s (s.run (a >>= f)).2 :=
  run_bind_of id .trans first then_

lemma Courses.map {a : Act S O α} (h : Courses codec good s (s.run a).2) (g : α → β) :
    Courses codec good s (s.run (g <$> a)).2 := by
  rw [run_map]
  exact h

lemma Stays.bind {a : Act S O α} {f : α → Act S O β} (first : Stays codec good s (s.run a).2)
    (then_ : ∀ x s', Stays codec good s s' → Stays codec good s' (s'.run (f x)).2) :
    Stays codec good s (s.run (a >>= f)).2 :=
  run_bind_of id .trans first then_

/-- While no entry comes or goes, what was there before is there afterwards. -/
lemma Stays.bind_courses {a : Act S O α} {f : α → Act S O β}
    (first : Stays codec good s (s.run a).2)
    (then_ : ∀ x s', Stays codec good s s' → Courses codec good s' (s'.run (f x)).2) :
    Courses codec good s (s.run (a >>= f)).2 :=
  run_bind_of (R := Stays codec good) Stays.course
    (fun first then_ => first.course.trans then_) first then_

/-- What follows starts where the course has led so far. -/
lemma Courses.followed {a : Act S O α} (first : Courses codec good s s')
    (then_ : Courses codec good s' (s'.run a).2) : Courses codec good s (s'.run a).2 :=
  first.trans then_

/-! ## Telling, selecting, dispatching -/

section Acts

variable (quiet : w.Quiet)

include quiet

/-- While observers that do not call back are told, only the executor is at work. -/
lemma told_meanwhile (event : Event) (s : Session S O) :
    s.collection.Meanwhile w.codec (s.told w event).collection := by
  obtain ⟨ds, steps, runs⟩ := told_steps quiet event s
  exact .of_runs steps runs

lemma told_stays (event : Event) (s : Session S O) :
    Stays w.codec good s (s.told w event) := by
  obtain ⟨ds, steps, runs⟩ := told_steps quiet event s
  refine ⟨⟨ds, .of_calm steps fun d mem => Deed.isCalm_of_isRun (runs d mem)⟩, ?_⟩
  obtain ⟨scheduler, same, -⟩ := Collection.Meanwhile.of_runs steps runs
  rw [same]

lemma setSelection_stays (id : Option EntryId) (s : Session S O) :
    Stays w.codec good s (s.run (setSelection w id)).2 := by
  rw [run_setSelection]
  exact (Stays.of_calm (.chosen s.collection id) rfl rfl).trans (told_stays quiet _ _)

lemma select_stays (id : EntryId) (s : Session S O) :
    Stays w.codec good s (s.run (select w id)).2 := by
  rw [select, run_bind_ok (run_collection? s)]
  split
  · exact .refl
  · split
    · exact (setSelection_stays quiet _ s).bind fun _ _ _ => .refl
    · exact .refl

omit quiet in
/-- A job is dispatched with care if its entry is in the collection. -/
lemma dispatch_stays {id : EntryId} (present : id ∈ s.collection.ids) :
    Stays w.codec good s (s.run (dispatch w id)).2 := by
  cases found : s.collection.find? id with
  | none =>
    rw [run_dispatch_unknown found]
    exact .refl
  | some e =>
    obtain rfl := Collection.id_of_find? found
    rw [run_dispatch found]
    by_cases accepted : (s.collection.scheduler.submit w.codec e.request).1 = .ok ()
    · have dispatched := Collection.Step.dispatched found accepted
      exact (Stays.of_step dispatched (.of_dispatch (.inl rfl) found present) rfl).logged _
    · have refused := Collection.Step.refused found accepted
      exact (Stays.of_step refused (.of_dispatch (.inr rfl) found present) rfl).logged _

/-- It is told that an entry got parameters, and then a job is dispatched for it. -/
lemma announce_stays {id : EntryId} (present : id ∈ s.collection.ids) :
    Stays w.codec good s ((s.told w (.about .paramsChanged id)).run (dispatch w id)).2 := by
  have told : Stays w.codec good s (s.told w (.about .paramsChanged id)) := told_stays quiet _ s
  exact told.trans (dispatch_stays (told.ids.symm ▸ present))

lemma setEntryParams_stays {id : EntryId} (present : id ∈ s.collection.ids) {params : Params}
    (mine : s.collection.AllParams good → good params) :
    Stays w.codec good s (s.run (setEntryParams w id params)).2 := by
  cases found : s.collection.find? id with
  | none =>
    rw [run_setEntryParams_unknown found]
    exact announce_stays quiet present
  | some e =>
    have set : Stays w.codec good s (s.withCollection (s.collection.setEntry { e with params })) :=
      .of_step (.paramsSet params found) (.of_paramsSet mine) rfl
    rw [run_setEntryParams found]
    exact set.trans (announce_stays quiet present)

/-! ## Importing and removing -/

variable (spread : ∀ n format, good ⟨clampQuality n, format⟩)

include spread in
lemma add_courses (name : String) (data : ByteArray) (s : Session S O) :
    Courses w.codec good s (s.run (add w name data)).2 := by
  cases taken : s.collection.findByName name with
  | some e =>
    rw [run_add_taken taken]
    exact .refl
  | none =>
    obtain ⟨records, same⟩ := run_add (w := w) taken data
    have imported : Courses w.codec good s (s.withCollection (s.collection.insert name data
        (importParams s.settings s.collection)).2) :=
      .of_step (.imported s.collection name data _) (.of_imported (spread _ _))
    have told : ∀ s' : Session S O, Stays w.codec good s'
        (s'.told w (.about .added s.collection.nextId)) := told_stays quiet _
    rw [same, run_bind_ok (run_collection? _)]
    refine Courses.followed ((imported.logged _).trans (told _).course) ?_
    -- The observers call nothing, so the new entry is still there when its job is dispatched.
    have present : s.collection.nextId ∈ s.collection.ids ++ [s.collection.nextId] :=
      List.mem_append_right _ List.mem_cons_self
    have dispatched : ∀ s' : Session S O, s'.collection.ids =
        s.collection.ids ++ [s.collection.nextId] → Courses w.codec good s' (s'.run (do
          dispatch w s.collection.nextId
          return some s.collection.nextId)).2 := by
      intro s' ids
      exact (dispatch_stays (ids ▸ present)).course.bind fun _ _ _ => .refl
    split
    · exact (setSelection_stays quiet _ _).bind_courses fun _ s' selected =>
        dispatched s' (selected.ids.trans (told _).ids)
    · exact dispatched _ (told _).ids

include spread in
lemma addMany_courses (files : List (String × ByteArray)) : ∀ s : Session S O,
    Courses w.codec good s (s.run (addMany w files)).2 := by
  induction files with
  | nil => exact fun s => .refl
  | cons file rest ih =>
    intro s
    rw [addMany]
    split
    · exact (Courses.refl.logged _).trans (ih _)
    · exact (add_courses quiet spread _ _ s).bind fun _ s' _ => (ih s').bind fun _ _ _ => .refl

lemma remove_courses (id : EntryId) (s : Session S O) :
    Courses w.codec good s (s.run (remove w id)).2 := by
  cases found : s.collection.get? id with
  | none =>
    rw [run_remove_unknown found]
    exact .refl
  | some e =>
    obtain ⟨records, same⟩ := run_remove (w := w) found
    have removed : Courses w.codec good s
        (s.withCollection ((s.collection.drop id).destroy e)) := .of_calm (.removed found) rfl
    rw [same, run_bind_ok (run_collection? _)]
    refine Courses.followed ((removed.logged _).trans (told_stays quiet _ _).course) ?_
    split
    · exact ((setSelection_stays quiet _ _).course).bind fun _ _ _ => .refl
    · exact .refl

lemma clear_courses (s : Session S O) : Courses w.codec good s (s.run (clear w)).2 := by
  obtain ⟨records, same⟩ := run_clear (w := w) s
  have cleared : Courses w.codec good s (s.withCollection
      (({ s.collection with ids := [] }.destroyAll s.collection.ids).choose none)) :=
    .of_calm (.cleared s.collection) rfl
  rw [same]
  exact (cleared.logged _).trans (told_stays quiet _ _).course

/-! ## Parameters -/

lemma setParams_courses {id : EntryId} {source : ParamsSource} {quality format : Value}
    (gives : ∀ p p', good p → p.change w.reader (source.resolve quality format).1
      (source.resolve quality format).2 = .ok p' → good p') (s : Session S O) :
    Courses w.codec good s (s.run (setParams w id source quality format)).2 := by
  rw [setParams, run_bind_ok (run_collection? s)]
  split
  · exact .refl
  · rename_i e found
    obtain ⟨known, present⟩ := Collection.find?_of_get? found
    dsimp only
    split
    · exact .refl
    · rename_i params changed
      have mine : s.collection.AllParams good → good params := fun all =>
        gives e.params params (all.of_find? known) changed
      exact (setEntryParams_stays quiet present mine).course.bind fun _ _ _ => .refl

include spread in
lemma giveFormat_stays (format : Format) (ids : List EntryId) : ∀ s : Session S O,
    ids ⊆ s.collection.ids → Stays w.codec good s (s.run (giveFormat w format ids)).2 := by
  induction ids with
  | nil => exact fun s _ => .refl
  | cons id rest ih =>
    intro s present
    have others : rest ⊆ s.collection.ids := fun _ mem => present (List.mem_cons_of_mem _ mem)
    rw [giveFormat, run_bind_ok (run_collection? s)]
    split
    · exact ih s others
    · rename_i e _
      have set : Stays w.codec good s
          (s.run (setEntryParams w id ⟨clampQuality e.params.quality, format⟩)).2 :=
        setEntryParams_stays quiet (present List.mem_cons_self) fun _ => spread _ format
      exact set.bind fun _ s' stays => ih s' (stays.ids.symm ▸ others)

include spread in
lemma setGlobalFormat_courses (value : Value) (s : Session S O) :
    Courses w.codec good s (s.run (setGlobalFormat w value)).2 := by
  unfold setGlobalFormat
  split
  · exact .refl
  · rename_i format _
    have formatSet : Courses w.codec good s
        (s.withCollection { s.collection with globalFormat := format }) :=
      .of_calm (.formatSet s.collection format) rfl
    rw [run_bind_ok (run_change s _), run_bind_ok (run_log _ _ _),
      run_bind_ok (run_collection? _)]
    refine Courses.followed (formatSet.logged _) ?_
    exact (giveFormat_stays quiet spread format _ _ (List.Subset.refl _)).course

include spread in
lemma resetParams_courses (id : EntryId) (s : Session S O) :
    Courses w.codec good s (s.run (resetParams w id)).2 := by
  cases found : s.collection.get? id with
  | none =>
    rw [run_resetParams_unknown found]
    exact .refl
  | some e =>
    obtain ⟨known, present⟩ := Collection.find?_of_get? found
    have set : Courses w.codec good s (s.withCollection (s.collection.setEntry
        { e with params := ⟨clampQuality s.settings.quality, e.params.format⟩ })) :=
      .of_step (.paramsSet _ known) (.of_paramsSet fun _ => spread _ _)
    rw [run_resetParams found]
    refine Courses.followed set ((select_stays quiet id _).bind_courses fun _ s' selected => ?_)
    rw [run_bind_ok (run_emit w _ s')]
    have announced : Stays w.codec good s' (s'.told w (.about .paramsChanged id)) :=
      told_stays quiet _ s'
    have still : id ∈ (s'.told w (.about .paramsChanged id)).collection.ids := by
      rw [announced.ids, selected.ids]
      exact present
    exact Courses.followed announced.course ((dispatch_stays still).course.bind fun _ _ _ => .refl)

/-- Getting work done needs no care. -/
lemma Harvests.courses {a : Act S O α} (h : Harvests w a) (s : Session S O) :
    Courses w.codec good s (s.run a).2 := by
  obtain ⟨ds, steps, harvest⟩ := h.steps quiet s
  refine ⟨ds, .of_calm steps fun d mem => ?_⟩
  have kind := harvest d mem
  cases d <;> first | rfl | cases kind

end Acts

end Session

/-! ## Closing -/

namespace Session

/-- The session that is left to drain when it is closed. -/
def shutDown (w : Surroundings S O) (s : Session S O) : Session S O :=
  let s := (s.run (clear w)).2
  (s.withScheduler (s.collection.scheduler.shutdown w.codec true).1).logged
    (s.collection.scheduler.shutdown w.codec true).2

/-- Closing ends with draining. -/
lemma run_close (s : Session S O) : s.run (Operation.close.perform w) =
    (((s.shutDown w).run (drain w)).1.map fun _ => .done, ((s.shutDown w).run (drain w)).2) := by
  have closes : s.run (close w) = (s.shutDown w).run (do let _ ← drain w) := by
    have cleared : s.run (clear w) = (.ok (), (s.run (clear w)).2) := by
      obtain ⟨records, result⟩ := run_clear (w := w) s
      rw [result]
    rw [close, run_bind_ok cleared, run_bind_ok (run_collection? _)]
    rfl
  rw [Operation.perform, run_bind, closes, run_bind]
  rcases (s.shutDown w).run (drain w) with ⟨failure | n, s'⟩ <;> rfl

end Session

/-! ## Operations -/

/-- Whether an operation turns good parameters into good ones, where it computes some from values
of unknown kind. -/
def Operation.Gives (reader : IntegerReader) (good : Params → Prop) : Operation → Prop
  | setParams _ source quality format => ∀ p p', good p →
      p.change reader (source.resolve quality format).1 (source.resolve quality format).2 = .ok p' →
        good p'
  | _ => True

open Session in
/-- With observers that do not call back, every operation but closing takes a course, if all
parameters with a clamped quality are good ones. -/
theorem Operation.courses (quiet : w.Quiet) {good : Params → Prop}
    (spread : ∀ n format, good ⟨clampQuality n, format⟩) {op : Operation}
    (gives : op.Gives w.reader good) (stays_open : op ≠ .close) (s : Session S O) :
    Courses w.codec good s (s.run (op.perform w)).2 := by
  cases op with
  | add name data => exact (add_courses quiet spread name data s).map _
  | addMany files => exact (addMany_courses quiet spread files s).map _
  | remove id => exact (remove_courses quiet id s).map _
  | clear => exact (clear_courses quiet s).bind fun _ _ _ => .refl
  | select id => exact (select_stays quiet id s).course.map _
  | setParams id source quality format => exact (setParams_courses quiet gives s).map _
  | setGlobalFormat format =>
    exact (setGlobalFormat_courses quiet spread format s).bind fun _ _ _ => .refl
  | resetParams id => exact (resetParams_courses quiet spread id s).map _
  | setPreviewMode showSource => exact .of_calm (.modeSet s.collection showSource) rfl
  | drain | waitIdle | runJob | runJobs => exact (Operation.perform_harvests rfl).courses quiet s
  | close => exact absurd rfl stays_open
  | subscribe tag => exact .of_calm (.subscribed s.collection tag) rfl
  | unsubscribe tag => exact .of_calm (.unsubscribed s.collection tag) rfl
  | cancelJob number => exact .of_calm (.cancelled s.collection number) rfl
  | shutExecutor => exact .of_step (.executorShut s.collection) (.of_shut rfl)

end Reencode
