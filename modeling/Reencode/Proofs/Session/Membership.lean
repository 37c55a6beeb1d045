import Mathlib.Algebra.GroupWithZero.Nat
import Reencode.Proofs.Collection.Roster
import Reencode.Proofs.Session.Course
import Reencode.Proofs.Session.EventLog

/-!
# Who is in a collection

As long as observers do not call back, an operation does to the roster of a collection what
`Roster.perform` says, whether it succeeds or fails, whatever jobs run meanwhile and whatever is
taken over.  This is proved act by act: an act that is performed in a session with the roster `r`
leaves a session with a roster that is computed from `r` (`Session.Enrolled`).  What holds of all
rosters that operations lead to (`Roster.Sound`) then holds of all collections.
-/

namespace Reencode

variable {S O α β : Type} {w : Surroundings S O}

namespace Session

/-- A session of a collection with this roster. -/
structure Enrolled (r : Roster) (s : Session S O) : Prop where
  shelved : Shelved s.collection.ids s.collection.shelf
  roster : s.collection.roster = r

variable {r r' : Roster} {s s' : Session S O} {id : EntryId} {a : Act S O α} {f : α → Act S O β}

namespace Enrolled

lemma logged (h : Enrolled r s) (records : List LogRecord) : Enrolled r (s.logged records) :=
  ⟨h.shelved, h.roster⟩

lemma of_step (h : Enrolled r s) (codec : Codec S) {d : Deed} {c : Collection S}
    (st : Collection.Step codec s.collection d c) (roster : c.roster = r') :
    Enrolled r' (s.withCollection c) :=
  ⟨h.shelved.step st, roster⟩

/-- Most steps leave the roster alone. -/
lemma of_steps (h : Enrolled r s) {ds : List Deed} {codec : Codec S}
    (steps : Collection.Steps codec s.collection ds s'.collection)
    (same : ∀ d ∈ ds, d.enrolls = false) : Enrolled r s' := by
  refine ⟨h.shelved.steps steps, ?_⟩
  rw [← h.roster]
  generalize s'.collection = c at steps
  induction steps with
  | start => rfl
  | step before last ih =>
    rw [last.roster_eq (h.shelved.steps before)
      (same _ (List.mem_append_right _ List.mem_cons_self))]
    exact ih fun d mem => same d (List.mem_append_left _ mem)

/-- An act that is done before the roster settles. -/
lemma bind (first : Enrolled r (s.run a).2)
    (then_ : ∀ x s', Enrolled r s' → Enrolled r (s'.run (f x)).2) :
    Enrolled r (s.run (a >>= f)).2 :=
  run_bind_of (R := fun _ => Enrolled r) (T := fun _ => Enrolled r) id (fun _ last => last) first
    then_

lemma ids (h : Enrolled r s) : s.collection.ids = r.ids := by
  rw [← h.roster, Collection.ids_roster h.shelved]

lemma mem_ids (h : Enrolled r s) : id ∈ r.ids ↔ id ∈ s.collection.ids := by rw [h.ids]

/-- A name is free exactly if nobody in the roster has it. -/
lemma name_free (h : Enrolled r s) (name : String) :
    s.collection.findByName name = none ↔ name ∉ r.names := by
  rw [← h.roster, Collection.names_roster, Collection.findByName, List.find?_eq_none]
  simp [List.mem_map]

lemma not_mem_of_get? (h : Enrolled r s) (unknown : s.collection.get? id = none) : id ∉ r.ids := by
  intro mem
  have alive := h.mem_ids.mp mem
  obtain ⟨e, onShelf, rfl⟩ := h.shelved.exists_of_mem_alive alive
  rw [h.shelved.get?_eq_some_iff.mpr ⟨h.shelved.mem_entries.mpr ⟨onShelf, alive⟩, rfl⟩] at unknown
  cases unknown

lemma selected (h : Enrolled r s) : s.collection.selected = r.selected := by rw [← h.roster]; rfl

lemma nextId (h : Enrolled r s) : s.collection.nextId = r.nextId := by rw [← h.roster]; rfl

end Enrolled

section Acts

variable (quiet : w.Quiet)

include quiet

/-! ## Acts that leave the roster alone -/

lemma Enrolled.path (h : Enrolled r s) {ds : List Deed} (path : Path w s ds s')
    (same : ∀ d ∈ ds, d.enrolls = false) : Enrolled r s' := by
  obtain ⟨es, steps, own⟩ := path.steps_of_quiet quiet
  refine h.of_steps steps fun d mem => ?_
  rcases mem_of_ownOf_eq own mem with mine | runs
  · exact same d mine
  · cases d <;> first | rfl | cases runs

lemma Enrolled.told (h : Enrolled r s) (event : Event) : Enrolled r (s.told w event) := by
  obtain ⟨ds, steps, runs⟩ := told_steps quiet event s
  refine h.of_steps steps fun d mem => ?_
  have := runs d mem
  cases d <;> first | rfl | cases this

lemma Enrolled.harvest (h : Enrolled r s) (harvests : Harvests w a) : Enrolled r (s.run a).2 := by
  obtain ⟨ds, path, kind⟩ := harvests s
  refine h.path quiet path fun d mem => ?_
  have := kind d mem
  cases d <;> first | rfl | cases this

lemma dispatch_enrolled (h : Enrolled r s) (id : EntryId) :
    Enrolled r (s.run (dispatch w id)).2 := by
  obtain ⟨_, path, d, rfl, pays⟩ := dispatch_leads (w := w) s id
  refine h.path quiet path fun d mem => ?_
  obtain rfl := List.mem_singleton.mp mem
  cases d <;> first | rfl | exact pays.elim

/-- Dispatching a job for a member succeeds exactly if jobs are accepted. -/
lemma dispatch_last (h : Enrolled r s) (mem : id ∈ r.ids) (x : α) :
    Enrolled r (s.run (do dispatch w id; return x)).2 ∧
      (s.run (do dispatch w id; return x)).1.isOk = r.accepting := by
  refine ⟨(dispatch_enrolled quiet h id).bind fun _ _ after => after, ?_⟩
  obtain ⟨e, onShelf, rfl⟩ := h.shelved.exists_of_mem_alive (h.mem_ids.mp mem)
  have found : s.collection.find? e.id = some e := h.shelved.find?_eq_some_iff.mpr ⟨onShelf, rfl⟩
  -- Dispatching answers well exactly as long as the scheduler accepts jobs, which the roster knows.
  have accepts : s.collection.scheduler.accepts = r.accepting := by rw [← h.roster]; rfl
  rw [run_bind, run_dispatch found, ← accepts]
  by_cases accepted : (s.collection.scheduler.submit w.codec e.request).1 = .ok ()
  · rw [accepted, Scheduler.accepts_iff.mpr ((Scheduler.submit_result _ _ _).mp accepted)]
    rfl
  · have refused : s.collection.scheduler.accepts = false := by
      rw [← Bool.not_eq_true, Scheduler.accepts_iff]
      exact mt (Scheduler.submit_result _ _ _).mpr accepted
    cases result : (s.collection.scheduler.submit w.codec e.request).1 with
    | ok u => exact absurd result accepted
    | error failure =>
      rw [refused]
      rfl

lemma setEntryParams_enrolled (h : Enrolled r s) (id : EntryId) (p : Params) :
    Enrolled r (s.run (setEntryParams w id p)).2 := by
  cases found : s.collection.find? id with
  | none =>
    rw [run_setEntryParams_unknown found]
    exact dispatch_enrolled quiet (h.told quiet _) id
  | some e =>
    have set : Collection.Step w.codec s.collection _ _ := .paramsSet p found
    have put := h.of_step w.codec set ((set.roster_eq h.shelved rfl).trans h.roster)
    rw [run_setEntryParams found]
    exact dispatch_enrolled quiet (put.told quiet _) id

lemma giveFormat_enrolled (format : Format) (ids : List EntryId) : ∀ {s : Session S O},
    Enrolled r s → Enrolled r (s.run (giveFormat w format ids)).2 := by
  induction ids with
  | nil => exact fun h => h
  | cons id rest ih =>
    intro s h
    rw [giveFormat, run_bind_ok (run_collection? s)]
    split
    · exact ih h
    · exact (setEntryParams_enrolled quiet h _ _).bind fun _ _ after => ih after

lemma setGlobalFormat_enrolled (h : Enrolled r s) (value : Value) :
    Enrolled r (s.run (setGlobalFormat w value)).2 := by
  unfold setGlobalFormat
  split
  · exact h
  · rw [run_bind_ok (run_change s _), run_bind_ok (run_log _ _ _),
      run_bind_ok (run_collection? _)]
    exact giveFormat_enrolled quiet _ _ ⟨h.shelved, h.roster⟩

lemma setParams_enrolled (h : Enrolled r s) (id : EntryId) (source : ParamsSource)
    (quality format : Value) :
    Enrolled r (s.run (setParams w id source quality format)).2 := by
  rw [setParams, run_bind_ok (run_collection? s)]
  split
  · exact h.logged _
  · dsimp only
    split
    · exact h
    · exact (setEntryParams_enrolled quiet h _ _).bind fun _ _ after => after

/-! ## Selecting -/

lemma Enrolled.chosen (h : Enrolled r s) (id : Option EntryId) : Enrolled (r.choose id)
    ((s.withCollection (s.collection.choose id)).told w (.selection id)) := by
  have chosen : Enrolled (r.choose id) (s.withCollection (s.collection.choose id)) :=
    h.of_step w.codec (.chosen s.collection id) (by rw [← h.roster]; rfl)
  exact chosen.told quiet _

lemma setSelection_enrolled (h : Enrolled r s) (id : Option EntryId) :
    Enrolled (r.choose id) (s.run (setSelection w id)).2 := by
  rw [run_setSelection]
  exact h.chosen quiet id

lemma select_enrolled (h : Enrolled r s) (id : EntryId) :
    Enrolled (if id ∈ r.ids then r.choose (some id) else r) (s.run (select w id)).2 := by
  rw [select, run_bind_ok (run_collection? s), Collection.contains, h.selected]
  by_cases mem : id ∈ r.ids
  · rw [if_pos mem, if_neg (by simpa using h.mem_ids.mp mem)]
    by_cases already : r.selected = some id
    · have same : r.choose (some id) = r := by rw [← already]; rfl
      rw [if_neg (not_not.mpr already), same]
      exact h
    · rw [if_pos already]
      exact (setSelection_enrolled quiet h (some id)).bind fun _ _ after => after
  · rw [if_neg mem, if_pos (by simpa using mt h.mem_ids.mpr mem)]
    exact h

lemma resetParams_enrolled (h : Enrolled r s) (id : EntryId) :
    Enrolled (if id ∈ r.ids then r.choose (some id) else r) (s.run (resetParams w id)).2 := by
  cases found : s.collection.get? id with
  | none =>
    rw [run_resetParams_unknown found, if_neg (h.not_mem_of_get? found)]
    exact h
  | some e =>
    obtain ⟨known, present⟩ := Collection.find?_of_get? found
    have set : Collection.Step w.codec s.collection _ _ :=
      .paramsSet ⟨clampQuality s.settings.quality, e.params.format⟩ known
    have put := h.of_step w.codec set ((set.roster_eq h.shelved rfl).trans h.roster)
    rw [run_resetParams found]
    refine (select_enrolled quiet put id).bind fun _ s' selected => ?_
    rw [run_bind_ok (run_emit w _ s')]
    exact (dispatch_enrolled quiet (selected.told quiet _) id).bind fun _ _ after => after

/-! ## Coming and leaving -/

/-- A new member comes in with its job, which is refused if the scheduler accepts none. -/
lemma enter_enrolled (h : Enrolled r s) {name : String} (free : name ∉ r.names)
    (data : ByteArray) : Enrolled (r.enter name) (s.run (add w name data)).2 ∧
      (s.run (add w name data)).1.isOk = r.accepting := by
  obtain ⟨records, same⟩ := run_add (w := w) ((h.name_free name).mpr free) data
  -- The roster between import and selection.
  let inside : Roster :=
    { r with members := r.members ++ [(r.nextId, name)], given := r.given + 1 }
  have member : r.nextId ∈ inside.ids := by
    have split : inside.ids = r.ids ++ [r.nextId] := List.map_append
    rw [split]
    exact List.mem_append_right _ List.mem_cons_self
  have imported : Enrolled inside (s.withCollection (s.collection.insert name data
      (importParams s.settings s.collection)).2) := by
    refine h.of_step w.codec (.imported s.collection name data _) ?_
    rw [Collection.roster_insert h.shelved, h.roster, h.nextId]
  have told := (imported.logged records).told quiet (.about .added s.collection.nextId)
  rw [same, run_bind_ok (run_collection? _), told.selected, h.nextId]
  rw [h.nextId] at told
  cases selected : r.selected with
  | none =>
    have chosen : r.enter name = inside.choose (some r.nextId) := by
      simp [Roster.enter, Roster.choose, inside, selected]
    simp only [Option.isNone_none, if_true]
    rw [chosen, run_bind_ok (run_setSelection _ _)]
    exact dispatch_last quiet (told.chosen quiet (some r.nextId)) member _
  | some id =>
    have kept : r.enter name = inside := by
      simp [Roster.enter, inside, selected]
    simp only [Option.isNone_some, Bool.false_eq_true, if_false]
    rw [kept]
    exact dispatch_last quiet told member _

lemma add_enrolled (h : Enrolled r s) (name : String) (data : ByteArray) :
    Enrolled (r.add name) (s.run (add w name data)).2 := by
  unfold Roster.add
  split
  · rename_i taken
    obtain ⟨e, found⟩ :=
      Option.ne_none_iff_exists'.mp (mt (h.name_free name).mp (not_not.mpr taken))
    rw [run_add_taken found]
    exact h.logged _
  · rename_i free
    exact (enter_enrolled quiet h free data).1

lemma addMany_enrolled (files : List (String × ByteArray)) : ∀ {r : Roster} {s : Session S O},
    Enrolled r s → Enrolled (r.addMany (files.map (·.1))) (s.run (addMany w files)).2 := by
  induction files with
  | nil => exact fun h => h
  | cons file rest ih =>
    intro r s h
    obtain ⟨name, data⟩ := file
    rw [addMany, List.map_cons, Roster.addMany]
    cases image : isImageName name with
    | false => exact ih (h.logged _)
    | true =>
      simp only [Bool.not_true, Bool.false_eq_true, if_false, Bool.false_or, decide_eq_true_eq]
      have others : ∀ {r' : Roster} {s' : Session S O} (id : Option EntryId), Enrolled r' s' →
          Enrolled (r'.addMany (rest.map (·.1))) (s'.run (do
            let others ← addMany w rest
            return id.toList ++ others)).2 := fun _ h' => (ih h').bind fun _ _ after => after
      split
      · rename_i taken
        obtain ⟨e, found⟩ :=
          Option.ne_none_iff_exists'.mp (mt (h.name_free name).mp (not_not.mpr taken))
        rw [run_bind_ok (run_add_taken found data)]
        exact others none (h.logged _)
      · rename_i free
        obtain ⟨entered, ok⟩ := enter_enrolled quiet h free data
        rw [run_bind]
        rcases result : s.run (add w name data) with ⟨failure | id, s'⟩
        · rw [result] at entered ok
          rw [← ok]
          exact entered
        · rw [result] at entered ok
          rw [← ok]
          exact others id entered

lemma remove_enrolled (h : Enrolled r s) (id : EntryId) :
    Enrolled (if id ∈ r.ids then r.strike id else r) (s.run (remove w id)).2 := by
  cases found : s.collection.get? id with
  | none =>
    rw [run_remove_unknown found, if_neg (h.not_mem_of_get? found)]
    exact h
  | some e =>
    obtain ⟨-, present⟩ := Collection.find?_of_get? found
    obtain ⟨records, same⟩ := run_remove (w := w) found
    -- What is left before a new selection.
    let left : Roster := { r with members := r.members.filter (·.1 ≠ id) }
    have removed : Enrolled left (s.withCollection ((s.collection.drop id).destroy e)) := by
      refine h.of_step w.codec (.removed found) ?_
      rw [Collection.roster_removed found, h.roster]
    have told := (removed.logged records).told quiet (.about .removed id)
    rw [same, run_bind_ok (run_collection? _), told.selected, told.ids,
      if_pos (h.mem_ids.mpr present)]
    have heads : r.strike id =
        if r.selected = some id then left.choose left.ids.head? else left := by
      unfold Roster.strike
      split <;> rfl
    rw [heads]
    -- The first that is left is selected if the selected one was removed.
    by_cases mine : r.selected = some id
    · rw [if_pos mine, if_pos mine]
      exact (setSelection_enrolled quiet told _).bind fun _ _ after => after
    · rw [if_neg mine, if_neg mine]
      exact told

lemma clear_enrolled (h : Enrolled r s) : Enrolled r.clear (s.run (clear w)).2 := by
  obtain ⟨records, same⟩ := run_clear (w := w) s
  have cleared : Enrolled r.clear (s.withCollection
      (({ s.collection with ids := [] }.destroyAll s.collection.ids).choose none)) :=
    h.of_step w.codec (.cleared s.collection)
      ((Collection.roster_cleared _).trans (congrArg Roster.clear h.roster))
  rw [same]
  exact (cleared.logged records).told quiet _

lemma close_enrolled (h : Enrolled r s) :
    Enrolled { r.clear with accepting := false } (s.run (Operation.close.perform w)).2 := by
  have cleared := clear_enrolled quiet h
  have shut : Enrolled { r.clear with accepting := false } (s.shutDown w) := by
    refine ⟨cleared.shelved, ?_⟩
    have refuses : ((s.run (clear w)).2.collection.scheduler.shutdown w.codec true).1.accepts =
      false := Scheduler.accepts_shutdown _
    rw [← cleared.roster]
    exact congrArg (Roster.mk _ _ _) refuses
  have drained : Enrolled { r.clear with accepting := false } ((s.shutDown w).run (drain w)).2 :=
    shut.harvest quiet drain_harvests
  rw [run_close]
  exact drained

/-! ## Operations -/

/-- Every operation does to the roster what it does on rosters. -/
theorem perform_enrolled (h : Enrolled r s) (op : Operation) :
    Enrolled (r.perform op) (s.run (op.perform w)).2 := by
  cases op with
  | add name data =>
    rw [Operation.perform, run_map]
    exact add_enrolled quiet h name data
  | addMany files =>
    rw [Operation.perform, run_map]
    exact addMany_enrolled quiet files h
  | remove id =>
    rw [Operation.perform, run_map]
    exact remove_enrolled quiet h id
  | clear => exact (clear_enrolled quiet h).bind fun _ _ after => after
  | select id =>
    rw [Operation.perform, run_map]
    exact select_enrolled quiet h id
  | setParams id source quality format =>
    rw [Operation.perform, run_map]
    exact setParams_enrolled quiet h id source quality format
  | setGlobalFormat value =>
    exact (setGlobalFormat_enrolled quiet h value).bind fun _ _ after => after
  | resetParams id =>
    rw [Operation.perform, run_map]
    exact resetParams_enrolled quiet h id
  | drain | waitIdle | runJob | runJobs => exact h.harvest quiet (Operation.perform_harvests rfl)
  | close => exact close_enrolled quiet h
  | setPreviewMode showSource => exact ⟨h.shelved, h.roster⟩
  | subscribe tag => exact ⟨h.shelved, h.roster⟩
  | unsubscribe tag => exact ⟨h.shelved, h.roster⟩
  | cancelJob number =>
    have st : Collection.Step w.codec s.collection _ _ := .cancelled s.collection number
    exact h.of_step w.codec st ((st.roster_eq h.shelved rfl).trans h.roster)
  | shutExecutor =>
    refine ⟨h.shelved, ?_⟩
    rw [← h.roster]
    exact congrArg (Roster.mk _ _ _) (Bool.and_false _)

/-- Operations do to the roster what they do on rosters, one after the other. -/
theorem after_enrolled (ops : List Operation) (h : Enrolled r s) :
    Enrolled (ops.foldl Roster.perform r) (s.after w ops) := by
  induction ops generalizing r s with
  | nil => exact h
  | cons op rest ih => exact ih (perform_enrolled quiet h op)

end Acts

lemma Enrolled.of_create {settings : Settings} {workers : Option Int} {format : Value}
    {pace : Pace} {s : Session S O}
    (made : Collection.create settings workers format pace = .ok s.collection) :
    Enrolled .initial s := by
  obtain ⟨n, f, fresh⟩ := Collection.create_eq_ok made
  exact ⟨.of_create made, by rw [fresh]; rfl⟩

end Session

/-! ## Consistent collections -/

namespace Collection

variable {c : Collection S}

/-- A collection whose selection, names, ids and order are as they should be: nothing is selected
exactly if there is nothing, what is selected is an entry, no two entries have one name or one id,
and they come in the order in which they were imported. -/
structure Consistent (c : Collection S) : Prop where
  unselected : c.selected = none ↔ c.entries = []
  selected : ∀ id, c.selected = some id → ∃ e ∈ c.entries, e.id = id
  names : (c.entries.map Entry.name).Nodup
  ids : (c.entries.map Entry.id).Nodup
  order : c.entries.Sublist c.shelf

/-- A snapshot that shows a collection as it is: all entries in order, the selected one marked and
no other. -/
structure Pictured (c : Collection S) (p : CollectionSnapshot) : Prop where
  shown : p.entries.map (·.id) = c.entries.map Entry.id
  selected : p.selected = c.selected
  marked : (p.entries.filter (·.selected)).map (·.id) = c.selected.toList
  total : p.total = c.entries.length
  ready : p.ready = c.entries.countP Entry.hasOutput
  sourceTotal : p.sourceTotal = (((c.entries.map Entry.sourceSize).sum : Nat) : Int)
  outputTotal : p.outputTotal =
    ((((c.entries.filter Entry.hasOutput).map Entry.outputSize).sum : Nat) : Int)

lemma Consistent.of_sound (shelved : Shelved c.ids c.shelf) (sound : c.roster.Sound) :
    c.Consistent where
  unselected := by
    have members : c.roster.members = [] ↔ c.entries = [] := List.map_eq_nil_iff
    exact sound.unselected.trans members
  selected := by
    intro id selected
    have alive := sound.present id selected
    rw [ids_roster shelved] at alive
    obtain ⟨e, onShelf, rfl⟩ := shelved.exists_of_mem_alive alive
    exact ⟨e, shelved.mem_entries.mpr ⟨onShelf, alive⟩, rfl⟩
  names := c.names_roster ▸ sound.names
  ids := shelved.ids_entries ▸ shelved.nodup_alive
  order := entries_sublist shelved

lemma foldl_add_eq_sum {α : Type} (size : α → Nat) (xs : List α) :
    (xs.map fun x => (size x : Int)).foldl (· + ·) 0 = (((xs.map size).sum : Nat) : Int) := by
  rw [← List.sum_eq_foldl]
  induction xs with
  | nil => rfl
  | cons x rest ih => simp only [List.map_cons, List.sum_cons, ih, Int.natCast_add]

/-- A snapshot shows the collection as it is. -/
lemma Consistent.pictured (h : c.Consistent) : c.Pictured c.snapshot where
  shown := by
    rw [snapshot, List.map_map]
    rfl
  selected := rfl
  marked := by
    have chosen : (c.snapshot.entries.filter (·.selected)).map (·.id) =
        (c.entries.map Entry.id).filter fun id => decide (some id = c.selected) := by
      rw [snapshot, List.filter_map, List.map_map, List.filter_map]
      rfl
    rw [chosen]
    -- The selected id is that of exactly one entry.
    cases selected : c.selected with
    | none => simp
    | some id =>
      obtain ⟨e, mem, rfl⟩ := h.selected id selected
      have once := List.count_eq_one_of_mem h.ids (List.mem_map_of_mem mem)
      simp only [Option.some.injEq, List.filter_eq, once]
      rfl
  total := List.length_map _
  ready := by
    rw [CollectionSnapshot.ready, CollectionSnapshot.readyEntries, ← List.countP_eq_length_filter,
      snapshot, List.countP_map]
    rfl
  sourceTotal := by
    rw [CollectionSnapshot.sourceTotal, snapshot, List.map_map]
    exact foldl_add_eq_sum Entry.sourceSize c.entries
  outputTotal := by
    rw [CollectionSnapshot.outputTotal, CollectionSnapshot.readyEntries, snapshot,
      List.filter_map, List.map_map]
    exact foldl_add_eq_sum Entry.outputSize (c.entries.filter Entry.hasOutput)

end Collection

/-- **Who is in a collection.**  After any operations, be it that they failed, and whatever failing
observers that do not call back heard of them: the selection is empty exactly if the collection is,
and an entry of it otherwise; names and ids are distinct; and entries come in the order in which
they were imported.  The roster is the one that the operations lead to on rosters.  From there a
name that is taken changes nothing about it, and a new name comes last, under an id that no entry
ever had; and removing an entry leaves the others in order, and selects the oldest of them if it was
selected itself, or nothing if there is none.  A snapshot shows all of this as it is. -/
theorem membership_is_kept (quiet : w.Quiet) {settings : Settings} {workers : Option Int}
    {format : Value} {pace : Pace} {start : Collection S}
    (made : Collection.create settings workers format pace = .ok start)
    {s : Session S O} (began : s.collection = start) (ops : List Operation) {s' : Session S O}
    (reached : s' = s.after w ops) :
    s'.collection.Consistent ∧ s'.collection.Pictured s'.collection.snapshot ∧
    s'.collection.roster = ops.foldl Roster.perform .initial ∧
    (∀ name data, ∀ c, c = (s'.run ((Operation.add name data).perform w)).2.collection →
      (name ∈ s'.collection.entries.map Entry.name → c.roster = s'.collection.roster) ∧
      (name ∉ s'.collection.entries.map Entry.name →
        c.entries.map Entry.member =
            s'.collection.entries.map Entry.member ++ [(s'.collection.nextId, name)] ∧
          ∀ e ∈ s'.collection.shelf, e.id ≠ s'.collection.nextId)) ∧
    ∀ e ∈ s'.collection.entries, ∀ c, c = (s'.run ((Operation.remove e.id).perform w)).2.collection →
      c.entries.map Entry.member =
          (s'.collection.entries.filter (·.id ≠ e.id)).map Entry.member ∧
        c.selected = if s'.collection.selected = some e.id then c.entries.head?.map Entry.id
          else s'.collection.selected := by
  subst began reached
  -- The roster is run beside the session; all that is claimed is then read off it.
  have enrolled := Session.after_enrolled quiet ops (Session.Enrolled.of_create made)
  have sound := Roster.Sound.foldl ops .initial
  generalize ops.foldl Roster.perform .initial = r at enrolled sound ⊢
  generalize s.after w ops = s' at enrolled ⊢
  have consistent := Collection.Consistent.of_sound enrolled.shelved (enrolled.roster ▸ sound)
  have members : s'.collection.entries.map Entry.member = r.members :=
    congrArg Roster.members enrolled.roster
  have names : s'.collection.entries.map Entry.name = r.names := by
    rw [← enrolled.roster, Collection.names_roster]
  refine ⟨consistent, consistent.pictured, enrolled.roster, ?_, ?_⟩
  · rintro name data c rfl
    have added : _ = r.add name :=
      (Session.perform_enrolled quiet enrolled (.add name data)).roster
    rw [names, members, enrolled.nextId]
    constructor
    · intro taken
      rw [added, Roster.add, if_pos taken, enrolled.roster]
    · intro free
      rw [Roster.add, if_neg free] at added
      refine ⟨congrArg Roster.members added, fun e onShelf same => ?_⟩
      have used : s'.collection.nextId ∈ s'.collection.shelf.map Entry.id :=
        enrolled.nextId ▸ same ▸ List.mem_map_of_mem onShelf
      exact enrolled.shelved.next_not_mem used
  · rintro e mem c rfl
    have member : e.id ∈ r.ids :=
      enrolled.mem_ids.mpr (enrolled.shelved.mem_entries.mp mem).2
    have removed : _ = if e.id ∈ r.ids then r.strike e.id else r :=
      (Session.perform_enrolled quiet enrolled (.remove e.id)).roster
    rw [if_pos member] at removed
    have left := congrArg Roster.members removed
    refine ⟨?_, ?_⟩
    · refine left.trans ?_
      rw [Roster.strike, ← members, List.filter_map]
      rfl
    · have selected := congrArg Roster.selected removed
      refine selected.trans ?_
      have oldest : (s'.run ((Operation.remove e.id).perform w)).2.collection.entries.head?.map
          Entry.id = ((r.strike e.id).members.map (·.1)).head? := by
        rw [← left, Collection.roster, List.map_map, List.head?_map]
        rfl
      rw [oldest, enrolled.selected]
      rfl

/-- Of three images the first is selected; it is removed, so the second is selected, and imported
again under a new id while the scheduler refuses its job, which fails. -/
theorem membership_is_kept_of_readded :
    let start : Collection ByteArray := .empty (.initial 4 .onDemand .empty) .jpeg
    let w : Surroundings ByteArray (List (ObserverTag × Event)) := .noting .verbatim fun _ => true
    let ops : List Operation := [.subscribe ⟨"log"⟩, .add "a.png" ⟨#[1, 2]⟩, .add "b.png" ⟨#[]⟩,
      .add "c.png" ⟨#[3]⟩, .add "b.png" ⟨#[4]⟩, .remove (.nth 1), .shutExecutor,
      .add "a.png" ⟨#[1, 2]⟩]
    let c := ((Session.fresh start []).after w ops).collection
    c.roster = ⟨[(.nth 2, "b.png"), (.nth 3, "c.png"), (.nth 4, "a.png")], some (.nth 2), 4, false⟩ ∧
      c.Consistent ∧ c.Pictured c.snapshot := by
  intro start w ops c
  have made : Collection.create Settings.default none .null .onDemand = .ok start := rfl
  have kept :=
    membership_is_kept (Surroundings.noting_hears Codec.verbatim fun _ => true).quiet made
    (s := Session.fresh start []) rfl ops rfl
  exact ⟨by decide +kernel, kept.1, kept.2.1⟩

end Reencode
