import Reencode.Proofs.Session.Path

/-!
# What operations do

The path of every operation, act by act.  Dispatching a job is a single deed, which settles what is
owed for its entry (`dispatch_leads`); every other act that an operation consists of keeps the books
(`Keeps`), many because they do nothing but get work done (`Harvests`).
-/

namespace Reencode

variable {S O : Type} {w : Surroundings S O}

namespace Session

/-! ## Selecting -/

@[simp] lemma run_setSelection (s : Session S O) (id : Option EntryId) :
    s.run (setSelection w id) =
      (.ok (), (s.withCollection (s.collection.choose id)).told w (.selection id)) := by
  simp [setSelection, run_bind]

lemma setSelection_leads (s : Session S O) (id : Option EntryId) :
    Leads w s (setSelection w id) fun r ds => (∃ x, r = .ok x) ∧ Tidy Deed.isOrdinary [] ds := by
  have path := (Path.start (w := w) (s := s)).told (.chosen s.collection id) [] rfl
  refine ⟨[.chosen id], ?_, ⟨(), ?_⟩, .neutral (fun _ => rfl) ⟨rfl, rfl, rfl⟩⟩
  · simpa using path
  · simp

/-- Selecting never fails. -/
lemma select_leads (s : Session S O) (id : EntryId) :
    Leads w s (select w id) fun r ds => (∃ b, r = .ok b) ∧ Tidy Deed.isOrdinary [] ds := by
  refine Leads.of_run_eq (run_bind_ok (run_collection? s) _) .start ?_
  split
  · exact ⟨[], .start, ⟨_, rfl⟩, .nil⟩
  · split
    · refine (setSelection_leads s (some id)).bind ?_ ?_
      · rintro _ s' ds - - ⟨-, tidy⟩
        exact ⟨[], .start, ⟨_, rfl⟩, by simpa using tidy⟩
      · rintro _ _ ⟨⟨_, failed⟩, -⟩
        cases failed
    · exact ⟨[], .start, ⟨_, rfl⟩, .nil⟩

/-! ## Dispatching -/

/-- Dispatching hands over the entry's next job, and fails if the scheduler refuses it. -/
lemma run_dispatch {s : Session S O} {e : Entry} (found : s.collection.find? e.id = some e) :
    s.run (dispatch w e.id) = ((s.collection.scheduler.submit w.codec e.request).1,
      (s.withCollection { s.collection.setEntry e.advance with
        scheduler := (s.collection.scheduler.submit w.codec e.request).2.1 }).logged
        (s.collection.scheduler.submit w.codec e.request).2.2) := by
  simp only [dispatch, run_bind, run_collection?, found, run_change, run_logAll, run_lift]
  rfl

lemma run_dispatch_unknown {s : Session S O} {id : EntryId}
    (unknown : s.collection.find? id = none) : s.run (dispatch w id) = (.ok (), s) := by
  simp [dispatch, run_bind, unknown]

/-- Dispatching is one deed, whatever comes of it. -/
lemma dispatch_leads (s : Session S O) (id : EntryId) :
    Leads w s (dispatch w id) fun _ ds => ∃ d, ds = [d] ∧ d.pays id := by
  cases found : s.collection.find? id with
  | none =>
    refine ⟨[.skipped id], ?_, _, rfl, rfl⟩
    rw [run_dispatch_unknown found]
    exact (Path.start (w := w) (s := s)).silent (.skipped found) rfl
  | some e =>
    obtain rfl := Collection.id_of_find? found
    rw [Leads, run_dispatch found]
    by_cases accepted : (s.collection.scheduler.submit w.codec e.request).1 = .ok ()
    · exact ⟨_, (Path.start.silent (.dispatched found accepted) rfl).log _, _, rfl, rfl⟩
    · exact ⟨_, (Path.start.silent (.refused found accepted) rfl).log _, _, rfl, rfl⟩

/-- Dispatching settles what is owed for the entry. -/
lemma dispatch_settles (s : Session S O) {id : EntryId} {ds : List Deed}
    (tidy : Tidy Deed.isOrdinary [id] ds) :
    Leads w s (dispatch w id) fun _ es => Tidy Deed.isOrdinary [] (ds ++ es) := by
  refine (dispatch_leads s id).mono ?_
  rintro _ _ ⟨d, rfl, pays⟩
  exact tidy.pay pays pays.isOrdinary

/-- What is owed may be settled after something else that succeeds. -/
lemma Leads.bind_owing {α β : Type} {s : Session S O} {a : Act S O α} {f : α → Act S O β}
    {id : EntryId} {ds : List Deed}
    (first : Leads w s a fun r es => (∃ x, r = .ok x) ∧ Tidy Deed.isOrdinary [] es)
    (owed : Tidy Deed.isOrdinary [id] ds)
    (then_ : ∀ x s' es, Tidy Deed.isOrdinary [id] es →
      Leads w s' (f x) fun _ fs => Tidy Deed.isOrdinary [] (es ++ fs)) :
    Leads w s (a >>= f) fun _ es => Tidy Deed.isOrdinary [] (ds ++ es) := by
  refine first.bind ?_ ?_
  · rintro x s' es - - ⟨-, tidy⟩
    simpa using then_ x s' (ds ++ es) (owed.append tidy)
  · rintro _ _ ⟨⟨_, failed⟩, -⟩
    cases failed

lemma run_setEntryParams {s : Session S O} {id : EntryId} {e : Entry}
    (found : s.collection.find? id = some e) (params : Params) :
    s.run (setEntryParams w id params) =
      ((s.withCollection (s.collection.setEntry { e with params })).told w
        (.about .paramsChanged id)).run (dispatch w id) := by
  simp [setEntryParams, run_bind, found]

lemma run_setEntryParams_unknown {s : Session S O} {id : EntryId}
    (unknown : s.collection.find? id = none) (params : Params) :
    s.run (setEntryParams w id params) =
      (s.told w (.about .paramsChanged id)).run (dispatch w id) := by
  simp [setEntryParams, run_bind, unknown]

/-- An entry that gets parameters gets a job for them. -/
lemma setEntryParams_keeps (id : EntryId) (params : Params) :
    Keeps w (setEntryParams w id params : Act S O Unit) := by
  intro s
  have announced : Tidy Deed.isOrdinary [] [.announced id] :=
    .neutral (fun _ => rfl) ⟨rfl, rfl, rfl⟩
  -- An unknown entry is told of all the same; a known one owes a job from when its parameters are
  -- set until it is dispatched.
  cases found : s.collection.find? id with
  | none =>
    have path := (Path.start (w := w) (s := s)).told (.announced s.collection id) [] rfl
    have owed : Tidy Deed.isOrdinary [id] [.announced id] := announced.weaken
    refine Leads.of_run_eq ?_ path (dispatch_settles _ owed)
    simp [run_setEntryParams_unknown found]
  | some e =>
    have path := ((Path.start (w := w) (s := s)).silent (.paramsSet params found) rfl).told
      (.announced _ id) [] rfl
    have owed : Tidy Deed.isOrdinary [id] [.paramsSet id] := .debt (fun _ => rfl) ⟨rfl, rfl, rfl⟩
    refine Leads.of_run_eq ?_ path (dispatch_settles _ (owed.append announced))
    simp [run_setEntryParams found]

/-! ## Importing and removing -/

lemma run_add_taken {s : Session S O} {name : String} {e : Entry}
    (taken : s.collection.findByName name = some e) (data : ByteArray) :
    s.run (add w name data) = (.ok none, s.logged [⟨.debug, Message.duplicateName name⟩]) := by
  simp [add, run_bind, run_map, Except.map, taken]

/-- A new entry is told of, selected if nothing is, and gets its first job. -/
lemma run_add {s : Session S O} {name : String} (free : s.collection.findByName name = none)
    (data : ByteArray) : ∃ records, s.run (add w name data) =
      (((s.withCollection (s.collection.insert name data
        (importParams s.settings s.collection)).2).logged records).told w
          (.about .added s.collection.nextId)).run (do
            if (← collection?).selected.isNone then setSelection w (some s.collection.nextId)
            dispatch w s.collection.nextId
            return some s.collection.nextId) := by
  refine ⟨[⟨.debug, "导入图片: " ++ name ++ " (" ++ s.collection.nextId.text ++ ", " ++
    toString data.size ++ " bytes)"⟩], ?_⟩
  simp only [add, run_bind, run_collection?, run_get, run_change, run_log, run_emit, free,
    Option.isSome_none, Bool.false_eq_true, if_false]
  rfl

lemma add_keeps (name : String) (data : ByteArray) :
    Keeps w (add w name data : Act S O (Option EntryId)) := by
  intro s
  cases taken : s.collection.findByName name with
  | some e =>
    refine ⟨[], ?_, .nil⟩
    rw [run_add_taken taken]
    exact Path.start.log _
  | none =>
    obtain ⟨records, same⟩ := run_add (w := w) taken data
    have path := (Path.start (w := w) (s := s)).told
      (.imported s.collection name data (importParams s.settings s.collection)) records rfl
    have owed : Tidy Deed.isOrdinary [s.collection.nextId] [.imported s.collection.nextId] :=
      .debt (fun _ => rfl) ⟨rfl, rfl, rfl⟩
    have last : ∀ (s' : Session S O) (ds : List Deed),
        Tidy Deed.isOrdinary [s.collection.nextId] ds →
        Leads w s' (do dispatch w s.collection.nextId; return some s.collection.nextId)
          fun _ es => Tidy Deed.isOrdinary [] (ds ++ es) := by
      intro s' ds tidy
      refine (dispatch_settles s' tidy).bind (fun _ _ es _ _ settled => ?_)
        fun _ _ settled => settled
      exact ⟨[], .start, by simpa using settled⟩
    refine Leads.of_run_eq same path (Leads.of_run_eq (run_bind_ok (run_collection? _) _) .start ?_)
    -- With or without the selection in between, the debt of the import is paid at the end.
    split
    · exact (setSelection_leads _ _).bind_owing owed fun _ => last
    · exact last _ _ owed

lemma addMany_keeps (files : List (String × ByteArray)) :
    Keeps w (addMany w files : Act S O (List EntryId)) := by
  induction files with
  | nil => exact .pure _
  | cons file rest ih =>
    simp only [addMany]
    split
    · exact (Keeps.log _ _).bind fun _ => ih
    · exact (add_keeps _ _).bind fun _ => ih.bind fun _ => .pure _

lemma run_remove_unknown {s : Session S O} {id : EntryId} (unknown : s.collection.get? id = none) :
    s.run (remove w id) = (.ok false, s) := by
  simp [remove, run_bind, unknown]

/-- A removed entry is told of, and the oldest entry left takes over the selection. -/
lemma run_remove {s : Session S O} {id : EntryId} {e : Entry}
    (found : s.collection.get? id = some e) : ∃ records, s.run (remove w id) =
      (((s.withCollection ((s.collection.drop id).destroy e)).logged records).told w
        (.about .removed id)).run (do
          let c ← collection?
          if c.selected = some id then setSelection w c.ids.head?
          return true) := by
  refine ⟨[⟨.debug, "移除图片: " ++ e.name ++ " (" ++ id.text ++ ")"⟩], ?_⟩
  simp only [remove, run_bind, run_collection?, run_change, run_log, run_emit, found]

lemma remove_keeps (id : EntryId) : Keeps w (remove w id : Act S O Bool) := by
  intro s
  cases found : s.collection.get? id with
  | none =>
    refine ⟨[], ?_, .nil⟩
    rw [run_remove_unknown found]
    exact .start
  | some e =>
    obtain ⟨records, same⟩ := run_remove (w := w) found
    have path := (Path.start (w := w) (s := s)).told (.removed found) records rfl
    have removed : Tidy Deed.isOrdinary [] [.removed id] := .neutral (fun _ => rfl) ⟨rfl, rfl, rfl⟩
    refine Leads.of_run_eq same path (Leads.of_run_eq (run_bind_ok (run_collection? _) _) .start ?_)
    split
    · refine (setSelection_leads _ _).bind ?_ ?_
      · rintro _ s' es - - ⟨-, tidy⟩
        exact ⟨[], .start, by simpa using removed.append tidy⟩
      · rintro _ _ ⟨⟨_, failed⟩, -⟩
        cases failed
    · exact ⟨[], .start, by simpa using removed⟩

/-- Removing all entries is one deed, and never fails. -/
lemma run_clear (s : Session S O) : ∃ records, s.run (clear w) =
    (.ok (), ((s.withCollection (({ s.collection with ids := [] }.destroyAll
      s.collection.ids).choose none)).logged records).told w .cleared) := by
  refine ⟨[⟨.debug, "清空集合，共释放 " ++ toString s.collection.ids.length ++ " 张图片"⟩], ?_⟩
  simp [clear, run_bind]

lemma clear_keeps : Keeps w (clear w : Act S O Unit) := by
  intro s
  obtain ⟨records, same⟩ := run_clear (w := w) s
  have path := (Path.start (w := w) (s := s)).told (.cleared s.collection) records rfl
  refine ⟨[.cleared], ?_, .neutral (fun _ => rfl) ⟨rfl, rfl, rfl⟩⟩
  rw [same]
  exact path

/-! ## Parameters -/

lemma setParams_keeps (id : EntryId) (source : ParamsSource) (quality format : Value) :
    Keeps w (setParams w id source quality format : Act S O Bool) := by
  refine Keeps.collection?.bind fun c => ?_
  cases c.get? id with
  | none => exact (Keeps.log _ _).bind fun _ => .pure _
  | some e =>
    dsimp only
    split
    · exact .throw _
    · exact (setEntryParams_keeps id _).bind fun _ => .pure _

lemma giveFormat_keeps (format : Format) (ids : List EntryId) :
    Keeps w (giveFormat w format ids : Act S O Unit) := by
  induction ids with
  | nil => exact .pure _
  | cons id rest ih =>
    refine Keeps.collection?.bind fun c => ?_
    cases c.find? id with
    | none => exact ih
    | some e => exact (setEntryParams_keeps id _).bind fun _ => ih

lemma setGlobalFormat_keeps (value : Value) :
    Keeps w (setGlobalFormat w value : Act S O Unit) := by
  unfold setGlobalFormat
  cases Format.read value with
  | error e => exact .throw _
  | ok format =>
    have formatSet : Keeps w (change fun c => { c with globalFormat := format } : Act S O Unit) :=
      fun s => ⟨[.formatSet format], Path.start.silent (.formatSet s.collection format) rfl,
        .neutral (fun _ => rfl) ⟨rfl, rfl, rfl⟩⟩
    exact formatSet.bind fun _ => (Keeps.log _ _).bind fun _ => Keeps.collection?.bind fun c =>
      giveFormat_keeps format c.ids

lemma run_resetParams_unknown {s : Session S O} {id : EntryId}
    (unknown : s.collection.get? id = none) : s.run (resetParams w id) = (.ok false, s) := by
  simp [resetParams, run_bind, unknown]

/-- Resetting gives an entry the default quality, selects it, and dispatches a job. -/
lemma run_resetParams {s : Session S O} {id : EntryId} {e : Entry}
    (found : s.collection.get? id = some e) : s.run (resetParams w id) =
      (s.withCollection (s.collection.setEntry
        { e with params := ⟨clampQuality s.settings.quality, e.params.format⟩ })).run (do
          let _ ← select w id
          emit w (.about .paramsChanged id)
          dispatch w id
          return true) := by
  simp only [resetParams, run_bind, run_collection?, run_get, run_change, found]

lemma resetParams_keeps (id : EntryId) : Keeps w (resetParams w id : Act S O Bool) := by
  intro s
  cases found : s.collection.get? id with
  | none =>
    refine ⟨[], ?_, .nil⟩
    rw [run_resetParams_unknown found]
    exact .start
  | some e =>
    have known := (Collection.find?_of_get? found).1
    have path := (Path.start (w := w) (s := s)).silent
      (.paramsSet ⟨clampQuality s.settings.quality, e.params.format⟩ known) rfl
    have owed : Tidy Deed.isOrdinary [id] [.paramsSet id] := .debt (fun _ => rfl) ⟨rfl, rfl, rfl⟩
    refine Leads.of_run_eq (run_resetParams found) path ?_
    refine (select_leads _ _).bind_owing owed fun _ s' es owed' => ?_
    have announced : Tidy Deed.isOrdinary [] [.announced id] :=
      .neutral (fun _ => rfl) ⟨rfl, rfl, rfl⟩
    have path' := (Path.start (w := w) (s := s')).told (.announced s'.collection id) [] rfl
    refine Leads.of_run_eq (run_bind_ok (run_emit w _ s') _) (by simpa using path') ?_
    refine (dispatch_settles _ (owed'.append announced)).bind ?_ ?_
    · intro _ _ fs _ _ settled
      exact ⟨[], .start, by simpa using settled⟩
    · intro _ fs settled
      simpa using settled

/-! ## Taking over outcomes -/

/-- What taking over an outcome does, from before it is taken out of the mailbox. -/
def Drains (w : Surroundings S O) (s : Session S O) (r : Except Failure Bool) (s' : Session S O) :
    Prop :=
  ∃ d, Path w s [d] s' ∧ d.isDraining ∧ ∀ b, r = .ok b → d.event?.isSome = b

lemma drains_of_ignored {s : Session S O} {o : Outcome} {rest : Scheduler S}
    (taken : s.collection.scheduler.take = some (o, rest)) (ignored : s.collection.Ignores o)
    (records : List LogRecord) {r : Except Failure Bool} (refused : ∀ b, r = .ok b → b = false) :
    Drains w s r ((s.withScheduler rest).logged records) := by
  refine ⟨.dropped o, (Path.start.silent (.dropped taken ignored) rfl).log records, rfl, ?_⟩
  intro b ok
  rw [refused b ok]
  rfl

/-- Taking over an outcome is one deed. -/
theorem apply_drains {s : Session S O} {o : Outcome} {rest : Scheduler S}
    (taken : s.collection.scheduler.take = some (o, rest)) :
    Drains w s ((s.withScheduler rest).run (apply w o)).1
      ((s.withScheduler rest).run (apply w o)).2 := by
  -- While an outcome is applied, its entry is looked up in what the collection was before it was
  -- taken.
  have same : (s.withScheduler rest).collection.get? o.entry = s.collection.get? o.entry := rfl
  cases found : s.collection.get? o.entry with
  | none =>
    have ignored : s.collection.Ignores o := by
      intro e found'
      rw [found] at found'
      cases found'
    simp only [apply, run_bind, run_collection?, same, found, run_log, run_pure]
    exact drains_of_ignored taken ignored _ (by simp)
  | some e =>
    cases payload : o.payload with
    | nothing =>
      have ignored := Collection.Ignores.of_get? found (by rw [payload]; trivial)
      simp only [apply, run_bind, run_collection?, same, found, payload, dropStale, run_log,
        run_pure]
      exact drains_of_ignored taken ignored _ (by simp)
    | fault f =>
      cases recorded : e.recordFault f with
      | none =>
        have ignored := Collection.Ignores.of_get? found (by rw [payload]; exact recorded)
        simp only [apply, applyFault, run_bind, run_collection?, same, found, payload, recorded,
          dropStale, run_log, run_pure]
        exact drains_of_ignored taken ignored _ (by simp)
      | some e' =>
        have named : e'.id = o.entry := by
          have old : e.id = o.entry := Collection.id_of_find? (Collection.find?_of_get? found).1
          obtain ⟨-, -, rfl⟩ := Entry.recordFault_eq_some recorded
          exact old
        have tells : (Deed.applied o).event? = some (.failed e'.id f) := by
          simp [Deed.event?, payload, named]
        simp only [apply, applyFault, run_bind, run_collection?, same, found, payload, recorded,
          run_change, run_log, run_emit, run_pure]
        exact ⟨.applied o, Path.start.told (.faulted taken found payload recorded) _ tells, rfl,
          by simp [tells]⟩
    | data data =>
      cases replaced : e.applyOutput s.collection.registry o.token data (some o.params) with
      | error failure =>
        have ignored := Collection.Ignores.of_get? found (by rw [payload]; simp [replaced])
        simp only [apply, applyData, run_bind, run_collection?, same, found, payload, run_lift,
          registry_withScheduler, replaced]
        exact logged_nil (s.withScheduler rest) ▸ drains_of_ignored taken ignored [] (by simp)
      | ok result =>
        cases result with
        | none =>
          have ignored := Collection.Ignores.of_get? found (by rw [payload]; simp [replaced])
          simp only [apply, applyData, run_bind, run_collection?, same, found, payload, run_lift,
            registry_withScheduler, replaced, dropStale, run_log, run_pure]
          exact drains_of_ignored taken ignored _ (by simp)
        | some made =>
          obtain ⟨e', r⟩ := made
          have named : e'.id = o.entry := by
            have old : e.id = o.entry := Collection.id_of_find? (Collection.find?_of_get? found).1
            obtain ⟨-, -, handle, -, rfl⟩ := Entry.applyOutput_eq_some replaced
            exact old
          have tells : (Deed.applied o).event? = some (.about .outputUpdated e'.id) := by
            simp [Deed.event?, payload, named]
          simp only [apply, applyData, run_bind, run_collection?, same, found, payload, run_lift,
            registry_withScheduler, replaced, run_change, run_log, run_emit, run_pure]
          exact ⟨.applied o, Path.start.told (.updated taken found payload replaced) _ tells, rfl,
            by simp [tells]⟩

lemma run_drainUpTo {s : Session S O} {o : Outcome} {rest : Scheduler S}
    (taken : s.collection.scheduler.take = some (o, rest)) (limit : Nat) :
    s.run (drainUpTo w (limit + 1)) = (s.withScheduler rest).run (do
      let counted ← apply w o
      let others ← drainUpTo w limit
      return (if counted then 1 else 0) + others) := by
  simp only [drainUpTo, run_bind, run_collection?, taken, run_change]
  rfl

/-- Draining is nothing but taking outcomes over; it gives the number of those told of. -/
theorem drainUpTo_leads (limit : Nat) : ∀ s : Session S O,
    Leads w s (drainUpTo w limit) fun r ds => (∀ d ∈ ds, d.isDraining) ∧
      ∀ n, r = .ok n → n = (eventsOf ds).length := by
  -- Induction on how many outcomes are taken at most; a failure ends the turn with what was applied
  -- so far.
  induction limit with
  | zero =>
    intro s
    refine ⟨[], .start, by simp, ?_⟩
    intro n ok
    cases ok
    rfl
  | succ limit ih =>
    intro s
    cases taken : s.collection.scheduler.take with
    | none =>
      have same : s.run (drainUpTo w (limit + 1)) = (.ok 0, s) := by
        simp [drainUpTo, run_bind, taken]
      refine ⟨[], ?_, by simp, ?_⟩
      · rw [same]
        exact .start
      · intro n ok
        rw [same] at ok
        cases ok
        rfl
    | some next =>
      obtain ⟨o, rest⟩ := next
      obtain ⟨d, path, draining, counts⟩ := apply_drains (w := w) taken
      have unrolled := run_drainUpTo (w := w) taken limit
      rcases result : (s.withScheduler rest).run (apply w o) with ⟨failure | counted, s'⟩
      · have ends : s.run (drainUpTo w (limit + 1)) = (.error failure, s') := by
          rw [unrolled, run_bind, result]
        rw [result] at path
        rw [Leads, ends]
        exact ⟨[d], path, by simpa using draining, by simp⟩
      · rw [result] at path counts
        refine Leads.of_run_eq (unrolled.trans (run_bind_ok result _)) path ?_
        -- What is counted are the outcomes that were told, one event each.
        refine (ih s').map (g := fun others => (if counted then 1 else 0) + others) ?_
        rintro r es ⟨rest_draining, rest_counts⟩
        refine ⟨by simpa [draining] using rest_draining, ?_⟩
        intro n ok
        cases r with
        | error failure => cases ok
        | ok others =>
          obtain rfl := Except.ok.inj ok
          rw [eventsOf_append, eventsOf_singleton, List.length_append, rest_counts others rfl,
            ← counts counted rfl]
          cases d.event? <;> simp

lemma drain_leads (s : Session S O) :
    Leads w s (drain w) fun r ds => (∀ d ∈ ds, d.isDraining) ∧
      ∀ n, r = .ok n → n = (eventsOf ds).length :=
  .of_run_eq (run_bind_ok (run_collection? s) _) .start (drainUpTo_leads _ s)

lemma drain_harvests : Harvests w (drain w : Act S O Nat) := by
  intro s
  refine (drain_leads s).mono ?_
  rintro _ ds ⟨draining, -⟩ d mem
  exact Deed.isHarvest_of_isDraining (draining d mem)

/-! ## The executor -/

lemma runAll_path (numbers : List Nat) : ∀ s : Session S O,
    Path w s (numbers.map .ran)
      (s.withScheduler (s.collection.scheduler.runAll w.codec numbers).1) := by
  induction numbers with
  | nil => exact fun s => .start
  | cons k rest ih =>
    intro s
    have first := (Path.start (w := w) (s := s)).silent (.ran s.collection k) rfl
    exact first.trans (ih _)

lemma ran_harvest (numbers : List Nat) : ∀ d ∈ numbers.map Deed.ran, d.isHarvest = true := by
  intro d mem
  obtain ⟨k, -, rfl⟩ := List.mem_map.mp mem
  rfl

lemma runJobs_harvests (numbers : List Nat) : Harvests w (runJobs w numbers : Act S O Unit) :=
  fun s => ⟨_, (runAll_path numbers s).log _, ran_harvest numbers⟩

lemma run_letWork (s : Session S O) : s.run (letWork w) =
    (.ok (), (s.withScheduler (s.collection.scheduler.advance w.codec).1).logged
      (s.collection.scheduler.advance w.codec).2) := rfl

lemma letWork_harvests : Harvests w (letWork w : Act S O Unit) := by
  intro s
  rw [Leads, run_letWork]
  unfold Scheduler.advance
  split
  · exact ⟨_, (runAll_path _ s).log _, ran_harvest _⟩
  · exact ⟨[], Path.start.log [], by simp⟩

/-! ## Waiting and closing -/

lemma waitTurns_harvests (turns : Nat) : Harvests w (waitTurns w turns : Act S O Bool) := by
  induction turns with
  | zero => exact .pure _
  | succ turns ih =>
    refine letWork_harvests.bind fun _ => drain_harvests.bind fun _ =>
      Harvests.collection?.bind fun c => ?_
    dsimp only
    split
    · exact .pure _
    · split
      · exact ih
      · exact .pure _

/-- Waiting gives true only when nothing is in flight. -/
lemma idle_of_waitTurns (turns : Nat) : ∀ {s s' : Session S O},
    s.run (waitTurns w turns) = (.ok true, s') → s'.collection.scheduler.inFlight = 0 := by
  induction turns with
  | zero =>
    intro s s' h
    cases h
  | succ turns ih =>
    -- It is idle only where the wait looks and sees that it is.
    intro s s' h
    rw [waitTurns, run_bind_ok (run_letWork s), run_bind] at h
    split at h
    · rename_i n s'' drained
      rw [run_bind_ok (run_collection? s'')] at h
      dsimp only at h
      split at h
      · rename_i idle
        cases h
        exact idle
      · split at h
        · exact ih h
        · cases h
    · cases h

/-- The executor is shut down, and its jobs run. -/
lemma shutdown_path (s : Session S O) :
    ∃ ds, Path w s ds (s.withScheduler (s.collection.scheduler.shutdown w.codec true).1) ∧
      ∀ d ∈ ds, d = .shut ∨ d.isHarvest = true := by
  unfold Scheduler.shutdown
  split
  · exact ⟨[], .start, by simp⟩
  · have shut : Path w s [.shut] (s.withScheduler
        { s.collection.scheduler with closed := true }.shutExecutor) :=
      Path.start.silent (.closed s.collection) rfl
    refine ⟨_, shut.trans (runAll_path _ _), List.forall_mem_append.mpr ⟨?_, fun d mem => ?_⟩⟩
    · exact fun d mem => .inl (List.mem_singleton.mp mem)
    · exact .inr (ran_harvest _ d mem)

lemma close_leads (s : Session S O) :
    Leads w s (close w) fun _ ds =>
      Tidy (fun d => d.isSubscription = false ∧ d.isSwitch = false) [] ds := by
  have mild : ∀ {debts ds}, Tidy Deed.isOrdinary debts ds →
      Tidy (fun d => d.isSubscription = false ∧ d.isSwitch = false) debts ds :=
    fun tidy => tidy.mono fun _ kind => kind.2
  refine (clear_keeps s).bind ?_ fun _ _ tidy => mild tidy
  intro _ s' ds _ _ cleared
  obtain ⟨es, path, kind⟩ := shutdown_path (w := w) s'
  -- Shutting down ends and harvests, neither of which subscribes or switches.
  have shut : Tidy (fun d => d.isSubscription = false ∧ d.isSwitch = false) [] es := by
    refine .of_forall (fun d mem before => ?_) fun d mem => ?_ <;>
      rcases kind d mem with rfl | harvest
    · rfl
    · cases d <;> first | rfl | cases harvest
    · exact ⟨rfl, rfl⟩
    · cases d <;> first | exact ⟨rfl, rfl⟩ | cases harvest
  refine Leads.of_run_eq (b := do
    let _ ← drain w) ?_ (path.log (s'.collection.scheduler.shutdown w.codec true).2) ?_
  · rfl
  · refine (drain_harvests.keeps _).bind ?_ ?_
    · intro _ _ fs _ _ drained
      exact ⟨[], .start, by simpa using cleared |> mild |>.append (shut.append (mild drained))⟩
    · intro _ fs drained
      exact (mild cleared).append (shut.append (mild drained))

end Session

/-! ## Operations -/

/-- Whether an operation gets work done, and does nothing else. -/
def Operation.harvests : Operation → Bool
  | drain | waitIdle | runJob _ | runJobs _ => true
  | _ => false

open Session in
lemma Operation.perform_harvests {op : Operation} (harvests : op.harvests = true) :
    Harvests w (op.perform w) := by
  cases op with
  | drain => exact drain_harvests.map
  | waitIdle => exact (waitTurns_harvests _).map
  | runJob number =>
    exact Harvests.map (Harvests.collection?.bind fun _ =>
      (runJobs_harvests [number]).bind fun _ => .pure _)
  | runJobs numbers => exact (runJobs_harvests numbers).bind fun _ => .pure _
  | _ => cases harvests

/-- The deeds that an operation may consist of. -/
def Operation.allows : Operation → Deed → Prop
  | close, d => d.isSubscription = false ∧ d.isSwitch = false
  | setPreviewMode showSource, d => d = .modeSet showSource
  | cancelJob k, d => d = .cancelled k
  | shutExecutor, d => d = .shut
  | subscribe tag, d => d = .subscribed tag
  | unsubscribe tag, d => d = .unsubscribed tag
  | _, d => d.isOrdinary

open Session in
/-- Every operation takes a path of deeds that it allows, and leaves no debts. -/
theorem Operation.perform_leads (op : Operation) (s : Session S O) :
    Leads w s (op.perform w) fun _ ds => Tidy op.allows [] ds := by
  cases op with
  | add name data => exact (add_keeps name data).map s
  | addMany files => exact (addMany_keeps files).map s
  | remove id => exact (remove_keeps id).map s
  | clear => exact clear_keeps.bind (fun _ => .pure _) s
  | select id => exact ((select_leads s id).mono fun _ _ fit => fit.2).map fun _ _ tidy => tidy
  | setParams id source quality format => exact (setParams_keeps id source quality format).map s
  | setGlobalFormat format => exact (setGlobalFormat_keeps format).bind (fun _ => .pure _) s
  | resetParams id => exact (resetParams_keeps id).map s
  | setPreviewMode showSource =>
    exact ⟨[.modeSet showSource], Path.start.silent (.modeSet s.collection showSource) rfl,
      .neutral (fun _ => rfl) rfl⟩
  | drain | waitIdle | runJob | runJobs => exact (Operation.perform_harvests rfl).keeps s
  | close =>
    refine (close_leads s).bind ?_ fun _ _ tidy => tidy
    intro _ _ ds _ _ tidy
    have done : Tidy (Operation.allows .close) [] (ds ++ []) := (List.append_nil ds).symm ▸ tidy
    exact ⟨[], .start, done⟩
  | subscribe tag =>
    exact ⟨[.subscribed tag], Path.start.silent (.subscribed s.collection tag) rfl,
      .neutral (fun _ => rfl) rfl⟩
  | unsubscribe tag =>
    exact ⟨[.unsubscribed tag], Path.start.silent (.unsubscribed s.collection tag) rfl,
      .neutral (fun _ => rfl) rfl⟩
  | cancelJob number =>
    exact ⟨[.cancelled number], Path.start.silent (.cancelled s.collection number) rfl,
      .neutral (fun _ => rfl) rfl⟩
  | shutExecutor =>
    exact ⟨[.shut], Path.start.silent (.executorShut s.collection) rfl,
      .neutral (fun _ => rfl) rfl⟩

end Reencode
