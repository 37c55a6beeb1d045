import Reencode.Proofs.Collection.Catalogue
import Reencode.Proofs.Collection.Tended
import Reencode.Proofs.Session.Course

/-!
# Clean caches and closing

Every operation keeps a collection tended.  For all but closing this is `Operation.courses`.
Closing removes the entries, shuts the scheduler down, which runs what is pending, and drains: then
every outcome is of an entry that is gone, so it is dropped without telling anyone, and the mailbox
is empty afterwards (`Session.drainUpTo_of_empty`).  What a clean scheduler without entries and jobs
has left in its cache is nothing.
-/

namespace Reencode

variable {S O : Type} {w : Surroundings S O}

/-! ## Shutting down -/

namespace Scheduler

variable {s : Scheduler S} {codec : Codec S}

lemma pending_runPending (s : Scheduler S) (k : Nat) : (s.runPending codec k).2.1.pending =
    s.pending.filter fun (n, _) => n ≠ k := by
  cases found : s.pending.lookup k with
  | none =>
    rw [runPending_eq_self found]
    refine (List.filter_eq_self.mpr fun p mem => ?_).symm
    have differs : k ≠ p.1 := by simpa using List.lookup_eq_none_iff.mp found p mem
    simpa using differs.symm
  | some j => rw [runPending_eq found, pending_settled]

lemma pending_runAll (numbers : List Nat) : ∀ s : Scheduler S,
    (s.runAll codec numbers).1.pending = s.pending.filter fun (n, _) => n ∉ numbers := by
  induction numbers with
  | nil =>
    intro s
    simp [runAll]
  | cons k rest ih =>
    intro s
    have walked :
        (s.runAll codec (k :: rest)).1 = ((s.runPending codec k).2.1.runAll codec rest).1 :=
      rfl
    rw [walked, ih, pending_runPending, List.filter_filter]
    refine List.filter_congr fun p _ => ?_
    simp [Bool.and_comm]

/-- Whoever waits for a scheduler to shut down finds that all jobs have run. -/
lemma pending_shutdown (ended : s.Ended) : (s.shutdown codec true).1.pending = [] := by
  unfold shutdown
  split
  · rename_i closed
    exact ended closed
  · refine (pending_runAll _ _).trans (List.filter_eq_nil_iff.mpr fun p mem => ?_)
    have number : p.1 ∈ s.pending.map (·.1) := List.mem_map_of_mem mem
    exact fun kept => of_decide_eq_true kept number

lemma Clean.shutdown {alive : List EntryId} (h : s.Clean alive) :
    (s.shutdown codec true).1.Clean alive := by
  unfold Scheduler.shutdown
  split
  · exact h
  · have marked : ({ s with closed := true }.shutExecutor).Clean alive := h.congr rfl rfl rfl rfl
    exact marked.runAll _

end Scheduler

/-! ## Draining a collection without entries -/

namespace Session

/-- Without entries every outcome is dropped, and nobody is told. -/
lemma drainUpTo_of_empty (limit : Nat) : ∀ s : Session S O, s.collection.ids = [] →
    s.collection.scheduler.mailbox.length ≤ limit →
    ∃ rest records, s.run (drainUpTo w limit) = (.ok 0, (s.withScheduler rest).logged records) ∧
      rest.mailbox = [] ∧ rest.pending = s.collection.scheduler.pending := by
  -- Induction on the limit; with no entry left every outcome is dropped, which calls no observer.
  induction limit with
  | zero =>
    intro s _ few
    refine ⟨s.collection.scheduler, [], ?_, List.length_eq_zero_iff.mp (by omega), rfl⟩
    rw [logged_nil]
    rfl
  | succ limit ih =>
    intro s empty few
    cases mail : s.collection.scheduler.mailbox with
    | nil =>
      have none : s.collection.scheduler.take = none := by rw [Scheduler.take, mail]
      refine ⟨s.collection.scheduler, [], ?_, mail, rfl⟩
      rw [logged_nil, drainUpTo, run_bind_ok (run_collection? s), none]
      rfl
    | cons o others =>
      let left : Scheduler S := { s.collection.scheduler with mailbox := others }.leave
      have taken : s.collection.scheduler.take = some (o, left) := by rw [Scheduler.take, mail]
      have gone : (s.withScheduler left).collection.get? o.entry = none := by
        simp [Collection.get?, Collection.contains, withScheduler, empty]
      obtain ⟨records, dropped⟩ : ∃ records, (s.withScheduler left).run (apply w o) =
          (.ok false, (s.withScheduler left).logged records) := by
        rw [apply, run_bind_ok (run_collection? _), gone]
        exact ⟨_, rfl⟩
      have fewer : others.length ≤ limit := by
        rw [mail, List.length_cons] at few
        omega
      obtain ⟨rest, more, drained, mailbox, pending⟩ :=
        ih ((s.withScheduler left).logged records) empty fewer
      refine ⟨rest, records ++ more, ?_, mailbox, pending⟩
      rw [run_drainUpTo taken, run_bind_ok dropped, run_bind_ok drained]
      simp [logged, withScheduler, withCollection]

lemma drain_of_empty {s : Session S O} (empty : s.collection.ids = []) :
    ∃ rest records, s.run (drain w) = (.ok 0, (s.withScheduler rest).logged records) ∧
      rest.mailbox = [] ∧ rest.pending = s.collection.scheduler.pending := by
  rw [drain, run_bind_ok (run_collection? s)]
  exact drainUpTo_of_empty _ s empty (Nat.le_add_right _ _)

/-! ## Closing -/

/-- After all entries were removed there are none, and none is selected. -/
lemma empty_of_clear (quiet : w.Quiet) (s : Session S O) :
    (s.run (clear w)).2.collection.ids = [] ∧ (s.run (clear w)).2.collection.selected = none := by
  obtain ⟨records, cleared⟩ := run_clear (w := w) s
  obtain ⟨scheduler, same, -⟩ := told_meanwhile quiet .cleared ((s.withCollection
    (({ s.collection with ids := [] }.destroyAll s.collection.ids).choose none)).logged records)
  rw [cleared, same]
  exact ⟨Collection.ids_destroyAll _ _, rfl⟩

end Session

/-- A collection that steps have led to from a start, and that is tended. -/
structure Collection.Kept (codec : Codec S) (start c : Collection S) : Prop where
  steps : ∃ deeds, Collection.Steps codec start deeds c
  tended : c.Tended

/-- A collection of which nothing is left. -/
structure Collection.TornDown (c : Collection S) : Prop where
  entries : c.entries = []
  selected : c.selected = none
  live : c.registry.live = []
  inFlight : c.scheduler.inFlight = 0
  surfaces : c.scheduler.cache.surfaces = []
  retired : c.scheduler.cache.retired = []

section Kept

variable {settings : Settings} {workers : Option Int} {format : Value} {pace : Pace}
  {start c c' : Collection S} {codec : Codec S} {good : Params → Prop} {ds : List Deed}
  (made : Collection.create settings workers format pace = .ok start)

include made

lemma Collection.Kept.of_create : Collection.Kept codec start start :=
  ⟨⟨[], .start⟩, .of_create made⟩

lemma Collection.Kept.course (h : Collection.Kept codec start c)
    (course : Collection.Course codec good c ds c') : Collection.Kept codec start c' := by
  induction course with
  | start => exact h
  | step _ last care ih =>
    obtain ⟨deeds, steps⟩ := ih.steps
    have shelved := Shelved.of_create made
    have traced : Traced codec [] [] start.shelf start.scheduler := .of_create made
    exact ⟨⟨_, steps.step last⟩,
      ih.tended.step (shelved.steps steps) (traced.steps shelved steps) last care⟩

/-- Without entries, pending jobs and outcomes nothing at all is left. -/
lemma Collection.Kept.tornDown (h : Collection.Kept codec start c) (empty : c.ids = [])
    (selected : c.selected = none) (pending : c.scheduler.pending = [])
    (mailbox : c.scheduler.mailbox = []) : c.TornDown := by
  obtain ⟨deeds, steps⟩ := h.steps
  have shelved := Shelved.of_create made
  have entries : c.entries = [] := by rw [Collection.entries, empty, List.filterMap_nil]
  have live := ((Catalogued.of_create made).steps shelved steps).live_entries (shelved.steps steps)
  have balance := ((Traced.of_create made).steps shelved steps).honest.balance
  -- What lives, is in flight or is cached belongs to an entry or to a job, and there are none.
  rw [entries, List.flatMap_nil] at live
  rw [Scheduler.tickets, pending, mailbox] at balance
  constructor
  case entries => exact entries
  case selected => exact selected
  case live => exact live.eq_nil
  case inFlight => exact balance
  case surfaces =>
    refine List.eq_nil_iff_forall_not_mem.mpr fun p mem => ?_
    have alive := h.tended.clean.cached p mem
    rw [empty] at alive
    cases alive
  case retired =>
    refine List.eq_nil_iff_forall_not_mem.mpr fun id mem => ?_
    obtain ⟨-, p, waiting, -⟩ := (h.tended.clean.retired id).mp mem
    rw [pending] at waiting
    cases waiting

/-- Closing succeeds, and leaves nothing. -/
lemma Session.close_tornDown (quiet : w.Quiet) {s : Session S O}
    (h : Collection.Kept w.codec start s.collection) :
    ∃ s', s.run (Operation.close.perform w) = (.ok .done, s') ∧
      Collection.Kept w.codec start s'.collection ∧ s'.collection.TornDown := by
  have clearing : Courses w.codec (fun _ => True) s (s.run (clear w)).2 := clear_courses quiet s
  obtain ⟨_, course⟩ := clearing
  have cleared := h.course made course
  -- What is pending runs before the scheduler is closed for good.
  have pending : (s.shutDown w).collection.scheduler.pending = [] :=
    Scheduler.pending_shutdown cleared.tended.ended
  have shut : Collection.Kept w.codec start (s.shutDown w).collection := by
    obtain ⟨_, steps⟩ := cleared.steps
    obtain ⟨_, path, -⟩ := shutdown_path (w := w) (s.run (clear w)).2
    obtain ⟨_, ending⟩ := path.steps quiet.lawful
    exact ⟨⟨_, steps.trans ending⟩, cleared.tended.clean.shutdown, fun _ => pending⟩
  obtain ⟨empty, unselected⟩ := empty_of_clear quiet s
  -- Jobs that ran while the scheduler was shut down left outcomes, which draining throws away.
  obtain ⟨rest, records, drained, mailbox, still⟩ :=
    drain_of_empty (w := w) (s := s.shutDown w) empty
  have draining : Courses w.codec (fun _ => True) (s.shutDown w) ((s.shutDown w).run (drain w)).2 :=
    drain_harvests.courses quiet _
  obtain ⟨_, course⟩ := draining
  have kept := shut.course made course
  rw [drained] at kept
  refine ⟨_, (run_close s).trans (by rw [drained]; rfl), kept, ?_⟩
  exact kept.tornDown made empty unselected (still.trans pending) mailbox

/-- Every operation keeps a collection tended. -/
lemma Session.after_kept (quiet : w.Quiet) (ops : List Operation) : ∀ s : Session S O,
    Collection.Kept w.codec start s.collection →
      Collection.Kept w.codec start (s.after w ops).collection := by
  induction ops with
  | nil => exact fun s h => h
  | cons op rest ih =>
    intro s h
    refine ih (s.run (op.perform w)).2 ?_
    by_cases closes : op = .close
    · subst closes
      obtain ⟨s', closed, kept, -⟩ := close_tornDown made quiet h
      rw [closed]
      exact kept
    · have gives : op.Gives w.reader fun _ => True := by cases op <;> simp [Operation.Gives]
      obtain ⟨_, course⟩ := op.courses quiet (fun _ _ => trivial) gives closes s
      exact h.course made course

end Kept

/-! ## The cache of a session -/

/-- A collection with surfaces for its entries alone, in whose cache those entries are retired that
were removed and still have unfinished jobs. -/
structure Collection.CleanCache (c : Collection S) : Prop where
  cached : ∀ id, c.scheduler.cache.contains id = true → ∃ e ∈ c.entries, e.id = id
  retired : ∀ id, c.scheduler.cache.isRetired id = true ↔
    ∃ e ∈ c.shelf, e.id = id ∧ e ∉ c.entries ∧ ∃ p ∈ c.scheduler.pending, p.2.entry = id
  distinct : c.scheduler.cache.retired.Nodup

lemma Collection.Tended.cleanCache {codec : Codec S} {c : Collection S} {jobs : List Job}
    {applied : List Outcome} (h : c.Tended) (shelved : Shelved c.ids c.shelf)
    (traced : Traced codec jobs applied c.shelf c.scheduler) : c.CleanCache where
  cached := by
    intro id found
    obtain ⟨p, mem, rfl⟩ := List.mem_map.mp (Lookup.isSome_lookup_iff.mp found)
    obtain ⟨e, onShelf, same⟩ := shelved.exists_of_mem_alive (h.clean.cached p mem)
    exact ⟨e, shelved.mem_entries.mpr ⟨onShelf, same ▸ h.clean.cached p mem⟩, same⟩
  retired := by
    intro id
    rw [DecodeCache.isRetired, decide_eq_true_eq, h.clean.retired]
    constructor
    · rintro ⟨gone, p, waiting, mine⟩
      obtain ⟨e, onShelf, same, -⟩ := traced.current p.2 (traced.honest.pending p waiting)
      have named : e.id = id := same.trans mine
      refine ⟨e, onShelf, named, fun mem => gone ?_, p, waiting, mine⟩
      exact named ▸ (shelved.mem_entries.mp mem).2
    · rintro ⟨e, onShelf, rfl, removed, unfinished⟩
      exact ⟨fun alive => removed (shelved.mem_entries.mpr ⟨onShelf, alive⟩), unfinished⟩
  distinct := h.clean.distinct

/-- **The cache is clean, and closing leaves nothing.**  After any operations, whenever jobs were
run or cancelled, there are surfaces for entries of the collection alone, and those removed entries
are retired that still have unfinished jobs.  And from there closing succeeds, even if it is not
the first time: then the collection is empty, nothing is selected, no locator is live, nothing is in
flight, and there is neither a surface nor a retired entry. -/
theorem cache_is_clean (quiet : w.Quiet) {settings : Settings} {workers : Option Int}
    {format : Value} {pace : Pace} {start : Collection S}
    (made : Collection.create settings workers format pace = .ok start)
    {s : Session S O} (began : s.collection = start) (ops : List Operation) :
    (s.after w ops).collection.CleanCache ∧
      ∃ s', (s.after w ops).run (Operation.close.perform w) = (.ok .done, s') ∧
        s'.collection.TornDown := by
  subst began
  have kept := Session.after_kept made quiet ops s (.of_create made)
  obtain ⟨deeds, steps⟩ := kept.steps
  have shelved := Shelved.of_create made
  refine ⟨kept.tended.cleanCache (shelved.steps steps)
    ((Traced.of_create made).steps shelved steps), ?_⟩
  obtain ⟨s', closed, -, torn⟩ := Session.close_tornDown made quiet kept
  exact ⟨s', closed, torn⟩

/-- Of two images, both of which still have a job, one is removed: it is retired.  The other one is
encoded, which leaves its surface in the cache. -/
theorem cache_is_clean_of_removed :
    let start : Collection ByteArray := .empty (.initial 4 .onDemand .empty) .jpeg
    let w := Surroundings.unobserved Codec.verbatim 0
    let s := (Session.fresh start ()).after w [.add "a.png" ⟨#[1, 2]⟩, .add "b.png" ⟨#[3]⟩,
      .remove (.nth 1), .runJob 2, .drain]
    (s.collection.scheduler.cache.surfaces.map (·.1), s.collection.scheduler.cache.retired) =
        ([.nth 2], [.nth 1]) ∧
      s.collection.CleanCache ∧
      ∃ s', s.run (Operation.close.perform w) = (.ok .done, s') ∧ s'.collection.TornDown := by
  intro start w s
  have made : Collection.create Settings.default none .null .onDemand = .ok start := rfl
  exact ⟨by decide +kernel, cache_is_clean (Surroundings.unobserved_quiet _ 0) made rfl _⟩

end Reencode
