import Reencode.Proofs.Collection.Catalogue
import Reencode.Proofs.Collection.Replica
import Reencode.Proofs.Session.Observers
import Reencode.Proofs.Work.Result

/-!
# The events as a log

The events are a complete log of a session: an observer that heard all of them knows the ids in
order, the selection, which entries have an output and every fault (`Replica.replay`).  It does not
matter which operations failed, nor what other observers did, as long as they do not call back.

That observers are told can only be seen in what they remember.  `Surroundings.Hears` says that each
of them, when told of an event, notes its name and the event in a common record, and may fail after
that.  The record then holds every event of a path once for every registration, in order
(`Path.broadcast`), and hearing the events of a path leads from replica to replica
(`Collection.Steps.replica_eq`).
-/

namespace Reencode

variable {S O : Type} {w : Surroundings S O} {heard : O → List (ObserverTag × Event)}

/-- Observers that do not call back, and note whatever they are told in a record. -/
structure Surroundings.Hears (w : Surroundings S O) (heard : O → List (ObserverTag × Event)) :
    Prop where
  quiet : w.Quiet
  noted : ∀ tag event (s : Session S O),
    heard (s.run (w.react tag event)).2.memory = heard s.memory ++ [(tag, event)]

/-- Surroundings in which observers note what they are told, and some of them fail after that. -/
def Surroundings.noting (codec : Codec S) (fails : ObserverTag → Bool) :
    Surroundings S (List (ObserverTag × Event)) where
  codec := codec
  react tag event := do
    modify fun s => { s with memory := s.memory ++ [(tag, event)] }
    if fails tag then throw (.runtime tag.text)
  patience := 0

lemma Surroundings.noting_hears (codec : Codec S) (fails : ObserverTag → Bool) :
    (noting codec fails).Hears id := by
  have reaction : ∀ tag event (s : Session S (List (ObserverTag × Event))),
      (s.run ((noting codec fails).react tag event)).2 =
        { s with memory := s.memory ++ [(tag, event)] } := by
    intro tag event s
    cases failing : fails tag with
    | true => simp only [noting, failing]; rfl
    | false => simp only [noting, failing]; rfl
  constructor
  · intro tag event s
    rw [reaction]
    exact ⟨[], .start, by simp⟩
  · intro tag event s
    rw [reaction]
    rfl

/-- What one observer heard. -/
def heardBy (me : ObserverTag) (record : List (ObserverTag × Event)) : List Event :=
  record.filterMap fun (tag, event) => if tag = me then some event else none

/-- An operation that tells of events, each of them to every registration and in this order. -/
def Session.Tells (w : Surroundings S O) (heard : O → List (ObserverTag × Event))
    (s : Session S O) (op : Operation) (events : List Event) : Prop :=
  heard (s.run (op.perform w)).2.memory =
    heard s.memory ++ events.flatMap fun event => s.collection.observers.map (·, event)

/-! ## Who is told -/

namespace Collection

variable {codec : Codec S} {c c' : Collection S} {d : Deed} {ds : List Deed}

lemma Step.observers_eq (st : Step codec c d c') (same : d.isSubscription = false) :
    c'.observers = c.observers := by
  cases st with
  | cleared =>
    exact destroyAll_induction (P := fun c' => c'.observers = c.observers) (fun _ _ _ h _ => h)
      c.ids { c with ids := [] } rfl
  | subscribed | unsubscribed => cases same
  | _ => rfl

lemma Steps.observers_eq (steps : Steps codec c ds c')
    (same : ∀ d ∈ ds, d.isSubscription = false) : c'.observers = c.observers := by
  induction steps with
  | start => rfl
  | step before last ih =>
    rw [last.observers_eq (same _ (List.mem_append_right _ List.mem_cons_self))]
    exact ih fun d mem => same d (List.mem_append_left _ mem)

end Collection

/-! ## What is heard -/

lemma Session.told_heard (hears : w.Hears heard) (event : Event) (s : Session S O) :
    heard (s.told w event).memory =
      heard s.memory ++ s.collection.observers.map (·, event) := by
  rw [told_eq_foldl]
  generalize s.collection.observers = tags
  induction tags generalizing s with
  | nil => simp
  | cons tag rest ih =>
    obtain ⟨records, notification⟩ := run_notify w event s tag
    have one : heard (notified w event s tag).memory = heard s.memory ++ [(tag, event)] := by
      rw [notified, notification]
      exact hears.noted tag event s
    rw [List.foldl_cons, ih, one]
    simp

namespace Path

variable {s s' : Session S O} {ds : List Deed}

/-- Every event of a path is heard once for every registration. -/
theorem broadcast (hears : w.Hears heard) (path : Path w s ds s')
    (same : ∀ d ∈ ds, d.isSubscription = false) :
    s'.collection.observers = s.collection.observers ∧
      heard s'.memory = heard s.memory ++
        (eventsOf ds).flatMap fun event => s.collection.observers.map (·, event) := by
  -- Induction on the path: a silent step is not heard, and of a told one every observer hears once.
  induction path with
  | start => exact ⟨rfl, by simp [eventsOf]⟩
  | log _ records ih => exact ih same
  | @silent ds s' d c before step quiet ih =>
    obtain ⟨observers, log⟩ := ih fun d mem => same d (List.mem_append_left _ mem)
    have kept := step.observers_eq (same d (List.mem_append_right _ List.mem_cons_self))
    refine ⟨kept.trans observers, ?_⟩
    simpa [eventsOf_singleton, quiet] using log
  | @told ds s' d c event before step records tells ih =>
    obtain ⟨observers, log⟩ := ih fun d mem => same d (List.mem_append_left _ mem)
    have kept := step.observers_eq (same d (List.mem_append_right _ List.mem_cons_self))
    obtain ⟨es, reactions, runs⟩ :=
      Session.told_steps hears.quiet event ((s'.withCollection c).logged records)
    have after := reactions.observers_eq fun d mem => by
      -- Telling only lets jobs run meanwhile, so nobody subscribes.
      have := runs d mem
      cases d <;> first | rfl | cases this
    refine ⟨after.trans (kept.trans observers), ?_⟩
    have told := Session.told_heard hears event ((s'.withCollection c).logged records)
    simp only [Session.memory_logged, Session.memory_withCollection, Session.collection_logged,
      Session.collection_withCollection, kept, observers, log] at told
    simpa [eventsOf_singleton, tells] using told

/-- A path without events is not heard. -/
theorem unheard (heard : O → List (ObserverTag × Event)) (path : Path w s ds s')
    (none : eventsOf ds = []) : heard s'.memory = heard s.memory := by
  induction path with
  | start => rfl
  | log _ records ih => exact ih none
  | silent before step quiet ih =>
    rw [eventsOf_append] at none
    exact ih (List.append_eq_nil_iff.mp none).1
  | told before step records tells ih =>
    rw [eventsOf_append, eventsOf_singleton, tells] at none
    simp at none

end Path

/-! ## Operations -/

/-- All but two operations leave the registrations alone. -/
lemma Operation.lasting_or (op : Operation) : (∀ d, op.allows d → d.isSubscription = false) ∨
    (∃ tag, op = .subscribe tag) ∨ ∃ tag, op = .unsubscribe tag := by
  cases op with
  | subscribe tag => exact .inr (.inl ⟨tag, rfl⟩)
  | unsubscribe tag => exact .inr (.inr ⟨tag, rfl⟩)
  | close => exact .inl fun d allowed => allowed.1
  | setPreviewMode | cancelJob | shutExecutor =>
    refine .inl fun d allowed => ?_
    obtain rfl : d = _ := allowed
    rfl
  | _ => exact .inl fun d allowed => allowed.2.1

lemma eventsOf_eq_nil {ds : List Deed} (silent : ∀ d ∈ ds, d.event? = none) : eventsOf ds = [] :=
  List.filterMap_eq_nil_iff.mpr silent

/-- The deeds of an operation are heard by all registrations. -/
lemma Operation.heard_of_path (hears : w.Hears heard) (op : Operation) {s s' : Session S O}
    {ds : List Deed} (path : Path w s ds s') (kind : ∀ d ∈ ds, op.allows d) :
    heard s'.memory = heard s.memory ++
      (eventsOf ds).flatMap fun event => s.collection.observers.map (·, event) := by
  have nothing (silent : ∀ d ∈ ds, d.event? = none) : heard s'.memory = heard s.memory ++
      (eventsOf ds).flatMap fun event => s.collection.observers.map (·, event) := by
    have none := eventsOf_eq_nil silent
    rw [path.unheard heard none, none]
    simp
  rcases op.lasting_or with lasting | ⟨tag, rfl⟩ | ⟨tag, rfl⟩
  · exact (path.broadcast hears fun d mem => lasting d (kind d mem)).2
  · refine nothing fun d mem => ?_
    obtain rfl : d = .subscribed tag := kind d mem
    rfl
  · refine nothing fun d mem => ?_
    obtain rfl : d = .unsubscribed tag := kind d mem
    rfl

/-! ## One observer -/

lemma heardBy_append (me : ObserverTag) (first then_ : List (ObserverTag × Event)) :
    heardBy me (first ++ then_) = heardBy me first ++ heardBy me then_ :=
  List.filterMap_append

lemma heardBy_map (me : ObserverTag) (event : Event) (tags : List ObserverTag) :
    heardBy me (tags.map (·, event)) = List.replicate (tags.count me) event := by
  induction tags with
  | nil => rfl
  | cons tag rest ih =>
    by_cases mine : tag = me
    · simp only [heardBy, List.map_cons, List.filterMap_cons, mine, if_true, List.count_cons_self,
        List.replicate_succ] at ih ⊢
      rw [ih]
    · simp only [heardBy, List.map_cons, List.filterMap_cons, mine, if_false,
        List.count_cons_of_ne mine] at ih ⊢
      exact ih

/-- Who is registered once hears each event once. -/
lemma heardBy_flatMap {me : ObserverTag} {tags : List ObserverTag} (once : tags.count me = 1)
    (events : List Event) :
    heardBy me (events.flatMap fun event => tags.map (·, event)) = events := by
  induction events with
  | nil => rfl
  | cons event rest ih =>
    rw [List.flatMap_cons, heardBy_append, ih, heardBy_map, once]
    rfl

/-- An observer that is registered once and knows the collection from what it heard. -/
structure Informed (heard : O → List (ObserverTag × Event)) (me : ObserverTag) (s : Session S O) :
    Prop where
  shelved : Shelved s.collection.ids s.collection.shelf
  once : s.collection.observers.count me = 1
  knows : Replica.replay (heardBy me (heard s.memory)) = s.collection.replica

/-- Operations keep an observer informed, unless they cancel its registration or repeat it. -/
lemma Informed.perform (hears : w.Hears heard) {me : ObserverTag} {s : Session S O}
    (h : Informed heard me s) {op : Operation} (stays : op ≠ .subscribe me ∧ op ≠ .unsubscribe me) :
    Informed heard me (s.run (op.perform w)).2 := by
  obtain ⟨ds, path, tidy⟩ := op.perform_leads (w := w) s
  obtain ⟨es, steps, same⟩ := path.steps_of_quiet hears.quiet
  have events : eventsOf es = eventsOf ds := by
    rw [← eventsOf_ownOf, same, eventsOf_ownOf]
  refine ⟨h.shelved.steps steps, ?_, ?_⟩
  -- Operations other than subscriptions keep the observers, and a subscription of another one keeps
  -- me.
  · rcases op.lasting_or with lasting | ⟨tag, rfl⟩ | ⟨tag, rfl⟩
    · rw [(path.broadcast hears fun d mem => lasting d (tidy.kind d mem)).1]
      exact h.once
    · have other : tag ≠ me := fun same => stays.1 (congrArg _ same)
      show (s.collection.observers ++ [tag]).count me = 1
      rw [List.count_append, h.once, List.count_cons_of_ne other, List.count_nil]
    · have other : me ≠ tag := fun same => stays.2 (congrArg _ same.symm)
      show (s.collection.observers.erase tag).count me = 1
      rw [List.count_erase_of_ne other, h.once]
  · rw [op.heard_of_path hears path tidy.kind, heardBy_append, heardBy_flatMap h.once,
      steps.replica_eq h.shelved, events, ← h.knows, Replica.replay, Replica.replay,
      List.foldl_append]

/-- An observer that was registered from the beginning on is informed. -/
theorem Informed.after (hears : w.Hears heard) {me : ObserverTag} {s : Session S O}
    (h : Informed heard me s) {ops : List Operation}
    (stays : ∀ op ∈ ops, op ≠ .subscribe me ∧ op ≠ .unsubscribe me) :
    Informed heard me (s.after w ops) := by
  induction ops generalizing s with
  | nil => exact h
  | cons op rest ih =>
    have next := h.perform hears (stays op List.mem_cons_self)
    exact ih next fun op mem => stays op (List.mem_cons_of_mem _ mem)

/-! ## Draining -/

/-- Draining tells of outputs and faults alone. -/
lemma Deed.kind_of_isDraining {d : Deed} (draining : d.isDraining) {event : Event}
    (tells : d.event? = some event) : event.kind = .outputUpdated ∨ event.kind = .fault := by
  have result := Deed.isResult_of_isHarvest (Deed.isHarvest_of_isDraining draining) tells
  cases kind : event.kind <;> simp_all [EventKind.isResult]

namespace Session

/-- The handles of living entries are held, so taking an outcome over never fails. -/
lemma apply_total {s : Session S O} (shelved : Shelved s.collection.ids s.collection.shelf)
    (catalogued : Catalogued s.collection.shelf s.collection.registry) (rest : Scheduler S)
    (o : Outcome) : ∃ b, ((s.withScheduler rest).run (apply w o)).1 = .ok b := by
  have same : (s.withScheduler rest).collection.get? o.entry = s.collection.get? o.entry := rfl
  cases found : s.collection.get? o.entry with
  | none => exact ⟨false, by simp only [apply, run_bind, run_collection?, same, found]; rfl⟩
  | some e =>
    cases payload : o.payload with
    | nothing =>
      simp only [apply, run_bind, run_collection?, same, found, payload]
      exact ⟨false, rfl⟩
    | fault f =>
      simp only [apply, applyFault, run_bind, run_collection?, same, found, payload]
      cases e.recordFault f with
      | none => exact ⟨false, rfl⟩
      | some e' => exact ⟨true, by simp [run_bind, run_map, Except.map]⟩
    | data data =>
      obtain ⟨-, alive⟩ := Collection.find?_of_get? found
      obtain ⟨mem, mine⟩ := shelved.mem_of_get? found
      -- An entry of the collection was not destroyed, so the handle of its output is not released
      -- and takes the new bytes.
      have held : ∀ old, e.output = some old → ∃ data locator, old = .held data locator := by
        intro old out
        have life := (shelved.mem_alive_iff mem).mp (mine ▸ alive)
        obtain ⟨data, l, -, held, -⟩ := (catalogued.order e mem).output life old out
        exact ⟨data, some l, held⟩
      obtain ⟨made, stored⟩ := Entry.storeOutput_ok held s.collection.registry data
      simp only [apply, applyData, run_bind, run_collection?, same, found, payload, run_lift,
        registry_withScheduler, Entry.applyOutput_eq, stored]
      cases e.isCurrent o.token with
      | false => exact ⟨false, rfl⟩
      | true => exact ⟨true, by simp [Except.map, run_bind, run_map]⟩

lemma drainUpTo_total (lawful : w.Lawful) (limit : Nat) : ∀ {s : Session S O},
    Shelved s.collection.ids s.collection.shelf →
    Catalogued s.collection.shelf s.collection.registry →
    ∃ n, (s.run (drainUpTo w limit)).1 = .ok n := by
  induction limit with
  | zero => exact fun _ _ => ⟨0, rfl⟩
  | succ limit ih =>
    intro s shelved catalogued
    cases taken : s.collection.scheduler.take with
    | none => exact ⟨0, by simp [drainUpTo, run_bind, taken]⟩
    | some next =>
      obtain ⟨o, rest⟩ := next
      -- Applying the first outcome never fails, and what it leaves is in order, so that the next
      -- ones can be applied.
      obtain ⟨d, path, -⟩ := apply_drains (w := w) taken
      obtain ⟨b, applied⟩ := apply_total (w := w) shelved catalogued rest o
      obtain ⟨es, steps⟩ := path.steps lawful
      obtain ⟨n, drained⟩ := ih (shelved.steps steps) (catalogued.steps shelved steps)
      have one : (s.withScheduler rest).run (apply w o) =
          (.ok b, ((s.withScheduler rest).run (apply w o)).2) := Prod.ext applied rfl
      refine ⟨(if b then 1 else 0) + n, ?_⟩
      rw [run_drainUpTo taken, run_bind_ok one, bind_pure_comp, run_map, drained]
      rfl

/-- Draining gives the number of the outputs and faults that it told of. -/
lemma drain_counts (hears : w.Hears heard) {s : Session S O}
    (shelved : Shelved s.collection.ids s.collection.shelf)
    (catalogued : Catalogued s.collection.shelf s.collection.registry) :
    ∃ events, s.Tells w heard .drain events ∧
      (s.run (Operation.drain.perform w)).1 = .ok (.count events.length) ∧
      ∀ event ∈ events, event.kind = .outputUpdated ∨ event.kind = .fault := by
  obtain ⟨ds, path, draining, counts⟩ := drain_leads (w := w) s
  obtain ⟨n, gives⟩ : ∃ n, (s.run (drain w)).1 = .ok n :=
    drainUpTo_total hears.quiet.lawful _ shelved catalogued
  -- Draining is what no subscription is.
  have ordinary : ∀ d ∈ ds, d.isSubscription = false := by
    intro d mem
    have := draining d mem
    cases d <;> first | rfl | cases this
  refine ⟨eventsOf ds, ?_, ?_, ?_⟩
  · simp only [Tells, Operation.perform, run_map]
    exact (path.broadcast hears ordinary).2
  · simp only [Operation.perform, run_map, gives, Except.map, counts n gives]
  · intro event mem
    obtain ⟨d, hd, tells⟩ := List.mem_filterMap.mp mem
    exact d.kind_of_isDraining (draining d hd) tells

end Session

/-! ## The log is complete -/

/-- An observer that is the first to be registered is informed. -/
lemma Informed.subscribe {settings : Settings} {workers : Option Int} {format : Value} {pace : Pace}
    {s : Session S O} (made : Collection.create settings workers format pace = .ok s.collection)
    (unheard : heard s.memory = []) (me : ObserverTag) :
    Informed heard me (s.run ((Operation.subscribe me).perform w)).2 := by
  have shelved := Shelved.of_create made
  obtain ⟨n, f, fresh⟩ := Collection.create_eq_ok made
  refine ⟨shelved, ?_, ?_⟩
  · show (s.collection.observers ++ [me]).count me = 1
    rw [fresh]
    exact List.count_singleton_self
  · show Replica.replay (heardBy me (heard s.memory)) = (s.collection.subscribe me).replica
    rw [unheard, fresh]
    rfl

end Reencode
