import Reencode.Proofs.Session.Chronicle

/-!
# Dangling selections

A selection dangles, or a job is dispatched for an entry that is not there, only when an entry is
removed in the course of the very operation that is under way: either the operation is the removal
of the selected entry and is telling of it, or an observer removes the entry that the operation was
about.  In the course of any other operation every observer sees a selection that is there, and
after it there is none that dangles (`danglings_come_from_removals`).

Both do happen.  While observers are told that the selected entry was removed, it is selected still;
and an import selects its entry, and dispatches a job for it, even if it was removed by an observer
that was told of the import (`selection_dangles_of_removing`).
-/

namespace Reencode

variable {S M : Type}

/-! ## Observers that call back -/

namespace Session

variable {w : Surroundings S (Recollection S M)} {may : Deed → Prop}

/-- Observers are told by reacting, one after the other. -/
lemma accountable_of_reacts (reacts : ∀ tag event (s : Session S (Recollection S M)),
    Chronicled w.codec may s (s.run (w.react tag event)).2) : w.Accountable may := by
  intro event s
  rw [told_eq_foldl]
  generalize s.collection.observers = tags
  induction tags generalizing s with
  | nil => exact .refl
  | cons tag rest ih =>
    obtain ⟨records, notification⟩ := run_notify w event s tag
    have first : Chronicled w.codec may s (notified w event s tag) := by
      rw [notified, notification]
      exact (reacts tag event s).logged records
    exact first.trans (ih _)

variable {codec : Codec S} {patience : Nat} {behaviour : ObserverTag → Event → Reaction S M}
  {allowed : Operation → Prop}

/-- Seeing, remembering and calling operations that can be accounted for can be accounted for. -/
lemma reacting_chronicled {perform : Operation → Act S (Recollection S M) Reply}
    (performs : ∀ op, allowed op → ∀ s, Chronicled codec may s (s.run (perform op)).2)
    (calls : ∀ tag event, (behaviour tag event).Calls allowed) (tag : ObserverTag) (event : Event)
    (s : Session S (Recollection S M)) : Chronicled codec may s
      (s.run ((Surroundings.reacting codec patience behaviour perform).react tag event)).2 := by
  rw [Surroundings.reacting, run_bind_ok (run_witness s tag event)]
  refine (Chronicled.of_witnessed tag event).trans ?_
  exact Reaction.act_induction (fun _ => .refl) .trans (fun _ => .of_witnessed tag event)
    (fun _ _ => .congr .refl rfl rfl) performs (calls tag event) _

/-- Observers that call back can be accounted for, however deep their calls are nested. -/
theorem calling_chronicled (usual : ∀ d, d.isRemoval = false → may d)
    (fits : ∀ op, allowed op → ∀ c : Collection S, ∀ d ∈ op.opening c, may d)
    (calls : ∀ tag event, (behaviour tag event).Calls allowed) (depth : Nat) (tag : ObserverTag)
    (event : Event) (s : Session S (Recollection S M)) :
    Chronicled codec may s
      (s.run ((Surroundings.calling codec patience behaviour depth).react tag event)).2 := by
  induction depth generalizing s tag event with
  | zero => exact reacting_chronicled (fun _ _ _ => .refl) calls tag event s
  | succ depth ih =>
    refine reacting_chronicled (fun op may_call s => ?_) calls tag event s
    -- What is called runs among observers whose calls are nested less deep.
    have performs : ∀ w : Surroundings S (Recollection S M), w.codec = codec →
        (∀ tag event s, Chronicled codec may s (s.run (w.react tag event)).2) →
          Chronicled codec may s (s.run (op.perform w)).2 := by
      rintro w rfl reacts
      exact op.chronicled usual (accountable_of_reacts reacts) (fits op may_call _)
    exact performs _ (Surroundings.codec_calling codec patience behaviour depth) ih

end Session

/-- Observers that call no operation that removes entries. -/
def Spare (behaviour : ObserverTag → Event → Reaction S M) : Prop :=
  ∀ tag event, (behaviour tag event).Calls fun op => op.removes = false

open Session in
/-- Observers that call back remove entries only if they call operations that do. -/
theorem Surroundings.calling_accountable (codec : Codec S) (patience : Nat)
    (behaviour : ObserverTag → Event → Reaction S M) (depth : Nat) :
    (calling codec patience behaviour depth).Accountable
      fun d => Spare behaviour → d.isRemoval = false := by
  refine accountable_of_reacts fun tag event s => ?_
  rw [codec_calling]
  have calls : ∀ tag event,
      (behaviour tag event).Calls fun op => Spare behaviour → op.removes = false := by
    intro tag event
    by_cases spare : Spare behaviour
    · exact (spare tag event).mono fun _ spares _ => spares
    · exact Reaction.calls_of_forall (fun _ h => absurd h spare) _
  refine calling_chronicled (fun _ stays _ => stays) ?_ calls depth tag event s
  intro op spares c d mem spare
  exact absurd (Operation.removes_of_mem_opening mem) (by simp [spares spare])

namespace Session

variable {w : Surroundings S (Recollection S M)} {may : Deed → Prop}

/-! ## Runs -/

section Runs

variable (usual : ∀ d, d.isRemoval = false → may d) (tells : w.Accountable may)

include usual tells

lemma perform_shelved {s : Session S (Recollection S M)}
    (shelved : Shelved s.collection.ids s.collection.shelf) (op : Operation) :
    Shelved (s.run (op.perform w)).2.collection.ids (s.run (op.perform w)).2.collection.shelf := by
  have opened := shelved.steps (op.steps_opened w.codec s.collection)
  obtain ⟨ds, _, rest⟩ := op.perform_chronicled usual tells s opened
  exact Shelved.steps opened rest.steps

lemma after_shelved (ops : List Operation) {s : Session S (Recollection S M)}
    (shelved : Shelved s.collection.ids s.collection.shelf) :
    Shelved (s.after w ops).collection.ids (s.after w ops).collection.shelf := by
  induction ops generalizing s with
  | nil => exact shelved
  | cons op rest ih => exact ih (perform_shelved usual tells shelved op)

/-- If observers remove nothing, no operation leaves the selection dangling. -/
lemma perform_sound (sparing : ∀ d, may d → d.isRemoval = false) {s : Session S (Recollection S M)}
    (shelved : Shelved s.collection.ids s.collection.shelf)
    (sound : ∀ id, ¬s.collection.Dangles id) (op : Operation) (id : EntryId) :
    ¬(s.run (op.perform w)).2.collection.Dangles id := by
  intro dangles
  obtain ⟨ds, _, rest⟩ := op.perform_chronicled usual tells s
    (shelved.steps (op.steps_opened w.codec s.collection))
  rcases rest.dangling id dangles with old | ⟨-, left⟩
  · exact sound id (Operation.dangles_of_perform tells shelved dangles old)
  · rw [leaversOf_eq_nil fun d mem => sparing d (rest.kind d mem)] at left
    cases left

lemma after_sound (sparing : ∀ d, may d → d.isRemoval = false) (ops : List Operation)
    {s : Session S (Recollection S M)} (shelved : Shelved s.collection.ids s.collection.shelf)
    (sound : ∀ id, ¬s.collection.Dangles id) :
    ∀ id, ¬(s.after w ops).collection.Dangles id := by
  induction ops generalizing s with
  | nil => exact sound
  | cons op rest ih =>
    exact ih (perform_shelved usual tells shelved op)
      (perform_sound usual tells sparing shelved sound op)

end Runs

end Session

open Session in
/-- **Selections dangle through removals.**  Observers may look at the collection and call any
operations whenever they are told of an event, to any depth.  Whatever has been performed before,
the next operation is a history of deeds in which observers see some moments.

Afterwards nothing dangles but what did so before, or both came and left in the course of the
operation.  When an observer looks, nothing dangles but what did so before the operation, or left in
the course of it until then.  And every job is dispatched while its entry is in the collection, or
after the entry left in the course of the operation.

If observers call no operation that removes entries, then no operation leaves the selection
dangling, and every job is dispatched while its entry is in the collection; and none of them ever
sees a selection that dangles, but in the course of the removal of the selected entry. -/
theorem danglings_come_from_removals {codec : Codec S} {patience depth : Nat}
    {behaviour : ObserverTag → Event → Reaction S M} {w : Surroundings S (Recollection S M)}
    (calling : w = .calling codec patience behaviour depth) {settings : Settings}
    {workers : Option Int} {format : Value} {pace : Pace} {start : Collection S}
    (made : Collection.create settings workers format pace = .ok start)
    {s : Session S (Recollection S M)} (began : s.collection = start) (ops : List Operation)
    (op : Operation) {s₁ s₂ : Session S (Recollection S M)} (reached : s₁ = s.after w ops)
    (performed : s₂ = (s₁.run (op.perform w)).2) :
    ∃ ds seen, s₁.Accounted codec ds seen s₂ ∧
      (∀ before j after, ds = before ++ .dispatched j :: after →
        j.entry ∈ presentAfter s₁.collection.ids before ∨
          j.entry ∈ leaversOf s₁.collection.ids before) ∧
      (Spare behaviour → (∀ id, ¬s₂.collection.Dangles id) ∧
        (∀ g ∈ seen, ∀ id, g.collection.Dangles id →
          op = .remove id ∧ s₁.collection.selected = some id) ∧
        ∀ before j after, ds = before ++ .dispatched j :: after →
          j.entry ∈ presentAfter s₁.collection.ids before) := by
  have usual : ∀ d : Deed, d.isRemoval = false → Spare behaviour → d.isRemoval = false :=
    fun _ stays _ => stays
  have tells : w.Accountable fun d => Spare behaviour → d.isRemoval = false :=
    calling ▸ Surroundings.calling_accountable codec patience behaviour depth
  obtain rfl : w.codec = codec :=
    calling ▸ Surroundings.codec_calling codec patience behaviour depth
  have initial : Shelved s.collection.ids s.collection.shelf := began ▸ Shelved.of_create made
  have shelved : Shelved s₁.collection.ids s₁.collection.shelf :=
    reached ▸ after_shelved usual tells ops initial
  have opens := op.steps_opened w.codec s₁.collection
  obtain ⟨ds, seen, rest⟩ := op.perform_chronicled usual tells s₁ (shelved.steps opens)
  have unbound := rest.mono fun _ _ => trivial
  have whole := Operation.chronicle_of_opened tells shelved (fun _ _ => trivial) unbound
  rw [← performed] at rest whole
  refine ⟨op.opening s₁.collection ++ ds, seen, whole.toAccounted, ?_, fun spare => ?_⟩
  · intro before j after split
    have mem : Deed.dispatched j ∈ op.opening s₁.collection ++ ds := by simp [split]
    exact (split ▸ whole.steps).present_or_left_of_dispatched (whole.jobs _ mem j (.inl rfl))
  -- Without observers that remove, nothing ever leaves but by the operations themselves, so nothing
  -- dangles before this one.
  · have stay : ∀ d ∈ ds, d.isRemoval = false := fun d mem => rest.kind d mem spare
    have sound : ∀ id, ¬s₁.collection.Dangles id := by
      rw [reached]
      refine after_sound usual tells (fun _ h => h spare) ops initial fun id dangles => ?_
      obtain ⟨n, f, fresh⟩ := Collection.create_eq_ok made
      rw [began, fresh] at dangles
      cases dangles.1
    refine ⟨?_, ?_, ?_⟩
    · rw [performed]
      exact perform_sound usual tells (fun _ h => h spare) shelved sound op
    · intro g mem id dangles
      obtain ⟨before, early, -, excused⟩ := rest.sightings g mem
      rcases excused id dangles with old | left
      · exact (Operation.eq_remove_of_dangles_opened old).resolve_left (sound id)
      · rw [leaversOf_eq_nil fun d mem => stay d (early.subset mem)] at left
        cases left
    -- The job is dispatched after the opening, and only the opening takes entries away.
    · intro before j after split
      obtain ⟨late, rfl, rfl⟩ := Operation.split_after_opening split
      have admitted := rest.jobs _ (List.mem_append_right _ List.mem_cons_self) j (.inl rfl)
      rw [presentAfter_append, ← opens.ids_eq]
      refine (rest.steps.present_or_left_of_dispatched admitted).resolve_right fun left => ?_
      rw [leaversOf_eq_nil fun d mem => stay d (List.mem_append_left _ mem)] at left
      cases left

/-- An observer that selects the oldest entry when it is told of a removal, and calls nothing
else. -/
def Reaction.reselecting (_ : ObserverTag) (event : Event) : Reaction S Unit :=
  match event.kind with
  | .removed => .look fun c _ =>
    match c.ids.head? with
    | some id => .call (.select id) fun _ => .done
    | none => .done
  | _ => .done

lemma Reaction.reselecting_spare : Spare (reselecting (S := S)) := by
  intro tag event
  unfold reselecting
  split
  · intro c _
    dsimp only
    split
    · exact ⟨rfl, fun _ => trivial⟩
    · trivial
  · trivial

/-- Of two images the first is removed.  The observer sees that it is selected still, selects the
other one, and is told of that. -/
theorem danglings_come_from_removals_of_reselecting :
    let start : Collection ByteArray := .empty (.initial 4 .onDemand .empty) .jpeg
    let w := Surroundings.calling Codec.verbatim 0 Reaction.reselecting 1
    let s := (Session.fresh start ([], ())).after w
      [.subscribe ⟨"o"⟩, .add "a.png" ⟨#[1, 2]⟩, .add "b.png" ⟨#[]⟩]
    let s' := (s.run ((Operation.remove (.nth 1)).perform w)).2
    (∀ id, ¬s'.collection.Dangles id) ∧ s'.collection.selected = some (.nth 2) ∧
      ∃ seen, s'.memory.1 = s.memory.1 ++ seen ∧
        (seen.map fun g => (g.event.kind, g.collection.selected, g.collection.ids)) =
          [(.removed, some (.nth 1), [.nth 2]), (.removed, some (.nth 1), [.nth 2]),
            (.selected, some (.nth 2), [.nth 2])] ∧
        ∀ g ∈ seen, ∀ id, g.collection.Dangles id → id = .nth 1 := by
  intro start w s s'
  have made : Collection.create Settings.default none .null .onDemand = .ok start := rfl
  obtain ⟨ds, seen, accounted, -, clean⟩ := danglings_come_from_removals (w := w) rfl made
    (s := Session.fresh start ([], ())) rfl
    [.subscribe ⟨"o"⟩, .add "a.png" ⟨#[1, 2]⟩, .add "b.png" ⟨#[]⟩] (.remove (.nth 1))
    (rfl : s = _) (rfl : s' = _)
  obtain ⟨after, sightings, -⟩ := clean Reaction.reselecting_spare
  have kept : seen = s'.memory.1.drop s.memory.1.length := by rw [accounted.noted]; simp
  refine ⟨after, by decide +kernel, seen, accounted.noted, ?_, fun g mem id dangles => ?_⟩
  · rw [kept]
    decide +kernel
  · exact (Operation.remove.inj (sightings g mem id dangles).1).symm

/-- An observer that removes every entry that it is told was imported. -/
def Reaction.removing (_ : ObserverTag) (event : Event) : Reaction S Unit :=
  match event.kind, event.entry with
  | .added, some id => .call (.remove id) fun _ => .done
  | _, _ => .done

/-- An observer that does nothing sees a selection that dangles when the only entry is removed.  One
that removes an entry that it is told was imported leaves a collection of nothing in which that
entry is selected, and a job for it is pending. -/
theorem selection_dangles_of_removing :
    let start : Collection ByteArray := .empty (.initial 4 .onDemand .empty) .jpeg
    let imports : List Operation := [.subscribe ⟨"o"⟩, .add "a.png" ⟨#[1, 2]⟩]
    let s := (Session.fresh start ([], ())).after
      (.calling Codec.verbatim 0 (fun _ _ => .done) 1) (imports ++ [.remove (.nth 1)])
    let s' := (Session.fresh start ([], ())).after
      (.calling Codec.verbatim 0 Reaction.removing 1) imports
    (∃ g ∈ s.memory.1, g.event = .about .removed (.nth 1) ∧ g.collection.Dangles (.nth 1)) ∧
      s'.collection.Dangles (.nth 1) ∧ s'.collection.ids = [] ∧
        (s'.collection.scheduler.pending.map (·.2.entry)) = [.nth 1] := by
  decide +kernel

end Reencode
