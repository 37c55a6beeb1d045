import Reencode.Proofs.Session.Acts

/-!
# What observers may do

A path says what the owner of a session does; between its deeds the observers react.  What they do
to the collection must go through its steps: then the whole is again a sequence of steps
(`Path.steps_by`), and what holds after all sequences of steps holds in every session whose
observers are `Lawful`.  Observers that do not call back are `Quiet`: while they are told, jobs may
run, and nothing else happens to the collection.  The deeds of the whole are then those of the
owner, with running jobs in between (`Path.steps_of_quiet`).

`Session.after` performs operations one after the other, whether they fail or not.
-/

namespace Reencode

variable {S O : Type}

/-- Whether a deed is that of the executor running a job. -/
def Deed.isRun : Deed → Bool
  | ran _ => true
  | _ => false

/-- A history without the running of jobs. -/
def ownOf (deeds : List Deed) : List Deed := deeds.filter fun d => !d.isRun

/-- Whether an event tells what a job came to. -/
def EventKind.isResult : EventKind → Bool
  | outputUpdated | fault => true
  | _ => false

namespace Surroundings

/-- Observers that do nothing to the collection but what its steps do, by deeds of some kind. -/
def ReactBy (w : Surroundings S O) (may : Deed → Prop) : Prop :=
  ∀ tag event (s : Session S O), ∃ ds,
    Collection.Steps w.codec s.collection ds (s.run (w.react tag event)).2.collection ∧
      ∀ d ∈ ds, may d

/-- Observers that change the collection through its steps alone. -/
def Lawful (w : Surroundings S O) : Prop := w.ReactBy fun _ => True

/-- Observers that do not call back; jobs may run while they are told. -/
def Quiet (w : Surroundings S O) : Prop := w.ReactBy fun d => d.isRun = true

lemma ReactBy.mono {w : Surroundings S O} {may may' : Deed → Prop} (h : w.ReactBy may)
    (more : ∀ d, may d → may' d) : w.ReactBy may' := by
  intro tag event s
  obtain ⟨ds, steps, kind⟩ := h tag event s
  exact ⟨ds, steps, fun d mem => more d (kind d mem)⟩

lemma Quiet.lawful {w : Surroundings S O} (h : w.Quiet) : w.Lawful := h.mono fun _ _ => trivial

/-- Surroundings in which no observer does anything. -/
def unobserved (codec : Codec S) (patience : Nat) : Surroundings S Unit where
  codec := codec
  react _ _ := pure ()
  patience := patience

lemma unobserved_quiet (codec : Codec S) (patience : Nat) : (unobserved codec patience).Quiet :=
  fun _ _ _ => ⟨[], .start, by simp⟩

end Surroundings

/-! ## Histories without running jobs -/

@[simp] lemma ownOf_append (ds es : List Deed) : ownOf (ds ++ es) = ownOf ds ++ ownOf es :=
  List.filter_append ds es

lemma ownOf_eq_nil {ds : List Deed} (runs : ∀ d ∈ ds, d.isRun = true) : ownOf ds = [] := by
  refine List.filter_eq_nil_iff.mpr fun d mem => ?_
  simp [runs d mem]

lemma eventsOf_ownOf (ds : List Deed) : eventsOf (ownOf ds) = eventsOf ds := by
  induction ds with
  | nil => rfl
  | cons d rest ih =>
    have tail : eventsOf (d :: rest) = eventsOf [d] ++ eventsOf rest := eventsOf_append [d] rest
    rw [ownOf, List.filter_cons, tail]
    cases d with
    | ran k => exact ih
    | _ => exact (eventsOf_append [_] _).trans (congrArg _ ih)

lemma owingAfter_ownOf (ds : List Deed) (before : List EntryId) :
    owingAfter before (ownOf ds) = owingAfter before ds := by
  induction ds generalizing before with
  | nil => rfl
  | cons d rest ih =>
    rw [ownOf, List.filter_cons]
    cases d <;> exact ih _

lemma mem_of_ownOf_eq {ds es : List Deed} (same : ownOf es = ownOf ds) {d : Deed} (mem : d ∈ es) :
    d ∈ ds ∨ d.isRun = true := by
  cases runs : d.isRun with
  | true => exact .inr rfl
  | false =>
    have own : d ∈ ownOf es := List.mem_filter.mpr ⟨mem, by simp [runs]⟩
    rw [same] at own
    exact .inl (List.mem_of_mem_filter own)

/-! ## From paths to steps -/

namespace Session

variable {w : Surroundings S O} {may : Deed → Prop}

/-- Telling does to the collection what the reactions to the event do. -/
lemma told_steps_of {event : Event} (reacts : ∀ tag (s : Session S O), ∃ ds,
      Collection.Steps w.codec s.collection ds (s.run (w.react tag event)).2.collection ∧
        ∀ d ∈ ds, may d) (s : Session S O) :
    ∃ ds, Collection.Steps w.codec s.collection ds (s.told w event).collection ∧
      ∀ d ∈ ds, may d := by
  rw [told_eq_foldl]
  generalize s.collection.observers = tags
  -- Induction on the observers, who are told one after the other; each starts from what the ones
  -- before it left.
  induction tags generalizing s with
  | nil => exact ⟨[], .start, by simp⟩
  | cons tag rest ih =>
    obtain ⟨ds, first, kind⟩ := reacts tag s
    obtain ⟨records, notification⟩ := run_notify w event s tag
    have same : (notified w event s tag).collection = (s.run (w.react tag event)).2.collection := by
      rw [notified, notification]
      rfl
    obtain ⟨es, then_, kind'⟩ := ih (notified w event s tag)
    rw [same] at then_
    refine ⟨ds ++ es, first.trans then_, ?_⟩
    intro d mem
    rcases List.mem_append.mp mem with old | new
    · exact kind d old
    · exact kind' d new

/-- Telling does to the collection what the reactions do. -/
lemma told_steps (reacts : w.ReactBy may) (event : Event) (s : Session S O) :
    ∃ ds, Collection.Steps w.codec s.collection ds (s.told w event).collection ∧
      ∀ d ∈ ds, may d :=
  told_steps_of (fun tag s => reacts tag event s) s

end Session

namespace Path

variable {w : Surroundings S O} {may : Deed → Prop} {s s' : Session S O} {ds : List Deed}

/-- A path is a sequence of steps, whose deeds are those of the path and what observers did. -/
theorem steps_by (reacts : w.ReactBy may) (path : Path w s ds s') :
    ∃ es, Collection.Steps w.codec s.collection es s'.collection ∧ ∀ d ∈ es, d ∈ ds ∨ may d := by
  induction path with
  | start => exact ⟨[], .start, by simp⟩
  | log _ _ ih => exact ih
  | silent _ step _ ih =>
    obtain ⟨es, before, kind⟩ := ih
    refine ⟨_, before.step step, fun d mem => ?_⟩
    rcases List.mem_append.mp mem with old | new
    · exact (kind d old).imp_left (List.mem_append_left _)
    · exact .inl (List.mem_append_right _ new)
  | @told ds s' d c event _ step records _ ih =>
    obtain ⟨es, before, kind⟩ := ih
    obtain ⟨fs, reactions, kind'⟩ :=
      Session.told_steps reacts event ((s'.withCollection c).logged records)
    refine ⟨_, (before.step step).trans reactions, fun d mem => ?_⟩
    rcases List.mem_append.mp mem with own | theirs
    · rcases List.mem_append.mp own with old | new
      · exact (kind d old).imp_left (List.mem_append_left _)
      · exact .inl (List.mem_append_right _ new)
    · exact .inr (kind' d theirs)

/-- A path is a sequence of steps. -/
theorem steps (lawful : w.Lawful) (path : Path w s ds s') :
    ∃ es, Collection.Steps w.codec s.collection es s'.collection := by
  obtain ⟨es, steps, -⟩ := path.steps_by lawful
  exact ⟨es, steps⟩

/-- If nothing but running jobs happens when the events of a path are told, then nothing else comes
in between. -/
theorem steps_of_runs (reacts : ∀ event ∈ eventsOf ds, ∀ s : Session S O, ∃ fs,
      Collection.Steps w.codec s.collection fs (s.told w event).collection ∧
        ∀ d ∈ fs, d.isRun = true) (path : Path w s ds s') :
    ∃ es, Collection.Steps w.codec s.collection es s'.collection ∧ ownOf es = ownOf ds := by
  induction path with
  | start => exact ⟨[], .start, rfl⟩
  | log _ _ ih => exact ih reacts
  | @silent ds s' d c _ step _ ih =>
    obtain ⟨es, before, same⟩ := ih fun event mem => reacts event (by simp [mem])
    exact ⟨es ++ [d], before.step step, by rw [ownOf_append, ownOf_append, same]⟩
  | @told ds s' d c event _ step records tells ih =>
    obtain ⟨es, before, same⟩ := ih fun event mem => reacts event (by simp [mem])
    obtain ⟨fs, reactions, runs⟩ := reacts event (by simp [eventsOf_singleton, tells])
      ((s'.withCollection c).logged records)
    refine ⟨es ++ [d] ++ fs, (before.step step).trans reactions, ?_⟩
    rw [ownOf_append, ownOf_append, ownOf_append, same, ownOf_eq_nil runs, List.append_nil]

/-- With observers that do not call back, nothing but running jobs comes in between. -/
theorem steps_of_quiet (quiet : w.Quiet) (path : Path w s ds s') :
    ∃ es, Collection.Steps w.codec s.collection es s'.collection ∧ ownOf es = ownOf ds :=
  path.steps_of_runs fun event _ s => Session.told_steps quiet event s

end Path

lemma Deed.isHarvest_of_isRun {d : Deed} (runs : d.isRun = true) : d.isHarvest = true := by
  cases d <;> first | rfl | cases runs

namespace Surroundings

/-- Observers that do not call back when they are told of an output or a fault; jobs may run. -/
def Receptive (w : Surroundings S O) : Prop :=
  ∀ tag event (s : Session S O), event.kind.isResult = true → ∃ ds,
    Collection.Steps w.codec s.collection ds (s.run (w.react tag event)).2.collection ∧
      ∀ d ∈ ds, d.isRun = true

lemma Quiet.receptive {w : Surroundings S O} (h : w.Quiet) : w.Receptive :=
  fun tag event s _ => h tag event s

end Surroundings

/-- Getting work done tells of outputs and faults alone. -/
lemma Deed.isResult_of_isHarvest {d : Deed} (harvest : d.isHarvest = true) {event : Event}
    (tells : d.event? = some event) : event.kind.isResult = true := by
  cases d with
  | applied o =>
    cases payload : o.payload with
    | fault f =>
      simp only [event?, payload, Option.some.injEq] at tells
      exact tells ▸ rfl
    | data data =>
      simp only [event?, payload, Option.some.injEq] at tells
      exact tells ▸ rfl
    | nothing =>
      simp only [event?, payload] at tells
      cases tells
  | ran | dropped => cases tells
  | _ => cases harvest

/-- A path on which nothing but work gets done, if observers do not call back when they are told of
it. -/
lemma Path.steps_of_receptive {w : Surroundings S O} (receptive : w.Receptive) {s s' : Session S O}
    {ds : List Deed} (path : Path w s ds s') (harvest : ∀ d ∈ ds, d.isHarvest = true) :
    ∃ es, Collection.Steps w.codec s.collection es s'.collection ∧ ownOf es = ownOf ds ∧
      ∀ d ∈ es, d.isHarvest = true := by
  obtain ⟨es, steps, same⟩ := path.steps_of_runs fun event mem s => by
    obtain ⟨d, hd, tells⟩ := List.mem_filterMap.mp mem
    have result := Deed.isResult_of_isHarvest (harvest d hd) tells
    exact Session.told_steps_of (fun tag s => receptive tag event s result) s
  refine ⟨es, steps, same, fun d mem => ?_⟩
  rcases mem_of_ownOf_eq same mem with own | runs
  · exact harvest d own
  · exact Deed.isHarvest_of_isRun runs

/-- Work that gets done by steps, if observers do not call back when they are told of it. -/
lemma Session.Harvests.steps_of_receptive {α : Type} {w : Surroundings S O} {a : Act S O α}
    (h : Harvests w a) (receptive : w.Receptive) (s : Session S O) :
    ∃ ds, Collection.Steps w.codec s.collection ds (s.run a).2.collection ∧
      ∀ d ∈ ds, d.isHarvest = true := by
  obtain ⟨ds, path, kind⟩ := h s
  obtain ⟨es, steps, -, kind'⟩ := path.steps_of_receptive receptive kind
  exact ⟨es, steps, kind'⟩

/-- Work that gets done by steps, if observers do not call back. -/
lemma Session.Harvests.steps {α : Type} {w : Surroundings S O} {a : Act S O α} (h : Harvests w a)
    (quiet : w.Quiet) (s : Session S O) :
    ∃ ds, Collection.Steps w.codec s.collection ds (s.run a).2.collection ∧
      ∀ d ∈ ds, d.isHarvest = true :=
  h.steps_of_receptive quiet.receptive s

/-! ## Performing operations -/

/-- Whether an operation belongs to the end of a scheduler's work. -/
def Operation.ends : Operation → Bool
  | close | cancelJob _ | shutExecutor => true
  | _ => false

lemma Operation.not_isEnding {op : Operation} (goes_on : op.ends = false) {d : Deed}
    (allowed : op.allows d) : d.isEnding = false := by
  cases op <;> first | exact allowed.1 | (cases allowed; rfl) | cases goes_on

namespace Session

variable {w : Surroundings S O}

/-- A session of a collection in which nothing has happened yet. -/
def fresh (c : Collection S) (memory : O) : Session S O where
  collection := c
  settings := .default
  files := .initial []
  journal := []
  memory := memory

/-- The session after operations were performed, one after the other. -/
def after (w : Surroundings S O) (s : Session S O) (ops : List Operation) : Session S O :=
  ops.foldl (fun s op => (s.run (op.perform w)).2) s

/-- Operations of a session with lawful observers are sequences of steps of its collection. -/
theorem after_steps (lawful : w.Lawful) (s : Session S O) (ops : List Operation) :
    ∃ ds, Collection.Steps w.codec s.collection ds (s.after w ops).collection := by
  induction ops generalizing s with
  | nil => exact ⟨[], .start⟩
  | cons op rest ih =>
    obtain ⟨ds, path, -⟩ := op.perform_leads (w := w) s
    obtain ⟨es, first⟩ := path.steps lawful
    obtain ⟨fs, then_⟩ := ih (s.run (op.perform w)).2
    exact ⟨es ++ fs, first.trans then_⟩

/-- With observers that do not call back, operations leave no debts; and as long as none of them
ends the work, nothing else does. -/
theorem after_steps_of_quiet (quiet : w.Quiet) (s : Session S O) {ops : List Operation}
    (go_on : ∀ op ∈ ops, op.ends = false) :
    ∃ ds, Collection.Steps w.codec s.collection ds (s.after w ops).collection ∧
      (∀ before, owingAfter before ds ⊆ before) ∧ ∀ d ∈ ds, d.isEnding = false := by
  induction ops generalizing s with
  | nil => exact ⟨[], .start, fun _ _ mem => mem, by simp⟩
  | cons op rest ih =>
    obtain ⟨ds, path, tidy⟩ := op.perform_leads (w := w) s
    obtain ⟨es, first, same⟩ := path.steps_of_quiet quiet
    obtain ⟨fs, then_, settles, lasting⟩ := ih (s.run (op.perform w)).2
      fun op mem => go_on op (List.mem_cons_of_mem _ mem)
    refine ⟨es ++ fs, first.trans then_, ?_, ?_⟩
    -- Within one operation the debts are paid; what observers do owes nothing.
    · intro before
      have own : owingAfter before es ⊆ before := by
        rw [← owingAfter_ownOf, same, owingAfter_ownOf]
        exact tidy.owing before
      rw [owingAfter_append]
      exact List.Subset.trans (settles _) own
    · intro d mem
      rcases List.mem_append.mp mem with old | new
      · rcases mem_of_ownOf_eq same old with own | runs
        · exact op.not_isEnding (go_on op List.mem_cons_self) (tidy.kind d own)
        · cases d <;> first | rfl | cases runs
      · exact lasting d new

end Session

end Reencode
