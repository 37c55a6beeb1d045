import Reencode.Proofs.Collection.Prospect
import Reencode.Proofs.Session.EventLog
import Reencode.Proofs.Session.Harvest
import Reencode.Proofs.Session.Teardown

/-!
# The order of jobs does not matter

Getting work done leaves the outlook of a collection alone (`Collection.Steps.outlook_eq`), and when
nothing is in flight any more the outlook is what has come of the collection, up to locators.  So
two ways of getting all work done end alike, in whatever order the jobs run and the outcomes are
taken over, and one way is to run all jobs in any order and to drain then
(`Session.idle_of_runJobs`).

Observers may call back at any time but one: when they are told of an output or of a fault.  That
happens in the order in which the outcomes are taken over, so what such an observer does may depend
on it.
-/

namespace Reencode

variable {S O : Type} {w : Surroundings S O}

namespace Session

/-! ## Draining to the end -/

/-- Without pending jobs, getting work done takes outcomes out and puts none in. -/
lemma mailbox_of_harvest {codec : Codec S} {c c' : Collection S} {ds : List Deed}
    (steps : Collection.Steps codec c ds c') (harvest : ∀ d ∈ ds, d.isHarvest = true)
    (pending : c.scheduler.pending = []) : c'.scheduler.pending = [] ∧
      c'.scheduler.mailbox.length + (ownOf ds).length = c.scheduler.mailbox.length := by
  induction steps with
  | start => exact ⟨pending, rfl⟩
  | @step ds c₁ c₂ d before last ih =>
    obtain ⟨still, count⟩ := ih fun d mem => harvest d (List.mem_append_left _ mem)
    have kind := harvest d (List.mem_append_right _ List.mem_cons_self)
    -- Taking an outcome shortens the mailbox by the one.
    have taken_out : ∀ {o : Outcome} {rest : Scheduler S}, c₁.scheduler.take = some (o, rest) →
        rest.pending = [] ∧ rest.mailbox.length + 1 = c₁.scheduler.mailbox.length := by
      intro o rest taken
      unfold Scheduler.take at taken
      split at taken
      · cases taken
      · rename_i mail
        obtain ⟨-, rfl⟩ := Prod.mk.inj (Option.some.inj taken)
        exact ⟨still, by rw [mail]; rfl⟩
    rw [ownOf_append, List.length_append]
    cases last with
    | ran k =>
      have idle : c₁.scheduler.pending.lookup k = none := by rw [still]; rfl
      rw [Scheduler.runPending_eq_self idle]
      exact ⟨still, count⟩
    | faulted taken | updated taken | dropped taken =>
      obtain ⟨none_left, fewer⟩ := taken_out taken
      refine ⟨none_left, ?_⟩
      show _ + ((ownOf ds).length + 1) = _
      exact (by omega : ∀ {a b m n : Nat}, a + 1 = b → b + m = n → a + (m + 1) = n) fewer count
    | _ => cases kind

section Drain

variable (receptive : w.Receptive)

include receptive

/-- Draining without pending jobs empties the mailbox. -/
lemma drainUpTo_empties (limit : Nat) : ∀ {s : Session S O},
    Shelved s.collection.ids s.collection.shelf →
    Catalogued s.collection.shelf s.collection.registry →
    s.collection.scheduler.pending = [] → s.collection.scheduler.mailbox.length ≤ limit →
    (s.run (drainUpTo w limit)).2.collection.scheduler.pending = [] ∧
      (s.run (drainUpTo w limit)).2.collection.scheduler.mailbox = [] := by
  -- Induction on the limit, which the mailbox does not exceed: every turn takes one outcome out and
  -- lets none come in.
  induction limit with
  | zero => exact fun _ _ pending few => ⟨pending, List.length_eq_zero_iff.mp (Nat.le_zero.mp few)⟩
  | succ limit ih =>
    intro s shelved catalogued pending few
    cases taken : s.collection.scheduler.take with
    | none =>
      have mail : s.collection.scheduler.mailbox = [] := by
        unfold Scheduler.take at taken
        split at taken
        · assumption
        · cases taken
      rw [drainUpTo, run_bind_ok (run_collection? s), taken]
      exact ⟨pending, mail⟩
    | some next =>
      obtain ⟨o, rest⟩ := next
      obtain ⟨d, path, draining, -⟩ := apply_drains (w := w) taken
      obtain ⟨b, applied⟩ := apply_total (w := w) shelved catalogued rest o
      obtain ⟨es, steps, own, harvest⟩ := path.steps_of_receptive receptive fun e mem =>
        List.mem_singleton.mp mem ▸ Deed.isHarvest_of_isDraining draining
      obtain ⟨still, count⟩ := mailbox_of_harvest steps harvest pending
      have one : (ownOf es).length = 1 := by
        rw [own]
        cases d <;> first | rfl | cases draining
      have ok : (s.withScheduler rest).run (apply w o) =
          (.ok b, ((s.withScheduler rest).run (apply w o)).2) := Prod.ext applied rfl
      rw [run_drainUpTo taken, run_bind_ok ok, bind_pure_comp, run_map]
      exact ih (shelved.steps steps) (catalogued.steps shelved steps) still (by omega)

/-- When all pending jobs have run, in whatever order, and the mailbox was drained, nothing is
owed any more. -/
lemma settled_of_runJobs {settings : Settings} {workers : Option Int} {format : Value} {pace : Pace}
    {start : Collection S} (made : Collection.create settings workers format pace = .ok start)
    {s : Session S O} {deeds : List Deed}
    (reached : Collection.Steps w.codec start deeds s.collection) {order : List Nat}
    (all : order.Perm s.collection.scheduler.pendingNumbers) :
    (s.after w [.runJobs order, .drain]).collection.scheduler.tickets = [] := by
  let done := s.collection.scheduler.runAll w.codec order
  let ran : Session S O := (s.withScheduler done.1).logged done.2
  have drained : s.after w [.runJobs order, .drain] = (ran.run (drainUpTo w
      (ran.collection.scheduler.mailbox.length + w.patience))).2 := by
    have last : s.after w [.runJobs order, .drain] = (ran.run (Operation.drain.perform w)).2 := rfl
    rw [last, Operation.perform, run_map, drain, run_bind_ok (run_collection? ran)]
  obtain ⟨es, running, -, -⟩ :=
    (runAll_path (w := w) order s).steps_of_receptive receptive (ran_harvest order)
  have onward : Collection.Steps w.codec start (deeds ++ es) ran.collection := reached.trans running
  -- Every pending job is in the order and runs, and nothing that is told in between submits
  -- another.
  have pending : ran.collection.scheduler.pending = [] := by
    refine (Scheduler.pending_runAll _ _).trans (List.filter_eq_nil_iff.mpr fun p mem => ?_)
    have number : p.1 ∈ order := all.mem_iff.mpr (List.mem_map_of_mem mem)
    simpa using number
  obtain ⟨still, empty⟩ := drainUpTo_empties receptive
    (ran.collection.scheduler.mailbox.length + w.patience)
    ((Shelved.of_create made).steps onward)
    ((Catalogued.of_create made).steps (Shelved.of_create made) onward) pending
    (Nat.le_add_right _ _)
  rw [drained, Scheduler.tickets, still, empty]
  rfl

end Drain

end Session

/-- **The order of jobs does not matter.**  After any operations, while observers may have called
back, let the pending jobs run in any order, and then drain: nothing is in flight any more, and in
whatever other order they had run, the collection would have come to the same up to locators.  The
same holds of any two ways of getting the work done after which nothing is in flight, also if
outcomes are taken over while other jobs are still pending.  Only, observers must not call back when
they are told of outputs and faults. -/
theorem schedules_agree (lawful : w.Lawful) (receptive : w.Receptive) {settings : Settings}
    {workers : Option Int} {format : Value} {pace : Pace} {start : Collection S}
    (made : Collection.create settings workers format pace = .ok start)
    {s : Session S O} (began : s.collection = start) (ops : List Operation)
    {t : Session S O} (reached : t = s.after w ops) :
    (∀ order other, order.Perm t.collection.scheduler.pendingNumbers →
      other.Perm t.collection.scheduler.pendingNumbers →
      (t.after w [.runJobs order, .drain]).collection.scheduler.inFlight = 0 ∧
      (t.after w [.runJobs order, .drain]).collection.Resembles
        (t.after w [.runJobs other, .drain]).collection) ∧
    ∀ one other, (∀ op ∈ one, op.harvests = true) → (∀ op ∈ other, op.harvests = true) →
      (t.after w one).collection.scheduler.inFlight = 0 →
      (t.after w other).collection.scheduler.inFlight = 0 →
      (t.after w one).collection.Resembles (t.after w other).collection := by
  subst began reached
  obtain ⟨deeds, steps⟩ := Session.after_steps lawful s ops
  generalize s.after w ops = t at steps ⊢
  have shelved := (Shelved.of_create made).steps steps
  have traced := (Traced.of_create made).steps (Shelved.of_create made) steps
  -- Whatever gets work done ends honest, with the outlook that there was before.
  have ends : ∀ ops : List Operation, (∀ op ∈ ops, op.harvests = true) →
      ((t.after w ops).collection.scheduler.inFlight =
        (t.after w ops).collection.scheduler.tickets.length) ∧
      (t.after w ops).collection.outlook w.codec = t.collection.outlook w.codec := by
    intro ops harvest
    -- Harvesting redeems tickets and nothing else, so idle sessions of one outlook resemble each
    -- other.
    obtain ⟨es, onward, kind⟩ := Session.harvest_steps receptive harvest t
    exact ⟨(traced.steps shelved onward).honest.balance, onward.outlook_eq traced shelved kind⟩
  have alike : ∀ one other : List Operation, (∀ op ∈ one, op.harvests = true) →
      (∀ op ∈ other, op.harvests = true) →
      (t.after w one).collection.scheduler.tickets = [] →
      (t.after w other).collection.scheduler.tickets = [] →
      (t.after w one).collection.Resembles (t.after w other).collection := by
    intro one other harvest harvest' idle idle'
    exact Collection.resembles_of_outlook_eq
      ((ends one harvest).2.trans (ends other harvest').2.symm) idle idle'
  have running : ∀ order : List Nat,
      ∀ op ∈ [Operation.runJobs order, .drain], op.harvests = true := by simp [Operation.harvests]
  refine ⟨?_, ?_⟩
  · intro order other all all'
    have settled := Session.settled_of_runJobs receptive made steps all
    refine ⟨?_, alike _ _ (running order) (running other) settled
      (Session.settled_of_runJobs receptive made steps all')⟩
    rw [(ends _ (running order)).1, settled]
    rfl
  · intro one other harvest harvest' idle idle'
    refine alike one other harvest harvest' ?_ ?_
    · have balance := (ends one harvest).1
      exact List.length_eq_zero_iff.mp (by omega)
    · have balance := (ends other harvest').1
      exact List.length_eq_zero_iff.mp (by omega)

/-! ## An observer that calls back -/

/-- Surroundings in which every observer selects the entry that it is told of when it is told of an
event of some kind. -/
def Surroundings.following (codec : Codec S) (kind : EventKind) : Surroundings S Unit where
  codec := codec
  react _ event :=
    match event.entry with
    | some id =>
      if event.kind = kind then (fun _ => ()) <$> Session.select (.unobserved codec 0) id
      else pure ()
    | none => pure ()
  patience := 0

lemma Surroundings.following_steps (codec : Codec S) (kind : EventKind) (tag : ObserverTag)
    (event : Event) (s : Session S Unit) : ∃ ds,
      Collection.Steps codec s.collection ds
        (s.run ((following codec kind).react tag event)).2.collection ∧
      (event.kind ≠ kind → ds = []) := by
  unfold following
  dsimp only
  split
  · rename_i id _
    split
    · rename_i same
      rw [Session.run_map]
      obtain ⟨ds, path, -⟩ := Session.select_leads (w := .unobserved codec 0) s id
      obtain ⟨es, steps⟩ := path.steps (unobserved_quiet codec 0).lawful
      exact ⟨es, steps, fun other => absurd same other⟩
    · exact ⟨[], .start, fun _ => rfl⟩
  · exact ⟨[], .start, fun _ => rfl⟩

lemma Surroundings.following_lawful (codec : Codec S) (kind : EventKind) :
    (following codec kind).Lawful := by
  intro tag event s
  obtain ⟨ds, steps, -⟩ := following_steps codec kind tag event s
  exact ⟨ds, steps, fun _ _ => trivial⟩

lemma Surroundings.following_receptive (codec : Codec S) {kind : EventKind}
    (other : kind.isResult = false) : (following codec kind).Receptive := by
  intro tag event s result
  obtain ⟨ds, steps, nothing⟩ := following_steps codec kind tag event s
  refine ⟨ds, steps, ?_⟩
  rw [nothing fun same => by rw [same, other] at result; cases result]
  simp

/-- Of three images one is removed and one cannot be encoded, and one gets other parameters.  An
observer selects each new entry.  Running the jobs from the last to the first leads to the same as
running them from the first to the last. -/
theorem schedules_agree_of_four :
    let start : Collection ByteArray := .empty (.initial 4 .onDemand .empty) .jpeg
    let w := Surroundings.following Codec.verbatim .added
    let ops : List Operation := [.subscribe ⟨"view"⟩, .add "a.png" ⟨#[1, 2]⟩, .add "b.png" ⟨#[]⟩,
      .add "c.png" ⟨#[3]⟩, .remove (.nth 3), .setParams (.nth 1) .none (.int 40) .null]
    let t := (Session.fresh start ()).after w ops
    let first := (t.after w [.runJobs [1, 2, 3, 4], .drain]).collection
    let last := (t.after w [.runJobs [4, 3, 2, 1], .drain]).collection
    t.collection.scheduler.pendingNumbers = [1, 2, 3, 4] ∧ first.selected = some (.nth 1) ∧
      first.entries.map (fun e => (e.hasOutput, e.fault.isSome)) = [(true, false), (false, true)] ∧
      first.scheduler.inFlight = 0 ∧ first.Resembles last := by
  intro start w ops t first last
  have made : Collection.create Settings.default none .null .onDemand = .ok start := rfl
  have numbers : t.collection.scheduler.pendingNumbers = [1, 2, 3, 4] := by decide +kernel
  have selected : first.selected = some (.nth 1) := by decide +kernel
  have shown : first.entries.map (fun e => (e.hasOutput, e.fault.isSome)) =
      [(true, false), (false, true)] := by decide +kernel
  have lawful : w.Lawful := Surroundings.following_lawful _ _
  have receptive : w.Receptive := Surroundings.following_receptive _ rfl
  have began : (Session.fresh start ()).collection = start := rfl
  have agree := (schedules_agree lawful receptive made began ops (t := t) rfl).1
  -- From here on it does not matter how the session came about.
  clear_value t
  have forwards : [1, 2, 3, 4].Perm t.collection.scheduler.pendingNumbers := .of_eq numbers.symm
  have backwards : [4, 3, 2, 1].Perm t.collection.scheduler.pendingNumbers :=
    (List.reverse_perm [1, 2, 3, 4]).trans forwards
  exact ⟨numbers, selected, shown, agree _ _ forwards backwards⟩

/-- An observer that selects the entry whose output it is told of makes the order of the jobs
matter: which entry is selected in the end depends on it. -/
theorem schedules_differ_of_following :
    let start : Collection ByteArray := .empty (.initial 4 .onDemand .empty) .jpeg
    let w := Surroundings.following Codec.verbatim .outputUpdated
    let t := (Session.fresh start ()).after w
      [.subscribe ⟨"view"⟩, .add "a.png" ⟨#[1, 2]⟩, .add "b.png" ⟨#[3]⟩]
    let first := (t.after w [.runJobs [1, 2], .drain]).collection
    let last := (t.after w [.runJobs [2, 1], .drain]).collection
    w.Lawful ∧ t.collection.scheduler.pendingNumbers = [1, 2] ∧
      first.scheduler.inFlight = 0 ∧ last.scheduler.inFlight = 0 ∧
      first.selected = some (.nth 2) ∧ last.selected = some (.nth 1) := by
  intro start w t first last
  exact ⟨Surroundings.following_lawful _ _, by decide +kernel, by decide +kernel,
    by decide +kernel, by decide +kernel, by decide +kernel⟩

end Reencode
