import Reencode.Proofs.Collection.Roster
import Reencode.Proofs.Session.Rejection

/-!
# The verdict on parameters

Setting the parameters of an entry either takes what is asked for or reports that it cannot be
taken.  It is meant to do nothing else: a number is never refused, however large it is, and whatever
is refused is refused by one kind of failure, with the id of the entry.  Two values slip through
(`ParamsReport`).  An infinite quality is rounded to an integer before anything is reported, and the
rounding fails with a failure of its own; and a report that would have to show an integer of too
many digits fails itself.

When the parameters are taken, setting them can only fail because an observer who was told of them
has shut the scheduler down (`accepts_told`).
-/

namespace Reencode

variable {S O : Type}

/-! ## Open schedulers -/

namespace Collection

variable {codec : Codec S} {c c' : Collection S} {d : Deed}

/-- Only shutting a scheduler down makes it stop accepting jobs. -/
lemma Step.accepts_eq (step : Step codec c d c') (other : d ≠ .shut) :
    c'.scheduler.accepts = c.scheduler.accepts := by
  -- Only a shutdown changes whether jobs are accepted.
  cases step with
  | removed found => exact Scheduler.accepts_forget _ _
  | cleared =>
    refine destroyAll_induction (P := fun c' => c'.scheduler.accepts = c.scheduler.accepts)
      (fun _ _ _ same _ => (Scheduler.accepts_forget _ _).trans same) c.ids _ rfl
  | dispatched found accepted => exact Scheduler.accepts_submit _ _
  | refused found refusal => exact Scheduler.accepts_submit _ _
  | faulted taken found payload recorded => exact Scheduler.accepts_take taken
  | updated taken found payload replaced => exact Scheduler.accepts_take taken
  | dropped taken ignored => exact Scheduler.accepts_take taken
  | ran => exact Scheduler.accepts_runPending _ _
  | cancelled => exact Scheduler.accepts_cancel _ _
  | executorShut => exact absurd rfl other
  | closed => exact absurd rfl other
  | _ => rfl

lemma Steps.accepts_eq {ds : List Deed} (steps : Steps codec c ds c')
    (others : ∀ d ∈ ds, d ≠ .shut) : c'.scheduler.accepts = c.scheduler.accepts := by
  induction steps with
  | start => rfl
  | @step ds c₁ c₂ d _ last ih =>
    rw [last.accepts_eq (others d (by simp))]
    exact ih fun d mem => others d (by simp [mem])

end Collection

namespace Session

variable {w : Surroundings S O} {s s' : Session S O} {id : EntryId} {e : Entry}
  {source : ParamsSource} {quality format : Value}

/-- Observers that do not shut the scheduler down leave it as open as it was. -/
lemma accepts_told (steady : w.ReactBy (· ≠ .shut)) (event : Event) (s : Session S O) :
    (s.told w event).collection.scheduler.accepts = s.collection.scheduler.accepts := by
  obtain ⟨ds, steps, others⟩ := told_steps steady event s
  exact steps.accepts_eq others

lemma dispatch_ok (isOpen : s.collection.scheduler.Accepting) :
    (s.run (dispatch w id)).1 = .ok () := by
  cases found : s.collection.find? id with
  | none => rw [run_dispatch_unknown found]
  | some e =>
    obtain rfl := Collection.id_of_find? found
    rw [run_dispatch found]
    exact (Scheduler.submit_result _ _ _).mpr isOpen

/-! ## Parameters that are taken -/

/-- Parameters that can be taken are written down, told of, and asked a job for. -/
lemma run_setParams_of_takes {p : Params} (found : s.collection.get? id = some e)
    (taken : e.params.Takes w.reader (source.resolve quality format).1
      (source.resolve quality format).2 p) :
    s.run ((Operation.setParams id source quality format).perform w) =
      ((s.withCollection (s.collection.setEntry { e with params := p })).told w
        (.about .paramsChanged id)).run (do dispatch w id; return .truth true) := by
  have known := (Collection.find?_of_get? found).1
  have same := run_setParams_of_ok (w := w) found (Params.change_eq_ok_iff.mpr taken)
  rw [Operation.perform, run_map, same, run_bind, run_setEntryParams known, run_bind]
  rcases Session.run _ (dispatch w id) with ⟨failure | ⟨⟩, s'⟩ <;> rfl

/-- Setting parameters that can be taken succeeds, or the job is turned away. -/
lemma truth_or_turnedAway_of_takes {p : Params} (found : s.collection.get? id = some e)
    (taken : e.params.Takes w.reader (source.resolve quality format).1
      (source.resolve quality format).2 p) :
    (s.run ((Operation.setParams id source quality format).perform w)).1 = .ok (.truth true) ∨
      ∃ f, (s.run ((Operation.setParams id source quality format).perform w)).1 = .error f ∧
        TurnedAway f (s.run ((Operation.setParams id source quality format).perform w)).2 := by
  rw [run_setParams_of_takes found taken, run_bind]
  rcases dispatched : Session.run _ (dispatch w id) with ⟨failure | ⟨⟩, s'⟩
  · exact .inr ⟨failure, rfl, turnedAway_of_dispatch dispatched⟩
  · exact .inl rfl

lemma truth_of_takes (isOpen : s.collection.scheduler.Accepting)
    (steady : w.ReactBy (· ≠ .shut)) {p : Params} (found : s.collection.get? id = some e)
    (taken : e.params.Takes w.reader (source.resolve quality format).1
      (source.resolve quality format).2 p) :
    (s.run ((Operation.setParams id source quality format).perform w)).1 = .ok (.truth true) := by
  have still : ((s.withCollection (s.collection.setEntry { e with params := p })).told w
      (.about .paramsChanged id)).collection.scheduler.Accepting := by
    rw [← Scheduler.accepts_iff, accepts_told steady]
    exact Scheduler.accepts_iff.mpr isOpen
  rw [run_setParams_of_takes found taken, run_bind_ok (Prod.ext (dispatch_ok still) rfl)]
  rfl

end Session

/-! ## Parameters that are not -/

/-- What is reported when parameters cannot be taken: that they are not valid, and for which entry.
An infinite quality is not reported, but fails to be rounded; and a report that would show an
integer of too many digits fails to be written. -/
inductive ParamsReport (id : EntryId) (quality format : Value) : Failure → Prop
  | validation (bounded : ¬quality.IsInfinite)
      (writable : quality.isWritable = true ∧ format.isWritable = true) (message : String) :
      ParamsReport id quality format (.own .validation message (some id))
  | infinite (infinite : quality.IsInfinite) :
      ParamsReport id quality format
        (.outside .overflow "cannot convert float infinity to integer")
  | unwritable (bounded : ¬quality.IsInfinite)
      (long : quality.isWritable = false ∨ format.isWritable = false) :
      ParamsReport id quality format Value.lengthFailure

namespace Session

variable {w : Surroundings S O} {s s' : Session S O} {id : EntryId} {e : Entry}
  {source : ParamsSource} {quality format : Value}

lemma isWritable_report : (Value.record [("quality", quality), ("format", format)]).isWritable =
    (quality.isWritable && format.isWritable) := by
  simp [Value.isWritable, Value.areWritableFields]

lemma paramsReport_of_change {p : Params} {problem : ParamsError}
    (refused : p.change w.reader quality format = .error problem) :
    ParamsReport id quality format (paramsFailure id quality format problem) := by
  by_cases infinite : quality.IsInfinite
  · rw [Params.change_eq_infinite_iff.mpr infinite] at refused
    obtain rfl := Except.error.inj refused
    exact .infinite infinite
  · obtain ⟨errors, rfl⟩ := Params.fields_of_change refused infinite
    simp only [paramsFailure, Failure.ofParamsError, parameterFailure, Value.shown,
      isWritable_report]
    by_cases writable : (quality.isWritable && format.isWritable) = true
    · simp only [writable, if_true]
      exact .validation infinite (by simpa using writable) _
    · simp only [writable]
      exact .unwritable infinite (by simpa [Decidable.imp_iff_not_or] using writable)

end Session

end Reencode
