import Reencode.Proofs.Params.Acceptance
import Reencode.Proofs.Session.Refusal

/-!
# Requests that are rejected

A request is rejected when what it asks for cannot be had: parameters or a format that its values do
not stand for, or an entry that is not there (`Operation.Improper`).  This is found out before
anything is done, so a request that is rejected changes nothing at all, whoever observes the
session, and nobody is told of anything (`rejected_requests_change_nothing`).

What a request fails with tells which it was.  A request that is not rejected can only fail because
a job is turned away (`Session.TurnedAway`), and that is another failure.
-/

namespace Reencode

variable {S O : Type} {w : Surroundings S O}

namespace Session

/-! ## Dispatching -/

/-- A job could not be submitted, and none can be submitted any more. -/
def TurnedAway (f : Failure) (s : Session S O) : Prop :=
  f.IsRefusal ∧ ¬s.collection.scheduler.Accepting

end Session

lemma Scheduler.isRefusal_of_submit {codec : Codec S} {s : Scheduler S} {j : Job} {f : Failure}
    (failed : (s.submit codec j).1 = .error f) :
    f.IsRefusal ∧ ¬(s.submit codec j).2.1.Accepting := by
  have refused : (s.submit codec j).1 ≠ .ok () := by
    rw [failed]
    exact nofun
  have same := submit_alike refused
  constructor
  · unfold submit at failed
    split at failed
    · exact .inl (Except.error.inj failed).symm
    · split at failed
      · exact .inr (Except.error.inj failed).symm
      · dsimp only at failed
        split at failed <;> cases failed
  · rintro ⟨isOpen, running⟩
    exact refused ((submit_result _ _ _).mpr ⟨same.closed ▸ isOpen, same.executorShut ▸ running⟩)

namespace Session

variable {s s' : Session S O} {f : Failure} {id : EntryId}

lemma turnedAway_of_dispatch (failed : s.run (dispatch w id) = (.error f, s')) :
    TurnedAway f s' := by
  cases found : s.collection.find? id with
  | none =>
    rw [run_dispatch_unknown found] at failed
    cases failed
  | some e =>
    obtain rfl := Collection.id_of_find? found
    rw [run_dispatch found] at failed
    obtain ⟨refused, rfl⟩ := Prod.mk.inj failed
    exact Scheduler.isRefusal_of_submit refused

lemma turnedAway_of_setEntryParams {params : Params}
    (failed : s.run (setEntryParams w id params) = (.error f, s')) : TurnedAway f s' := by
  cases found : s.collection.find? id with
  | none =>
    rw [run_setEntryParams_unknown found] at failed
    exact turnedAway_of_dispatch failed
  | some e =>
    rw [run_setEntryParams found] at failed
    exact turnedAway_of_dispatch failed

lemma turnedAway_of_giveFormat {format : Format} {ids : List EntryId} :
    ∀ {s : Session S O}, s.run (giveFormat w format ids) = (.error f, s') → TurnedAway f s' := by
  induction ids with
  | nil => exact nofun
  | cons id rest ih =>
    intro s failed
    rw [giveFormat, run_bind_ok (run_collection? s)] at failed
    split at failed
    · exact ih failed
    · rcases or_exists_of_run_bind_error failed with early | ⟨_, _, -, late⟩
      · exact turnedAway_of_setEntryParams early
      · exact ih late

/-! ## Setting parameters -/

/-- What is refused is told of, unless it cannot be written. -/
lemma parameterFailure_eq (parameter : String) (asked : Value) (reason : String)
    (id : Option EntryId) :
    (∃ message, parameterFailure parameter asked reason id = .own .validation message id) ∨
      asked.isWritable = false ∧
        parameterFailure parameter asked reason id = Value.lengthFailure := by
  unfold parameterFailure Value.shown
  cases asked.isWritable with
  | true => exact .inl ⟨_, rfl⟩
  | false => exact .inr ⟨rfl, rfl⟩

lemma run_setParams_unknown {source : ParamsSource} {quality format : Value}
    (unknown : s.collection.get? id = none) : s.run (setParams w id source quality format) =
      (.ok false, s.logged [⟨.debug, Message.entryNotFound id⟩]) := by
  simp [setParams, run_bind, run_map, unknown, Except.map]

lemma run_setParams_of_error {source : ParamsSource} {quality format : Value} {e : Entry}
    {problem : ParamsError} (found : s.collection.get? id = some e)
    (refused : e.params.change w.reader (source.resolve quality format).1
      (source.resolve quality format).2 = .error problem) :
    s.run (setParams w id source quality format) =
      (.error (paramsFailure id (source.resolve quality format).1
        (source.resolve quality format).2 problem), s) := by
  simp [setParams, run_bind, found, refused]

lemma run_setParams_of_ok {source : ParamsSource} {quality format : Value} {e : Entry}
    {p : Params} (found : s.collection.get? id = some e)
    (changed : e.params.change w.reader (source.resolve quality format).1
      (source.resolve quality format).2 = .ok p) :
    s.run (setParams w id source quality format) =
      s.run (do setEntryParams w id p; return true) := by
  rw [setParams, run_bind_ok (run_collection? s), found]
  simp only [changed]

lemma run_setGlobalFormat_of_error {value : Value} {e : FormatError}
    (refused : Format.read value = .error e) : s.run (setGlobalFormat w value) =
      (.error (parameterFailure "全局格式" value e.message none), s) := by
  simp [setGlobalFormat, refused]

lemma run_select_unknown (unknown : id ∉ s.collection.ids) :
    s.run (select w id) = (.ok false, s) := by
  simp [select, run_bind, Collection.contains, unknown]

end Session

/-! ## Rejected requests -/

lemma Collection.get?_eq_none {c : Collection S} {id : EntryId} (unknown : id ∉ c.ids) :
    c.get? id = none := by
  simp [get?, contains, unknown]

/-- Parameters that nothing can be taken from are those whose change fails. -/
lemma Params.not_takes_iff {reader : IntegerReader} {p : Params} {quality format : Value} :
    (∀ p', ¬p.Takes reader quality format p') ↔
      ∃ problem, p.change reader quality format = .error problem := by
  cases changed : p.change reader quality format with
  | ok p' =>
    have taken := change_eq_ok_iff.mp changed
    simp only [reduceCtorEq, exists_false, iff_false, not_forall, not_not]
    exact ⟨p', taken⟩
  | error problem =>
    simp only [Except.error.injEq, exists_eq', iff_true]
    intro p' taken
    rw [change_eq_ok_iff.mpr taken] at changed
    simp at changed

lemma Value.not_names_iff {v : Value} : (∀ f, ¬v.Names f) ↔ ∃ e, Format.read v = .error e := by
  cases read : Format.read v with
  | ok f =>
    have named := Format.read_eq_ok_iff.mp read
    simp only [reduceCtorEq, exists_false, iff_false, not_forall, not_not]
    exact ⟨f, named⟩
  | error e =>
    simp only [Except.error.injEq, exists_eq', iff_true]
    intro f named
    rw [Format.read_eq_ok_iff.mpr named] at read
    simp at read

/-- An operation is about an entry that is not there. -/
def Operation.Lacks (c : Collection S) : Operation → Prop
  | setParams id .. | remove id | select id | resetParams id => id ∉ c.ids
  | _ => False

/-- The values of an operation stand for no parameters that the entry could take, or for no
format. -/
def Operation.Improper (reader : IntegerReader) (c : Collection S) : Operation → Prop
  | setParams id source quality format => ∃ e, c.get? id = some e ∧ ∀ p,
      ¬e.params.Takes reader (source.resolve quality format).1 (source.resolve quality format).2 p
  | setGlobalFormat value => ∀ f, ¬value.Names f
  | _ => False

/-- Whether an operation sets parameters to values that are asked for. -/
def Operation.givesParams : Operation → Bool
  | setParams .. | setGlobalFormat _ => true
  | _ => false

namespace Session

variable {s s' : Session S O} {f : Failure} {op : Operation}

lemma run_of_lacks (lacks : op.Lacks s.collection) :
    ∃ records, ∀ w : Surroundings S O,
      s.run (op.perform w) = (.ok (.truth false), s.logged records) := by
  cases op with
  -- In each case the entry is looked up first, and nothing is done when it is missing.
  | setParams id source quality format =>
    refine ⟨[⟨.debug, Message.entryNotFound id⟩], fun w => ?_⟩
    rw [Operation.perform, run_map, run_setParams_unknown (Collection.get?_eq_none lacks)]
    rfl
  | remove id =>
    refine ⟨[], fun w => ?_⟩
    rw [Operation.perform, run_map, run_remove_unknown (Collection.get?_eq_none lacks), logged_nil]
    rfl
  | select id =>
    refine ⟨[], fun w => ?_⟩
    rw [Operation.perform, run_map, run_select_unknown lacks, logged_nil]
    rfl
  | resetParams id =>
    refine ⟨[], fun w => ?_⟩
    rw [Operation.perform, run_map, run_resetParams_unknown (Collection.get?_eq_none lacks),
      logged_nil]
    rfl
  | _ => exact lacks.elim

lemma run_of_improper {reader : IntegerReader} (improper : op.Improper reader s.collection) :
    ∃ f : Failure, ¬f.IsRefusal ∧ ∀ w : Surroundings S O, w.reader = reader →
      s.run (op.perform w) = (.error f, s) := by
  cases op with
  | setParams id source quality format =>
    obtain ⟨e, found, refused⟩ := improper
    obtain ⟨problem, refused⟩ := Params.not_takes_iff.mp refused
    refine ⟨_, paramsFailure_not_isRefusal id (source.resolve quality format).1
      (source.resolve quality format).2 problem, fun w reads => ?_⟩
    subst reads
    rw [Operation.perform, run_map, run_setParams_of_error found refused]
    rfl
  | setGlobalFormat value =>
    obtain ⟨e, refused⟩ := Value.not_names_iff.mp improper
    refine ⟨_, parameterFailure_not_isRefusal "全局格式" value e.message none, fun w _ => ?_⟩
    rw [Operation.perform, run_bind, run_setGlobalFormat_of_error refused]
  | _ => exact improper.elim

lemma improper_of_failure (gives : op.givesParams = true)
    (failed : s.run (op.perform w) = (.error f, s')) (other : ¬f.IsRefusal) :
    op.Improper w.reader s.collection := by
  cases op with
  | setParams id source quality format =>
    rw [Operation.perform, map_eq_pure_bind] at failed
    -- The operation itself fails with a refusal, so any other failure came before it, from what was
    -- asked for.
    rcases or_exists_of_run_bind_error failed with early | ⟨_, _, -, late⟩
    · cases found : s.collection.get? id with
      | none =>
        rw [run_setParams_unknown found] at early
        simp at early
      | some e =>
        cases changed : e.params.change w.reader (source.resolve quality format).1
            (source.resolve quality format).2 with
        | error problem => exact ⟨e, found, Params.not_takes_iff.mpr ⟨problem, changed⟩⟩
        | ok p =>
          rw [run_setParams_of_ok found changed] at early
          rcases or_exists_of_run_bind_error early with early | ⟨_, _, -, late⟩
          · exact absurd (turnedAway_of_setEntryParams early).1 other
          · simp at late
    · simp at late
  | setGlobalFormat value =>
    rcases or_exists_of_run_bind_error failed with early | ⟨_, _, -, late⟩
    · cases read : Format.read value with
      | error e => exact Value.not_names_iff.mpr ⟨e, read⟩
      | ok format =>
        rw [run_setGlobalFormat read] at early
        exact absurd (turnedAway_of_giveFormat early).1 other
    · simp at late
  | _ => simp [Operation.givesParams] at gives

end Session

/-- **Rejected requests change nothing.** A request about an entry that is not there, and one whose
values stand for no parameters or no format, leaves everything as it was: the collection with its
entries, locators, jobs in flight and outcomes that wait, the files, and what the observers
remember, whoever they are and whatever they would do if they were told.  The first is answered, and
perhaps logged; the second fails.  And setting parameters or a format never fails but for such
values, unless it is that a job is turned away. -/
theorem rejected_requests_change_nothing (s : Session S O) (op : Operation) :
    (op.Lacks s.collection → ∃ records, ∀ w : Surroundings S O,
      s.run (op.perform w) = (.ok (.truth false), s.logged records)) ∧
    (∀ reader, op.Improper reader s.collection → ∃ f : Failure, ¬f.IsRefusal ∧
      ∀ w : Surroundings S O, w.reader = reader → s.run (op.perform w) = (.error f, s)) ∧
    ∀ (w : Surroundings S O) (f : Failure) (s' : Session S O), op.givesParams = true →
      s.run (op.perform w) = (.error f, s') → ¬f.IsRefusal →
        op.Improper w.reader s.collection :=
  ⟨Session.run_of_lacks, fun _ => Session.run_of_improper,
    fun _ _ _ gives failed other => Session.improper_of_failure gives failed other⟩

/-- One image waits for its job and another one's outcome waits for it, when a format that there is
not is asked for, and an image that there is not; both get their outputs. -/
theorem rejected_requests_change_nothing_of_busy :
    let start : Collection ByteArray := .empty (.initial 4 .onDemand .empty) .jpeg
    let w := Surroundings.unobserved Codec.verbatim 0
    let s := (Session.fresh start ()).after w
      [.add "a.png" ⟨#[1, 2]⟩, .add "b.png" ⟨#[3]⟩, .runJob 1]
    let wrong : Operation :=
      .setParams (.nth 2) (.fields [("format", .text "gif")]) (.int 40) (.text "png")
    let missing : Operation := .remove (.nth 3)
    (s.collection.scheduler.inFlight, s.collection.scheduler.mailbox.length) = (2, 1) ∧
      (∃ f : Failure, ¬f.IsRefusal ∧ s.run (wrong.perform w) = (.error f, s)) ∧
      (∃ records, s.run (missing.perform w) = (.ok (.truth false), s.logged records)) ∧
      ((s.run (wrong.perform w)).2.after w [missing, .runJob 2, .drain]).collection.entries.map
        (fun e => (e.token, e.hasOutput)) = [(1, true), (1, true)] := by
  intro start w s wrong missing
  have improper : wrong.Improper w.reader s.collection := by
    have known : (s.collection.get? (.nth 2)).isSome = true := by decide +kernel
    obtain ⟨e, found⟩ := Option.isSome_iff_exists.mp known
    refine ⟨e, found, fun p taken => ?_⟩
    obtain ⟨f, named⟩ := (Params.exists_takes_iff.mp ⟨p, taken⟩).2.resolve_left (by decide)
    exact Value.not_names_iff.mpr ⟨_, rfl⟩ f named
  have lacks : missing.Lacks s.collection := by
    show EntryId.nth 3 ∉ s.collection.ids
    decide +kernel
  obtain ⟨f, other, fails⟩ := (rejected_requests_change_nothing s wrong).2.1 w.reader improper
  obtain ⟨records, answers⟩ := (rejected_requests_change_nothing s missing).1 lacks
  exact ⟨by decide +kernel, ⟨f, other, fails w rfl⟩, ⟨records, answers w⟩, by decide +kernel⟩

end Reencode
