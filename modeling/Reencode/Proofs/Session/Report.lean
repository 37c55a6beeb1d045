import Reencode.Proofs.Collection.Origin
import Reencode.Proofs.Session.EventLog

/-!
# What becomes of a result

Running a job never fails: whatever the codec does, there is an outcome, and it carries the entry,
token and parameters of the job (`Job.run_outcome_eq`).  `Job.payloadFor` says what is in it.  Bytes
and texts are encoded bytes, failures and all other values are faults, and there is one gap: a
codec that encodes to nothing leaves an outcome that is neither.

When an outcome is drained whose token is the newest of its entry, its entry takes it over and
exactly one event tells of it (`Session.apply_of_current`).  Again this is so unless there is
nothing in it; then it is dropped, as if it came too late, and nobody is told.
-/

namespace Reencode

variable {S O : Type} {w : Surroundings S O} {codec : Codec S}

/-! ## Running a job -/

/-- Whether there is nothing in an outcome. -/
def Payload.isEmpty : Payload → Bool
  | nothing => true
  | _ => false

lemma Fault.ofFailure_entry (failure : Failure) (id : EntryId) (token : Int) :
    (Fault.ofFailure failure id token).1.entry = id := by
  unfold Fault.ofFailure
  split <;> rfl

namespace Job

/-- What the codec makes of the source of a job, whose surface may be in a cache. -/
def product (codec : Codec S) (j : Job) (cache : DecodeCache S) : Except Failure Product :=
  match (cache.getOrDecode codec j.entry j.source).result with
  | .error failure => .error failure
  | .ok (surface, _) => (codec.encode surface j.params.format j.params.quality).result

/-- What a job puts into its outcome. -/
def payloadFor (j : Job) : Except Failure Product → Payload
  | .ok (.bytes data) => .data data
  | .ok (.text s) => .data s.toUTF8
  | .ok .nothing => .nothing
  | .ok .other => .fault (j.fault (.invalid "JobOutcome" [⟨["data"], .notBytes⟩]))
  | .error failure => .fault (j.fault failure)

/-- Running a job gives an outcome, whatever the codec does and whatever the cache holds. -/
lemma run_outcome_eq {j : Job} (sound : j.defect = .none) (cache : DecodeCache S) :
    (j.run codec cache).outcome = some (j.outcome (j.payloadFor (j.product codec cache))) := by
  simp only [run, sound, recode, product]
  cases (cache.getOrDecode codec j.entry j.source).result with
  | error failure => rfl
  | ok decoded =>
    obtain ⟨surface, cache'⟩ := decoded
    simp only [encode]
    cases (codec.encode surface j.params.format j.params.quality).result with
    | error failure => rfl
    | ok product => cases product <;> rfl

/-- Nothing is in an outcome exactly if the codec encoded to nothing. -/
lemma payloadFor_eq_nothing_iff {j : Job} {made : Except Failure Product} :
    j.payloadFor made = .nothing ↔ made = .ok .nothing := by
  rcases made with failure | product
  · simp [payloadFor]
  · cases product <;> simp [payloadFor]

/-- A fault of a job is of its own entry and token. -/
lemma own_of_payloadFor {j : Job} {made : Except Failure Product} {f : Fault}
    (failed : j.payloadFor made = .fault f) : f.entry = j.entry ∧ f.token = j.token := by
  have own : ∀ failure, j.fault failure = f → f.entry = j.entry ∧ f.token = j.token := by
    rintro failure rfl
    exact ⟨Fault.ofFailure_entry failure _ _, Fault.ofFailure_token failure _ _⟩
  rcases made with failure | product
  · exact own failure (Payload.fault.inj failed)
  · cases product with
    | other => exact own _ (Payload.fault.inj failed)
    | _ => cases failed

end Job

/-! ## Draining it -/

namespace Session

/-- What is told of an outcome that is taken over. -/
def Tidings (e : Entry) (o : Outcome) (event : Event) : Prop :=
  (∃ data, o.payload = .data data) ∧ event = .about .outputUpdated e.id ∨
    ∃ f, o.payload = .fault f ∧ event = .failed e.id f

/-- An outcome with the newest token of its entry is taken over, and told of in one event. -/
lemma apply_of_current {s : Session S O} {o : Outcome} {rest : Scheduler S} {e : Entry}
    (taken : s.collection.scheduler.take = some (o, rest))
    (found : s.collection.get? o.entry = some e) (current : e.isCurrent o.token = true)
    (consistent : ∀ f, o.payload = .fault f → f.token = o.token)
    (held : ∀ old, e.output = some old → ∃ data locator, old = .held data locator)
    (something : o.payload ≠ .nothing) :
    ∃ event c records, Tidings e o event ∧
      Collection.Step w.codec s.collection (.applied o) c ∧
      (s.withScheduler rest).run (apply w o) =
        (.ok true, ((s.withCollection c).logged records).told w event) := by
  have same : (s.withScheduler rest).collection.get? o.entry = s.collection.get? o.entry := rfl
  -- A current outcome with a result is taken over, and the event is told in the state that has it.
  cases payload : o.payload with
  | nothing => exact absurd payload something
  | fault f =>
    have recorded : e.recordFault f = some { e with fault := some f } := by
      rw [Entry.recordFault, consistent f payload, current]
      rfl
    simp only [apply, applyFault, run_bind, run_collection?, same, found, payload, recorded,
      run_change, run_log, run_emit, run_pure]
    exact ⟨.failed e.id f, _, _, .inr ⟨f, payload, rfl⟩,
      .faulted taken found payload recorded, rfl⟩
  | data data =>
    obtain ⟨⟨handle, registry⟩, stored⟩ := Entry.storeOutput_ok held s.collection.registry data
    have replaced : e.applyOutput s.collection.registry o.token data (some o.params) =
        .ok (some (e.withOutput handle data o.params, registry)) := by
      rw [Entry.applyOutput_eq, current, stored]
      rfl
    simp only [apply, applyData, run_bind, run_collection?, same, found, payload, run_lift,
      registry_withScheduler, replaced, run_change, run_log, run_emit, run_pure]
    exact ⟨.about .outputUpdated e.id, _, _, .inl ⟨⟨data, payload⟩, rfl⟩,
      .updated taken found payload replaced, rfl⟩

/-- An outcome with nothing in it is dropped, also if it has the newest token of its entry. -/
lemma apply_of_nothing {s : Session S O} {o : Outcome} (rest : Scheduler S) {e : Entry}
    (found : s.collection.get? o.entry = some e) (nothing : o.payload = .nothing) :
    ∃ record, (s.withScheduler rest).run (apply w o) =
      (.ok false, (s.withScheduler rest).logged [record]) := by
  have same : (s.withScheduler rest).collection.get? o.entry = s.collection.get? o.entry := rfl
  simp only [apply, run_bind, run_collection?, same, found, nothing]
  exact ⟨_, rfl⟩

end Session

/-- A codec for which bytes are their own surface, and which encodes to nothing. -/
def Codec.mute : Codec ByteArray where
  decode data := .ok (some data)
  encode _ _ _ := .ok .nothing

end Reencode
