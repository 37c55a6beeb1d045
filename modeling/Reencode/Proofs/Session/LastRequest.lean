import Reencode.Proofs.Collection.Origin
import Reencode.Proofs.Session.Observers

/-!
# The last request wins

However jobs and requests alternate, an entry only ever shows what the newest of its requests that
was answered came to.  Outputs come from jobs of their own entry and are what the codec makes of the
entry's own source; outcomes are taken over in the order of their tokens; and an outcome that comes
too late passes without a trace but for a record in the journal.

The first two are read off `Traced`, which holds after any steps.  The third needs one fact of it,
that a fault carries the token of its job: then a stale outcome of any kind is refused by its entry.
-/

namespace Reencode

variable {S O : Type} {w : Surroundings S O}

/-- What is ignored by its entry, or finds none, is drained without a trace. -/
lemma Session.apply_of_stale {s : Session S O} {o : Outcome} (rest : Scheduler S)
    (consistent : ∀ f, o.payload = .fault f → f.token = o.token)
    (stale : ∀ e, s.collection.get? o.entry = some e → e.token ≠ o.token) :
    ∃ record, (s.withScheduler rest).run (apply w o) =
      (.ok false, (s.withScheduler rest).logged [record]) := by
  have same : (s.withScheduler rest).collection.get? o.entry = s.collection.get? o.entry := rfl
  cases found : s.collection.get? o.entry with
  | none =>
    simp only [apply, run_bind, run_collection?, same, found, run_log, run_pure]
    exact ⟨_, rfl⟩
  | some e =>
    -- With an old token the outcome is not current, whatever it brings.
    have refused : e.isCurrent o.token = false := by
      simp [Entry.isCurrent, (stale e found).symm]
    have dropped : ∃ record, (s.withScheduler rest).run (dropStale e o) =
        (.ok false, (s.withScheduler rest).logged [record]) := ⟨_, rfl⟩
    cases payload : o.payload with
    | nothing =>
      simpa only [apply, run_bind, run_collection?, same, found, payload] using dropped
    | fault f =>
      have ignored : e.recordFault f = none := by
        rw [Entry.recordFault, consistent f payload, refused]
        rfl
      simpa only [apply, applyFault, run_bind, run_collection?, same, found, payload, ignored]
        using dropped
    | data data =>
      have ignored :
          e.applyOutput s.collection.registry o.token data (some o.params) = .ok none := by
        rw [Entry.applyOutput_eq, refused]
        rfl
      simpa only [apply, applyData, run_bind, run_collection?, same, found, payload, run_lift,
        registry_withScheduler, ignored] using dropped

/-- Draining goes on past a stale outcome as if it had not been there. -/
lemma Session.drainUpTo_of_stale {s : Session S O} {o : Outcome} {rest : Scheduler S}
    (taken : s.collection.scheduler.take = some (o, rest))
    (consistent : ∀ f, o.payload = .fault f → f.token = o.token)
    (stale : ∀ e, s.collection.get? o.entry = some e → e.token ≠ o.token) :
    ∃ record, ∀ limit, s.run (drainUpTo w (limit + 1)) =
      ((s.withScheduler rest).logged [record]).run (drainUpTo w limit) := by
  obtain ⟨record, dropped⟩ := apply_of_stale (w := w) rest consistent stale
  refine ⟨record, fun limit => ?_⟩
  rw [run_drainUpTo taken, run_bind_ok dropped]
  simp only [Bool.false_eq_true, if_false, Nat.zero_add, bind_pure]

/-- The job that made the output of an entry, read off its bytes. -/
lemma Traced.readOutput {codec : Codec S} {jobs : List Job} {applied : List Outcome}
    {c : Collection S} (traced : Traced codec jobs applied c.shelf c.scheduler)
    (shelved : Shelved c.ids c.shelf) {e : Entry} (mem : e ∈ c.shelf) (out : e.hasOutput = true) :
    ∃ j ∈ jobs, j.entry = e.id ∧ j.source = e.source ∧
      ∃ data, e.readOutput = .ok (some (data, j.params)) ∧
        codec.recode e.source j.params = .ok (.data data) := by
  obtain ⟨handle, output⟩ := Option.isSome_iff_exists.mp out
  obtain ⟨j, hj, mine, data, locator, rfl, made, recoded⟩ := traced.outputs e mem handle output
  have source := traced.source_eq shelved hj mem mine
  refine ⟨j, hj, mine, source, data, ?_, source ▸ recoded⟩
  rw [Entry.readOutput, output, made]
  rfl

/-- **The last request wins.**  In every state that steps in any order lead to, each output was
made by a job of its own entry and is what the codec makes of that entry's source, and the outcomes
that were taken over have rising tokens for each entry.  An outcome whose token is not the newest
one, or whose entry was removed, is drained without any change of the session but the scheduler's
mailbox and a record in the journal.  Whatever operations follow lead to such a state again. -/
theorem last_request_wins (lawful : w.Lawful) {settings : Settings} {workers : Option Int}
    {format : Value} {pace : Pace} {start : Collection S}
    (made : Collection.create settings workers format pace = .ok start)
    {s : Session S O} {deeds : List Deed}
    (reached : Collection.Steps w.codec start deeds s.collection) :
    (∀ e ∈ s.collection.entries, e.hasOutput = true →
      ∃ j ∈ jobsOf deeds, j.entry = e.id ∧ j.source = e.source ∧
        ∃ data, e.readOutput = .ok (some (data, j.params)) ∧
          w.codec.recode e.source j.params = .ok (.data data)) ∧
    (appliedOf deeds).Pairwise (fun a b => a.entry = b.entry → a.token < b.token) ∧
    (∀ o rest, s.collection.scheduler.take = some (o, rest) →
      (∀ e ∈ s.collection.entries, e.id = o.entry → e.token ≠ o.token) →
      ∃ record, ∀ limit, s.run (Session.drainUpTo w (limit + 1)) =
        ((s.withScheduler rest).logged [record]).run (Session.drainUpTo w limit)) ∧
    ∀ ops, ∃ more, Collection.Steps w.codec start (deeds ++ more) (s.after w ops).collection := by
  -- Outputs stem from the jobs of the entry, with tokens that only grow; that is the invariant of
  -- every run.
  have shelved := (Shelved.of_create made).steps reached
  have traced : Traced w.codec (jobsOf deeds) (appliedOf deeds) s.collection.shelf
      s.collection.scheduler := by
    simpa using (Traced.of_create made).steps (Shelved.of_create made) reached
  refine ⟨?_, traced.increasing, ?_, ?_⟩
  · intro e mem out
    exact traced.readOutput shelved (shelved.mem_entries.mp mem).1 out
  · intro o rest taken stale
    refine Session.drainUpTo_of_stale taken ?_ ?_
    · exact fun f payload => traced.honest.token_of_fault taken payload
    · intro e found
      obtain ⟨-, alive⟩ := Collection.find?_of_get? found
      obtain ⟨mem, mine⟩ := shelved.mem_of_get? found
      exact stale e (shelved.mem_entries.mpr ⟨mem, mine ▸ alive⟩) mine
  · intro ops
    obtain ⟨more, onward⟩ := Session.after_steps lawful s ops
    exact ⟨more, reached.trans onward⟩

/-- One image, encoded and taken over, after its first job was made stale by a second one. -/
theorem last_request_wins_of_two : ∃ deeds,
    let start : Collection ByteArray := .empty (.initial 4 .onDemand .empty) .jpeg
    let s := (Session.fresh start ()).after (.unobserved .verbatim 0) [
      .add "a.png" ⟨#[1, 2]⟩, .setParams (.nth 1) .none (.int 40) .null, .runJobs [2, 1], .drain]
    Collection.create Settings.default none .null .onDemand = .ok start ∧
      Collection.Steps .verbatim start deeds s.collection ∧
      s.collection.entries.map (·.hasOutput) = [true] ∧
      ∀ e ∈ s.collection.entries, e.hasOutput = true →
        ∃ j ∈ jobsOf deeds, j.entry = e.id ∧ j.source = e.source ∧
          ∃ data, e.readOutput = .ok (some (data, j.params)) ∧
            Codec.verbatim.recode e.source j.params = .ok (.data data) := by
  have lawful := (Surroundings.unobserved_quiet Codec.verbatim 0).lawful
  obtain ⟨deeds, reached⟩ := Session.after_steps lawful
    (Session.fresh (.empty (.initial 4 .onDemand .empty) .jpeg) ()) [
      .add "a.png" ⟨#[1, 2]⟩, .setParams (.nth 1) .none (.int 40) .null, .runJobs [2, 1], .drain]
  have made : Collection.create Settings.default none .null .onDemand =
      .ok (Collection.empty (.initial 4 .onDemand .empty) .jpeg : Collection ByteArray) := rfl
  exact ⟨deeds, made, reached, by decide +kernel, (last_request_wins lawful made reached).1⟩

end Reencode
