import Reencode.Proofs.Collection.Freshness
import Reencode.Proofs.Session.LastRequest

/-!
# Settled means up to date

Waiting succeeds only when nothing is in flight (`Session.idle_of_waitTurns`), and operations leave
no debts (`Session.after_steps_of_quiet`).  So after waiting with success every entry is settled by
`Fresh.settled_of_idle`, whatever happened before and in whatever order the jobs finished: it shows
the output of its parameters in force, or the fault that they leave and at most the output of an
earlier request.

This needs a scheduler that accepts jobs throughout, and observers that do not call back.
-/

namespace Reencode

variable {S O : Type} {w : Surroundings S O}

/-- What an entry shows once it is settled. -/
def Entry.Shows (codec : Codec S) (jobs : List Job) (e : Entry) : Prop :=
  match codec.recode e.source e.params with
  | .ok payload => ∃ data, payload = .data data ∧
      e.readOutput = .ok (some (data, e.params)) ∧ e.fault = none
  | .error failure =>
    (∃ f, e.fault = some f ∧ f = (Fault.ofFailure failure e.id e.token).1 ∧ f.token = e.token) ∧
      (e.hasOutput = true → ∃ j ∈ jobs, j.entry = e.id ∧ j.token < e.token ∧
        ∃ data, e.readOutput = .ok (some (data, j.params)) ∧
          codec.recode e.source j.params = .ok (.data data))

/-- A settled entry whose newest job has the parameters in force shows what they come to. -/
lemma Fresh.shows {codec : Codec S} {jobs : List Job} {applied : List Outcome}
    {debts : List EntryId} {c : Collection S}
    (fresh : Fresh codec jobs debts c.shelf c.scheduler)
    (traced : Traced codec jobs applied c.shelf c.scheduler) (shelved : Shelved c.ids c.shelf)
    (idle : c.scheduler.inFlight = 0) {e : Entry} (mem : e ∈ c.entries) (free : e.id ∉ debts) :
    e.Shows codec jobs := by
  obtain ⟨onShelf, alive⟩ := shelved.mem_entries.mp mem
  have life := (shelved.mem_alive_iff onShelf).mp alive
  have settled := fresh.settled_of_idle traced idle onShelf life free
  unfold Entry.Settled at settled
  unfold Entry.Shows
  cases recoded : codec.recode e.source e.params with
  | ok payload =>
    rw [recoded] at settled
    obtain ⟨data, locator, rfl, output, made, clean⟩ := settled
    refine ⟨data, rfl, ?_, clean⟩
    rw [Entry.readOutput, output, made]
    rfl
  | error failure =>
    rw [recoded] at settled
    refine ⟨⟨_, settled, rfl, Fault.ofFailure_token failure e.id e.token⟩, fun out => ?_⟩
    obtain ⟨j, hj, mine, -, data, read, earlier⟩ := traced.readOutput shelved onShelf out
    refine ⟨j, hj, mine, ?_, data, read, earlier⟩
    have below : j.token ≤ e.token := by
      obtain ⟨other, hother, named, below⟩ := traced.current j hj
      obtain rfl := shelved.eq_of_id_eq hother onShelf (named.trans mine)
      exact below
    -- The newest job has the parameters in force, and those fail.
    have older : j.token ≠ e.token := by
      intro newest
      have params := (fresh.entries e onShelf life free).newest j hj mine newest
      rw [params, recoded] at earlier
      cases earlier
    omega

/-- However the steps of the owner and of the executor alternate: if the owner left no debts, no
work was cancelled and nothing is in flight, every entry is settled. -/
theorem Collection.Steps.shows {codec : Codec S} (bytes : codec.GivesBytes) {settings : Settings}
    {workers : Option Int} {format : Value} {pace : Pace} {start c : Collection S}
    (made : Collection.create settings workers format pace = .ok start) {deeds : List Deed}
    (steps : Collection.Steps codec start deeds c) (go_on : ∀ d ∈ deeds, d.isEnding = false)
    (settles : owingAfter [] deeds = []) (idle : c.scheduler.inFlight = 0) :
    c.scheduler.mailbox = [] ∧ ∀ e ∈ c.entries, e.Shows codec (jobsOf deeds) := by
  have shelved := Shelved.of_create made
  have traced : Traced codec [] [] start.shelf start.scheduler := Traced.of_create made
  have fresh := (Fresh.of_create made).steps traced shelved bytes steps go_on
  have traced' := traced.steps shelved steps
  refine ⟨(traced'.honest.idle idle).2, fun e mem => ?_⟩
  simpa using fresh.shows traced' (shelved.steps steps) idle mem (by simp [settles])

/-- **Settled means up to date.**  Whatever operations came before: when waiting gives true, no
outcome is left in the mailbox, and each entry shows the output of its parameters in force without a
fault or, if these fail, the fault of that very attempt and at most the output of an earlier job of
its own. -/
theorem settled_of_waitIdle (quiet : w.Quiet) (bytes : w.codec.GivesBytes) {settings : Settings}
    {workers : Option Int} {format : Value} {pace : Pace} {start : Collection S}
    (made : Collection.create settings workers format pace = .ok start)
    {s s' : Session S O} (began : s.collection = start) {ops : List Operation}
    (go_on : ∀ op ∈ ops, op.ends = false)
    (waited : (s.after w ops).run (Operation.waitIdle.perform w) = (.ok (.truth true), s')) :
    s'.collection.scheduler.mailbox = [] ∧
      ∃ deeds, Collection.Steps w.codec start deeds s'.collection ∧
        ∀ e ∈ s'.collection.entries, e.Shows w.codec (jobsOf deeds) := by
  subst began
  have last : s' = s.after w (ops ++ [.waitIdle]) := by
    rw [Session.after, List.foldl_append]
    exact (congrArg Prod.snd waited).symm
  have idle : s'.collection.scheduler.inFlight = 0 := by
    simp only [Operation.perform, Session.run_map] at waited
    rcases result : (s.after w ops).run (Session.waitIdle w) with ⟨failure | b, s''⟩
    · rw [result] at waited
      cases waited
    · rw [result] at waited
      cases waited
      exact Session.idle_of_waitTurns _ result
  have lasting : ∀ op ∈ ops ++ [.waitIdle], op.ends = false := by
    intro op mem
    rcases List.mem_append.mp mem with before | waiting
    · exact go_on op before
    · obtain rfl := List.mem_singleton.mp waiting
      rfl
  obtain ⟨deeds, steps, settles, goes_on⟩ := Session.after_steps_of_quiet quiet s lasting
  rw [← last] at steps
  have settled := steps.shows bytes made goes_on (List.subset_nil.mp (settles [])) idle
  exact ⟨settled.1, deeds, steps, settled.2⟩

/-- Of two images one cannot be encoded.  The first is encoded once more with other parameters, the
jobs finish in another order than they were dispatched, and the owner waits. -/
theorem settled_of_waitIdle_of_two :
    let start : Collection ByteArray := .empty (.initial 4 .onDemand .empty) .jpeg
    let w := Surroundings.unobserved Codec.verbatim 0
    let ops : List Operation := [.add "a.png" ⟨#[1, 2]⟩, .add "b.png" ⟨#[]⟩,
      .setParams (.nth 1) .none (.int 40) .null, .runJobs [3, 2, 1]]
    let s := (((Session.fresh start ()).after w ops).run (Operation.waitIdle.perform w)).2
    s.collection.entries.map (fun e => (e.hasOutput, e.fault.isSome)) =
        [(true, false), (false, true)] ∧
      s.collection.scheduler.mailbox = [] ∧
      ∃ deeds, Collection.Steps .verbatim start deeds s.collection ∧
        ∀ e ∈ s.collection.entries, e.Shows .verbatim (jobsOf deeds) := by
  intro start w ops s
  have made : Collection.create Settings.default none .null .onDemand = .ok start := rfl
  have began : (Session.fresh start ()).collection = start := rfl
  have lasting : ∀ op ∈ ops, op.ends = false := by decide
  have waited : ((Session.fresh start ()).after w ops).run (Operation.waitIdle.perform w) =
      (.ok (.truth true), s) := Session.run_eq_ok (by decide +kernel)
  exact ⟨by decide +kernel, settled_of_waitIdle (Surroundings.unobserved_quiet _ 0)
    Codec.verbatim_givesBytes made began lasting waited⟩

end Reencode
