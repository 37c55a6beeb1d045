import Reencode.Proofs.Collection.Answer
import Reencode.Proofs.Session.Observers

/-!
# Getting work done

Some operations do nothing but run jobs, take outcomes over, or wait for both.  Whichever of them
follow one another, a request that is owed its outcome gets it: until then the outcome is owed.
-/

namespace Reencode.Session

variable {S O : Type} {w : Surroundings S O}

/-- Operations that get work done are steps that do, if observers do not call back when they are
told of it. -/
lemma harvest_steps (receptive : w.Receptive) {ops : List Operation}
    (harvest : ∀ op ∈ ops, op.harvests = true) : ∀ s : Session S O,
    ∃ ds, Collection.Steps w.codec s.collection ds (s.after w ops).collection ∧
      ∀ d ∈ ds, d.isHarvest = true := by
  induction ops with
  | nil => exact fun s => ⟨[], .start, by simp⟩
  | cons op rest ih =>
    intro s
    have harvests := op.perform_harvests (w := w) (harvest op List.mem_cons_self)
    obtain ⟨ds, first, kind⟩ := harvests.steps_of_receptive receptive s
    obtain ⟨es, then_, kind'⟩ := ih (fun op mem => harvest op (List.mem_cons_of_mem _ mem))
      (s.run (op.perform w)).2
    refine ⟨ds ++ es, first.trans then_, ?_⟩
    intro d mem
    rcases List.mem_append.mp mem with old | new
    · exact kind d old
    · exact kind' d new

/-- While work gets done, the outcome of an entry's newest request is owed until the entry shows
it. -/
theorem answered_after (quiet : w.Quiet) {jobs : List Job} {applied : List Outcome}
    {s : Session S O}
    (traced : Traced w.codec jobs applied s.collection.shelf s.collection.scheduler)
    (shelved : Shelved s.collection.ids s.collection.shelf) {t : Ticket}
    (owed : t ∈ s.collection.scheduler.tickets) {e : Entry} (mem : e ∈ s.collection.entries)
    (mine : e.id = t.entry) (newest : e.token = t.token) {ops : List Operation}
    (harvest : ∀ op ∈ ops, op.harvests = true) :
    t ∈ (s.after w ops).collection.scheduler.tickets ∨
      ∃ a ∈ (s.after w ops).collection.entries, a.id = e.id ∧ a.Reflects w.codec t := by
  obtain ⟨onShelf, alive⟩ := shelved.mem_entries.mp mem
  have life := (shelved.mem_alive_iff onShelf).mp alive
  obtain ⟨ds, steps, kind⟩ := harvest_steps quiet.receptive harvest s
  obtain ⟨a, ha, answered⟩ := traced.answered_steps shelved steps kind
    ⟨e, onShelf, mine, newest, life, .inl owed⟩
  refine answered.answer.imp_right fun shown => ⟨a, ?_, answered.mine.trans mine.symm, shown.2⟩
  have shelved' := shelved.steps steps
  exact shelved'.mem_entries.mpr ⟨ha, (shelved'.mem_alive_iff ha).mpr answered.life⟩

end Reencode.Session
