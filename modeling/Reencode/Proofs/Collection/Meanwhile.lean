import Reencode.Proofs.Collection.Step
import Reencode.Proofs.Work.Running

/-!
# Meanwhile

While the owner of a collection is busy with something else the executor may go on.  Then jobs run
and nothing but the scheduler changes; and the scheduler still owes what it owed, and accepts jobs
if it did before (`Scheduler.Upholds`).  The same is true when it refuses a job, because it takes
its own counts back.
-/

namespace Reencode

variable {S : Type}

/-! ## Schedulers -/

/-- A scheduler that owes what another one owes, and accepts jobs exactly if that one does. -/
structure Scheduler.Upholds (codec : Codec S) (s s' : Scheduler S) : Prop where
  closed : s'.closed = s.closed
  executorShut : s'.executorShut = s.executorShut
  owed : ∀ sources jobs, s.Honest codec sources jobs →
    s'.Honest codec sources jobs ∧ s'.tickets.Perm s.tickets

namespace Scheduler.Upholds

variable {codec : Codec S} {s s' s'' : Scheduler S}

lemma refl : s.Upholds codec s := ⟨rfl, rfl, fun _ _ honest => ⟨honest, List.Perm.refl _⟩⟩

lemma trans (first : s.Upholds codec s') (then_ : s'.Upholds codec s'') : s.Upholds codec s'' where
  closed := then_.closed.trans first.closed
  executorShut := then_.executorShut.trans first.executorShut
  owed := by
    intro sources jobs honest
    obtain ⟨honest', same⟩ := first.owed sources jobs honest
    obtain ⟨honest'', same'⟩ := then_.owed sources jobs honest'
    exact ⟨honest'', same'.trans same⟩

lemma of_alike (same : s.Alike s') : s.Upholds codec s' where
  closed := same.closed
  executorShut := same.executorShut
  owed := fun _ _ honest => ⟨honest.alike same, same.tickets ▸ List.Perm.refl _⟩

lemma ran (k : Nat) : s.Upholds codec (s.runPending codec k).2.1 := by
  have marks : (s.runPending codec k).2.1.closed = s.closed ∧
      (s.runPending codec k).2.1.executorShut = s.executorShut := by
    cases found : s.pending.lookup k with
    | none => simp [runPending_eq_self found]
    | some j => simp [runPending_eq found]
  exact ⟨marks.1, marks.2, fun _ _ honest => honest.runPending k⟩

lemma not_accepting (h : s.Upholds codec s') (shut : ¬s.Accepting) : ¬s'.Accepting := by
  rintro ⟨isOpen, running⟩
  exact shut ⟨h.closed.symm.trans isOpen, h.executorShut.symm.trans running⟩

end Scheduler.Upholds

/-! ## Collections -/

namespace Collection

variable {codec : Codec S} {c c' c'' : Collection S}

/-- A collection that differs from another one by what the executor may do, and by nothing else. -/
def Meanwhile (codec : Codec S) (c c' : Collection S) : Prop :=
  ∃ scheduler, c' = { c with scheduler } ∧ c.scheduler.Upholds codec scheduler

namespace Meanwhile

lemma refl : c.Meanwhile codec c := ⟨_, rfl, .refl⟩

lemma trans (first : c.Meanwhile codec c') (then_ : c'.Meanwhile codec c'') :
    c.Meanwhile codec c'' := by
  obtain ⟨_, rfl, upholds⟩ := first
  obtain ⟨scheduler, rfl, upholds'⟩ := then_
  exact ⟨scheduler, rfl, upholds.trans upholds'⟩

lemma setEntry (h : c.Meanwhile codec c') (e : Entry) :
    (c.setEntry e).Meanwhile codec (c'.setEntry e) := by
  obtain ⟨scheduler, rfl, upholds⟩ := h
  exact ⟨scheduler, rfl, upholds⟩

lemma choose (h : c.Meanwhile codec c') (id : Option EntryId) :
    (c.choose id).Meanwhile codec (c'.choose id) := by
  obtain ⟨scheduler, rfl, upholds⟩ := h
  exact ⟨scheduler, rfl, upholds⟩

lemma find? (h : c.Meanwhile codec c') (id : EntryId) : c'.find? id = c.find? id := by
  obtain ⟨_, rfl, -⟩ := h
  rfl

end Meanwhile

end Collection

end Reencode
