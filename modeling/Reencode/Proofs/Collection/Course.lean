import Reencode.Proofs.Collection.Step

/-!
# Careful steps

A `Step` may do what an operation of a session never does: dispatch a job for an entry that was
removed, give an entry any parameters, or close a scheduler that still has jobs.  A *careful* step
does not: it dispatches for entries of the collection alone, the parameters it gives to entries are
good ones, and it closes nothing.  What good parameters are is left open.

A *course* is a sequence of careful steps.  Only few kinds of steps need care; any other one is
careful by itself (`Careful.of_calm`).
-/

namespace Reencode

variable {S : Type}

/-- Whether a deed needs no care. -/
def Deed.isCalm : Deed → Bool
  | imported _ | paramsSet _ | dispatched _ | refused _ | shut => false
  | _ => true

namespace Collection

/-- All entries there ever were have good parameters. -/
def AllParams (good : Params → Prop) (c : Collection S) : Prop := ∀ e ∈ c.shelf, good e.params

/-- A step that is taken with care. -/
structure Careful (good : Params → Prop) (c : Collection S) (d : Deed) (c' : Collection S) :
    Prop where
  present : ∀ j, d = .dispatched j ∨ d = .refused j → j.entry ∈ c.ids
  params : c.AllParams good → c'.AllParams good
  lasting : d = .shut → c'.scheduler.closed = c.scheduler.closed

/-- A sequence of careful steps, and its deeds. -/
inductive Course (codec : Codec S) (good : Params → Prop) (start : Collection S) :
    List Deed → Collection S → Prop
  | start : Course codec good start [] start
  | step {deeds : List Deed} {c c' : Collection S} {d : Deed} :
      Course codec good start deeds c → Step codec c d c' → Careful good c d c' →
        Course codec good start (deeds ++ [d]) c'

variable {codec : Codec S} {good : Params → Prop} {a b c c' : Collection S} {d : Deed}
  {ds es : List Deed}

namespace Course

lemma trans (first : Course codec good a ds b) (then_ : Course codec good b es c) :
    Course codec good a (ds ++ es) c := by
  induction then_ with
  | start => simpa using first
  | step _ last care ih =>
    rw [← List.append_assoc]
    exact .step ih last care

lemma of_step (st : Step codec c d c') (care : Careful good c d c') :
    Course codec good c [d] c' := .step .start st care

/-- Good parameters stay good. -/
lemma params (course : Course codec good a ds b) (all : a.AllParams good) : b.AllParams good := by
  induction course with
  | start => exact all
  | step _ _ care ih => exact care.params ih

end Course

/-! ## Careful by itself -/

namespace AllParams

lemma setEntry (all : c.AllParams good) {e : Entry} (mine : good e.params) :
    (c.setEntry e).AllParams good := by
  intro other mem
  obtain ⟨old, hold, rfl⟩ := List.mem_map.mp mem
  split
  · exact mine
  · exact all old hold

lemma of_find? (all : c.AllParams good) {id : EntryId} {e : Entry}
    (found : c.find? id = some e) : good e.params :=
  all e (List.mem_of_find?_eq_some found)

lemma destroy (all : c.AllParams good) {id : EntryId} {e : Entry}
    (found : c.find? id = some e) : (c.destroy e).AllParams good := by
  have same : (e.destroy c.registry).1.params = e.params := by
    unfold Entry.destroy
    split <;> rfl
  exact all.setEntry (same.symm ▸ all.of_find? found)

end AllParams

/-- A step of most kinds is careful. -/
lemma Careful.of_calm (st : Step codec c d c') (calm : d.isCalm = true) : Careful good c d c' where
  present := by
    rintro j (rfl | rfl) <;> cases calm
  params := by
    intro all
    -- A calm step changes the parameters of no entry: what it replaces has those it had before.
    cases st with
    | removed found => exact AllParams.destroy (c := c.drop _) all (find?_of_get? found).1
    | cleared =>
      exact destroyAll_induction (P := AllParams good) (fun _ _ _ all found => all.destroy found)
        c.ids { c with ids := [] } all
    | faulted taken found payload recorded =>
      obtain ⟨-, -, rfl⟩ := Entry.recordFault_eq_some recorded
      have old := all.of_find? (find?_of_get? found).1
      exact all.setEntry old
    | updated taken found payload replaced =>
      obtain ⟨-, -, handle, -, rfl⟩ := Entry.applyOutput_eq_some replaced
      have old := all.of_find? (find?_of_get? found).1
      exact all.setEntry old
    | imported | paramsSet | dispatched | refused | executorShut | closed => cases calm
    | _ => exact all
  lasting := by
    rintro rfl
    cases calm

/-- Dispatching needs the entry to be in the collection. -/
lemma Careful.of_dispatch {e : Entry} {scheduler : Scheduler S}
    (dispatch : d = .dispatched e.request ∨ d = .refused e.request)
    (known : c.find? e.id = some e) (present : e.id ∈ c.ids) :
    Careful good c d { c.setEntry e.advance with scheduler } where
  present := by
    intro j same
    have mine : j = e.request := by
      rcases dispatch with rfl | rfl <;> rcases same with same | same <;> cases same <;> rfl
    exact mine ▸ present
  params := by
    intro all
    have old := all.of_find? known
    exact all.setEntry (e := e.advance) old
  lasting := by
    rintro rfl
    rcases dispatch with wrong | wrong <;> cases wrong

lemma Careful.of_paramsSet {id : EntryId} {e : Entry} {params : Params}
    (mine : c.AllParams good → good params) :
    Careful good c (.paramsSet id) (c.setEntry { e with params }) where
  present := by
    rintro j (wrong | wrong) <;> cases wrong
  params := fun all => all.setEntry (e := { e with params }) (mine all)
  lasting := by
    intro wrong
    cases wrong

lemma Careful.of_imported {id : EntryId} {name : String} {data : ByteArray} {params : Params}
    (mine : good params) : Careful good c (.imported id) (c.insert name data params).2 where
  present := by
    rintro j (wrong | wrong) <;> cases wrong
  params := by
    intro all e mem
    rcases List.mem_append.mp mem with old | new
    · exact all e old
    · obtain rfl := List.mem_singleton.mp new
      exact mine
  lasting := by
    intro wrong
    cases wrong

lemma Careful.of_shut {executor : Scheduler S}
    (lasting : executor.closed = c.scheduler.closed) :
    Careful good c .shut { c with scheduler := executor } where
  present := by
    rintro j (wrong | wrong) <;> cases wrong
  params := fun all => all
  lasting := fun _ => lasting

/-- Steps that need no care make a course. -/
lemma Course.of_calm (steps : Steps codec a ds b) (calm : ∀ d ∈ ds, d.isCalm = true) :
    Course codec good a ds b := by
  induction steps with
  | start => exact .start
  | step _ last ih =>
    refine .step (ih fun d mem => calm d (List.mem_append_left _ mem)) last (.of_calm last ?_)
    exact calm _ (List.mem_append_right _ List.mem_cons_self)

end Collection

end Reencode
