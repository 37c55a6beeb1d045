import Reencode.Proofs.Collection.Step

/-!
# Runs of acts

`Session.run` is what an act gives and the session it leaves behind.  The equations below compute
it for the parts that acts are built from, so that later proofs can follow an act from one part to
the next without opening the monad again.

Telling of an event never fails (`Session.run_emit`): a failure of an observer is caught and
reported.  What is left of telling is a walk through the observers, each of which changes the
session as its reaction does (`Session.told_eq_foldl`).
-/

namespace Reencode.Session

variable {S O α β : Type}

/-- What an act gives, and what it leaves behind. -/
def run (s : Session S O) (a : Act S O α) : Except Failure α × Session S O :=
  StateT.run (ExceptT.run a) s

/-- The session with another collection. -/
def withCollection (s : Session S O) (c : Collection S) : Session S O := { s with collection := c }

/-- The session with another scheduler. -/
def withScheduler (s : Session S O) (scheduler : Scheduler S) : Session S O :=
  s.withCollection { s.collection with scheduler }

/-- The session with records added to the journal. -/
def logged (s : Session S O) (records : List LogRecord) : Session S O :=
  { s with journal := s.journal ++ records }

/-- The session after all observers were told of an event. -/
def told (w : Surroundings S O) (event : Event) (s : Session S O) : Session S O :=
  (s.run (emit w event)).2

/-- The session after one observer was told of an event. -/
def notified (w : Surroundings S O) (event : Event) (s : Session S O) (tag : ObserverTag) :
    Session S O :=
  (s.run (notify w event tag)).2

@[simp] lemma collection_withCollection (s : Session S O) (c : Collection S) :
    (s.withCollection c).collection = c := rfl

@[simp] lemma withCollection_self (s : Session S O) : s.withCollection s.collection = s := rfl

@[simp] lemma withCollection_withCollection (s : Session S O) (c c' : Collection S) :
    (s.withCollection c).withCollection c' = s.withCollection c' := rfl

@[simp] lemma registry_withScheduler (s : Session S O) (scheduler : Scheduler S) :
    (s.withScheduler scheduler).collection.registry = s.collection.registry := rfl

@[simp] lemma memory_withCollection (s : Session S O) (c : Collection S) :
    (s.withCollection c).memory = s.memory := rfl

@[simp] lemma collection_logged (s : Session S O) (records : List LogRecord) :
    (s.logged records).collection = s.collection := rfl

@[simp] lemma memory_logged (s : Session S O) (records : List LogRecord) :
    (s.logged records).memory = s.memory := rfl

@[simp] lemma logged_nil (s : Session S O) : s.logged [] = s := by
  simp [logged]

@[simp] lemma logged_logged (s : Session S O) (records more : List LogRecord) :
    (s.logged records).logged more = s.logged (records ++ more) := by
  simp [logged]

/-! ## The parts of acts -/

section Parts

variable (s : Session S O)

@[simp] lemma run_pure (x : α) : s.run (pure x) = (.ok x, s) := rfl

@[simp] lemma run_throw (failure : Failure) :
    s.run (throw failure : Act S O α) = (.error failure, s) := rfl

@[simp] lemma run_collection? : s.run collection? = (.ok s.collection, s) := rfl

@[simp] lemma run_get : s.run (get : Act S O (Session S O)) = (.ok s, s) := rfl

@[simp] lemma run_change (f : Collection S → Collection S) :
    s.run (change f) = (.ok (), s.withCollection (f s.collection)) := rfl

@[simp] lemma run_logAll (records : List LogRecord) :
    s.run (logAll records) = (.ok (), s.logged records) := rfl

@[simp] lemma run_log (level : LogLevel) (text : String) :
    s.run (log level text) = (.ok (), s.logged [⟨level, text⟩]) := rfl

@[simp] lemma run_lift (result : Except Failure α) : s.run (lift result) = (result, s) := by
  cases result <;> rfl

lemma run_bind (a : Act S O α) (f : α → Act S O β) :
    s.run (a >>= f) =
      match s.run a with
      | (.ok x, s') => s'.run (f x)
      | (.error failure, s') => (.error failure, s') := by
  simp only [run, ExceptT.run_bind, StateT.run_bind]
  rcases StateT.run (ExceptT.run a) s with ⟨failure | x, s'⟩ <;> rfl

lemma run_map (f : α → β) (a : Act S O α) :
    s.run (f <$> a) = ((s.run a).1.map f, (s.run a).2) := by
  rw [map_eq_pure_bind, run_bind]
  rcases s.run a with ⟨failure | x, s'⟩ <;> rfl

lemma run_tryCatch (a : Act S O α) (handler : Failure → Act S O α) :
    s.run (tryCatch a handler) =
      match s.run a with
      | (.ok x, s') => (.ok x, s')
      | (.error failure, s') => s'.run (handler failure) := by
  simp only [run, ExceptT.run_tryCatch, StateT.run_bind]
  rcases StateT.run (ExceptT.run a) s with ⟨failure | x, s'⟩ <;> rfl

end Parts

lemma run_bind_ok {s s' : Session S O} {a : Act S O α} {x : α} (first : s.run a = (.ok x, s'))
    (f : α → Act S O β) : s.run (a >>= f) = s'.run (f x) := by
  rw [run_bind, first]

lemma exists_of_run_bind_ok {s s'' : Session S O} {a : Act S O α} {f : α → Act S O β} {y : β}
    (gives : s.run (a >>= f) = (.ok y, s'')) :
    ∃ x s', s.run a = (.ok x, s') ∧ s'.run (f x) = (.ok y, s'') := by
  rw [run_bind] at gives
  rcases result : s.run a with ⟨failure | x, s'⟩
  · rw [result] at gives
    cases gives
  · rw [result] at gives
    exact ⟨x, s', rfl, gives⟩

lemma or_exists_of_run_bind_error {s s'' : Session S O} {a : Act S O α} {f : α → Act S O β}
    {failure : Failure} (failed : s.run (a >>= f) = (.error failure, s'')) :
    s.run a = (.error failure, s'') ∨
      ∃ x s', s.run a = (.ok x, s') ∧ s'.run (f x) = (.error failure, s'') := by
  rw [run_bind] at failed
  rcases result : s.run a with ⟨failure' | x, s'⟩
  · rw [result] at failed
    cases failed
    exact .inl rfl
  · rw [result] at failed
    exact .inr ⟨x, s', rfl, failed⟩

lemma run_eq_ok {s : Session S O} {a : Act S O α} {x : α}
    (gives : (s.run a).1.toOption = some x) : s.run a = (.ok x, (s.run a).2) := by
  rcases result : s.run a with ⟨failure | y, s'⟩
  · rw [result] at gives
    cases gives
  · rw [result] at gives
    cases gives
    rfl

lemma run_eq_error {s : Session S O} {a : Act S O α} {failure : Failure}
    (gives : (s.run a).1 = .error failure) : s.run a = (.error failure, (s.run a).2) :=
  Prod.ext gives rfl

/-! ## Telling -/

/-- Telling an observer changes the session as its reaction does, but for the journal. -/
lemma run_notify (w : Surroundings S O) (event : Event) (s : Session S O) (tag : ObserverTag) :
    ∃ records, s.run (notify w event tag) =
      (.ok (), ((s.run (w.react tag event)).2).logged records) := by
  unfold notify
  rw [run_tryCatch]
  rcases s.run (w.react tag event) with ⟨failure | ⟨⟩, s'⟩
  · exact ⟨_, rfl⟩
  · exact ⟨[], by simp⟩

lemma run_notifyAll (w : Surroundings S O) (event : Event) (tags : List ObserverTag) :
    ∀ s : Session S O,
      s.run (notifyAll w event tags) = (.ok (), tags.foldl (notified w event) s) := by
  induction tags with
  | nil => exact fun s => rfl
  | cons tag rest ih =>
    intro s
    obtain ⟨records, first⟩ := run_notify w event s tag
    rw [notifyAll, run_bind_ok first, ih, List.foldl_cons, notified, first]

/-- Telling never fails. -/
@[simp] lemma run_emit (w : Surroundings S O) (event : Event) (s : Session S O) :
    s.run (emit w event) = (.ok (), s.told w event) := by
  have walk := run_notifyAll w event s.collection.observers s
  rw [told, emit, run_bind_ok (run_collection? s), walk]

/-- The observers that are registered when the telling begins are told one after the other. -/
lemma told_eq_foldl (w : Surroundings S O) (event : Event) (s : Session S O) :
    s.told w event = s.collection.observers.foldl (notified w event) s := by
  rw [told, emit, run_bind_ok (run_collection? s), run_notifyAll]

end Reencode.Session
