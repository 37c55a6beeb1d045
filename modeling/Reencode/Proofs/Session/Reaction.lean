import Reencode.Proofs.Session.Observers

/-!
# Observers that call back

An observer that is told of an event may look at the collection, remember things, fail, and call
operations; these tell observers in turn, who call operations themselves, and so on until the stack
is used up.  A `Reaction` is such a callback as data.  `Surroundings.calling` are the surroundings
of observers with given reactions, for every depth of the stack; at the bottom every call fails.

What observers see is kept in their memory as a list of `Sighting`s: one for every event that is
delivered, and one whenever they look.

Reactions do nothing but call operations, as far as the collection is concerned.  So what relates a
session to the one after it for every operation that reactions may call relates them for the
reactions as well (`Reaction.act_induction`).
-/

namespace Reencode

variable {S M O α : Type}

/-- What an observer sees of a collection when it is told of an event, or looks later on. -/
structure Sighting (S : Type) where
  tag : ObserverTag
  event : Event
  collection : Collection S

/-- What an observer does when it is told of an event: it is done, it fails, it remembers something,
it looks at the collection and at what it remembers, or it calls an operation and goes on with what
that gives. -/
inductive Reaction (S M : Type) where
  | done
  | fail (failure : Failure)
  | remember (memory : M) (next : Reaction S M)
  | look (next : Collection S → M → Reaction S M)
  | call (op : Operation) (next : Except Failure Reply → Reaction S M)

/-- What observers that call back remember: what they have seen, and what they like. -/
abbrev Recollection (S M : Type) : Type := List (Sighting S) × M

namespace Session

/-- What an act gives, also when it fails. -/
def attempt (a : Act S O α) : Act S O (Except Failure α) :=
  tryCatch (Except.ok <$> a) fun failure => pure (.error failure)

/-- The session with a sighting kept. -/
def witnessed (s : Session S (Recollection S M)) (g : Sighting S) : Session S (Recollection S M) :=
  { s with memory := (s.memory.1 ++ [g], s.memory.2) }

/-- An observer sees the collection. -/
def witness (tag : ObserverTag) (event : Event) : Act S (Recollection S M) Unit :=
  modify fun s => s.witnessed ⟨tag, event, s.collection⟩

/-- An observer remembers something. -/
def remember (memory : M) : Act S (Recollection S M) Unit :=
  modify fun s => { s with memory := (s.memory.1, memory) }

end Session

/-- Carries a reaction out; calls are carried out by `perform`. -/
def Reaction.act (perform : Operation → Act S (Recollection S M) Reply) (tag : ObserverTag)
    (event : Event) : Reaction S M → Act S (Recollection S M) Unit
  | done => pure ()
  | fail failure => throw failure
  | remember memory next => do
    Session.remember memory
    next.act perform tag event
  | look next => do
    Session.witness tag event
    let s ← get
    (next s.collection s.memory.2).act perform tag event
  | call op next => do
    let result ← Session.attempt (perform op)
    (next result).act perform tag event

namespace Surroundings

/-- Observers with these reactions, whose calls are carried out by `perform`. -/
def reacting (codec : Codec S) (patience : Nat) (behaviour : ObserverTag → Event → Reaction S M)
    (perform : Operation → Act S (Recollection S M) Reply) :
    Surroundings S (Recollection S M) where
  codec := codec
  react tag event := do
    Session.witness tag event
    (behaviour tag event).act perform tag event
  patience := patience

/-- Observers with these reactions; calls may be nested to this depth. -/
def calling (codec : Codec S) (patience : Nat) (behaviour : ObserverTag → Event → Reaction S M) :
    Nat → Surroundings S (Recollection S M)
  | 0 => reacting codec patience behaviour fun _ =>
      throw (.runtime "maximum recursion depth exceeded")
  | depth + 1 => reacting codec patience behaviour fun op =>
      op.perform (calling codec patience behaviour depth)

@[simp] lemma codec_calling (codec : Codec S) (patience : Nat)
    (behaviour : ObserverTag → Event → Reaction S M) (depth : Nat) :
    (calling codec patience behaviour depth).codec = codec := by
  cases depth <;> rfl

end Surroundings

/-! ## What reactions may call -/

namespace Reaction

/-- A reaction that calls none but some operations, whatever it sees and whatever they give. -/
def Calls (may : Operation → Prop) : Reaction S M → Prop
  | done => True
  | fail _ => True
  | remember _ next => next.Calls may
  | look next => ∀ c memory, (next c memory).Calls may
  | call op next => may op ∧ ∀ result, (next result).Calls may

variable {may may' : Operation → Prop}

lemma Calls.mono {r : Reaction S M} (h : r.Calls may) (more : ∀ op, may op → may' op) :
    r.Calls may' := by
  induction r with
  | done | fail => trivial
  | remember _ _ ih => exact ih h
  | look _ ih => exact fun c memory => ih c memory (h c memory)
  | call op _ ih => exact ⟨more op h.1, fun result => ih result (h.2 result)⟩

lemma calls_of_forall (all : ∀ op, may op) (r : Reaction S M) : r.Calls may := by
  induction r with
  | done | fail => trivial
  | remember _ _ ih => exact ih
  | look _ ih => exact ih
  | call op _ ih => exact ⟨all op, ih⟩

end Reaction

/-! ## Carrying reactions out -/

namespace Session

variable (s : Session S (Recollection S M))

@[simp] lemma run_witness (tag : ObserverTag) (event : Event) :
    s.run (witness tag event) = (.ok (), s.witnessed ⟨tag, event, s.collection⟩) := rfl

lemma run_attempt (s : Session S O) (a : Act S O α) :
    s.run (attempt a) = (.ok (s.run a).1, (s.run a).2) := by
  rw [attempt, run_tryCatch, run_map]
  rcases s.run a with ⟨failure | x, s'⟩ <;> rfl

end Session

/-- What holds from session to session when something is seen, remembered or called holds for
reactions. -/
lemma Reaction.act_induction
    {R : Session S (Recollection S M) → Session S (Recollection S M) → Prop}
    {may : Operation → Prop} {perform : Operation → Act S (Recollection S M) Reply}
    {tag : ObserverTag} {event : Event} (refl : ∀ s, R s s)
    (trans : ∀ {s s' s''}, R s s' → R s' s'' → R s s'')
    (sees : ∀ s, R s (s.witnessed ⟨tag, event, s.collection⟩))
    (remembers : ∀ s memory, R s { s with memory := (s.memory.1, memory) })
    (calls : ∀ op, may op → ∀ s, R s (s.run (perform op)).2) {r : Reaction S M}
    (within : r.Calls may) (s : Session S (Recollection S M)) :
    R s (s.run (r.act perform tag event)).2 := by
  induction r generalizing s with
  | done | fail => exact refl s
  | remember memory next ih => exact trans (remembers s memory) (ih within _)
  | look next ih => exact trans (sees s) (ih _ _ (within _ _) _)
  | call op next ih =>
    rw [act, Session.run_bind_ok (Session.run_attempt s _)]
    exact trans (calls op within.1 s) (ih _ (within.2 _) _)

/-- Observers that call back change the collection through its steps alone, however deep their calls
are nested. -/
theorem Surroundings.calling_lawful (codec : Codec S) (patience : Nat)
    (behaviour : ObserverTag → Event → Reaction S M) (depth : Nat) :
    (calling codec patience behaviour depth).Lawful := by
  -- It is enough that what is called does so.
  have reacts : ∀ perform : Operation → Act S (Recollection S M) Reply,
      (∀ op (s : Session S (Recollection S M)), ∃ ds,
          Collection.Steps codec s.collection ds (s.run (perform op)).2.collection) →
        (reacting codec patience behaviour perform).Lawful := by
    intro perform performs tag event s
    obtain ⟨ds, steps⟩ := Reaction.act_induction
      (R := fun s s' => ∃ ds, Collection.Steps codec s.collection ds s'.collection)
      (fun _ => ⟨[], .start⟩) (fun ⟨_, first⟩ ⟨_, then_⟩ => ⟨_, first.trans then_⟩)
      (fun _ => ⟨[], .start⟩) (fun _ _ => ⟨[], .start⟩) (fun op _ s => performs op s)
      (Reaction.calls_of_forall (fun _ => trivial) (behaviour tag event))
      (s.witnessed ⟨tag, event, s.collection⟩)
    refine ⟨ds, ?_, fun _ _ => trivial⟩
    rw [reacting, Session.run_bind_ok (Session.run_witness s tag event)]
    exact steps
  induction depth with
  | zero => exact reacts _ fun _ _ => ⟨[], .start⟩
  | succ depth ih =>
    refine reacts _ fun op s => ?_
    obtain ⟨ds, steps⟩ := Session.after_steps ih s [op]
    rw [codec_calling] at steps
    exact ⟨ds, steps⟩

end Reencode
