import Reencode.Proofs.Session.Run

/-!
# Paths of sessions

A path is what an act does to a session, as a sequence of deeds: each is a step of the collection,
and those that an event tells of are told right away.  What the observers do then is no part of the
path, so a path says what the owner of the session did, whoever observes it.

Two things about the deeds of an act matter later on.  Whoever gives an entry parameters dispatches
a job for it before the act ends, so acts leave no debts; and all but a few acts neither end work,
nor change who is told, nor switch the preview (`Tidy`).  `Operation.perform_leads` says what each
operation does by way of these two.
-/

namespace Reencode

variable {S O α β : Type}

/-- A sequence of deeds of a session's owner, each told of as soon as it is done. -/
inductive Path (w : Surroundings S O) (s : Session S O) : List Deed → Session S O → Prop
  | start : Path w s [] s
  | log {ds : List Deed} {s' : Session S O} (before : Path w s ds s') (records : List LogRecord) :
      Path w s ds (s'.logged records)
  | silent {ds : List Deed} {s' : Session S O} {d : Deed} {c : Collection S}
      (before : Path w s ds s') (step : Collection.Step w.codec s'.collection d c)
      (quiet : d.event? = none) : Path w s (ds ++ [d]) (s'.withCollection c)
  | told {ds : List Deed} {s' : Session S O} {d : Deed} {c : Collection S} {event : Event}
      (before : Path w s ds s') (step : Collection.Step w.codec s'.collection d c)
      (records : List LogRecord) (tells : d.event? = some event) :
      Path w s (ds ++ [d]) (((s'.withCollection c).logged records).told w event)

lemma Path.trans {w : Surroundings S O} {s s' s'' : Session S O} {ds es : List Deed}
    (first : Path w s ds s') (then_ : Path w s' es s'') : Path w s (ds ++ es) s'' := by
  induction then_ with
  | start => simpa using first
  | log _ records ih => exact ih.log records
  | silent _ step quiet ih =>
    rw [← List.append_assoc]
    exact ih.silent step quiet
  | told _ step records tells ih =>
    rw [← List.append_assoc]
    exact ih.told step records tells

/-! ## Debts -/

namespace Deed

/-- Whether a deed settles what is owed for an entry. -/
def pays (id : EntryId) : Deed → Prop
  | dispatched j | refused j => j.entry = id
  | skipped other => other = id
  | _ => False

/-- Whether a deed neither ends work nor changes who is told nor switches the preview. -/
def isOrdinary (d : Deed) : Prop :=
  d.isEnding = false ∧ d.isSubscription = false ∧ d.isSwitch = false

/-- Whether an outcome was taken out of the mailbox. -/
def isDraining : Deed → Bool
  | applied _ | dropped _ => true
  | _ => false

lemma pays.owing {d : Deed} {id : EntryId} (h : d.pays id) (debts : List EntryId) :
    d.owing debts = debts.filter (· ≠ id) := by
  cases d <;> first | exact h.elim | (simp only [pays] at h; subst h; rfl)

lemma pays.isOrdinary {d : Deed} {id : EntryId} (h : d.pays id) : d.isOrdinary := by
  cases d <;> first | exact h.elim | exact ⟨rfl, rfl, rfl⟩

lemma isHarvest_of_isDraining {d : Deed} (draining : d.isDraining = true) : d.isHarvest = true := by
  cases d <;> first | rfl | cases draining

end Deed

/-- Deeds of an allowed kind that bring no debts but those for some entries. -/
structure Tidy (allowed : Deed → Prop) (debts : List EntryId) (ds : List Deed) : Prop where
  owing : ∀ before, owingAfter before ds ⊆ debts ++ before
  kind : ∀ d ∈ ds, allowed d

namespace Tidy

variable {allowed : Deed → Prop} {debts : List EntryId} {ds es : List Deed} {d : Deed}
  {id : EntryId}

lemma nil : Tidy allowed [] [] := ⟨fun _ _ mem => mem, by simp⟩

lemma append (h : Tidy allowed debts ds) (h' : Tidy allowed [] es) :
    Tidy allowed debts (ds ++ es) where
  owing := by
    intro before
    rw [owingAfter_append]
    exact List.Subset.trans (h'.owing _) (h.owing before)
  kind := by
    intro d mem
    rcases List.mem_append.mp mem with first | then_
    · exact h.kind d first
    · exact h'.kind d then_

lemma neutral (same : ∀ before, d.owing before = before) (kind : allowed d) :
    Tidy allowed [] [d] where
  owing := by
    intro before
    simp [owingAfter, same]
  kind := by simpa using kind

lemma debt (owes : ∀ before, d.owing before = id :: before) (kind : allowed d) :
    Tidy allowed [id] [d] where
  owing := by
    intro before
    simp [owingAfter, owes]
  kind := by simpa using kind

lemma pay (h : Tidy allowed [id] ds) (pays : d.pays id) (kind : allowed d) :
    Tidy allowed [] (ds ++ [d]) where
  owing := by
    intro before other mem
    rw [owingAfter_append] at mem
    simp only [owingAfter, List.foldl_cons, List.foldl_nil, pays.owing, List.mem_filter,
      decide_eq_true_eq] at mem
    have kept := h.owing before mem.1
    simpa [mem.2] using kept
  kind := by
    intro other mem
    rcases List.mem_append.mp mem with first | last
    · exact h.kind other first
    · obtain rfl := List.mem_singleton.mp last
      exact kind

lemma mono {allowed' : Deed → Prop} (h : Tidy allowed debts ds)
    (more : ∀ d, allowed d → allowed' d) : Tidy allowed' debts ds :=
  ⟨h.owing, fun d mem => more d (h.kind d mem)⟩

lemma weaken (h : Tidy allowed [] ds) : Tidy allowed debts ds :=
  ⟨fun before => List.Subset.trans (h.owing before) (List.subset_append_right _ _), h.kind⟩

/-- Deeds none of which matters for debts. -/
lemma of_forall (neutral : ∀ d ∈ ds, ∀ before, d.owing before = before)
    (kind : ∀ d ∈ ds, allowed d) : Tidy allowed [] ds where
  owing := by
    induction ds with
    | nil => exact fun _ _ mem => mem
    | cons d rest ih =>
      intro before
      have tail := ih (fun d mem => neutral d (List.mem_cons_of_mem _ mem))
        (fun d mem => kind d (List.mem_cons_of_mem _ mem)) before
      simpa [owingAfter, neutral d List.mem_cons_self before] using tail
  kind := kind

/-- Getting work done is nothing out of the ordinary. -/
lemma of_harvest (harvest : ∀ d ∈ ds, d.isHarvest = true) : Tidy Deed.isOrdinary [] ds := by
  refine .of_forall ?_ ?_
  · intro d mem before
    have kind := harvest d mem
    cases d <;> first | rfl | cases kind
  · intro d mem
    have kind := harvest d mem
    cases d <;> first | exact ⟨rfl, rfl, rfl⟩ | cases kind

end Tidy

/-! ## Following acts -/

namespace Session

/-- An act performed in a session takes a path, with deeds that fit what it gives. -/
def Leads (w : Surroundings S O) (s : Session S O) (a : Act S O α)
    (fits : Except Failure α → List Deed → Prop) : Prop :=
  ∃ ds, Path w s ds (s.run a).2 ∧ fits (s.run a).1 ds

/-- An act that leaves no debts and does nothing out of the ordinary. -/
def Keeps (w : Surroundings S O) (a : Act S O α) : Prop :=
  ∀ s, Leads w s a fun _ ds => Tidy Deed.isOrdinary [] ds

/-- An act that gets work done, and does nothing else. -/
def Harvests (w : Surroundings S O) (a : Act S O α) : Prop :=
  ∀ s, Leads w s a fun _ ds => ∀ d ∈ ds, d.isHarvest = true

variable {w : Surroundings S O} {s s' : Session S O} {a : Act S O α} {f : α → Act S O β}

lemma Leads.mono {fits fits' : Except Failure α → List Deed → Prop} (h : Leads w s a fits)
    (weaker : ∀ r ds, fits r ds → fits' r ds) : Leads w s a fits' := by
  obtain ⟨ds, path, fit⟩ := h
  exact ⟨ds, path, weaker _ _ fit⟩

/-- An act that, after part of the path, goes on like another one. -/
lemma Leads.of_run_eq {b : Act S O α} {ds : List Deed} {fits : Except Failure α → List Deed → Prop}
    (same : s.run a = s'.run b) (path : Path w s ds s')
    (then_ : Leads w s' b fun r es => fits r (ds ++ es)) : Leads w s a fits := by
  obtain ⟨es, path', fit⟩ := then_
  exact ⟨ds ++ es, same ▸ path.trans path', same ▸ fit⟩

lemma Leads.bind {fits : Except Failure α → List Deed → Prop}
    {fits' : Except Failure β → List Deed → Prop} (first : Leads w s a fits)
    (then_ : ∀ x s' ds, s.run a = (.ok x, s') → Path w s ds s' → fits (.ok x) ds →
      Leads w s' (f x) fun r es => fits' r (ds ++ es))
    (fails : ∀ failure ds, fits (.error failure) ds → fits' (.error failure) ds) :
    Leads w s (a >>= f) fits' := by
  obtain ⟨ds, path, fit⟩ := first
  rcases result : s.run a with ⟨failure | x, s'⟩
  · refine ⟨ds, ?_, ?_⟩
    · rw [run_bind, result]
      simpa [result] using path
    · rw [run_bind, result]
      rw [result] at fit
      exact fails failure ds fit
  · rw [result] at path fit
    exact .of_run_eq (run_bind_ok result f) path (then_ x s' ds result path fit)

lemma Leads.map {g : α → β} {fits : Except Failure α → List Deed → Prop}
    {fits' : Except Failure β → List Deed → Prop} (h : Leads w s a fits)
    (weaker : ∀ r ds, fits r ds → fits' (r.map g) ds) : Leads w s (g <$> a) fits' := by
  obtain ⟨ds, path, fit⟩ := h
  refine ⟨ds, ?_, ?_⟩
  · rw [run_map]
    exact path
  · rw [run_map]
    exact weaker _ _ fit

lemma Keeps.pure (x : α) : Keeps w (pure x : Act S O α) :=
  fun _ => ⟨[], .start, .nil⟩

lemma Keeps.bind (first : Keeps w a) (then_ : ∀ x, Keeps w (f x)) : Keeps w (a >>= f) := by
  intro s
  refine (first s).bind ?_ fun _ _ tidy => tidy
  intro x s' ds _ _ tidy
  exact (then_ x s').mono fun _ _ tidy' => tidy.append tidy'

lemma Keeps.map {g : α → β} (h : Keeps w a) : Keeps w (g <$> a) :=
  fun s => (h s).map fun _ _ tidy => tidy

lemma Keeps.collection? : Keeps w (collection? : Act S O (Collection S)) :=
  fun _ => ⟨[], .start, .nil⟩

lemma Keeps.log (level : LogLevel) (text : String) : Keeps w (log level text : Act S O Unit) :=
  fun _ => ⟨[], Path.start.log _, .nil⟩

lemma Keeps.throw (failure : Failure) : Keeps w (throw failure : Act S O α) :=
  fun _ => ⟨[], .start, .nil⟩

lemma Harvests.pure (x : α) : Harvests w (pure x : Act S O α) :=
  fun _ => ⟨[], .start, by simp⟩

lemma Harvests.collection? : Harvests w (collection? : Act S O (Collection S)) :=
  fun _ => ⟨[], .start, by simp⟩

lemma Harvests.bind (first : Harvests w a) (then_ : ∀ x, Harvests w (f x)) :
    Harvests w (a >>= f) := by
  intro s
  refine (first s).bind ?_ fun _ _ harvest => harvest
  intro x s' ds _ _ harvest
  refine (then_ x s').mono fun _ es harvest' => ?_
  intro d mem
  rcases List.mem_append.mp mem with early | late
  · exact harvest d early
  · exact harvest' d late

lemma Harvests.map {g : α → β} (h : Harvests w a) : Harvests w (g <$> a) :=
  fun s => (h s).map fun _ _ harvest => harvest

lemma Harvests.keeps (h : Harvests w a) : Keeps w a :=
  fun s => (h s).mono fun _ _ harvest => .of_harvest harvest

end Session

end Reencode
