import Reencode.Proofs.Collection.Catalogue
import Reencode.Proofs.Collection.Turn
import Reencode.Proofs.Session.Observers

/-!
# One outcome, one entry

Taking over an outcome is one deed about the entry it is for, also if the outcome is stale, is a
fault or finds no entry; while it is told of, jobs may run and nothing else happens
(`Session.apply_steps`).  So no other entry takes a turn, and the entry itself keeps its output if
the outcome is a fault (`Entry.Turns.eq_of_fault`).

That the bytes behind a locator stay what they are does not follow from the registry being left
alone, for a new output is listed there and the old one revoked.  It is read off the catalogue, in
which an entry whose handles are what they were accounts for the same bytes
(`Catalogued.resolve_eq`).
-/

namespace Reencode

variable {S O : Type} {w : Surroundings S O}

/-- An entry with the handles it had before still has the bytes behind them. -/
lemma Catalogued.resolve_eq {c c' : Collection S} {e e' : Entry}
    (before : Catalogued c.shelf c.registry) (shelved : Shelved c.ids c.shelf)
    (after : Catalogued c'.shelf c'.registry) (shelved' : Shelved c'.ids c'.shelf)
    (mem : e ∈ c.entries) (mem' : e' ∈ c'.entries) (same : e'.holdings = e.holdings) :
    ∀ l ∈ e.locators, c'.registry.resolve l = c.registry.resolve l := by
  intro l listed
  obtain ⟨order, life⟩ := before.inOrder shelved mem
  rw [order.locators_eq life] at listed
  obtain ⟨⟨l, data⟩, holds, rfl⟩ := List.mem_map.mp listed
  rw [before.resolve_holding shelved mem holds,
    after.resolve_holding shelved' mem' (same.symm ▸ holds)]

/-- Getting work done takes no entry out of the collection, and puts none in. -/
lemma presentAfter_of_isHarvest {ds : List Deed} (harvest : ∀ d ∈ ds, d.isHarvest = true)
    (ids : List EntryId) : presentAfter ids ds = ids := by
  induction ds with
  | nil => rfl
  | cons d rest ih =>
    have first : d.present ids = ids := by
      have kind := harvest d List.mem_cons_self
      cases d <;> first | rfl | cases kind
    rw [presentAfter, List.foldl_cons, first]
    exact ih fun d mem => harvest d (List.mem_cons_of_mem _ mem)

/-! ## What taking over an outcome is -/

/-- Whether a deed is that of taking one outcome out of the mailbox, or of running a job. -/
def Deed.handles (o : Outcome) (d : Deed) : Prop := d = .applied o ∨ d = .dropped o ∨ d.isRun = true

lemma Deed.subject?_of_isRun {d : Deed} (runs : d.isRun = true) : d.subject? = none := by
  cases d <;> first | rfl | cases runs

namespace Deed.handles

variable {o : Outcome} {d : Deed}

lemma isHarvest (h : d.handles o) : d.isHarvest = true := by
  rcases h with rfl | rfl | runs
  · rfl
  · rfl
  · exact isHarvest_of_isRun runs

lemma subject?_ne (h : d.handles o) {id : EntryId} (other : id ≠ o.entry) :
    d.subject? ≠ some id := by
  rcases h with rfl | rfl | runs
  · exact fun mine => other (Option.some.inj mine).symm
  · exact nofun
  · rw [subject?_of_isRun runs]
    exact nofun

end Deed.handles

/-- Taking over a fault, and running jobs meanwhile, changes nothing of an entry but its fault. -/
lemma Entry.Turns.eq_of_fault {o : Outcome} {f : Fault} (payload : o.payload = .fault f)
    {e e' : Entry} {ds : List Deed} (turns : e.Turns ds e') (kind : ∀ d ∈ ds, d.handles o) :
    ∃ fault, e' = { e with fault } := by
  induction turns with
  | start => exact ⟨e.fault, rfl⟩
  | step _ turn ih =>
    obtain ⟨fault, rfl⟩ := ih fun d mem => kind d (List.mem_append_left _ mem)
    rcases kind _ (List.mem_append_right _ List.mem_cons_self) with rfl | rfl | runs
    · exact turn.eq_of_fault payload
    · exact ⟨fault, turn.eq_of_subject? nofun⟩
    · exact ⟨fault, turn.eq_of_subject? (by simp [Deed.subject?_of_isRun runs])⟩

/-- The step that takes an outcome out of the mailbox takes the oldest one. -/
lemma Collection.Step.eq_of_take {codec : Codec S} {c c' : Collection S} {d : Deed} {o : Outcome}
    {rest : Scheduler S} (st : Collection.Step codec c d c') (draining : d.isDraining = true)
    (taken : c.scheduler.take = some (o, rest)) : d = .applied o ∨ d = .dropped o := by
  have oldest : ∀ {o' : Outcome} {rest' : Scheduler S}, c.scheduler.take = some (o', rest') →
      o' = o := by
    intro o' rest' taken'
    exact congrArg Prod.fst (Option.some.inj (taken'.symm.trans taken))
  cases st with
  | faulted taken' | updated taken' => exact .inl (congrArg _ (oldest taken'))
  | dropped taken' => exact .inr (congrArg _ (oldest taken'))
  | _ => cases draining

namespace Path

variable {s s' : Session S O} {d : Deed}

lemma collection_eq_of_nil (path : Path w s [] s') : s'.collection = s.collection := by
  generalize none_ : ([] : List Deed) = ds at path
  induction path with
  | start => rfl
  | log _ _ ih => exact ih none_
  | silent | told => cases (List.append_eq_nil_iff.mp none_.symm).2

/-- A path of one deed begins with the step that the deed is. -/
lemma step_of_singleton (path : Path w s [d] s') :
    ∃ c, Collection.Step w.codec s.collection d c := by
  generalize one : [d] = ds at path
  induction path with
  | start => cases one
  | log _ _ ih => exact ih one
  | silent before step =>
    obtain ⟨rfl, last⟩ := List.append_inj' (show [] ++ [d] = _ ++ [_] from one) rfl
    obtain rfl := List.singleton_inj.mp last
    exact ⟨_, before.collection_eq_of_nil ▸ step⟩
  | told before step =>
    obtain ⟨rfl, last⟩ := List.append_inj' (show [] ++ [d] = _ ++ [_] from one) rfl
    obtain rfl := List.singleton_inj.mp last
    exact ⟨_, before.collection_eq_of_nil ▸ step⟩

end Path

namespace Session

variable {s : Session S O} {o : Outcome} {rest : Scheduler S}

/-- The session after the oldest outcome was taken over. -/
def taking (w : Surroundings S O) (s : Session S O) (o : Outcome) (rest : Scheduler S) :
    Session S O :=
  ((s.withScheduler rest).run (apply w o)).2

/-- Taking over an outcome is a deed about its entry, with running jobs around it. -/
lemma apply_steps (quiet : w.Quiet) (taken : s.collection.scheduler.take = some (o, rest)) :
    ∃ ds, Collection.Steps w.codec s.collection ds (s.taking w o rest).collection ∧
      ∀ d ∈ ds, d.handles o := by
  obtain ⟨d, path, draining, -⟩ := apply_drains (w := w) taken
  obtain ⟨c, step⟩ := path.step_of_singleton
  obtain ⟨es, steps, same⟩ := path.steps_of_quiet quiet
  refine ⟨es, steps, fun e mem => ?_⟩
  rcases mem_of_ownOf_eq same mem with own | runs
  · obtain rfl := List.mem_singleton.mp own
    exact (step.eq_of_take draining taken).elim .inl fun dropped => .inr (.inl dropped)
  · exact .inr (.inr runs)

end Session

/-- A codec for which bytes are their own surface, and which encodes to no PNG. -/
def Codec.exceptPng : Codec ByteArray where
  decode data := .ok (some data)
  encode surface format _ :=
    match surface, format with
    | some _, .png | none, _ => .fail .overflow
    | some data, _ => .ok (.bytes data)

end Reencode
