import Reencode.Proofs.Collection.Use
import Reencode.Proofs.Session.Course
import Reencode.Proofs.Session.Reaction

/-!
# Sessions in use

Whatever is done in a session, its collection is used and nothing else happens to it
(`Operation.perform_civil`), provided that the same is true of what observers do when they are told
(`Surroundings.Civil`).  It is true of observers that call operations themselves, however deep their
calls are nested.  So what every `Collection.Use` keeps holds in every session, after any operations
and any releases of outputs.

Acts are followed one by one, because it has to be seen that whoever imports an image has just found
its name free: no observer is told in between.
-/

namespace Reencode

variable {S M O α β : Type}

namespace Session

/-- One session leads to another by uses of its collection. -/
def Uses (codec : Codec S) (s s' : Session S O) : Prop :=
  Collection.Uses codec s.collection s'.collection

/-- An act that does nothing to the collection but use it. -/
def Civil (codec : Codec S) (a : Act S O α) : Prop := ∀ s : Session S O, Uses codec s (s.run a).2

end Session

/-- Observers that do nothing to the collection but use it. -/
def Surroundings.Civil (w : Surroundings S O) : Prop :=
  ∀ tag event, Session.Civil w.codec (w.react tag event)

namespace Session

variable {codec : Codec S} {s s' s'' : Session S O} {c : Collection S} {a : Act S O α}
  {f : α → Act S O β}

namespace Uses

lemma refl : Uses codec s s := Relation.ReflTransGen.refl

lemma trans (first : Uses codec s s') (then_ : Uses codec s' s'') : Uses codec s s'' :=
  Relation.ReflTransGen.trans first then_

lemma of_use (use : Collection.Use codec s.collection c) : Uses codec s (s.withCollection c) :=
  .single use

lemma of_step {d : Deed} (st : Collection.Step codec s.collection d c)
    (known : d.isImport = false) : Uses codec s (s.withCollection c) :=
  of_use (.step st known)

lemma logged (h : Uses codec s s') (records : List LogRecord) :
    Uses codec s (s'.logged records) := h

end Uses

namespace Civil

lemma pure (x : α) : Civil codec (pure x : Act S O α) := fun _ => .refl

lemma throw (failure : Failure) : Civil codec (throw failure : Act S O α) := fun _ => .refl

lemma collection? : Civil codec (collection? : Act S O (Collection S)) := fun _ => .refl

lemma log (level : LogLevel) (text : String) : Civil codec (log level text : Act S O Unit) :=
  fun _ => .refl

lemma change {becomes : Collection S → Collection S} {d : Deed}
    (st : ∀ c, Collection.Step codec c d (becomes c)) (known : d.isImport = false) :
    Civil codec (change becomes : Act S O Unit) :=
  fun s => .of_step (st s.collection) known

lemma bind (first : Civil codec a) (then_ : ∀ x, Civil codec (f x)) : Civil codec (a >>= f) :=
  fun s => run_bind_of (R := Uses codec) (T := Uses codec) id .trans (first s)
    fun x s' _ => then_ x s'

lemma map {g : α → β} (h : Civil codec a) : Civil codec (g <$> a) := by
  intro s
  rw [run_map]
  exact h s

end Civil

section Acts

variable {w : Surroundings S O} (civil : w.Civil)

include civil

/-! ## Telling -/

lemma uses_told (event : Event) (s : Session S O) : Uses w.codec s (s.told w event) := by
  rw [told_eq_foldl]
  generalize s.collection.observers = tags
  induction tags generalizing s with
  | nil => exact .refl
  | cons tag rest ih =>
    obtain ⟨records, notification⟩ := run_notify w event s tag
    have reacted : Uses w.codec s (notified w event s tag) := by
      rw [notified, notification]
      exact (civil tag event s).logged records
    exact reacted.trans (ih _)

lemma Uses.told (h : Uses w.codec s s') (event : Event) : Uses w.codec s (s'.told w event) :=
  h.trans (uses_told civil event s')

lemma emit_civil (event : Event) : Civil w.codec (emit w event) := by
  intro s
  rw [run_emit]
  exact uses_told civil event s

end Acts

end Session

/-- A path on which nothing is imported uses the collection. -/
lemma Path.uses {w : Surroundings S O} (civil : w.Civil) {s s' : Session S O} {ds : List Deed}
    (path : Path w s ds s') (known : ∀ d ∈ ds, d.isImport = false) : s.Uses w.codec s' := by
  induction path with
  | start => exact .refl
  | log _ records ih => exact (ih known).logged records
  | silent _ step _ ih =>
    obtain ⟨early, last⟩ := List.forall_mem_append.mp known
    exact (ih early).trans (.of_step step (last _ List.mem_cons_self))
  | told _ step records _ ih =>
    obtain ⟨early, last⟩ := List.forall_mem_append.mp known
    have stepped := (ih early).trans (.of_step step (last _ List.mem_cons_self))
    exact (stepped.logged records).told civil _

lemma Deed.isImport_of_isHarvest {d : Deed} (harvest : d.isHarvest = true) :
    d.isImport = false := by
  cases d <;> first | rfl | cases harvest

namespace Session

section Acts

variable {w : Surroundings S O} (civil : w.Civil)

include civil

lemma Harvests.isCivil {a : Act S O α} (h : Harvests w a) : Civil w.codec a := by
  intro s
  obtain ⟨ds, path, harvest⟩ := h s
  exact path.uses civil fun d mem => Deed.isImport_of_isHarvest (harvest d mem)

lemma dispatch_civil (id : EntryId) : Civil w.codec (dispatch w id) := by
  intro s
  obtain ⟨_, path, d, rfl, pays⟩ := dispatch_leads (w := w) s id
  refine path.uses civil fun d mem => ?_
  obtain rfl := List.mem_singleton.mp mem
  cases d <;> first | rfl | exact pays.elim

/-! ## Selecting and importing -/

lemma setSelection_civil (id : Option EntryId) : Civil w.codec (setSelection w id) :=
  (Civil.change (fun c => .chosen c id) rfl).bind fun _ => emit_civil civil _

lemma select_civil (id : EntryId) : Civil w.codec (select w id) := by
  refine Civil.collection?.bind fun c => ?_
  split
  · exact .pure _
  · split
    · exact (setSelection_civil civil _).bind fun _ => .pure _
    · exact .pure _

/-- An image is imported only under a name that was just found free. -/
lemma add_civil (name : String) (data : ByteArray) : Civil w.codec (add w name data) := by
  intro s
  cases taken : s.collection.findByName name with
  | some e =>
    rw [run_add_taken taken]
    exact .refl
  | none =>
    obtain ⟨records, same⟩ := run_add (w := w) taken data
    have imported : Uses w.codec s (s.withCollection (s.collection.insert name data
        (importParams s.settings s.collection)).2) := .of_use (.imported taken data _)
    have settled : Civil w.codec (do
        if (← collection?).selected.isNone then setSelection w (some s.collection.nextId)
        dispatch w s.collection.nextId
        return some s.collection.nextId) := by
      have dispatched : Civil w.codec (do
          dispatch w s.collection.nextId
          return some s.collection.nextId) :=
        (dispatch_civil civil s.collection.nextId).bind fun _ => .pure _
      -- Whether the new entry is selected depends on what the observers left, so both ways are
      -- civil.
      refine Civil.collection?.bind fun c => ?_
      split
      · exact (setSelection_civil civil _).bind fun _ => dispatched
      · exact dispatched
    rw [same]
    exact ((imported.logged records).told civil _).trans (settled _)

lemma addMany_civil (files : List (String × ByteArray)) : Civil w.codec (addMany w files) := by
  induction files with
  | nil => exact .pure _
  | cons file rest ih =>
    rw [addMany]
    split
    · exact (Civil.log _ _).bind fun _ => ih
    · exact (add_civil civil _ _).bind fun _ => ih.bind fun _ => .pure _

/-! ## Removing -/

lemma remove_civil (id : EntryId) : Civil w.codec (remove w id) := by
  intro s
  cases found : s.collection.get? id with
  | none =>
    rw [run_remove_unknown found]
    exact .refl
  | some e =>
    obtain ⟨records, same⟩ := run_remove (w := w) found
    have removed : Uses w.codec s (s.withCollection ((s.collection.drop id).destroy e)) :=
      .of_step (.removed found) rfl
    have settled : Civil w.codec (do
        let c ← collection?
        if c.selected = some id then setSelection w c.ids.head?
        return true) := by
      refine Civil.collection?.bind fun c => ?_
      split
      · exact (setSelection_civil civil _).bind fun _ => .pure _
      · exact .pure _
    rw [same]
    exact ((removed.logged records).told civil _).trans (settled _)

lemma clear_civil : Civil w.codec (clear w) := by
  intro s
  obtain ⟨records, same⟩ := run_clear (w := w) s
  have cleared : Uses w.codec s (s.withCollection
      (({ s.collection with ids := [] }.destroyAll s.collection.ids).choose none)) :=
    .of_step (.cleared s.collection) rfl
  rw [same]
  exact (cleared.logged records).told civil _

lemma close_civil : Civil w.codec (Operation.close.perform w) := by
  intro s
  obtain ⟨ds, path, kind⟩ := shutdown_path (w := w) (s.run (clear w)).2
  have shut : Uses w.codec (s.run (clear w)).2 (s.shutDown w) := by
    refine (path.uses civil fun d mem => ?_).logged _
    rcases kind d mem with rfl | harvest
    · rfl
    · exact Deed.isImport_of_isHarvest harvest
  rw [run_close]
  exact ((clear_civil civil s).trans shut).trans (drain_harvests.isCivil civil _)

/-! ## Parameters -/

lemma setEntryParams_civil (id : EntryId) (params : Params) :
    Civil w.codec (setEntryParams w id params) := by
  intro s
  cases found : s.collection.find? id with
  | none =>
    rw [run_setEntryParams_unknown found]
    exact (uses_told civil _ s).trans (dispatch_civil civil id _)
  | some e =>
    have set : Uses w.codec s (s.withCollection (s.collection.setEntry { e with params })) :=
      .of_step (.paramsSet params found) rfl
    rw [run_setEntryParams found]
    exact (set.told civil _).trans (dispatch_civil civil id _)

lemma setParams_civil (id : EntryId) (source : ParamsSource) (quality format : Value) :
    Civil w.codec (setParams w id source quality format) := by
  refine Civil.collection?.bind fun c => ?_
  split
  · exact (Civil.log _ _).bind fun _ => .pure _
  · dsimp only
    split
    · exact .throw _
    · exact (setEntryParams_civil civil id _).bind fun _ => .pure _

lemma giveFormat_civil (format : Format) (ids : List EntryId) :
    Civil w.codec (giveFormat w format ids) := by
  induction ids with
  | nil => exact .pure _
  | cons id rest ih =>
    refine Civil.collection?.bind fun c => ?_
    split
    · exact ih
    · exact (setEntryParams_civil civil id _).bind fun _ => ih

lemma setGlobalFormat_civil (value : Value) : Civil w.codec (setGlobalFormat w value) := by
  unfold setGlobalFormat
  split
  · exact .throw _
  · rename_i format _
    have formatSet : Civil w.codec
        (change fun c => { c with globalFormat := format } : Act S O Unit) :=
      .change (fun c => .formatSet c format) rfl
    exact formatSet.bind fun _ => (Civil.log _ _).bind fun _ => Civil.collection?.bind fun c =>
      giveFormat_civil civil format c.ids

lemma resetParams_civil (id : EntryId) : Civil w.codec (resetParams w id) := by
  intro s
  cases found : s.collection.get? id with
  | none =>
    rw [run_resetParams_unknown found]
    exact .refl
  | some e =>
    have set : Uses w.codec s (s.withCollection (s.collection.setEntry
        { e with params := ⟨clampQuality s.settings.quality, e.params.format⟩ })) :=
      .of_step (.paramsSet _ (Collection.find?_of_get? found).1) rfl
    have settled : Civil w.codec (do
        let _ ← select w id
        emit w (.about .paramsChanged id)
        dispatch w id
        return true) :=
      (select_civil civil id).bind fun _ => (emit_civil civil _).bind fun _ =>
        (dispatch_civil civil id).bind fun _ => .pure _
    rw [run_resetParams found]
    exact set.trans (settled _)

end Acts

end Session

/-! ## Operations -/

open Session in
/-- Every operation does nothing to the collection but use it, if observers do no more. -/
theorem Operation.perform_civil {w : Surroundings S O} (civil : w.Civil) (op : Operation) :
    Session.Civil w.codec (op.perform w) := by
  cases op with
  | add name data => exact (add_civil civil name data).map
  | addMany files => exact (addMany_civil civil files).map
  | remove id => exact (remove_civil civil id).map
  | clear => exact (clear_civil civil).bind fun _ => .pure _
  | select id => exact (select_civil civil id).map
  | setParams id source quality format => exact (setParams_civil civil id source quality format).map
  | setGlobalFormat format => exact (setGlobalFormat_civil civil format).bind fun _ => .pure _
  | resetParams id => exact (resetParams_civil civil id).map
  | drain | waitIdle | runJob | runJobs =>
    exact (Operation.perform_harvests rfl).isCivil civil
  | close => exact close_civil civil
  | setPreviewMode showSource =>
    exact (Civil.change (fun c => .modeSet c showSource) rfl).bind fun _ => .pure _
  | subscribe tag => exact (Civil.change (fun c => .subscribed c tag) rfl).bind fun _ => .pure _
  | unsubscribe tag => exact (Civil.change (fun c => .unsubscribed c tag) rfl).bind fun _ => .pure _
  | cancelJob number => exact fun s => .of_step (.cancelled s.collection number) rfl
  | shutExecutor => exact (Civil.change (fun c => .executorShut c) rfl).bind fun _ => .pure _

namespace Surroundings

/-- Observers that call back are civil, however deep their calls are nested. -/
theorem calling_civil (codec : Codec S) (patience : Nat)
    (behaviour : ObserverTag → Event → Reaction S M) (depth : Nat) :
    (calling codec patience behaviour depth).Civil := by
  -- It is enough that what is called is civil.
  have reacts : ∀ perform : Operation → Act S (Recollection S M) Reply,
      (∀ op, Session.Civil codec (perform op)) →
        (reacting codec patience behaviour perform).Civil := by
    intro perform performs tag event s
    rw [reacting, Session.run_bind_ok (Session.run_witness s tag event)]
    exact Reaction.act_induction (R := Session.Uses codec)
      (fun _ => .refl) .trans (fun _ => .refl) (fun _ _ => .refl) (fun op _ => performs op)
      (Reaction.calls_of_forall (fun _ => trivial) (behaviour tag event))
      (s.witnessed ⟨tag, event, s.collection⟩)
  induction depth with
  | zero => exact reacts _ fun _ _ => .refl
  | succ depth ih =>
    refine reacts _ fun op => ?_
    have performs := op.perform_civil ih
    rwa [codec_calling] at performs

end Surroundings

/-! ## Sessions in use -/

namespace Session

/-- What whoever has a session may do: perform an operation, or release the output of an entry. -/
inductive Doing where
  | operation (op : Operation)
  | releaseOutput (id : EntryId)

/-- The session after the output of an entry was released, if there is one. -/
def releaseOutput (s : Session S O) (id : EntryId) : Session S O :=
  match s.collection.find? id with
  | none => s
  | some e =>
    match e.releaseOutput s.collection.registry with
    | .error _ => s
    | .ok (e', r) => s.withCollection { s.collection.setEntry e' with registry := r }

/-- The session after something was done. -/
def perform (w : Surroundings S O) (s : Session S O) : Doing → Session S O
  | .operation op => (s.run (op.perform w)).2
  | .releaseOutput id => s.releaseOutput id

/-- The session after this and that was done. -/
def afterAll (w : Surroundings S O) (s : Session S O) (doings : List Doing) : Session S O :=
  doings.foldl (perform w) s

variable {w : Surroundings S O}

lemma uses_releaseOutput (codec : Codec S) (s : Session S O) (id : EntryId) :
    Uses codec s (s.releaseOutput id) := by
  unfold releaseOutput
  split
  · exact .refl
  · rename_i e found
    split
    · exact .refl
    · rename_i e' r gone
      exact .of_use (.released found gone)

/-- Whatever is done in a session, its collection is used. -/
theorem uses_afterAll (civil : w.Civil) (s : Session S O) (doings : List Doing) :
    Uses w.codec s (s.afterAll w doings) := by
  induction doings generalizing s with
  | nil => exact .refl
  | cons doing rest ih =>
    have first : Uses w.codec s (s.perform w doing) := by
      cases doing with
      | operation op => exact op.perform_civil civil s
      | releaseOutput id => exact uses_releaseOutput w.codec s id
    exact first.trans (ih _)

end Session

end Reencode
