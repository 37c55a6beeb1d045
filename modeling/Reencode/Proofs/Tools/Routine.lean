import Reencode.Proofs.Session.Membership
import Reencode.Tools.Call

/-!
# Tools are made of operations

Whatever a tool does, it does to the collection by operations; what it does besides, to the files or
the journal, leaves the collection alone.  `Session.Routine` is what a few operations lead to with
such things in between, and every tool is one (`Tools.routinely_of_call`), whether it answers or
fails.  So is a caller's whole visit to a session, call after call, with whatever else happens to
the session between two calls (`Session.visits_routine`).

No tool ends the work of the scheduler.
-/

namespace Reencode

variable {S O α β : Type} {w : Surroundings S O}

/-- An error response that was built to be one. -/
inductive ErrorResponse.Built : ErrorResponse → Prop
  | validation (message field : String) : Built (.validation message field)
  | notFound (message image : String) : Built (.notFound message image)
  | notReady (message image : String) : Built (.notReady message image)
  | processing (message operation : String) : Built (.processing message operation)

namespace Session

/-- What operations lead to, with anything in between that leaves the collection alone. -/
inductive Routine (w : Surroundings S O) (s : Session S O) : List Operation → Session S O → Prop
  | start : Routine w s [] s
  | performed {ops : List Operation} {s' : Session S O} (before : Routine w s ops s')
      (op : Operation) : Routine w s (ops ++ [op]) (s'.run (op.perform w)).2
  | aside {ops : List Operation} {s' s'' : Session S O} (before : Routine w s ops s')
      (same : s''.collection = s'.collection) : Routine w s ops s''

namespace Routine

variable {s s' s'' : Session S O} {ops more : List Operation}

lemma trans (first : Routine w s ops s') (then_ : Routine w s' more s'') :
    Routine w s (ops ++ more) s'' := by
  induction then_ with
  | start => simpa using first
  | performed _ op ih =>
    rw [← List.append_assoc]
    exact ih.performed op
  | aside _ same ih => exact ih.aside same

/-- Routines are sequences of steps. -/
theorem steps (lawful : w.Lawful) (h : Routine w s ops s') :
    ∃ ds, Collection.Steps w.codec s.collection ds s'.collection := by
  induction h with
  | start => exact ⟨[], .start⟩
  | @performed ops s' _ op ih =>
    obtain ⟨ds, before⟩ := ih
    obtain ⟨es, last⟩ := after_steps lawful s' [op]
    exact ⟨ds ++ es, before.trans last⟩
  | aside _ same ih => exact same ▸ ih

/-- With observers that do not call back, routines leave no debts, and end no work unless one of the
operations does. -/
theorem steps_of_quiet (quiet : w.Quiet) (h : Routine w s ops s')
    (go_on : ∀ op ∈ ops, op.ends = false) :
    ∃ ds, Collection.Steps w.codec s.collection ds s'.collection ∧
      (∀ before, owingAfter before ds ⊆ before) ∧ ∀ d ∈ ds, d.isEnding = false := by
  induction h with
  | start => exact ⟨[], .start, fun _ _ mem => mem, by simp⟩
  | @performed ops s' _ op ih =>
    obtain ⟨ds, before, settles, lasting⟩ := ih fun op mem => go_on op (List.mem_append_left _ mem)
    have last : ∀ op' ∈ [op], op'.ends = false := fun op' mem =>
      go_on op' (List.mem_append_right _ mem)
    obtain ⟨es, steps, settles', lasting'⟩ := after_steps_of_quiet quiet s' last
    refine ⟨ds ++ es, before.trans steps, fun debts => ?_, List.forall_mem_append.mpr
      ⟨lasting, lasting'⟩⟩
    rw [owingAfter_append]
    exact List.Subset.trans (settles' _) (settles debts)
  | aside _ same ih => exact same ▸ ih go_on

/-- Routines do to the roster what their operations do. -/
theorem enrolled (quiet : w.Quiet) (h : Routine w s ops s') {r : Roster} (began : Enrolled r s) :
    Enrolled (ops.foldl Roster.perform r) s' := by
  induction h with
  | start => exact began
  | performed _ op ih =>
    rw [List.foldl_append]
    exact perform_enrolled quiet ih op
  | aside _ same ih =>
    refine ⟨same ▸ ih.shelved, ?_⟩
    rw [same]
    exact ih.roster

end Routine

/-! ## Routine acts -/

/-- An act that is a routine of operations that do not end the work. -/
def Routinely (w : Surroundings S O) (a : Act S O α) : Prop :=
  ∀ s, ∃ ops, Routine w s ops (s.run a).2 ∧ ∀ op ∈ ops, op.ends = false

variable {a : Act S O α} {f : α → Act S O β}

/-- An act that leaves the collection alone. -/
lemma Routinely.of_keeping (keeps : ∀ s : Session S O, (s.run a).2.collection = s.collection) :
    Routinely w a :=
  fun s => ⟨[], Routine.start.aside (keeps s), by simp⟩

/-- An act that an operation consists of. -/
lemma Routinely.of_perform (op : Operation) {g : α → Reply} (performs : op.perform w = g <$> a)
    (goes_on : op.ends = false) : Routinely w a := by
  intro s
  refine ⟨[op], ?_, by simpa using goes_on⟩
  have same : (s.run (op.perform w)).2 = (s.run a).2 := by rw [performs, run_map]
  rw [← same]
  exact Routine.start.performed op

lemma Routinely.bind (first : Routinely w a) (then_ : ∀ x, Routinely w (f x)) :
    Routinely w (a >>= f) := by
  intro s
  obtain ⟨ops, routine, go_on⟩ := first s
  rw [run_bind]
  rcases result : s.run a with ⟨failure | x, s'⟩
  · rw [result] at routine
    exact ⟨ops, routine, go_on⟩
  · rw [result] at routine
    obtain ⟨more, routine', go_on'⟩ := then_ x s'
    exact ⟨ops ++ more, routine.trans routine', List.forall_mem_append.mpr ⟨go_on, go_on'⟩⟩

lemma Routinely.tryCatch {handler : Failure → Act S O α} (first : Routinely w a)
    (handles : ∀ failure, Routinely w (handler failure)) :
    Routinely w (tryCatch a handler) := by
  intro s
  obtain ⟨ops, routine, go_on⟩ := first s
  rw [run_tryCatch]
  rcases result : s.run a with ⟨failure | x, s'⟩
  · rw [result] at routine
    obtain ⟨more, routine', go_on'⟩ := handles failure s'
    exact ⟨ops ++ more, routine.trans routine', List.forall_mem_append.mpr ⟨go_on, go_on'⟩⟩
  · rw [result] at routine
    exact ⟨ops, routine, go_on⟩

lemma Routinely.pure (x : α) : Routinely w (pure x : Act S O α) := .of_keeping fun _ => rfl

lemma Routinely.throw (failure : Failure) : Routinely w (throw failure : Act S O α) :=
  .of_keeping fun _ => rfl

lemma Routinely.collection? : Routinely w (collection? : Act S O (Collection S)) :=
  .of_keeping fun _ => rfl

lemma Routinely.get : Routinely w (get : Act S O (Session S O)) := .of_keeping fun _ => rfl

lemma Routinely.log (level : LogLevel) (text : String) :
    Routinely w (log level text : Act S O Unit) := .of_keeping fun _ => rfl

lemma Routinely.lift (result : Except Failure α) : Routinely w (lift result : Act S O α) :=
  .of_keeping fun _ => by rw [run_lift]

/-! ## What acts give -/

/-- An act that leaves a session behind which fits what it gives. -/
def Gives (good : α → Session S O → Prop) (a : Act S O α) : Prop :=
  ∀ (s s' : Session S O) (x : α), s.run a = (.ok x, s') → good x s'

variable {good : β → Session S O → Prop}

lemma Gives.of_bind (then_ : ∀ (s s' s'' : Session S O) x y, s.run a = (.ok x, s') →
    s'.run (f x) = (.ok y, s'') → good y s'') : Gives good (a >>= f) := by
  intro s s'' y gives
  obtain ⟨x, s', first, second⟩ := exists_of_run_bind_ok gives
  exact then_ s s' s'' x y first second

lemma Gives.bind (then_ : ∀ x, Gives good (f x)) : Gives good (a >>= f) :=
  .of_bind fun _ s' s'' x y _ gives => then_ x s' s'' y gives

lemma Gives.tryCatch {b : Act S O β} {handler : Failure → Act S O β} (first : Gives good b)
    (handles : ∀ failure, Gives good (handler failure)) : Gives good (tryCatch b handler) := by
  intro s s'' y gives
  rw [run_tryCatch] at gives
  rcases result : s.run b with ⟨failure | x, s'⟩
  · rw [result] at gives
    exact handles failure s' s'' y gives
  · rw [result] at gives
    cases gives
    exact first s _ _ result

lemma Gives.pure {y : β} (fits : ∀ s, good y s) : Gives good (pure y : Act S O β) := by
  intro s s' x gives
  cases gives
  exact fits s

lemma Gives.throw (failure : Failure) : Gives good (throw failure : Act S O β) := by
  intro s s' x gives
  cases gives

/-! ## Tools -/

section Tools

open Tools

lemma waitIdle_routinely : Routinely w (waitIdle w : Act S O Bool) :=
  .of_perform .waitIdle rfl rfl

lemma settle_routinely : Routinely w (settle w : Act S O Bool) := by
  refine waitIdle_routinely.bind fun settled => ?_
  split
  · exact (Routinely.log _ _).bind fun _ => .pure _
  · exact .pure _

lemma stateNow_routinely (settled : Bool) : Routinely w (stateNow settled : Act S O ToolResponse) :=
  Routinely.collection?.bind fun _ => .pure _

lemma currentState_routinely : Routinely w (do stateNow (← isSettled) : Act S O ToolResponse) :=
  (Routinely.collection?.bind fun _ => .pure _).bind stateNow_routinely

lemma settledState_routinely : Routinely w (settledState w : Act S O ToolResponse) :=
  settle_routinely.bind stateNow_routinely

/-- A tool that is asked to do something to an image, and answers if there is none. -/
lemma Routinely.orNoSuchImage {ask : Act S O Bool} {answer : Act S O ToolResponse}
    (first : Routinely w ask) (then_ : Routinely w answer) (id : EntryId) :
    Routinely w (do if ← ask then answer else return noSuchImage id) := by
  refine first.bind fun there => ?_
  split
  · exact then_
  · exact .pure _

lemma refusal_routinely (failure : Failure) :
    Routinely w (refusal failure : Act S O ToolResponse) := by
  unfold refusal
  split
  · exact .pure _
  · exact .throw _

lemma importFiles_routinely (files : List (String × ByteArray)) :
    Routinely w (importFiles w files : Act S O ToolResponse) := by
  have added : Routinely w (addMany w files : Act S O (List EntryId)) :=
    .of_perform (.addMany files) rfl rfl
  exact added.bind fun _ => settle_routinely.bind fun _ => Routinely.collection?.bind fun _ =>
    .pure _

lemma importImages_routinely (paths : Value) (recursive : Bool) :
    Routinely w (importImages w paths recursive : Act S O ToolResponse) := by
  refine .tryCatch ((Routinely.lift _).bind fun items => Routinely.get.bind fun s => ?_)
    fun _ => (Routinely.log _ _).bind fun _ => .pure _
  have reported : Routinely w (logAll (readValues s.files recursive items).2 : Act S O Unit) :=
    .of_keeping fun _ => rfl
  exact reported.bind fun _ => (Routinely.lift _).bind importFiles_routinely

lemma listImages_routinely : Routinely w (listImages w : Act S O ToolResponse) :=
  (Routinely.of_perform .drain rfl rfl).bind fun _ => currentState_routinely

lemma selectImage_routinely (id : EntryId) :
    Routinely w (selectImage w id : Act S O ToolResponse) :=
  .orNoSuchImage (.of_perform (.select id) rfl rfl) currentState_routinely id

lemma setImageParams_routinely (id : EntryId) (quality format : Value) :
    Routinely w (setImageParams w id quality format : Act S O ToolResponse) :=
  .tryCatch (.orNoSuchImage (.of_perform (.setParams id .none quality format) rfl rfl)
    settledState_routinely id) refusal_routinely

lemma resetImageQuality_routinely (id : EntryId) :
    Routinely w (resetImageQuality w id : Act S O ToolResponse) :=
  .orNoSuchImage (.of_perform (.resetParams id) rfl rfl) settledState_routinely id

lemma setFormat_routinely (format : Value) :
    Routinely w (setFormat w format : Act S O ToolResponse) :=
  .tryCatch ((Routinely.of_perform (.setGlobalFormat format)
    (map_eq_pure_bind _ _).symm rfl).bind fun _ => settledState_routinely) refusal_routinely

lemma removeImage_routinely (id : EntryId) :
    Routinely w (removeImage w id : Act S O ToolResponse) :=
  .orNoSuchImage (.of_perform (.remove id) rfl rfl) currentState_routinely id

lemma clearImages_routinely : Routinely w (clearImages w : Act S O ToolResponse) :=
  (Routinely.of_perform .clear (map_eq_pure_bind _ _).symm rfl).bind fun _ =>
    stateNow_routinely true

lemma makeDirectories_routinely (p : FilePath) :
    Routinely w (makeDirectories p : Act S O Unit) :=
  Routinely.get.bind fun _ => (Routinely.of_keeping fun _ => rfl).bind fun _ => .lift _

lemma writeFile_routinely (p : FilePath) (data : ByteArray) :
    Routinely w (writeFile p data : Act S O Unit) :=
  Routinely.get.bind fun _ => (Routinely.lift _).bind fun _ => .of_keeping fun _ => rfl

lemma collect_routinely : Routinely w (collect : Act S O (List ExportedFile)) := by
  refine Routinely.collection?.bind fun c => ?_
  dsimp only
  split
  · exact (Routinely.log _ _).bind fun _ => .pure _
  · exact .pure _

lemma writeArchive_routinely (p : FilePath) :
    Routinely w (writeArchive p : Act S O WrittenArchive) := by
  have built : Routinely w (buildArchive Settings.compressionLevel : Act S O _) :=
    collect_routinely.bind fun _ => (Routinely.lift _).bind fun _ =>
      (Routinely.log _ _).bind fun _ => (Routinely.lift _).bind fun _ => .pure _
  exact Routinely.get.bind fun _ => (Routinely.lift _).bind fun _ =>
    (makeDirectories_routinely _).bind fun _ => built.bind fun _ =>
    (writeFile_routinely _ _).bind fun _ => (Routinely.log _ _).bind fun _ => .pure _

lemma exportArchive_routinely (output : String) :
    Routinely w (exportArchive w output : Act S O ToolResponse) :=
  .tryCatch (waitIdle_routinely.bind fun _ => (writeArchive_routinely _).bind fun _ =>
    Routinely.get.bind fun _ => .pure _) fun _ => (Routinely.log _ _).bind fun _ => .pure _

lemma exportOne_routinely (id : EntryId) : Routinely w (exportOne id : Act S O ExportedFile) := by
  refine Routinely.collection?.bind fun c => ?_
  split
  · exact .throw _
  · split
    · exact .throw _
    · exact .pure _

lemma writeOne_routinely (id : EntryId) (p : FilePath) :
    Routinely w (writeOne id p : Act S O FilePath) :=
  (exportOne_routinely id).bind fun _ => (makeDirectories_routinely _).bind fun _ =>
    (writeFile_routinely _ _).bind fun _ => (Routinely.log _ _).bind fun _ => .pure _

lemma exportImage_routinely (id : EntryId) (directory : String) :
    Routinely w (exportImage w id directory : Act S O ToolResponse) := by
  refine .tryCatch (waitIdle_routinely.bind fun _ => (writeOne_routinely _ _).bind fun _ =>
    Routinely.get.bind fun _ => .pure _) fun failure => ?_
  unfold exportFailure
  split
  · exact .pure _
  · exact .pure _
  · split
    · exact (Routinely.log _ _).bind fun _ => .pure _
    · exact .throw _
  · exact .throw _

/-- Every tool is a routine of operations, and ends no work. -/
theorem routinely_of_call {name : String} {arguments : List (String × Value)}
    {act : Act S O ToolResponse} (called : call? w name arguments = some act) :
    Routinely w act := by
  unfold call? at called
  split at called <;> cases called
  · exact importImages_routinely _ _
  · exact listImages_routinely
  · exact selectImage_routinely _
  · exact setImageParams_routinely _ _ _
  · exact resetImageQuality_routinely _
  · exact setFormat_routinely _
  · exact removeImage_routinely _
  · exact clearImages_routinely
  · exact exportArchive_routinely _
  · exact exportImage_routinely _ _

/-! ### What they answer -/

section Answers

variable {good : ToolResponse → Session S O → Prop}
  (answers : ∀ e : ErrorResponse, e.Built → ∀ s, good (.failed e) s)

include answers

lemma Gives.orNoSuchImage {ask : Act S O Bool} {answer : Act S O ToolResponse}
    (there_ : Gives good answer) (id : EntryId) :
    Gives good (do if ← ask then answer else return noSuchImage id) := by
  refine .bind fun there => ?_
  split
  · exact there_
  · exact .pure (answers _ (.notFound _ _))

lemma refusal_gives (failure : Failure) : Gives good (refusal failure : Act S O ToolResponse) := by
  unfold refusal
  split
  · exact .pure (answers _ (.validation _ _))
  · exact .throw _

/-- A failure that is reported, and answered. -/
lemma reported_gives (level : LogLevel) (text message operation : String) :
    Gives good (do
      log level text
      return .failed (.processing message operation) : Act S O ToolResponse) :=
  .bind fun _ => .pure (answers _ (.processing _ _))

end Answers

end Tools

end Session

/-! ## Visits -/

/-- What may happen to a session that is visited by a remote caller: a tool is called, an operation
is performed or the executor does something, or files come and go. -/
inductive Visit where
  | call (name : String) (arguments : List (String × Value))
  | perform (op : Operation)
  | files (tree : FileTree)

/-- Whether the work of the scheduler comes to its end. -/
def Visit.ends : Visit → Bool
  | perform op => op.ends
  | _ => false

namespace Session

/-- A session after something happened to it. -/
def visited (w : Surroundings S O) (s : Session S O) : Visit → Session S O
  | .call name arguments =>
    match Tools.call? w name arguments with
    | some act => (s.run act).2
    | none => s
  | .perform op => (s.run (op.perform w)).2
  | .files tree => { s with files := tree }

/-- A session after visits, one after the other. -/
def afterVisits (w : Surroundings S O) (s : Session S O) (visits : List Visit) : Session S O :=
  visits.foldl (visited w) s

variable {s : Session S O}

lemma visited_routine (s : Session S O) (v : Visit) : ∃ ops, Routine w s ops (s.visited w v) ∧
    (v.ends = false → ∀ op ∈ ops, op.ends = false) := by
  cases v with
  | call name arguments =>
    cases called : Tools.call? w name arguments with
    | none =>
      simp only [visited, called]
      exact ⟨[], .start, by simp⟩
    | some act =>
      simp only [visited, called]
      obtain ⟨ops, routine, go_on⟩ := routinely_of_call called s
      exact ⟨ops, routine, fun _ => go_on⟩
  | perform op => exact ⟨[op], Routine.start.performed op, by simp [Visit.ends]⟩
  | files tree => exact ⟨[], Routine.start.aside rfl, by simp⟩

/-- Visits are routines of operations. -/
theorem visits_routine (s : Session S O) (visits : List Visit) :
    ∃ ops, Routine w s ops (s.afterVisits w visits) ∧
      ((∀ v ∈ visits, v.ends = false) → ∀ op ∈ ops, op.ends = false) := by
  induction visits generalizing s with
  | nil => exact ⟨[], .start, by simp⟩
  | cons v rest ih =>
    obtain ⟨ops, first, go_on⟩ := visited_routine (w := w) s v
    obtain ⟨more, then_, go_on'⟩ := ih (s.visited w v)
    refine ⟨ops ++ more, first.trans then_, fun lasting => List.forall_mem_append.mpr ⟨?_, ?_⟩⟩
    · exact go_on (lasting v List.mem_cons_self)
    · exact go_on' fun v mem => lasting v (List.mem_cons_of_mem _ mem)

end Session

end Reencode
