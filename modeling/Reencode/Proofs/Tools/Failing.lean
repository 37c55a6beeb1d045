import Reencode.Proofs.Export.Collecting
import Reencode.Proofs.Files.Place
import Reencode.Proofs.Params.Acceptance
import Reencode.Proofs.Session.EventLog
import Reencode.Proofs.Session.Rejection
import Reencode.Proofs.Tools.Routine

/-!
# Acts that fail

`Session.Fails` says which failures an act may end with, and in which session.  Some are ruled out
in a session that is in order (`Session.Orderly`): observers are not heard if they fail, and taking
an outcome over cannot fail.  What is left is a job that is refused, parameters that are, and files
that the system does not take.

Acts are composed of others, so there is a rule for each way of composing them; a session stays in
order meanwhile because acts are made of operations.
-/

namespace Reencode

variable {S O α β : Type} {w : Surroundings S O}

/-! ## Sessions in order -/

/-- A session whose entries account for the locators of its registry. -/
structure Session.Orderly (s : Session S O) : Prop where
  shelved : Shelved s.collection.ids s.collection.shelf
  catalogued : Catalogued s.collection.shelf s.collection.registry

namespace Session

variable {s s' : Session S O}

lemma Orderly.steps {codec : Codec S} {ds : List Deed} (h : s.Orderly)
    (steps : Collection.Steps codec s.collection ds s'.collection) : s'.Orderly :=
  ⟨h.shelved.steps steps, h.catalogued.steps h.shelved steps⟩

lemma Orderly.routine {ops : List Operation} (h : s.Orderly) (lawful : w.Lawful)
    (routine : Routine w s ops s') : s'.Orderly := by
  obtain ⟨ds, steps⟩ := routine.steps lawful
  exact h.steps steps

/-! ## Acts that fail -/

/-- An act of which, in sessions that are in order, only such failures escape. -/
def Fails (escapes : Failure → Session S O → Prop) (a : Act S O α) : Prop :=
  ∀ (s s' : Session S O) (f : Failure), s.Orderly → s.run a = (.error f, s') → escapes f s'

/-- An act after which a session is in order that was so before. -/
def KeepsOrder (a : Act S O α) : Prop := ∀ s : Session S O, s.Orderly → (s.run a).2.Orderly

lemma Routinely.keepsOrder {a : Act S O α} (h : Routinely w a) (lawful : w.Lawful) :
    KeepsOrder a := by
  intro s orderly
  obtain ⟨ops, routine, -⟩ := h s
  exact orderly.routine lawful routine

lemma Harvests.keepsOrder {a : Act S O α} (h : Harvests w a) (lawful : w.Lawful) :
    KeepsOrder a := by
  intro s orderly
  obtain ⟨ds, path, -⟩ := h s
  obtain ⟨es, steps⟩ := path.steps lawful
  exact orderly.steps steps

namespace Fails

variable {escapes inner : Failure → Session S O → Prop} {a : Act S O α} {f : α → Act S O β}

lemma of_ok (ok : ∀ s : Session S O, s.Orderly → ∃ x, (s.run a).1 = .ok x) : Fails escapes a := by
  intro s s' failure orderly failed
  obtain ⟨x, gives⟩ := ok s orderly
  rw [failed] at gives
  cases gives

lemma pure (x : α) : Fails escapes (pure x : Act S O α) := .of_ok fun _ _ => ⟨x, rfl⟩

lemma mono (h : Fails inner a) (more : ∀ failure s, inner failure s → escapes failure s) :
    Fails escapes a :=
  fun s s' failure orderly failed => more failure s' (h s s' failure orderly failed)

lemma bind (first : Fails escapes a) (order : KeepsOrder a) (then_ : ∀ x, Fails escapes (f x)) :
    Fails escapes (a >>= f) := by
  intro s s'' failure orderly failed
  rcases or_exists_of_run_bind_error failed with early | ⟨x, s', gives, late⟩
  · exact first s _ _ orderly early
  · have kept := order s orderly
    rw [gives] at kept
    exact then_ x s' s'' failure kept late

/-- Of an act whose failures are handled those escape that the handler passes on. -/
lemma tryCatch {handler : Failure → Act S O α} (first : Fails inner a)
    (handles : ∀ failure s, inner failure s → ∀ failure' s',
      s.run (handler failure) = (.error failure', s') → escapes failure' s') :
    Fails escapes (tryCatch a handler) := by
  intro s s'' failure orderly failed
  rw [run_tryCatch] at failed
  rcases result : s.run a with ⟨failure' | x, s'⟩
  · rw [result] at failed
    exact handles failure' s' (first s s' failure' orderly result) failure s'' failed
  · rw [result] at failed
    cases failed

end Fails

/-! ## Waiting -/

section Waiting

variable (lawful : w.Lawful) {escapes : Failure → Session S O → Prop}

include lawful

lemma drain_fails : Fails escapes (drain w : Act S O Nat) := by
  refine .of_ok fun s orderly => ?_
  rw [drain, run_bind_ok (run_collection? s)]
  exact drainUpTo_total lawful _ orderly.shelved orderly.catalogued

lemma waitTurns_fails (turns : Nat) : Fails escapes (waitTurns w turns : Act S O Bool) := by
  induction turns with
  | zero => exact .pure _
  | succ turns ih =>
    refine Fails.bind (.of_ok fun s _ => ⟨(), by rw [run_letWork]⟩)
      (letWork_harvests.keepsOrder lawful) fun _ => ?_
    refine (drain_fails lawful).bind (drain_harvests.keepsOrder lawful) fun _ => ?_
    refine Fails.bind (.of_ok fun s _ => ⟨_, rfl⟩) (fun _ orderly => orderly) fun c => ?_
    dsimp only
    split
    · exact .pure _
    · split
      · exact ih
      · exact .pure _

lemma waitIdle_fails : Fails escapes (waitIdle w : Act S O Bool) := waitTurns_fails lawful _

lemma settle_fails : Fails escapes (Tools.settle w : Act S O Bool) := by
  refine (waitIdle_fails lawful).bind (waitIdle_routinely.keepsOrder lawful) fun settled => ?_
  refine .of_ok fun s _ => ?_
  split
  · exact ⟨_, rfl⟩
  · exact ⟨_, rfl⟩

lemma settledState_fails : Fails escapes (Tools.settledState w : Act S O ToolResponse) :=
  (settle_fails lawful).bind (settle_routinely.keepsOrder lawful) fun _ =>
    .of_ok fun _ _ => ⟨_, rfl⟩

end Waiting

/-! ## Selecting and removing -/

lemma select_ok (s : Session S O) (id : EntryId) : ∃ b, (s.run (select w id)).1 = .ok b := by
  obtain ⟨_, -, selects, -⟩ := select_leads (w := w) s id
  exact selects

lemma remove_ok (s : Session S O) (id : EntryId) : ∃ b, (s.run (remove w id)).1 = .ok b := by
  cases found : s.collection.get? id with
  | none => exact ⟨false, by rw [run_remove_unknown found]⟩
  | some e =>
    obtain ⟨records, same⟩ := run_remove (w := w) found
    refine ⟨true, ?_⟩
    rw [same, run_bind_ok (run_collection? _)]
    split
    · rw [run_bind_ok (run_setSelection _ _)]
      rfl
    · rfl

lemma clear_ok (s : Session S O) : (s.run (clear w)).1 = .ok () := by
  obtain ⟨_, clears⟩ := run_clear (w := w) s
  rw [clears]

/-! ## Parameters -/

lemma setGlobalFormat_fails (value : Value) : Fails (fun f s => TurnedAway f s ∨
    ∃ e, Format.read value = .error e ∧ f = parameterFailure "全局格式" value e.message none)
      (setGlobalFormat w value : Act S O Unit) := by
  intro s s' f _ failed
  cases read : Format.read value with
  | error e =>
    simp only [setGlobalFormat, read, run_throw] at failed
    exact .inr ⟨e, rfl, (Except.error.inj (Prod.mk.inj failed).1).symm⟩
  | ok format =>
    rw [run_setGlobalFormat read] at failed
    exact .inl (turnedAway_of_giveFormat failed)

lemma setParams_fails (id : EntryId) (quality format : Value) : Fails (fun f s => TurnedAway f s ∨
    ∃ (p : Params) (problem : ParamsError), p.change w.reader quality format = .error problem ∧
      f = paramsFailure id quality format problem)
    (setParams w id .none quality format : Act S O Bool) := by
  intro s s' f _ failed
  rw [setParams, run_bind_ok (run_collection? s)] at failed
  split at failed
  · cases failed
  · rename_i e _
    dsimp only [ParamsSource.resolve] at failed
    split at failed
    · rename_i problem refused
      exact .inr ⟨e.params, problem, refused, (Except.error.inj (Prod.mk.inj failed).1).symm⟩
    · rcases or_exists_of_run_bind_error failed with early | ⟨_, _, -, late⟩
      · exact .inl (turnedAway_of_setEntryParams early)
      · cases late

lemma resetParams_fails (id : EntryId) :
    Fails TurnedAway (resetParams w id : Act S O Bool) := by
  intro s s' f _ failed
  -- Selecting and telling do not fail, so the failure is that of the job.
  cases found : s.collection.get? id with
  | none =>
    rw [run_resetParams_unknown found] at failed
    cases failed
  | some e =>
    rw [run_resetParams found] at failed
    obtain ⟨b, selects⟩ := select_ok (w := w) (s.withCollection _) id
    rw [run_bind_ok (Prod.ext selects rfl), run_bind_ok (run_emit w _ _), run_bind] at failed
    split at failed
    · cases failed
    · rename_i result
      cases failed
      exact turnedAway_of_dispatch result

end Session

/-! ## Refused parameters -/

/-- A quality that is an integer can be read, so what is refused is the format. -/
lemma Params.refused_of_change {reader : IntegerReader} {p : Params} {quality : Option Int}
    {format : Option String} {problem : ParamsError}
    (refused : p.change reader (.ofOption (quality.map .int)) (.ofOption (format.map .text)) =
      .error problem) :
    ∃ word e errors, format = some word ∧ Format.read (.text word) = .error e ∧
      problem = .fields errors := by
  -- A quality that is an integer, or is absent, is always read; that leaves the format.
  obtain ⟨q, read⟩ : ∃ q, readQuality reader (if (Value.ofOption (quality.map .int)).isNull
      then .int p.quality else .ofOption (quality.map .int)) = .ok q := by
    cases quality <;> exact ⟨_, rfl⟩
  unfold change ofValues at refused
  rw [read] at refused
  cases format with
  | none =>
    simp only [Option.map_none, Value.ofOption, Value.isNull, if_true, Format.read_name] at refused
    cases refused
  | some word =>
    simp only [Option.map_some, Value.ofOption, Value.isNull] at refused
    cases format : Format.read (.text word) with
    | ok f =>
      simp only [Bool.false_eq_true, if_false, format] at refused
      cases refused
    | error e =>
      simp only [Bool.false_eq_true, if_false, format] at refused
      cases refused
      exact ⟨word, e, _, rfl, format, rfl⟩

namespace Session

lemma paramsFailure_eq (id : EntryId) (quality : Option Int) (word : String)
    (errors : List FieldError) :
    (∃ message, paramsFailure id (.ofOption (quality.map .int)) (.text word) (.fields errors) =
      .own .validation message (some id)) ∨
    ∃ n, quality = some n ∧ tenTo Value.longestInteger ≤ n.natAbs ∧
      paramsFailure id (.ofOption (quality.map .int)) (.text word) (.fields errors) =
        Value.lengthFailure := by
  refine (parameterFailure_eq _ _ _ _).imp_right fun ⟨unwritable, fails⟩ => ?_
  have quality_unwritable : (Value.ofOption (quality.map .int)).isWritable = false := by
    simpa [Value.isWritable, Value.areWritableFields] using unwritable
  cases quality with
  | none => cases quality_unwritable
  | some n =>
    rw [Option.map_some, Value.ofOption, Value.isWritable, decide_eq_false_iff_not,
      Nat.not_lt] at quality_unwritable
    exact ⟨n, rfl, quality_unwritable, fails⟩

end Session

/-! ## Writing files -/

/-- A failure of the system's. -/
def Failure.IsIo (f : Failure) : Prop :=
  ∃ kind message, f = .outside kind message ∧ kind.isIo = true

namespace FileTree

variable {t : FileTree} {p : FilePath} {f : Failure}

lemma isIo_failure (r : FileRefusal) (p : FilePath) : (r.failure p).IsIo := by
  cases r <;> exact ⟨_, _, rfl, rfl⟩

lemma isIo_of_keptDirectory {r : FileRefusal} (failed : t.keptDirectory p r = .error f) :
    f.IsIo := by
  unfold keptDirectory at failed
  cases there : t.isDirectory p with
  | error e =>
    rw [there] at failed
    cases failed
    rw [(lookup_eq_error_iff.mp (isDirectory_eq_error_iff.mp there)).2]
    exact isIo_failure _ _
  | ok isDirectory =>
    rw [there] at failed
    cases isDirectory with
    | true => cases failed
    | false =>
      cases failed
      exact isIo_failure _ _

lemma isIo_of_makeDirectoriesWithin {depth : Nat} : ∀ {t t' : FileTree} {p : FilePath},
    t.makeDirectoriesWithin p depth = (.error f, t') → f.IsIo := by
  induction depth with
  | zero => exact nofun
  | succ depth ih =>
    intro t t' p failed
    unfold makeDirectoriesWithin at failed
    split at failed
    · cases failed
    · split at failed
      · cases failed
        exact isIo_failure _ _
      -- The directories above are made first, and then the one that was asked for.
      · split at failed
        · rename_i above
          cases failed
          exact ih above
        · split at failed
          · cases failed
          · exact isIo_of_keptDirectory (Prod.mk.inj failed).1
    · exact isIo_of_keptDirectory (Prod.mk.inj failed).1

/-- Directories cannot be made where the system refuses, nor under a name that it cannot take. -/
lemma of_tryDirectories (failed : (t.tryDirectories p).1 = .error f) :
    f.IsIo ∨ f = nulFailure ∧ holdsNul p = true := by
  unfold tryDirectories at failed
  split at failed
  · rename_i nul
    exact .inr ⟨(Except.error.inj failed).symm, nul⟩
  · exact .inl (isIo_of_makeDirectoriesWithin (Prod.ext failed rfl))

lemma of_write {data : ByteArray} (failed : t.write p data = .error f) :
    f.IsIo ∨ f = nulFailure ∧ holdsNul p = true := by
  unfold write at failed
  split at failed
  · rename_i nul
    exact .inr ⟨(Except.error.inj failed).symm, nul⟩
  · split at failed
    · cases failed
      exact .inl (isIo_failure _ _)
    · split at failed
      · cases failed
        exact .inl (isIo_failure _ _)
      · cases failed

lemma holdsNul_join {p q : FilePath} (nul : holdsNul (p.join q) = true) :
    holdsNul p = true ∨ holdsNul q = true := by
  unfold FilePath.join at nul
  split at nul
  · simpa [holdsNul, List.any_append, or_comm] using nul
  · exact .inr nul

end FileTree

namespace Session

section Files

variable {s s' : Session S O} {p : FilePath} {data : ByteArray} {f : Failure}

lemma run_makeDirectories (s : Session S O) (p : FilePath) : s.run (makeDirectories p) =
    ((s.files.tryDirectories p).1, { s with files := (s.files.tryDirectories p).2 }) := by
  rw [makeDirectories, run_bind_ok (run_get s)]
  exact run_lift _ (s.files.tryDirectories p).1

lemma ok_of_run_makeDirectories (gave : s.run (makeDirectories p) = (.ok (), s')) :
    s.files.makeDirectories p = .ok s'.files ∧ s'.collection = s.collection := by
  rw [run_makeDirectories] at gave
  obtain ⟨made, rfl⟩ := Prod.mk.inj gave
  exact ⟨FileTree.makeDirectories_eq_ok_iff.mpr (Prod.ext made rfl), rfl⟩

lemma error_of_run_makeDirectories (failed : s.run (makeDirectories p) = (.error f, s')) :
    s.files.makeDirectories p = .error f ∧ s.files.Grown s'.files ∧
      (f.IsIo ∨ f = FileTree.nulFailure ∧ FileTree.holdsNul p = true) := by
  rw [run_makeDirectories] at failed
  obtain ⟨refused, rfl⟩ := Prod.mk.inj failed
  exact ⟨FileTree.makeDirectories_eq_error_iff.mpr refused, FileTree.grown_tryDirectories _ _,
    FileTree.of_tryDirectories refused⟩

lemma run_writeFile (s : Session S O) (p : FilePath) (data : ByteArray) :
    s.run (writeFile p data) = match s.files.write p data with
      | .ok files => (.ok (), { s with files })
      | .error f => (.error f, s) := by
  rw [writeFile, run_bind_ok (run_get s), run_bind, run_lift]
  cases s.files.write p data <;> rfl

lemma ok_of_run_writeFile (gave : s.run (writeFile p data) = (.ok (), s')) :
    s.files.write p data = .ok s'.files ∧ s'.collection = s.collection := by
  rw [run_writeFile] at gave
  cases result : s.files.write p data with
  | error failure =>
    rw [result] at gave
    cases gave
  | ok files =>
    rw [result] at gave
    cases gave
    exact ⟨rfl, rfl⟩

lemma error_of_run_writeFile (failed : s.run (writeFile p data) = (.error f, s')) :
    s.files.write p data = .error f ∧ s' = s := by
  rw [run_writeFile] at failed
  cases result : s.files.write p data with
  | ok files =>
    rw [result] at failed
    cases failed
  | error failure =>
    rw [result] at failed
    cases failed
    exact ⟨rfl, rfl⟩

end Files

/-- There is something to export, or the failure says why not. -/
lemma exportOne_cases (s : Session S O) (id : EntryId) :
    (∃ message, s.run (exportOne id) = (.error (.own .notFound message (some id)), s)) ∨
      (∃ message, s.run (exportOne id) = (.error (.own .notReady message (some id)), s)) ∨
      ∃ e file, s.collection.get? id = some e ∧ e.exported? = some file ∧
        s.run (exportOne id) = (.ok file, s) := by
  cases found : s.collection.get? id with
  | none => exact .inl ⟨_, run_exportOne_unknown found⟩
  | some e =>
    cases exported : e.exported? with
    | none => exact .inr (.inl ⟨_, run_exportOne_unready found exported⟩)
    | some file => exact .inr (.inr ⟨e, file, rfl, exported, run_exportOne found exported⟩)

/-- The path of an exported image holds a character that the system takes for its end. -/
def NulInPath (id : EntryId) (directory : FilePath) (s : Session S O) : Prop :=
  FileTree.holdsNul directory = true ∨ ∃ e file, s.collection.get? id = some e ∧
    e.exported? = some file ∧ FileTree.holdsNul (FilePath.ofString file.name) = true

/-- Writing an image fails if there is none, or it has no output, or the system does not take it. -/
lemma writeOne_fails (id : EntryId) (directory : FilePath) : Fails (fun f s =>
    (∃ message, f = .own .notFound message (some id)) ∨
    (∃ message, f = .own .notReady message (some id)) ∨ f.IsIo ∨
      f = FileTree.nulFailure ∧ NulInPath id directory s)
    (writeOne id directory : Act S O FilePath) := by
  intro s s' f _ failed
  rw [writeOne, run_bind] at failed
  -- Either there is nothing to export, or the directory is refused, or the file within it.
  rcases exportOne_cases s id with
    ⟨message, missing⟩ | ⟨message, unready⟩ | ⟨e, file, found, exported, first⟩
  · rw [missing] at failed
    cases failed
    exact .inl ⟨message, rfl⟩
  · rw [unready] at failed
    cases failed
    exact .inr (.inl ⟨message, rfl⟩)
  · rw [first] at failed
    refine .inr (.inr ?_)
    rcases or_exists_of_run_bind_error failed with early | ⟨_, s₁, made, late⟩
    · obtain ⟨-, -, refused⟩ := error_of_run_makeDirectories early
      exact refused.imp_right fun ⟨same, nul⟩ => ⟨same, .inl nul⟩
    · obtain ⟨-, kept⟩ := ok_of_run_makeDirectories made
      rcases or_exists_of_run_bind_error late with early | ⟨_, _, -, last⟩
      · obtain ⟨refused, rfl⟩ := error_of_run_writeFile early
        refine (FileTree.of_write refused).imp_right fun ⟨same, nul⟩ => ⟨same, ?_⟩
        exact (FileTree.holdsNul_join nul).imp_right fun nul =>
          ⟨e, file, kept ▸ found, exported, nul⟩
      · cases last

end Session

end Reencode
