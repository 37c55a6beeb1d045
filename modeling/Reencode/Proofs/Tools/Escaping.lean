import Reencode.Proofs.Session.Dangling
import Reencode.Proofs.Tools.Failing
import Reencode.Proofs.Tools.Rendering

/-!
# Failures that escape

A tool is meant to answer whatever happens, and each one catches the failures that it expects.  What
it does not expect escapes from it, and `ToolCall.Escape` lists what that is: a job that is refused,
if the tool is to dispatch one; a path that the system does not take, if it is to write a file; and
a message that cannot be written, for what it is to show is too long.  Everything else that a call
may end with is a response that can be given to a remote caller (`ToolCall.EndsWith`).
-/

namespace Reencode

variable {S O : Type} {w : Surroundings S O}

/-! ## What tools answer -/

/-- A response whose record is proper, provided that its sizes are within the range of a double. -/
def ToolResponse.Renders (r : ToolResponse) : Prop :=
  (∀ n ∈ r.sizes, n.natAbs < twoTo 1023) → r.Proper

namespace Session

open Tools

/-- A tool whose answers can be given to a remote caller. -/
abbrev Answers (a : Act S O ToolResponse) : Prop := Gives (fun response _ => response.Renders) a

lemma failed_renders (e : ErrorResponse) (built : e.Built) (_ : Session S O) :
    (ToolResponse.failed e).Renders := fun _ => ToolResponse.failed_proper built

lemma stateNow_answers (settled : Bool) : Answers (stateNow settled : Act S O ToolResponse) :=
  .bind fun _ => .pure fun _ => ToolResponse.state_proper settled none

lemma exportFailure_answers (id : EntryId) (directory : String) (f : Failure) :
    Answers (exportFailure id directory f : Act S O ToolResponse) := by
  unfold exportFailure
  split
  · exact .pure (failed_renders _ (.notFound _ _))
  · exact .pure (failed_renders _ (.notReady _ _))
  · split
    · exact reported_gives failed_renders _ _ _ _
    · exact .throw _
  · exact .throw _

/-- Whatever a tool answers can be given to a remote caller. -/
theorem answers_of_call {name : String} {arguments : List (String × Value)}
    {act : Act S O ToolResponse} (called : call? w name arguments = some act) : Answers act := by
  have state : Answers (do stateNow (← isSettled) : Act S O ToolResponse) :=
    .bind stateNow_answers
  have settledState : Answers (settledState w : Act S O ToolResponse) := .bind stateNow_answers
  -- The ten tools one after the other, in the order in which a request is matched.
  unfold call? at called
  split at called <;> cases called
  · refine .tryCatch (.bind fun _ => .bind fun _ => .bind fun _ => .bind fun _ => .bind fun _ =>
      .bind fun settled => .bind fun _ => .pure fun _ => ?_)
      fun _ => reported_gives failed_renders _ _ _ _
    exact ToolResponse.state_proper settled _
  · exact .bind fun _ => state
  · exact .orNoSuchImage failed_renders state _
  · exact .tryCatch (.orNoSuchImage failed_renders settledState _) (refusal_gives failed_renders)
  · exact .orNoSuchImage failed_renders settledState _
  · exact .tryCatch (.bind fun _ => settledState) (refusal_gives failed_renders)
  · exact .orNoSuchImage failed_renders state _
  · exact .bind fun _ => stateNow_answers true
  · refine .tryCatch (.bind fun _ => .bind fun _ => .bind fun _ => .pure fun _ _ => ?_)
      fun _ => reported_gives failed_renders _ _ _ _
    exact ToolResponse.archive_proper _ _ _ _
  · refine .tryCatch (.bind fun _ => .bind fun _ => .bind fun _ => .pure fun _ _ => ?_)
      (exportFailure_answers _ _)
    exact ToolResponse.file_proper _ _

end Session

/-! ## What escapes from tools -/

/-- A tool with arguments of the types that it asks for. Images are imported from what one path
stands for, or each of some paths. -/
inductive ToolCall where
  | importImages (paths : String ⊕ List String) (recursive : Bool)
  | listImages
  | selectImage (id : String)
  | setImageParams (id : String) (quality : Option Int) (format : Option String)
  | resetImageQuality (id : String)
  | setGlobalFormat (format : String)
  | removeImage (id : String)
  | clearImages
  | exportArchive (output : String)
  | exportImage (id directory : String)

namespace ToolCall

/-- The name that the tool is called by. -/
def name : ToolCall → String
  | importImages .. => "import_images"
  | listImages => "list_images"
  | selectImage _ => "select_image"
  | setImageParams .. => "set_image_params"
  | resetImageQuality _ => "reset_image_quality"
  | setGlobalFormat _ => "set_global_format"
  | removeImage _ => "remove_image"
  | clearImages => "clear_images"
  | exportArchive _ => "export_archive"
  | exportImage .. => "export_image"

/-- The arguments by name. -/
def arguments : ToolCall → List (String × Value)
  | importImages paths recursive =>
    [("paths", paths.elim .text fun ps => .list (ps.map .text)), ("recursive", .bool recursive)]
  | listImages | clearImages => []
  | selectImage id | resetImageQuality id | removeImage id => [("image_id", .text id)]
  | setImageParams id quality format => [("image_id", .text id),
      ("quality", .ofOption (quality.map .int)), ("format", .ofOption (format.map .text))]
  | setGlobalFormat format => [("format", .text format)]
  | exportArchive output => [("output_path", .text output)]
  | exportImage id directory => [("image_id", .text id), ("output_dir", .text directory)]

/-- What the tool does. -/
def act (w : Surroundings S O) : ToolCall → Act S O ToolResponse
  | importImages paths recursive =>
    Tools.importImages w (paths.elim .text fun ps => .list (ps.map .text)) recursive
  | listImages => Tools.listImages w
  | selectImage id => Tools.selectImage w ⟨id⟩
  | setImageParams id quality format => Tools.setImageParams w ⟨id⟩
      (.ofOption (quality.map .int)) (.ofOption (format.map .text))
  | resetImageQuality id => Tools.resetImageQuality w ⟨id⟩
  | setGlobalFormat format => Tools.setFormat w (.text format)
  | removeImage id => Tools.removeImage w ⟨id⟩
  | clearImages => Tools.clearImages w
  | exportArchive output => Tools.exportArchive w output
  | exportImage id directory => Tools.exportImage w ⟨id⟩ directory

/-- Every tool has a name to be called by. -/
lemma call?_eq (t : ToolCall) : Tools.call? w t.name t.arguments = some (t.act w) := by
  cases t <;> rfl

/-- How a failure escapes from a tool, and the session that it leaves behind: a job that is to be
dispatched is refused; a format that there is none of is refused, but the message shows a quality of
too many digits to be written; or the path of an image holds a character that the system takes for
its end. -/
inductive Escape : ToolCall → Failure → Session S O → Prop
  | params {id : String} {quality : Option Int} {format : Option String} {f : Failure}
      {s : Session S O} (refused : Session.TurnedAway f s) :
      Escape (.setImageParams id quality format) f s
  | reset {id : String} {f : Failure} {s : Session S O} (refused : Session.TurnedAway f s) :
      Escape (.resetImageQuality id) f s
  | format {format : String} {f : Failure} {s : Session S O} (refused : Session.TurnedAway f s) :
      Escape (.setGlobalFormat format) f s
  | unwritable {id : String} {n : Int} {word : String} {e : FormatError} {s : Session S O}
      (unknown : Format.read (.text word) = .error e)
      (long : tenTo Value.longestInteger ≤ n.natAbs) :
      Escape (.setImageParams id (some n) (some word)) Value.lengthFailure s
  | path {id directory : String} {s : Session S O}
      (nul : Session.NulInPath ⟨id⟩ (FilePath.ofString directory) s) :
      Escape (.exportImage id directory) FileTree.nulFailure s

end ToolCall

namespace Session

open Tools

lemma run_refusal {s s' : Session S O} {f f' : Failure}
    (failed : s.run (refusal f) = (.error f', s')) :
    f' = f ∧ s' = s ∧ ∀ message id, f ≠ .own .validation message id := by
  unfold refusal at failed
  split at failed
  · cases failed
  · rename_i other
    cases failed
    exact ⟨rfl, rfl, fun message id same => other message id same⟩

namespace Fails

variable {escapes inner : Failure → Session S O → Prop}

/-- A tool that reports every failure lets none escape. -/
lemma reported (a : Act S O ToolResponse) (message : Failure → String) (operation : String) :
    Fails escapes (MonadExcept.tryCatch a fun failure => do
      log .error (message failure)
      return .failed (.processing failure.text operation)) := by
  have anything : Fails (fun _ _ => True) a := fun _ _ _ _ _ => trivial
  refine anything.tryCatch ?_
  intro _ _ _ _ _ failed
  cases failed

lemma orNoSuchImage {ask : Act S O Bool} {answer : Act S O ToolResponse}
    (first : Fails escapes ask) (order : KeepsOrder ask) (then_ : Fails escapes answer)
    (id : EntryId) : Fails escapes (do if ← ask then answer else return noSuchImage id) := by
  refine first.bind order fun there => ?_
  split
  · exact then_
  · exact .pure _

/-- A tool that answers refused parameters lets any other failure escape. -/
lemma orRefusal {a : Act S O ToolResponse} (first : Fails inner a)
    (others : ∀ failure s, inner failure s →
      (∀ message id, failure ≠ .own .validation message id) → escapes failure s) :
    Fails escapes (MonadExcept.tryCatch a refusal) := by
  refine first.tryCatch fun failure s fails failure' s' failed => ?_
  obtain ⟨rfl, rfl, other⟩ := run_refusal failed
  exact others _ _ fails other

end Fails

/-! ### One tool after the other -/

lemma currentState_fails {escapes : Failure → Session S O → Prop} :
    Fails escapes (do stateNow (← isSettled) : Act S O ToolResponse) :=
  .of_ok fun _ _ => ⟨_, rfl⟩

section Tools

variable (lawful : w.Lawful)

include lawful

lemma setImageParams_fails (id : String) (quality : Option Int) (format : Option String) :
    Fails (ToolCall.Escape (.setImageParams id quality format))
      (setImageParams w ⟨id⟩ (.ofOption (quality.map .int)) (.ofOption (format.map .text)) :
        Act S O ToolResponse) := by
  have asks : KeepsOrder (setParams w ⟨id⟩ .none (.ofOption (quality.map .int))
      (.ofOption (format.map .text)) : Act S O Bool) :=
    (Routinely.of_perform (.setParams _ _ _ _) rfl rfl).keepsOrder lawful
  refine .orRefusal (.orNoSuchImage (setParams_fails _ _ _) asks (settledState_fails lawful) _) ?_
  rintro failure s (refused | ⟨p, problem, refused, rfl⟩) other
  · exact .params refused
  · obtain ⟨word, e, errors, rfl, unknown, rfl⟩ := Params.refused_of_change refused
    rcases paramsFailure_eq ⟨id⟩ quality word errors with ⟨message, told⟩ | ⟨n, rfl, long, fails⟩
    · exact absurd told (other _ _)
    · exact fails ▸ .unwritable unknown long

lemma resetImageQuality_fails (id : String) : Fails (ToolCall.Escape (.resetImageQuality id))
    (resetImageQuality w ⟨id⟩ : Act S O ToolResponse) := by
  refine .orNoSuchImage ((resetParams_fails _).mono fun _ _ refused => .reset refused) ?_
    (settledState_fails lawful) _
  exact (Routinely.of_perform (.resetParams _) rfl rfl).keepsOrder lawful

lemma setFormat_fails (format : String) : Fails (ToolCall.Escape (.setGlobalFormat format))
    (setFormat w (.text format) : Act S O ToolResponse) := by
  have asks : KeepsOrder (setGlobalFormat w (.text format) : Act S O Unit) :=
    (Routinely.of_perform (.setGlobalFormat _) (map_eq_pure_bind _ _).symm rfl).keepsOrder lawful
  refine .orRefusal ((setGlobalFormat_fails _).bind asks fun _ =>
    (settledState_fails lawful).mono fun _ _ refused => refused) ?_
  rintro failure s (refused | ⟨e, unknown, rfl⟩) other
  · exact .format refused
  · rcases parameterFailure_eq "全局格式" (.text format) e.message none with
      ⟨message, told⟩ | ⟨unwritable, -⟩
    · exact absurd told (other _ _)
    · cases unwritable

lemma exportImage_fails (id directory : String) :
    Fails (ToolCall.Escape (.exportImage id directory))
      (exportImage w ⟨id⟩ directory : Act S O ToolResponse) := by
  refine .tryCatch ((waitIdle_fails lawful).bind (waitIdle_routinely.keepsOrder lawful) fun _ =>
    (writeOne_fails _ _).bind ((writeOne_routinely _ _).keepsOrder lawful) fun _ =>
      .of_ok fun _ _ => ⟨_, rfl⟩) ?_
  rintro failure s (⟨message, rfl⟩ | ⟨message, rfl⟩ | ⟨kind, message, rfl, io⟩ | ⟨rfl, nul⟩)
    failure' s' failed
  · cases failed
  · cases failed
  · simp only [exportFailure, io, if_true] at failed
    cases failed
  · cases failed
    exact .path nul

end Tools

/-- Whatever the arguments are, nothing else escapes from a tool. -/
theorem escapes_of_call (lawful : w.Lawful) (t : ToolCall) :
    Fails t.Escape (t.act w : Act S O ToolResponse) := by
  -- Whatever fails within an import or an archive is reported; elsewhere only listed failures are.
  cases t with
  | importImages paths recursive => exact .reported _ _ _
  | listImages =>
    exact (drain_fails lawful).bind (drain_harvests.keepsOrder lawful) fun _ => currentState_fails
  | selectImage id =>
    exact .orNoSuchImage (.of_ok fun s _ => select_ok s _)
      ((Routinely.of_perform (.select _) rfl rfl).keepsOrder lawful) currentState_fails _
  | setImageParams id quality format => exact setImageParams_fails lawful _ _ _
  | resetImageQuality id => exact resetImageQuality_fails lawful _
  | setGlobalFormat format => exact setFormat_fails lawful _
  | removeImage id =>
    exact .orNoSuchImage (.of_ok fun s _ => remove_ok s _)
      ((Routinely.of_perform (.remove _) rfl rfl).keepsOrder lawful) currentState_fails _
  | clearImages =>
    have clears : KeepsOrder (clear w : Act S O Unit) :=
      (Routinely.of_perform .clear (map_eq_pure_bind _ _).symm rfl).keepsOrder lawful
    exact .bind (.of_ok fun s _ => ⟨(), clear_ok s⟩) clears fun _ => .of_ok fun _ _ => ⟨_, rfl⟩
  | exportArchive output => exact .reported _ _ _
  | exportImage id directory => exact exportImage_fails lawful _ _

end Session

/-- How the call of a tool may end: with a response to give to a remote caller, or with a failure
that escapes. -/
def ToolCall.EndsWith (t : ToolCall) : Except Failure ToolResponse × Session S O → Prop
  | (.ok response, _) => response.Renders
  | (.error failure, s) => t.Escape failure s

/-- The type of the error that a response tells of, if it does. -/
def ToolResponse.errorType? : ToolResponse → Option String
  | failed e => some e.type
  | _ => none

/-- The failure that escapes from a tool, if there is one. -/
def ToolCall.escaping? (w : Surroundings S O) (s : Session S O) (t : ToolCall) : Option Failure :=
  match Tools.call? w t.name t.arguments with
  | none => none
  | some act =>
    match (s.run act).1 with
    | .ok _ => none
    | .error failure => some failure

end Reencode
