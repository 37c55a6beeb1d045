import Reencode.Proofs.Files.Search
import Reencode.Proofs.Tools.Escaping
import Reencode.Proofs.Tools.Stock

/-!
# Importing files

Three loops make up an import: over the paths that a caller names, over the files of each directory
among them, and over what was read.  The first two come to one list (`FileTree.readImages_fst`):
what the paths stand for, one after the other, without the files that cannot be read.  Of the files
of a directory only those with the name of an image are read, while a file that is named itself is
read whatever its name; that makes no difference for who comes in, because the third loop asks for
the name again (`FileTree.newcomers_imagesAt`).  It only makes one for how many files count as
skipped.

A path that hinders the reading ends the import before anything is added, whatever else was named.
-/

namespace Reencode

variable {S O : Type} {w : Surroundings S O}

/-! ## Reading -/

namespace FileTree

variable (t : FileTree) (recursive : Bool)

lemma filter_readable (ps : List FilePath) :
    (t.readable ps).filter (fun f => isImageName f.1) = t.readable (ps.filter (·.isImage)) := by
  rw [readable, readable, List.filter_filterMap, List.filterMap_filter]
  refine List.filterMap_congr fun p _ => ?_
  have same : p.isImage = isImageName p.name := rfl
  rw [same]
  cases t.read p with
  | error failure => cases isImageName p.name <;> rfl
  | ok data => cases image : isImageName p.name <;> simp [Except.toOption, Option.filter, image]

/-- Leaving out the files of directories that no image has the name of keeps nobody out. -/
lemma newcomers_imagesAt (taken : List String) (ps : List FilePath) :
    newcomers taken (t.readable (ps.flatMap (t.imagesAt recursive))) =
      newcomers taken (t.readable (ps.flatMap (t.filesAt recursive))) := by
  -- The names decide who comes in, and among the files with the name of an image there is no
  -- difference.
  have same : ∀ p, (t.imagesAt recursive p).filter (·.isImage) =
      (t.filesAt recursive p).filter (·.isImage) := by
    intro p
    unfold imagesAt
    split
    · simp
    · rfl
  rw [← newcomers_filter, filter_readable, List.filter_flatMap, funext same, ← List.filter_flatMap,
    ← filter_readable, newcomers_filter]

end FileTree

lemma Tools.readValues_texts (t : FileTree) (recursive : Bool) (ps : List String) :
    readValues t recursive (ps.map .text) = t.readImages recursive (ps.map .ofString) := by
  induction ps with
  | nil => rfl
  | cons p rest ih =>
    rw [List.map_cons, readValues, ih]
    rfl

/-! ## The tool -/

namespace Session

variable {t : Stock} {s : Session S O}

lemma settle_harvests : Harvests w (Tools.settle w : Act S O Bool) := by
  have logged : ∀ level text, Harvests w (log level text : Act S O Unit) :=
    fun _ _ _ => ⟨[], Path.start.log _, by simp⟩
  refine (waitTurns_harvests _).bind fun settled => ?_
  split
  · exact (logged _ _).bind fun _ => .pure _
  · exact .pure _

namespace Stocked

/-- Waiting for jobs succeeds, and leaves the stock alone. -/
lemma settle (h : Stocked t s) (discreet : w.Discreet) :
    ∃ settled s', s.run (Tools.settle w) = (.ok settled, s') ∧ Stocked t s' := by
  have fails : Fails (fun _ _ => False) (Tools.settle w : Act S O Bool) :=
    settle_fails discreet.lawful
  have kept := h.harvest discreet settle_harvests
  rcases result : s.run (Tools.settle w) with ⟨failure | settled, s'⟩
  · exact (fails _ _ _ h.toOrderly result).elim
  · rw [result] at kept
    exact ⟨settled, s', rfl, kept⟩

/-- Importing the same files again imports nothing. -/
lemma again {new : List Entry.Card} (h : Stocked (t.grown new) s)
    {files : List (String × ByteArray)} (came : t.LetsIn files new) :
    ∃ records, s.run (Session.addMany w files) = (.ok [], s.logged records) := by
  refine run_addMany_of_taken fun f mem image => ?_
  have names : new.map (·.name) = (newcomers t.names files).map (·.1) := by
    rw [← came.came, List.map_map]
    rfl
  rw [ne_eq, h.name_free, not_not, Stock.names_grown, names]
  exact mem_of_newcomers image mem

end Stocked

end Session

/-- The paths that a caller names. -/
def ToolCall.named (paths : String ⊕ List String) : List FilePath :=
  (paths.elim ([·]) id).map .ofString

/-- An import reads what the paths stand for, and goes on from what was read. -/
lemma Session.run_importValues (s : Session S O) (paths : String ⊕ List String)
    (recursive : Bool) :
    s.run (Tools.importValues w (paths.elim .text fun ps => .list (ps.map .text)) recursive) =
      (s.logged (s.files.readImages recursive (ToolCall.named paths)).2).run
        (lift (s.files.readImages recursive (ToolCall.named paths)).1 >>= Tools.importFiles w) := by
  have values : Tools.pathValues (paths.elim .text fun ps => .list (ps.map .text)) =
      .ok ((paths.elim ([·]) id).map .text) := by
    cases paths <;> rfl
  rw [Tools.importValues, values, run_bind_ok (run_lift _ _), run_bind_ok (run_get s),
    Tools.readValues_texts]
  exact run_bind_ok (run_logAll _ _) _

section Import

variable {s : Session S O} {recursive : Bool} {paths : String ⊕ List String}

/-- An import of what can be read lets in the newcomers, waits, and reports. -/
lemma Session.Stocked.importImages {t : Stock} (h : Stocked t s) (discreet : w.Discreet)
    {files : List (String × ByteArray)}
    (read : (s.files.readImages recursive (ToolCall.named paths)).1 = .ok files) :
    ∃ settled new s', s.run ((ToolCall.importImages paths recursive).act w) =
        (.ok (.state s'.collection.snapshot settled
          (some (new.map (·.id), files.length - (new.map (·.id)).length))), s') ∧
      Stocked (t.grown new) s' ∧ t.LetsIn files new := by
  obtain ⟨new, s₁, added, h₁, came⟩ :=
    (h.logged (s.files.readImages recursive (ToolCall.named paths)).2).addMany discreet files
  obtain ⟨settled, s', settles, h'⟩ := h₁.settle discreet
  refine ⟨settled, new, s', ?_, h', came⟩
  rw [ToolCall.act, Tools.importImages, run_tryCatch, run_importValues, read,
    run_bind_ok (run_lift _ _), Tools.importFiles, run_bind_ok added, run_bind_ok settles]
  rfl

/-- An import that cannot be read to the end reports that, and adds nothing. -/
lemma Session.run_importImages_of_error {e : Failure}
    (read : (s.files.readImages recursive (ToolCall.named paths)).1 = .error e) :
    ∃ records, s.run ((ToolCall.importImages paths recursive).act w) =
      (.ok (.failed (.processing e.text "导入图片")), s.logged records) := by
  rw [ToolCall.act, Tools.importImages, run_tryCatch, run_importValues, read, run_bind, run_lift]
  dsimp only
  rw [run_bind_ok (run_log _ _ _), run_pure, logged_logged]
  exact ⟨_, rfl⟩

end Import

/-! ## What is imported, and what is told of it -/

/-- An answer that can be given to a remote caller, and tells which entries are new and how many of
the files that were read were skipped. -/
structure ToolResponse.Reports (response : ToolResponse) (new : List EntryId) (read : Nat) :
    Prop where
  renders : response.Renders
  fields : ∀ v, response.toValue = .ok v →
    v.field? "imported" = some (.list (new.map fun id => .text id.text)) ∧
      ∃ skipped : Nat, v.field? "skipped" = some (.int skipped) ∧ new.length + skipped = read

lemma ToolResponse.Reports.of_state (snapshot : CollectionSnapshot) (settled : Bool)
    {new : List EntryId} {read : Nat} (few : new.length ≤ read) :
    (state snapshot settled (some (new, read - new.length))).Reports new read where
  renders := ToolResponse.state_proper settled _
  fields := by
    intro v shown
    obtain ⟨summary, images, -, rfl⟩ := ToolResponse.record_of_toValue_state shown
    exact ⟨rfl, read - new.length, rfl, Nat.add_sub_of_le few⟩

/-- What importing files makes of a collection: the entries that there were are what they were, and
in front; behind them come the newcomers. -/
structure Collection.Imports (c : Collection S) (files : List (String × ByteArray))
    (new : List Entry.Card) (c' : Collection S) : Prop extends Stock.LetsIn c.stock files new where
  cards : c'.cards = c.cards ++ new

end Reencode
