import Mathlib.Data.List.TakeWhile
import Mathlib.Data.String.Basic
import Reencode.Files.Import
import Reencode.Proofs.Files.Path
import Reencode.Proofs.Files.Place

/-!
# Searching for images, and reading them

A search looks at paths one after the other, and so does reading.  What is missing or cannot be read
is reported and left out; but a path that is too long makes the search, and the reading, fail.  Such
a path *hinders* it, and so does a directory with something in it whose path is too long
(`FileTree.Hinders`).  Whether a search fails is decided by this alone
(`FileTree.failure_findImages_eq_none_iff`).

The loops over the paths and over the files of each directory come to one list: reading gives what
the paths stand for, one after the other, without the files that cannot be read, unless one of the
paths hinders it (`FileTree.readImages_fst`).
-/

namespace Reencode.FileTree

variable {t : FileTree} {directory p : FilePath} {place names : List String} {recursive : Bool}

/-! ## Paths that are too long -/

lemma refusal?_eq_none_iff {paths : List FilePath} :
    t.refusal? paths = none ↔ ∀ p ∈ paths, ¬t.TooLong p := by
  rw [refusal?, List.findSome?_eq_none_iff]
  refine forall₂_congr fun p _ => ?_
  rw [← isOk_lookup_iff]
  cases t.lookup p with
  | error e => exact iff_of_false (Option.some_ne_none e) Bool.false_ne_true
  | ok node => exact iff_of_true rfl rfl

lemma of_refusal? {paths : List FilePath} {e : Failure} (refused : t.refusal? paths = some e) :
    ∃ p ∈ paths, t.TooLong p ∧ e = FileRefusal.nameTooLong.failure p := by
  obtain ⟨p, mem, failed⟩ := List.exists_of_findSome?_eq_some refused
  cases seen : t.lookup p with
  | ok node =>
    rw [seen] at failed
    cases failed
  | error e' =>
    rw [seen] at failed
    cases failed
    exact ⟨p, mem, lookup_eq_error_iff.mp seen⟩

/-- A name of too many letters makes a path that is too long. -/
lemma tooLong_of_letters (home : t.node? t.workingDirectory = some .directory) {n : Nat}
    (many : longestName < n) : t.TooLong (.ofString (String.ofList (List.replicate n 'a'))) := by
  have several : 1 < n := lt_trans (by decide) many
  rw [FilePath.ofString_plain (by simp [List.mem_replicate]) (by simpa using several)]
  refine ⟨by simp [holdsNul, List.mem_replicate], ?_⟩
  have long : longestName < (String.ofList (List.replicate n 'a')).utf8ByteSize := by
    suffices bytes : String.utf8Len (List.replicate n 'a') = n by
      rwa [String.utf8ByteSize_ofList, bytes]
    clear several many
    induction n with
    | zero => rfl
    | succ n ih => rw [List.replicate_succ, String.utf8Len_cons, ih]; rfl
  unfold locate
  split
  · rfl
  · simp [follow, home, long]

/-- The directories below a directory are among what is below it. -/
lemma mem_entries_of_mem_subdirectories (mem : p ∈ t.subdirectories directory) :
    p ∈ t.entries directory true := by
  cases located : t.locate directory with
  | error refusal => simp [subdirectories, located] at mem
  | ok place =>
    simp only [subdirectories, entries, located, List.mem_map, List.mem_filter] at mem ⊢
    obtain ⟨names, ⟨below, -⟩, rfl⟩ := mem
    exact ⟨names, ⟨below, rfl⟩, rfl⟩

/-- A path that a search or a reading fails at: it is too long, or a directory with something in it,
or below it if the search goes down, whose path is too long. -/
def Hinders (t : FileTree) (recursive : Bool) (p : FilePath) : Prop :=
  t.TooLong p ∨ t.isDirectory p = .ok true ∧ ∃ q ∈ t.entries p recursive, t.TooLong q

/-! ## Searching a directory -/

/-- The files below a directory, or directly in it. -/
def filesIn (t : FileTree) (directory : FilePath) (recursive : Bool) : List FilePath :=
  (t.entries directory recursive).filter fun p => t.isFile p = .ok true

/-- If no path is too long, a search looks at all of them. -/
lemma filter_seen {paths : List FilePath} (clear : ∀ q ∈ paths, ¬t.TooLong q) :
    (paths.takeWhile fun p => (t.lookup p).isOk).filter
        (fun p => (t.isFile p).toOption.getD false && p.isImage) =
      (paths.filter fun p => t.isFile p = .ok true).filter (·.isImage) := by
  have all : (paths.takeWhile fun p => (t.lookup p).isOk) = paths :=
    List.takeWhile_eq_self_iff.mpr fun q mem => isOk_lookup_iff.mpr (clear q mem)
  rw [all, List.filter_filter]
  refine List.filter_congr fun q _ => ?_
  rw [Bool.and_comm]
  cases t.isFile q with
  | error e => simp [Except.toOption]
  | ok b => simp [Except.toOption]

lemma not_tooLong_of_isDirectory {there : Bool} (looked : t.isDirectory p = .ok there) :
    ¬t.TooLong p := by
  intro long
  rw [isDirectory_eq_error_iff.mpr (lookup_eq_error_iff.mpr ⟨long, rfl⟩)] at looked
  cases looked

/-- Every search ends in one of three ways: it fails at a path that is too long, there is no
directory to search, or it finds the images in it. -/
lemma findImages_cases (t : FileTree) (directory : FilePath) (recursive : Bool) :
    (∃ q e, (t.findImages directory recursive).failure = some e ∧ t.TooLong q ∧
      e = FileRefusal.nameTooLong.failure q ∧ t.Hinders recursive directory) ∨
    (t.findImages directory recursive).failure = none ∧ ¬t.Hinders recursive directory ∧
      (t.findImages directory recursive).paths = if t.isDirectory directory = .ok true then
        (t.filesIn directory recursive).filter (·.isImage) else [] := by
  unfold findImages
  cases there : t.isDirectory directory with
  | error e =>
    obtain ⟨long, rfl⟩ := lookup_eq_error_iff.mp (isDirectory_eq_error_iff.mp there)
    exact .inl ⟨directory, _, rfl, long, rfl, .inl long⟩
  | ok isDirectory =>
    have short := not_tooLong_of_isDirectory there
    cases isDirectory with
    | false =>
      refine .inr ⟨rfl, ?_, by simp⟩
      rintro (long | ⟨there', -⟩)
      · exact short long
      · simp [there] at there'
    | true =>
      dsimp only
      split
      · -- The search fails while directories are listed, ...
        rename_i e refused
        obtain ⟨q, mem, long, rfl⟩ := of_refusal? refused
        cases recursive with
        | false => cases mem
        | true =>
          exact .inl ⟨q, _, rfl, long, rfl,
            .inr ⟨there, q, mem_entries_of_mem_subdirectories mem, long⟩⟩
      · cases refused : t.refusal? (t.entries directory recursive) with
        | some e =>
          -- ... or while the paths are looked at, ...
          obtain ⟨q, mem, long, rfl⟩ := of_refusal? refused
          exact .inl ⟨q, _, rfl, long, rfl, .inr ⟨there, q, mem, long⟩⟩
        | none =>
          -- ... or it comes to an end, and then it has looked at all of them.
          have clear := refusal?_eq_none_iff.mp refused
          refine .inr ⟨rfl, ?_, by rw [if_pos rfl, filesIn, filter_seen clear]⟩
          rintro (long | ⟨-, q, mem, long⟩)
          · exact short long
          · exact clear q mem long

lemma failure_findImages_eq_none_iff :
    (t.findImages directory recursive).failure = none ↔ ¬t.Hinders recursive directory := by
  rcases t.findImages_cases directory recursive with
    ⟨q, e, failed, -, -, hinders⟩ | ⟨ends, clear, -⟩
  · exact iff_of_false (by simp [failed]) (not_not.mpr hinders)
  · exact iff_of_true ends clear

/-! ## Reading what paths stand for -/

/-- The files that a path stands for: those of a directory, or the file itself. -/
def filesAt (t : FileTree) (recursive : Bool) (p : FilePath) : List FilePath :=
  if t.isDirectory p = .ok true then t.filesIn p recursive
  else if t.isFile p = .ok true then [p] else []

/-- The files that are read for a path: of those of a directory the ones with the name of an
image. -/
def imagesAt (t : FileTree) (recursive : Bool) (p : FilePath) : List FilePath :=
  if t.isDirectory p = .ok true then (t.filesAt recursive p).filter (·.isImage)
  else t.filesAt recursive p

/-- The names and bytes of those files that can be read. -/
def readable (t : FileTree) (ps : List FilePath) : List (String × ByteArray) :=
  ps.filterMap fun p => (t.read p).toOption.map fun data => (p.name, data)

lemma readFiles_fst (t : FileTree) (ps : List FilePath) : (t.readFiles ps).1 = t.readable ps := by
  induction ps with
  | nil => rfl
  | cons p rest ih =>
    rw [readFiles, readable, List.filterMap_cons]
    cases t.read p with
    | error failure => exact ih
    | ok data => exact congrArg (List.cons _) ih

/-- The failure of reading paths, if one of them hinders it. -/
def stop? (t : FileTree) (recursive : Bool) (ps : List FilePath) : Option Failure :=
  ps.findSome? fun p => (t.findImages p recursive).failure

lemma readPath_fst (t : FileTree) (recursive : Bool) (p : FilePath) :
    (t.readPath recursive p).1 =
      (t.findImages p recursive).failure.elim (.ok (t.readable (t.imagesAt recursive p))) .error := by
  unfold readPath imagesAt filesAt
  -- Looking at the path, searching the directory and reading the file each may fail, in this order.
  cases there : t.isDirectory p with
  | error e =>
    have failed : (t.findImages p recursive).failure = some e := by rw [findImages, there]
    rw [failed]
    rfl
  | ok isDirectory =>
    cases isDirectory with
    | true =>
      dsimp only
      rcases t.findImages_cases p recursive with ⟨q, e, failed, -⟩ | ⟨ends, -, paths⟩
      · rw [Found.result, failed]
        rfl
      · rw [Found.result, ends, paths, if_pos there, readFiles_fst]
        rfl
    | false =>
      have ends : (t.findImages p recursive).failure = none := by rw [findImages, there]
      rw [ends]
      cases file : t.isFile p with
      | error e =>
        rw [isDirectory_eq_error_iff.mpr (isFile_eq_error_iff.mp file)] at there
        cases there
      | ok isFile =>
        cases isFile with
        | true => exact congrArg Except.ok (t.readFiles_fst [p])
        | false => rfl

/-- What is read is what the paths stand for, in order and as far as it can be read, unless a path
hinders it. -/
theorem readImages_fst (t : FileTree) (recursive : Bool) (ps : List FilePath) :
    (t.readImages recursive ps).1 =
      (t.stop? recursive ps).elim (.ok (t.readable (ps.flatMap (t.imagesAt recursive)))) .error := by
  induction ps with
  | nil => rfl
  | cons p rest ih =>
    have first := t.readPath_fst recursive p
    rw [readImages, stop?, List.findSome?_cons, List.flatMap_cons, readable, List.filterMap_append]
    -- Whether the first path hinders is whether reading it fails, so both sides split in the same
    -- way.
    rcases reads : t.readPath recursive p with ⟨failure | files, records⟩
    · rw [reads] at first
      cases stops : (t.findImages p recursive).failure with
      | none =>
        rw [stops] at first
        cases first
      | some e =>
        rw [stops] at first
        exact first
    · rw [reads] at first
      cases stops : (t.findImages p recursive).failure with
      | some e =>
        rw [stops] at first
        cases first
      | none =>
        rw [stops] at first
        obtain rfl := Except.ok.inj first
        dsimp only [Reading.andThen]
        rw [ih, stop?]
        cases rest.findSome? fun p => (t.findImages p recursive).failure <;> rfl

lemma stop?_eq_none_iff {ps : List FilePath} :
    t.stop? recursive ps = none ↔ ∀ p ∈ ps, ¬t.Hinders recursive p := by
  simp only [stop?, List.findSome?_eq_none_iff, failure_findImages_eq_none_iff]

/-- Reading stops with the failure of a path that is too long. -/
lemma of_stop? {ps : List FilePath} {e : Failure} (stops : t.stop? recursive ps = some e) :
    (∃ p ∈ ps, t.Hinders recursive p) ∧
      ∃ q, t.TooLong q ∧ e = FileRefusal.nameTooLong.failure q := by
  obtain ⟨p, mem, failed⟩ := List.exists_of_findSome?_eq_some stops
  rcases t.findImages_cases p recursive with ⟨q, e', failed', long, rfl, hinders⟩ | ⟨ends, -⟩
  · cases failed.symm.trans failed'
    exact ⟨⟨p, mem, hinders⟩, q, long, rfl⟩
  · rw [ends] at failed
    cases failed

end Reencode.FileTree
