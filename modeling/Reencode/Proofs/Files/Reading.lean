import Mathlib.Data.List.Sort
import Mathlib.Data.String.Basic
import Reencode.Proofs.Files.Search

/-!
# Finding and reading files

What is found below a directory is found once and in the order of the names that lead there, name by
name and not as text: everything below a place is sorted that way
(`FileTree.WellFormed.pairwise_below`), and choosing files, or images, or those that stand directly
in the directory, keeps the order.

Reading is described by the files that are opened for it (`FileTree.opening`).  Which these are, and
in what order, does not depend on which of them can be read, so a file that cannot be read is missed
where it would have come, and nothing else is (`FileTree.readImages_failing`).

All this is said of what is searched and read to the end.  A path that is too long ends both, and
then nothing is given of what was read before (`FileTree.reading_stops_at_long_name`).
-/

namespace Reencode.FileTree

variable {t : FileTree} {directory p : FilePath} {place names : List String} {recursive : Bool}

/-! ## Everything below a place -/

lemma namesLe_iff (a b : List String) : namesLe a b = true ↔ a ≤ b := by
  rw [le_iff_lt_or_eq]
  induction a generalizing b with
  | nil => cases b <;> simp [namesLe]
  | cons x a ih =>
    cases b with
    | nil => simp [namesLe]
    | cons y b =>
      simp only [namesLe, nameLt, Bool.or_eq_true, decide_eq_true_eq, Bool.and_eq_true, beq_iff_eq,
        ih, List.cons_lt_cons_iff, List.cons.injEq]
      tauto

/-- The names that lead from a place to another one below it. -/
def namesBeyond (place other : List String) : Option (List String) :=
  if other.length ≤ place.length then none
  else if other.take place.length = place then some (other.drop place.length)
  else none

lemma namesBeyond_eq_some {other : List String} :
    namesBeyond place other = some names ↔ names ≠ [] ∧ other = place ++ names := by
  unfold namesBeyond
  constructor
  · intro beyond
    split at beyond
    · cases beyond
    · rename_i longer
      split at beyond
      · rename_i starts
        obtain rfl := Option.some.inj beyond
        refine ⟨by simpa using longer, ?_⟩
        conv_lhs => rw [← List.take_append_drop place.length other, starts]
      · cases beyond
  · rintro ⟨proper, rfl⟩
    simp [proper]

/-- Everything below a place is sorted by the names that lead there. -/
lemma below_eq (t : FileTree) (place : List String) : t.below place =
    ((t.nodes.map (·.1)).filterMap (namesBeyond place)).insertionSort (· ≤ ·) := by
  have order : namesLe = fun a b => decide (a ≤ b) := by
    funext a b
    rw [Bool.eq_iff_iff, namesLe_iff, decide_eq_true_iff]
  rw [← List.mergeSort_eq_insertionSort, List.filterMap_map, ← order]
  rfl

lemma mem_below :
    names ∈ t.below place ↔ names ≠ [] ∧ (t.node? (place ++ names)).isSome = true := by
  rw [below_eq, List.mem_insertionSort, List.mem_filterMap]
  constructor
  · rintro ⟨other, mem, beyond⟩
    obtain ⟨proper, rfl⟩ := namesBeyond_eq_some.mp beyond
    rw [node?_of_ne_nil (by simp [proper])]
    exact ⟨proper, Lookup.isSome_lookup_iff.mpr mem⟩
  · rintro ⟨proper, here⟩
    rw [node?_of_ne_nil (by simp [proper])] at here
    exact ⟨_, Lookup.isSome_lookup_iff.mp here, namesBeyond_eq_some.mpr ⟨proper, rfl⟩⟩

lemma WellFormed.nodup_below (wf : t.WellFormed) (place : List String) :
    (t.below place).Nodup := by
  rw [below_eq, (List.perm_insertionSort _ _).nodup_iff]
  refine wf.distinct.filterMap fun one other names same same' => ?_
  rw [(namesBeyond_eq_some.mp same).2, (namesBeyond_eq_some.mp same').2]

/-- Everything below a place comes in order. -/
lemma WellFormed.pairwise_below (wf : t.WellFormed) (place : List String) :
    (t.below place).Pairwise (· < ·) := by
  have sorted : (t.below place).Pairwise (· ≤ ·) := by
    rw [below_eq]
    exact List.pairwise_insertionSort _ _
  exact (sorted.and (wf.nodup_below place)).imp fun h => lt_of_le_of_ne h.1 h.2

/-! ## The files of a directory -/

lemma entries_eq (located : t.locate directory = .ok place) : t.entries directory recursive =
    ((t.below place).filter fun names => recursive || names.length == 1).map
      fun names => directory.join ⟨"", names⟩ := by
  rw [entries, located]

lemma WellFormed.mem_filesIn (wf : t.WellFormed) (located : t.locate directory = .ok place) :
    p ∈ t.filesIn directory recursive ↔
      ∃ names, names ≠ [] ∧ ".." ∉ names ∧ (recursive = true ∨ names.length = 1) ∧
        p = directory.join ⟨"", names⟩ ∧ t.isFile p = .ok true := by
  simp only [filesIn, entries_eq located, List.mem_filter, List.mem_map, mem_below, Bool.or_eq_true,
    beq_iff_eq, decide_eq_true_eq]
  constructor
  · rintro ⟨⟨names, ⟨⟨proper, here⟩, reach⟩, rfl⟩, file⟩
    refine ⟨names, proper, fun up => ?_, reach, rfl, file⟩
    -- Nothing in the tree stands behind two points.
    obtain ⟨before, after, rfl⟩ := List.append_of_mem up
    obtain ⟨node, here⟩ := Option.isSome_iff_exists.mp here
    rw [← List.append_assoc] at here
    exact (wf.passes here).2.1 rfl
  · rintro ⟨names, proper, straight, reach, rfl, file⟩
    refine ⟨⟨names, ⟨⟨proper, ?_⟩, reach⟩, rfl⟩, file⟩
    obtain ⟨data, seen⟩ := isFile_iff.mp file
    obtain ⟨-, q, leads, here⟩ := lookup_eq_some_iff.mp seen
    rw [locate_join located] at leads
    split at leads
    · cases leads
    · obtain rfl := follow_straight straight leads
      rw [here]
      rfl

lemma WellFormed.pairwise_filesIn (wf : t.WellFormed) (directory : FilePath) (recursive : Bool) :
    (t.filesIn directory recursive).Pairwise fun p q => p.names < q.names := by
  refine List.Pairwise.filter _ ?_
  cases located : t.locate directory with
  | error => simp [entries, located]
  | ok place =>
    rw [entries_eq located, List.pairwise_map]
    exact ((wf.pairwise_below place).filter _).imp List.append_left_lt

lemma parent_join_iff (proper : names ≠ []) :
    (directory.join ⟨"", names⟩).parent = directory ↔ names.length = 1 := by
  obtain ⟨root, above⟩ := directory
  have parent : (FilePath.join ⟨root, above⟩ ⟨"", names⟩).parent =
      ⟨root, above ++ names.dropLast⟩ := by
    rw [← List.dropLast_append_of_ne_nil proper]
    rfl
  have pos : 0 < names.length := List.length_pos_iff.mpr proper
  rw [parent, FilePath.mk.injEq, eq_self, true_and, List.append_right_eq_self,
    ← List.length_eq_zero_iff, List.length_dropLast]
  omega

/-- What stands directly in a directory is what is below it and has it as its parent. -/
lemma entries_false (t : FileTree) (directory : FilePath) :
    t.entries directory false =
      (t.entries directory true).filter fun p => p.parent = directory := by
  cases located : t.locate directory with
  | error => simp [entries, located]
  | ok place =>
    rw [entries_eq located, entries_eq located, List.filter_map, List.filter_filter]
    congr 1
    refine List.filter_congr fun names mem => ?_
    simp only [Function.comp_apply, parent_join_iff (mem_below.mp mem).1, Bool.false_or,
      Bool.true_or, Bool.and_true]
    rfl

lemma filesIn_false (t : FileTree) (directory : FilePath) :
    t.filesIn directory false =
      (t.filesIn directory true).filter fun p => p.parent = directory := by
  rw [filesIn, filesIn, entries_false, List.filter_filter, List.filter_filter]
  exact List.filter_congr fun p _ => Bool.and_comm _ _

/-- What does not hinder a search that goes down does not hinder one that stays. -/
lemma Hinders.of_false (hinders : t.Hinders false p) : t.Hinders true p := by
  refine hinders.imp_right fun ⟨there, q, mem, long⟩ => ⟨there, q, ?_, long⟩
  rw [entries_false] at mem
  exact List.mem_of_mem_filter mem

/-! ## Images -/

/-- What a search that comes to its end finds. -/
lemma paths_findImages (clear : ¬t.Hinders recursive directory) :
    (t.findImages directory recursive).paths = if t.isDirectory directory = .ok true then
      (t.filesIn directory recursive).filter (·.isImage) else [] := by
  rcases t.findImages_cases directory recursive with ⟨-, -, -, -, -, hinders⟩ | ⟨-, -, paths⟩
  · exact absurd hinders clear
  · exact paths

/-- What finding images gives: each image below a directory, or directly in it, once and in
order. -/
structure Finds (t : FileTree) (directory : FilePath) (recursive : Bool) (found : List FilePath) :
    Prop where
  mem_iff : ∀ p, p ∈ found ↔ t.isDirectory directory = .ok true ∧
    ∃ names, names ≠ [] ∧ ".." ∉ names ∧ (recursive = true ∨ names.length = 1) ∧
      p = directory.join ⟨"", names⟩ ∧ t.isFile p = .ok true ∧ isImageName p.name = true
  nodup : found.Nodup
  ordered : found.Pairwise fun p q => p.names < q.names

lemma WellFormed.finds (wf : t.WellFormed) (clear : ¬t.Hinders recursive directory) :
    t.Finds directory recursive (t.findImages directory recursive).paths := by
  rw [paths_findImages clear]
  split
  · rename_i there
    have ordered := (wf.pairwise_filesIn directory recursive).filter (·.isImage)
    refine ⟨fun p => ?_, ordered.imp fun {p q} less same => ?_, ordered⟩
    · obtain ⟨-, place, located, -⟩ := lookup_eq_some_iff.mp (isDirectory_iff.mp there)
      rw [List.mem_filter, wf.mem_filesIn located, iff_true_intro there, true_and]
      constructor
      · rintro ⟨⟨names, proper, straight, reach, joined, file⟩, image⟩
        exact ⟨names, proper, straight, reach, joined, file, image⟩
      · rintro ⟨names, proper, straight, reach, joined, file, image⟩
        exact ⟨⟨names, proper, straight, reach, joined, file⟩, image⟩
    · exact lt_irrefl _ (same ▸ less)
  · rename_i missing
    exact ⟨fun p => by simp [missing], .nil, .nil⟩

/-- Without going down, those images are found that stand directly in the directory. -/
lemma findImages_false (clear : ¬t.Hinders true directory) :
    (t.findImages directory false).paths =
      (t.findImages directory true).paths.filter fun p => p.parent = directory := by
  rw [paths_findImages clear, paths_findImages (mt Hinders.of_false clear)]
  split
  · rw [filesIn_false, List.filter_filter, List.filter_filter]
    exact List.filter_congr fun p _ => Bool.and_comm _ _
  · rfl

/-! ## Reading -/

/-- A file that is opened to be read: where it stands, the name it is read under and its bytes. -/
structure OpenedFile where
  place : List String
  name : String
  data : ByteArray

/-- The file that is opened when a path is read, be it that reading fails then. -/
def opening (t : FileTree) (p : FilePath) : Option OpenedFile :=
  match t.locate p with
  | .error _ => none
  | .ok place =>
    match t.node? place with
    | some (.file data) => some ⟨place, p.name, data⟩
    | _ => none

/-- A tree in which certain files cannot be read. -/
def failing (t : FileTree) (names : List String) (places : List (List String)) : FileTree :=
  { t with unreadable := names, locked := places }

section Failing

variable (t : FileTree) (names : List String) (places : List (List String))

lemma follow_failing (place rest : List String) :
    (t.failing names places).follow place rest = t.follow place rest := by
  induction rest generalizing place with
  | nil => rfl
  | cons name rest ih =>
    rw [follow, follow]
    simp only [ih]
    rfl

lemma locate_failing (p : FilePath) : (t.failing names places).locate p = t.locate p := by
  rw [locate, locate, follow_failing]
  rfl

lemma lookup_failing (p : FilePath) : (t.failing names places).lookup p = t.lookup p := by
  rw [lookup, lookup, locate_failing]
  rfl

lemma entries_failing (directory : FilePath) (recursive : Bool) :
    (t.failing names places).entries directory recursive = t.entries directory recursive := by
  rw [entries, entries, locate_failing]
  rfl

lemma subdirectories_failing (directory : FilePath) :
    (t.failing names places).subdirectories directory = t.subdirectories directory := by
  rw [subdirectories, subdirectories, locate_failing]
  rfl

lemma isDirectory_failing (p : FilePath) :
    (t.failing names places).isDirectory p = t.isDirectory p := by
  rw [isDirectory, isDirectory, lookup_failing]

lemma isFile_failing (p : FilePath) : (t.failing names places).isFile p = t.isFile p := by
  rw [isFile, isFile, lookup_failing]

lemma findImages_failing (directory : FilePath) (recursive : Bool) :
    (t.failing names places).findImages directory recursive = t.findImages directory recursive := by
  simp only [findImages, refusal?, lookup_failing, isDirectory_failing, isFile_failing,
    entries_failing, subdirectories_failing]

lemma imagesAt_failing (recursive : Bool) (p : FilePath) :
    (t.failing names places).imagesAt recursive p = t.imagesAt recursive p := by
  simp only [imagesAt, filesAt, filesIn, isDirectory_failing, isFile_failing, entries_failing]

lemma read_failing (p : FilePath) :
    ((t.failing names places).read p).toOption.map (fun data => (p.name, data)) =
      ((t.opening p).filter fun f => f.name ∉ names ∧ f.place ∉ places).map
        fun f => (f.name, f.data) := by
  have unreadable : (t.failing names places).unreadable = names := rfl
  have locked : (t.failing names places).locked = places := rfl
  have stands : ∀ place, (t.failing names places).node? place = t.node? place := fun _ => rfl
  unfold read opening
  rw [unreadable, locked, locate_failing]
  -- The failing names and places are looked at only where a file is found, so elsewhere both sides
  -- are the same.
  cases located : t.locate p with
  | error refusal => split <;> rfl
  | ok place =>
    simp only [stands]
    cases node : t.node? place with
    | none => split <;> rfl
    | some n =>
      cases n with
      | directory => split <;> rfl
      | file data =>
        by_cases byName : p.name ∈ names <;> by_cases byPlace : place ∈ places <;>
          simp [byName, byPlace, Except.toOption, Option.filter]

/-- Reading files one after the other gives those that are opened and can be read. -/
lemma readable_failing (ps : List FilePath) :
    (t.failing names places).readable ps =
      ((ps.filterMap t.opening).filter fun f => f.name ∉ names ∧ f.place ∉ places).map
        fun f => (f.name, f.data) := by
  rw [readable, List.filter_filterMap, List.map_filterMap]
  exact List.filterMap_congr fun p _ => read_failing t names places p

/-- Neither which files are opened nor whether a path hinders the reading depends on which files
can be read. -/
lemma readImages_failing (recursive : Bool) (ps : List FilePath) :
    ((t.failing names places).readImages recursive ps).1 =
      (t.stop? recursive ps).elim
        (.ok ((((ps.flatMap (t.imagesAt recursive)).filterMap t.opening).filter
          fun f => f.name ∉ names ∧ f.place ∉ places).map fun f => (f.name, f.data))) .error := by
  have stops : (t.failing names places).stop? recursive ps = t.stop? recursive ps := by
    simp only [stop?, findImages_failing]
  rw [readImages_fst, stops, readable_failing, funext (imagesAt_failing t names places recursive)]

end Failing

lemma node?_of_opening {f : OpenedFile} (opens : t.opening p = some f) :
    t.node? f.place = some (.file f.data) := by
  unfold opening at opens
  split at opens
  · cases opens
  · split at opens
    · rename_i here
      obtain rfl := Option.some.inj opens
      exact here
    · cases opens

lemma andThen_assoc (first second third : Reading) :
    (first.andThen second).andThen third = first.andThen (second.andThen third) := by
  rcases first with ⟨failure | files, records⟩
  · rfl
  · rcases second with ⟨failure | files', records'⟩
    · rfl
    · rcases third with ⟨failure | files'', records''⟩ <;> simp [Reading.andThen, Except.map]

lemma readImages_append (t : FileTree) (recursive : Bool) (ps qs : List FilePath) :
    t.readImages recursive (ps ++ qs) =
      (t.readImages recursive ps).andThen (t.readImages recursive qs) := by
  induction ps with
  | nil => rcases reads : t.readImages recursive qs with ⟨failure | files, records⟩ <;>
      simp [readImages, Reading.andThen, Except.map, reads]
  | cons p rest ih => rw [List.cons_append, readImages, ih, readImages, andThen_assoc]

/-- **Files are read in order, once each, and independently of each other, up to a path that is too
long.**  Finding images in a directory of a tree comes to an end unless the directory hinders it.
Then it gives the files below it, or directly in it, whose names are those of images, each once, in
the order of the names that lead to them; without going down it gives those of them that stand
directly in the directory.  Reading several paths is reading the first and then the others, unless
reading the first has failed.  If no path hinders it, then whichever files of the tree cannot be
read, reading gives what it gives if all of them can, without those files, and in the same order.
If one does, then reading fails, at a path that is too long and whichever files cannot be read. -/
theorem reading_is_ordered (wf : t.WellFormed) (recursive : Bool) :
    (∀ directory,
      ((t.findImages directory recursive).failure = none ↔ ¬t.Hinders recursive directory) ∧
      (¬t.Hinders recursive directory →
        t.Finds directory recursive (t.findImages directory recursive).paths) ∧
      (¬t.Hinders true directory → (t.findImages directory false).paths =
        (t.findImages directory true).paths.filter fun p => p.parent = directory)) ∧
    (∀ ps qs, t.readImages recursive (ps ++ qs) =
      (t.readImages recursive ps).andThen (t.readImages recursive qs)) ∧
    ∀ ps,
      ((∀ p ∈ ps, ¬t.Hinders recursive p) → ∃ opened : List OpenedFile,
        (∀ f ∈ opened, t.node? f.place = some (.file f.data)) ∧
        ((t.failing [] []).readImages recursive ps).1 =
          .ok (opened.map fun f => (f.name, f.data)) ∧
        ∀ names places, ((t.failing names places).readImages recursive ps).1 =
          .ok ((opened.filter fun f => f.name ∉ names ∧ f.place ∉ places).map
            fun f => (f.name, f.data))) ∧
      ((∃ p ∈ ps, t.Hinders recursive p) → ∃ q, t.TooLong q ∧ ∀ names places,
        ((t.failing names places).readImages recursive ps).1 =
          .error (FileRefusal.nameTooLong.failure q)) := by
  refine ⟨fun directory => ⟨failure_findImages_eq_none_iff, wf.finds, findImages_false⟩,
    readImages_append t recursive, fun ps => ?_⟩
  have reads := fun names places => t.readImages_failing names places recursive ps
  -- Either no path hinders and all of them are read, or the first that does decides.
  cases stops : t.stop? recursive ps with
  | none =>
    have clear := stop?_eq_none_iff.mp stops
    simp only [stops, Option.elim_none] at reads
    refine ⟨fun _ => ⟨(ps.flatMap (t.imagesAt recursive)).filterMap t.opening, fun f mem => ?_, ?_,
      reads⟩, fun ⟨p, mem, hinders⟩ => absurd hinders (clear p mem)⟩
    · obtain ⟨p, -, opens⟩ := List.mem_filterMap.mp mem
      exact node?_of_opening opens
    · rw [reads]
      simp
  | some e =>
    obtain ⟨⟨p, mem, hinders⟩, q, long, rfl⟩ := of_stop? stops
    simp only [stops, Option.elim_some] at reads
    exact ⟨fun clear => absurd hinders (clear p mem), fun _ => ⟨q, long, reads⟩⟩

/-- Two directories whose names come in one order by themselves and in the other order as parts of
their paths; an image in one of them cannot be read. -/
theorem reading_is_ordered_of_nested :
    let file (path : String) (data : ByteArray) := (FilePath.ofString path, data)
    let t := (FileTree.initial ["home"]).withFiles [file "d/b.png" ⟨#[1]⟩,
      file "d/a.b/x.png" ⟨#[2]⟩, file "d/a/c.JPG" ⟨#[3]⟩, file "e.txt" ⟨#[4]⟩]
    let d := FilePath.ofString "d"
    let e := FilePath.ofString "e.txt"
    let found := (t.findImages d true).paths
    let read := ((t.failing [] [["home", "d", "a.b", "x.png"]]).readImages true [d, e]).1
    t.WellFormed ∧ (∀ p ∈ [d, e], ¬t.Hinders true p) ∧ t.Finds d true found ∧
      found.map (·.text) = ["d/a/c.JPG", "d/a.b/x.png", "d/b.png"] ∧
      (t.findImages d false).paths = found.filter (fun p => p.parent = d) ∧
      ∃ opened : List OpenedFile,
        opened.map (fun f => (f.name, f.data)) = [("c.JPG", ⟨#[3]⟩), ("x.png", ⟨#[2]⟩),
          ("b.png", ⟨#[1]⟩), ("e.txt", ⟨#[4]⟩)] ∧
        read = .ok ((opened.filter fun f => f.place ≠ ["home", "d", "a.b", "x.png"]).map
          fun f => (f.name, f.data)) := by
  intro file t d e found read
  have wf : t.WellFormed := (WellFormed.initial (by decide)).withFiles _
  have located : t.locate d = .ok ["home", "d"] := by decide +kernel
  have there : t.isDirectory d = .ok true := by decide +kernel
  -- The sorted paths are worked out in small steps: the kernel evaluates each list, and the lemmas
  -- put them together.
  have below : t.below ["home", "d"] =
      [["a"], ["a", "c.JPG"], ["a.b"], ["a.b", "x.png"], ["b.png"]] := by
    rw [below_eq]
    decide +kernel
  have entries : t.entries d true =
      ["d/a", "d/a/c.JPG", "d/a.b", "d/a.b/x.png", "d/b.png"].map FilePath.ofString := by
    rw [entries_eq located, below]
    decide +kernel
  have files : t.filesIn d true =
      ["d/a/c.JPG", "d/a.b/x.png", "d/b.png"].map FilePath.ofString := by
    rw [filesIn, entries]
    decide +kernel
  have short : t.refusal? (d :: e :: t.entries d true) = none := by
    rw [entries]
    decide +kernel
  have plain : t.isDirectory e ≠ .ok true := by decide +kernel
  have clear : ∀ p ∈ [d, e], ¬t.Hinders true p := by
    simp only [refusal?_eq_none_iff, List.forall_mem_cons] at short
    obtain ⟨shortD, shortE, inside⟩ := short
    simp only [List.forall_mem_cons, List.not_mem_nil, false_imp_iff, implies_true, and_true]
    constructor
    · rintro (long | ⟨-, q, mem, long⟩)
      · exact shortD long
      · exact inside q mem long
    · rintro (long | ⟨dir, -⟩)
      · exact shortE long
      · exact plain dir
  obtain ⟨searches, -, reads⟩ := reading_is_ordered wf true
  obtain ⟨-, finds, direct⟩ := searches d
  obtain ⟨opened, -, complete, failing⟩ := (reads [d, e]).1 clear
  have images : found = ["d/a/c.JPG", "d/a.b/x.png", "d/b.png"].map FilePath.ofString := by
    simp only [found, paths_findImages (clear d (by simp)), if_pos there, files]
    decide +kernel
  have opens : [d, e].flatMap (t.imagesAt true) =
      ["d/a/c.JPG", "d/a.b/x.png", "d/b.png", "e.txt"].map FilePath.ofString := by
    rw [List.flatMap_cons, imagesAt, filesAt, if_pos there, if_pos there, files]
    decide +kernel
  refine ⟨wf, clear, finds (clear d (by simp)), by rw [images]; decide +kernel,
    direct (clear d (by simp)), opened, ?_, ?_⟩
  · have same := complete.symm.trans (readImages_failing t [] [] true [d, e])
    rw [stop?_eq_none_iff.mpr clear, opens] at same
    exact (Except.ok.inj same).trans (by decide +kernel)
  · have missing := failing [] [["home", "d", "a.b", "x.png"]]
    simpa using missing

/-- A name of more than 255 bytes, under which nothing is there: searching it fails instead of
finding nothing, and reading fails at it, so that nothing is given of the file before it. -/
theorem reading_stops_at_long_name :
    let t := (FileTree.initial []).withFiles [(.ofString "ok.png", ⟨#[1]⟩)]
    let p := FilePath.ofString "ok.png"
    let long := FilePath.ofString (String.ofList (List.replicate 300 'a'))
    t.WellFormed ∧ t.lookup long ≠ .ok (some .directory) ∧
      (t.readImages true [p]).1.toOption = some [("ok.png", ⟨#[1]⟩)] ∧
      (t.findImages long true).failure ≠ none ∧
      ∀ files, (t.readImages true [p, long]).1 ≠ .ok files := by
  intro t p long
  have tooLong : t.TooLong long := tooLong_of_letters rfl (by decide)
  have hinders : t.Hinders true long := .inl tooLong
  refine ⟨(WellFormed.initial (by decide)).withFiles _, fun there => ?_, by decide +kernel,
    fun ends => failure_findImages_eq_none_iff.mp ends hinders, fun files reads => ?_⟩
  · rw [lookup_eq_error_iff.mpr ⟨tooLong, rfl⟩] at there
    cases there
  · rw [readImages_fst] at reads
    cases stops : t.stop? true [p, long] with
    | none => exact stop?_eq_none_iff.mp stops long (by simp) hinders
    | some e =>
      rw [stops] at reads
      cases reads

end Reencode.FileTree
