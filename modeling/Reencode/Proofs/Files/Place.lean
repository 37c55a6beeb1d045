import Mathlib.Data.List.Induction
import Mathlib.Data.List.Nodup
import Reencode.Files.Tree
import Reencode.Proofs.Lookup

/-!
# Places in a tree

A tree is well-formed if everything in it stands in a directory under a name that the tree takes,
and under that name once.  Of such a tree, what stands at a place is found by following the names
that lead there (`WellFormed.follow`), and every step that makes a directory or writes a file keeps
it well-formed.

Making directories only adds directories (`Grown`): whatever was there is there afterwards, and what
paths led to they lead to.  So the only thing that writing into a directory which is made if need be
can do to what was there is to replace one file.
-/

namespace Reencode.FileTree

variable {t t' : FileTree} {place names : List String} {n : FileNode} {p : FilePath}

/-! ## What stands where -/

lemma node?_of_ne_nil (below : place ≠ []) : t.node? place = t.nodes.lookup place := by
  simp [node?, below]

lemma node?_put (below : place ≠ []) (n : FileNode) (other : List String) :
    (t.put place n).node? other = if other = place then some n else t.node? other := by
  by_cases root : other = []
  · subst root
    rw [if_neg below.symm]
    rfl
  rw [node?_of_ne_nil root, node?_of_ne_nil root, put]
  -- A place that is there is overwritten where it stands; a new one comes last.
  split
  · rename_i there
    rw [node?_of_ne_nil below] at there
    obtain ⟨old, here⟩ := Option.isSome_iff_exists.mp there
    refine (Lookup.lookup_map_set t.nodes place n other).trans ?_
    split
    · rename_i same
      rw [same, here]
      rfl
    · rfl
  · rename_i free
    rw [node?_of_ne_nil below, Option.not_isSome_iff_eq_none] at free
    rw [List.lookup_append, List.lookup_cons, List.lookup_nil]
    by_cases same : other = place
    · simp [same, free]
    · have differs : (other == place) = false := by simpa using same
      simp [same, differs]

@[simp] lemma workingDirectory_put (t : FileTree) (place : List String) (n : FileNode) :
    (t.put place n).workingDirectory = t.workingDirectory := by
  unfold put
  split <;> rfl

lemma ne_nil_of_node? (free : t.node? place ≠ some .directory) : place ≠ [] := by
  rintro rfl
  exact free rfl

/-- What is put in the place of no directory leaves the directories alone. -/
lemma node?_put_directory (free : t.node? place ≠ some .directory) (n : FileNode)
    {other : List String} (here : t.node? other = some .directory) :
    (t.put place n).node? other = some .directory := by
  rw [node?_put (ne_nil_of_node? free), if_neg, here]
  rintro rfl
  exact free here

/-! ## Where paths lead -/

lemma follow_append (place names rest : List String) :
    t.follow place (names ++ rest) = t.follow place names >>= fun q => t.follow q rest := by
  -- Induction on the first names: the walk through them is the same, and ends the same way if it
  -- fails.
  induction names generalizing place with
  | nil => rfl
  | cons name names ih =>
    rw [List.cons_append, follow, follow]
    cases t.node? place with
    | none => rfl
    | some node =>
      cases node with
      | file => rfl
      | directory =>
        dsimp only
        split
        · rfl
        · exact ih _

lemma follow_of_locate (leads : t.locate p = .ok place) :
    isTooLong p = false ∧
      t.follow (if p.root = "" then t.workingDirectory else []) p.names = .ok place := by
  unfold locate at leads
  split at leads
  · cases leads
  · rename_i short
    exact ⟨by simpa using short, leads⟩

/-- Further names go on from where a path leads, as long as the path does not get too long. -/
lemma locate_join (leads : t.locate p = .ok place) (names : List String) :
    t.locate (p.join ⟨"", names⟩) =
      if isTooLong (p.join ⟨"", names⟩) then .error .nameTooLong else t.follow place names := by
  have further : t.follow (if p.root = "" then t.workingDirectory else []) (p.names ++ names) =
      t.follow place names := by
    rw [follow_append, (follow_of_locate leads).2]
    rfl
  rw [← further]
  rfl

/-- A last name goes on from where the names before it lead. -/
lemma follow_concat {q : List String} {name : String} (notUp : name ≠ "..")
    (leads : t.follow place (names ++ [name]) = .ok q) :
    ∃ above, t.follow place names = .ok above ∧ q = above ++ [name] := by
  rw [follow_append] at leads
  cases start : t.follow place names with
  | error refusal =>
    rw [start] at leads
    cases leads
  | ok above =>
    rw [start] at leads
    change t.follow above [name] = .ok q at leads
    rw [follow] at leads
    -- The last step has to go into a directory, and since it does not go up it appends the name.
    split at leads
    · cases leads
    · cases leads
    · rw [if_neg notUp, follow] at leads
      split at leads
      · cases leads
      · exact ⟨above, rfl, (Except.ok.inj leads).symm⟩

/-- Names without two points lead straight down. -/
lemma follow_straight {q : List String} (straight : ".." ∉ names)
    (leads : t.follow place names = .ok q) : q = place ++ names := by
  induction names using List.reverseRecOn generalizing q with
  | nil => simpa [follow] using (Except.ok.inj leads).symm
  | append_singleton names name ih =>
    simp only [List.mem_append, List.mem_singleton, not_or] at straight
    obtain ⟨above, start, rfl⟩ := follow_concat (Ne.symm straight.2) leads
    rw [ih straight.1 start, List.append_assoc]

/-- Where a path leads, it leads as long as the directories are kept. -/
lemma follow_mono (kept : ∀ above, t.node? above = some .directory →
    t'.node? above = some .directory) {q : List String} (leads : t.follow place names = .ok q) :
    t'.follow place names = .ok q := by
  -- A walk only passes directories, and those are kept.
  induction names generalizing place with
  | nil => exact leads
  | cons name names ih =>
    rw [follow] at leads ⊢
    cases node : t.node? place with
    | none => simp [node] at leads
    | some n =>
      cases n with
      | file => simp [node] at leads
      | directory =>
        rw [kept _ node]
        simp only [node] at leads ⊢
        split at leads
        · cases leads
        · rename_i short
          rw [if_neg short]
          exact ih leads

lemma locate_mono (home : t'.workingDirectory = t.workingDirectory)
    (kept : ∀ above, t.node? above = some .directory → t'.node? above = some .directory)
    {q : List String} (leads : t.locate p = .ok q) : t'.locate p = .ok q := by
  obtain ⟨short, leads⟩ := follow_of_locate leads
  rw [locate, short, home]
  exact follow_mono kept leads

lemma locate_put (free : t.node? place ≠ some .directory) (n : FileNode) {q : List String}
    (leads : t.locate p = .ok q) : (t.put place n).locate p = .ok q :=
  locate_mono (workingDirectory_put t place n) (fun _ here => node?_put_directory free n here) leads

/-! ## Trees that grow -/

/-- What becomes of a tree when directories are made: whatever was there is kept, and whatever is
new is a directory. -/
structure Grown (t t' : FileTree) : Prop where
  home : t'.workingDirectory = t.workingDirectory
  kept : ∀ place n, t.node? place = some n → t'.node? place = some n
  new : ∀ place n, t'.node? place = some n → t.node? place = some n ∨ n = .directory

namespace Grown

lemma refl (t : FileTree) : t.Grown t := ⟨rfl, fun _ _ here => here, fun _ _ here => .inl here⟩

lemma trans {t'' : FileTree} (first : t.Grown t') (second : t'.Grown t'') : t.Grown t'' where
  home := second.home.trans first.home
  kept := fun place n here => second.kept place n (first.kept place n here)
  new := by
    intro place n here
    rcases second.new place n here with old | made
    · exact first.new place n old
    · exact .inr made

lemma locate (h : t.Grown t') {q : List String} (leads : t.locate p = .ok q) :
    t'.locate p = .ok q :=
  locate_mono h.home (fun _ here => h.kept _ _ here) leads

end Grown

/-! ## Looking at a path -/

/-- A path that the system refuses to look at, because it, or a name where it leads, is too long. -/
def TooLong (t : FileTree) (p : FilePath) : Prop :=
  holdsNul p = false ∧ t.locate p = .error .nameTooLong

lemma lookup_eq_some_iff : t.lookup p = .ok (some n) ↔
    holdsNul p = false ∧ ∃ place, t.locate p = .ok place ∧ t.node? place = some n := by
  unfold lookup
  cases holdsNul p with
  | true => simp
  | false =>
    cases t.locate p with
    | ok place => simp
    | error r => cases r <;> simp

lemma lookup_eq_error_iff {e : Failure} :
    t.lookup p = .error e ↔ t.TooLong p ∧ e = FileRefusal.nameTooLong.failure p := by
  unfold lookup TooLong
  cases holdsNul p with
  | true => simp
  | false =>
    cases t.locate p with
    | ok place => simp
    | error r => cases r <;> simp [eq_comm]

lemma isOk_lookup_iff : (t.lookup p).isOk = true ↔ ¬t.TooLong p := by
  cases seen : t.lookup p with
  | ok node =>
    refine iff_of_true rfl fun long => ?_
    rw [lookup_eq_error_iff.mpr ⟨long, rfl⟩] at seen
    cases seen
  | error e => exact iff_of_false Bool.false_ne_true (not_not.mpr (lookup_eq_error_iff.mp seen).1)

lemma isDirectory_iff : t.isDirectory p = .ok true ↔ t.lookup p = .ok (some .directory) := by
  unfold isDirectory
  cases t.lookup p with
  | error e => simp [Except.map]
  | ok node => rcases node with _ | _ | _ <;> simp [Except.map]

lemma isFile_iff : t.isFile p = .ok true ↔ ∃ data, t.lookup p = .ok (some (.file data)) := by
  unfold isFile
  cases t.lookup p with
  | error e => simp [Except.map]
  | ok node => rcases node with _ | _ | _ <;> simp [Except.map]

lemma isDirectory_eq_error_iff {e : Failure} :
    t.isDirectory p = .error e ↔ t.lookup p = .error e := by
  unfold isDirectory
  cases t.lookup p <;> simp [Except.map]

lemma isFile_eq_error_iff {e : Failure} : t.isFile p = .error e ↔ t.lookup p = .error e := by
  unfold isFile
  cases t.lookup p <;> simp [Except.map]

/-! ## Making directories -/

/-- A directory is made where nothing was. -/
lemma of_makeDirectory (made : t.makeDirectory p = .ok t') :
    ∃ place, t.locate p = .ok place ∧ t.node? place = none ∧ t' = t.put place .directory := by
  unfold makeDirectory at made
  cases leads : t.locate p with
  | error refusal =>
    rw [leads] at made
    cases made
  | ok place =>
    simp only [leads, bind, Except.bind] at made
    split at made
    · cases made
    · rename_i free
      exact ⟨place, rfl, free, (Except.ok.inj made).symm⟩

lemma grown_of_makeDirectory (made : t.makeDirectory p = .ok t') : t.Grown t' := by
  obtain ⟨place, -, free, rfl⟩ := of_makeDirectory made
  have below : place ≠ [] := ne_nil_of_node? (t := t) (by simp [free])
  refine ⟨workingDirectory_put t place _, fun other n here => ?_, fun other n here => ?_⟩
  · rw [node?_put below, if_neg, here]
    rintro rfl
    simp [free] at here
  · rw [node?_put below] at here
    split at here
    · exact .inr (Option.some.inj here).symm
    · exact .inl here

lemma isDirectory_of_makeDirectory (plain : holdsNul p = false)
    (made : t.makeDirectory p = .ok t') : t'.isDirectory p = .ok true := by
  have grown := grown_of_makeDirectory made
  obtain ⟨place, leads, free, rfl⟩ := of_makeDirectory made
  refine isDirectory_iff.mpr (lookup_eq_some_iff.mpr ⟨plain, place, grown.locate leads, ?_⟩)
  rw [node?_put (ne_nil_of_node? (t := t) (by simp [free])), if_pos rfl]

lemma keptDirectory_eq_ok {r : FileRefusal} (kept : t.keptDirectory p r = .ok ()) :
    t.isDirectory p = .ok true := by
  unfold keptDirectory at kept
  cases there : t.isDirectory p with
  | error e =>
    rw [there] at kept
    cases kept
  | ok b =>
    rw [there] at kept
    cases b with
    | true => rfl
    | false => cases kept

/-- What making directories comes to, whether it is refused or not: nothing is done, or one
directory is made, maybe after those above it.  If it is not refused, the directory is there
then. -/
lemma makeDirectoriesWithin_cases {depth : Nat} {result : Except Failure Unit}
    (made : t.makeDirectoriesWithin p (depth + 1) = (result, t')) :
    t' = t ∧ (result = .ok () → t.isDirectory p = .ok true) ∨ t.makeDirectory p = .ok t' ∨
      ∃ middle before, t.makeDirectoriesWithin p.parent depth = (before, middle) ∧
        (middle.makeDirectory p = .ok t' ∨
          t' = middle ∧ (result = .ok () → middle.isDirectory p = .ok true)) := by
  unfold makeDirectoriesWithin at made
  split at made
  · rename_i now
    obtain ⟨-, rfl⟩ := Prod.mk.inj made
    exact .inr (.inl now)
  -- Either something is there, or the parent is missing and made first, or another process was
  -- faster.
  · split at made
    · obtain ⟨rfl, rfl⟩ := Prod.mk.inj made
      exact .inl ⟨rfl, nofun⟩
    · refine .inr (.inr ?_)
      split at made
      · rename_i middle above
        obtain ⟨rfl, rfl⟩ := Prod.mk.inj made
        exact ⟨_, _, above, .inr ⟨rfl, nofun⟩⟩
      · rename_i middle above
        refine ⟨middle, _, above, ?_⟩
        split at made
        · rename_i last
          obtain ⟨-, rfl⟩ := Prod.mk.inj made
          exact .inl last
        · obtain ⟨rfl, rfl⟩ := Prod.mk.inj made
          exact .inr ⟨rfl, keptDirectory_eq_ok⟩
  · obtain ⟨rfl, rfl⟩ := Prod.mk.inj made
    exact .inl ⟨rfl, keptDirectory_eq_ok⟩

/-- Making directories is making one after the other, as far as it gets. -/
lemma tryDirectories_induction {P : FileTree → Prop}
    (step : ∀ {t t' : FileTree} {p : FilePath}, P t → t.makeDirectory p = .ok t' → P t')
    (start : P t) (p : FilePath) : P (t.tryDirectories p).2 := by
  -- The path and the tree that comes out change from one level to the next, the start does not.
  have within : ∀ {depth : Nat} {p : FilePath} {t' : FileTree} {result : Except Failure Unit},
      t.makeDirectoriesWithin p depth = (result, t') → P t' := by
    intro depth
    induction depth with
    | zero =>
      intro p t' result made
      obtain ⟨-, rfl⟩ := Prod.mk.inj made
      exact start
    | succ depth ih =>
      intro p t' result made
      obtain ⟨rfl, -⟩ | now | ⟨middle, before, above, last | ⟨rfl, -⟩⟩ :=
        makeDirectoriesWithin_cases made
      · exact start
      · exact step start now
      · exact step (ih above) last
      · exact ih above
  unfold tryDirectories
  split
  · exact start
  · exact within rfl

lemma grown_tryDirectories (t : FileTree) (p : FilePath) : t.Grown (t.tryDirectories p).2 :=
  tryDirectories_induction (fun grown step => grown.trans (grown_of_makeDirectory step)) (.refl t) p

lemma makeDirectories_eq_ok_iff :
    t.makeDirectories p = .ok t' ↔ t.tryDirectories p = (.ok (), t') := by
  unfold makeDirectories
  rcases t.tryDirectories p with ⟨failure | _, left⟩ <;> simp [Except.map]

lemma makeDirectories_eq_error_iff {e : Failure} :
    t.makeDirectories p = .error e ↔ (t.tryDirectories p).1 = .error e := by
  unfold makeDirectories
  rcases t.tryDirectories p with ⟨failure | _, left⟩ <;> simp [Except.map]

lemma grown_of_makeDirectories (made : t.makeDirectories p = .ok t') : t.Grown t' := by
  have grown := grown_tryDirectories t p
  rwa [makeDirectories_eq_ok_iff.mp made] at grown

lemma isDirectory_of_makeDirectories (made : t.makeDirectories p = .ok t') :
    t'.isDirectory p = .ok true := by
  have made := makeDirectories_eq_ok_iff.mp made
  unfold tryDirectories at made
  split at made
  · cases made
  · rename_i nul
    have plain : holdsNul p = false := by simpa using nul
    obtain ⟨rfl, there⟩ | now | ⟨middle, -, -, last | ⟨rfl, there⟩⟩ :=
      makeDirectoriesWithin_cases made
    · exact there rfl
    · exact isDirectory_of_makeDirectory plain now
    · exact isDirectory_of_makeDirectory plain last
    · exact there rfl

/-! ## Writing files -/

/-- A file is written where a path leads to, unless that is a directory. -/
lemma write_eq_ok {data : ByteArray} (written : t.write p data = .ok t') :
    ∃ place, t.locate p = .ok place ∧ t.node? place ≠ some .directory ∧
      t' = t.put place (.file data) := by
  unfold write at written
  split at written
  · cases written
  · split at written
    · cases written
    · rename_i place leads
      split at written
      · cases written
      · rename_i free
        exact ⟨place, leads, free, (Except.ok.inj written).symm⟩

/-! ## Well-formed trees -/

/-- A place where something can stand: the root, or one in a directory and under a name that the
tree takes. -/
inductive Reaches (t : FileTree) : List String → Prop
  | root : t.Reaches []
  | within {above : List String} {name : String} (inside : t.node? above = some .directory)
      (notUp : name ≠ "..") (short : name.utf8ByteSize ≤ longestName) :
      t.Reaches (above ++ [name])

/-- A tree in which everything stands in a directory, under a name that the tree takes, and once. -/
structure WellFormed (t : FileTree) : Prop where
  distinct : (t.nodes.map (·.1)).Nodup
  rootless : [] ∉ t.nodes.map (·.1)
  reached : ∀ place n, t.node? place = some n → t.Reaches place
  home : t.node? t.workingDirectory = some .directory

lemma Reaches.of_concat {above : List String} {name : String} (h : t.Reaches (above ++ [name])) :
    t.node? above = some .directory ∧ name ≠ ".." ∧ name.utf8ByteSize ≤ longestName := by
  generalize same : above ++ [name] = place at h
  cases h with
  | root => simp at same
  | within inside notUp short =>
    obtain ⟨rfl, last⟩ := List.append_inj' same rfl
    obtain rfl := List.singleton_inj.mp last
    exact ⟨inside, notUp, short⟩

/-- A step that keeps the directories keeps the places where something can stand. -/
lemma Reaches.mono (h : t.Reaches place)
    (kept : ∀ above, t.node? above = some .directory → t'.node? above = some .directory) :
    t'.Reaches place := by
  cases h with
  | root => exact .root
  | within inside notUp short => exact .within (kept _ inside) notUp short

namespace WellFormed

/-- What leads to something is a directory, and a name that the tree takes leads on from there. -/
lemma passes (wf : t.WellFormed) {name : String} {rest : List String}
    (here : t.node? (place ++ name :: rest) = some n) :
    t.node? place = some .directory ∧ name ≠ ".." ∧ name.utf8ByteSize ≤ longestName := by
  induction rest using List.reverseRecOn generalizing n with
  | nil => exact (wf.reached _ n here).of_concat
  | append_singleton rest last ih =>
    have split : place ++ name :: (rest ++ [last]) = (place ++ name :: rest) ++ [last] := by simp
    rw [split] at here
    exact ih (wf.reached _ n here).of_concat.1

/-- Whatever is there is found by following the names that lead there. -/
lemma follow (wf : t.WellFormed) (here : t.node? (place ++ names) = some n) :
    t.follow place names = .ok (place ++ names) := by
  induction names generalizing place with
  | nil => rw [List.append_nil, FileTree.follow]
  | cons name names ih =>
    obtain ⟨inside, notUp, short⟩ := wf.passes here
    rw [FileTree.follow, inside]
    dsimp only
    rw [if_neg (by omega), if_neg notUp, ih (by simpa using here), List.append_assoc,
      List.singleton_append]

lemma node?_dropLast (wf : t.WellFormed) (here : t.node? place = some .directory) :
    t.node? place.dropLast = some .directory := by
  induction place using List.reverseRecOn with
  | nil => exact here
  | append_singleton above name _ =>
    rw [List.dropLast_concat]
    exact (wf.reached _ _ here).of_concat.1

/-- Paths lead to places where something can stand. -/
lemma reaches_of_follow (wf : t.WellFormed) {start : List String} (from_ : t.Reaches start)
    (leads : t.follow start names = .ok place) : t.Reaches place := by
  -- Every step of the walk goes up, to where one came from, or down to a name that is short enough.
  induction names generalizing start with
  | nil =>
    obtain rfl := Except.ok.inj leads
    exact from_
  | cons name names ih =>
    rw [FileTree.follow] at leads
    split at leads
    · cases leads
    · cases leads
    · rename_i inside
      split at leads
      · cases leads
      · rename_i short
        refine ih ?_ leads
        split
        · exact wf.reached _ _ (wf.node?_dropLast inside)
        · rename_i notUp
          exact .within inside notUp (by omega)

lemma reaches_of_locate (wf : t.WellFormed) (leads : t.locate p = .ok place) :
    t.Reaches place := by
  refine wf.reaches_of_follow ?_ (follow_of_locate leads).2
  split
  · exact wf.reached _ _ wf.home
  · exact .root

lemma put (wf : t.WellFormed) (reaches : t.Reaches place)
    (free : t.node? place ≠ some .directory) (n : FileNode) : (t.put place n).WellFormed := by
  have below : place ≠ [] := ne_nil_of_node? free
  have kept : ∀ above, t.node? above = some .directory →
      (t.put place n).node? above = some .directory :=
    fun _ here => node?_put_directory free n here
  have keys : ((t.put place n).nodes.map (·.1)) = t.nodes.map (·.1) ∨
      place ∉ t.nodes.map (·.1) ∧
        ((t.put place n).nodes.map (·.1)) = t.nodes.map (·.1) ++ [place] := by
    unfold FileTree.put
    split
    · exact .inl (by simp [Function.comp_def])
    · rename_i new
      refine .inr ⟨?_, by simp⟩
      rwa [← Lookup.isSome_lookup_iff, ← node?_of_ne_nil (t := t) below]
  -- What stands in the place of a file adds no place, so only a new place has to be checked.
  refine ⟨?_, ?_, fun other m here => ?_, ?_⟩
  · obtain same | ⟨new, more⟩ := keys
    · exact same ▸ wf.distinct
    · rw [more, ← List.concat_eq_append]
      exact wf.distinct.concat new
  · obtain same | ⟨-, more⟩ := keys
    · exact same ▸ wf.rootless
    · simpa [more, below.symm] using wf.rootless
  · rw [node?_put below] at here
    split at here
    · rename_i same
      exact same ▸ reaches.mono kept
    · exact (wf.reached other m here).mono kept
  · rw [workingDirectory_put]
    exact kept _ wf.home

lemma makeDirectory (wf : t.WellFormed) (made : t.makeDirectory p = .ok t') : t'.WellFormed := by
  obtain ⟨place, leads, free, rfl⟩ := of_makeDirectory made
  exact wf.put (wf.reaches_of_locate leads) (by simp [free]) _

lemma makeDirectories (wf : t.WellFormed) (made : t.makeDirectories p = .ok t') :
    t'.WellFormed := by
  have kept := tryDirectories_induction (P := WellFormed) makeDirectory wf p
  rwa [makeDirectories_eq_ok_iff.mp made] at kept

lemma write (wf : t.WellFormed) {data : ByteArray} (written : t.write p data = .ok t') :
    t'.WellFormed := by
  obtain ⟨place, leads, free, rfl⟩ := write_eq_ok written
  exact wf.put (wf.reaches_of_locate leads) free _

lemma withFiles (wf : t.WellFormed) (files : List (FilePath × ByteArray)) :
    (t.withFiles files).WellFormed := by
  unfold FileTree.withFiles
  refine List.foldlRecOn files _ wf fun t wf (p, data) _ => ?_
  dsimp only
  split
  · rename_i t' done
    cases made : t.makeDirectories p.parent with
    | error failure =>
      rw [made] at done
      cases done
    | ok middle =>
      rw [made] at done
      exact (wf.makeDirectories made).write done
  · exact wf

/-- A tree with nothing but its working directory is well-formed. -/
lemma initial {home : List String}
    (named : ∀ name ∈ home, name ≠ ".." ∧ name.utf8ByteSize ≤ longestName) :
    (FileTree.initial home).WellFormed := by
  -- The places are the prefixes of the home directory, all of different lengths.
  have keys : (FileTree.initial home).nodes.map (·.1) =
      (List.range home.length).map fun k => home.take (k + 1) := by
    simp [FileTree.initial, Function.comp_def]
  have mem_keys : ∀ place, place ∈ (FileTree.initial home).nodes.map (·.1) ↔
      ∃ k < home.length, home.take (k + 1) = place := by
    simp [keys]
  have distinct : ((FileTree.initial home).nodes.map (·.1)).Nodup := by
    rw [keys]
    refine List.Nodup.map_on (fun j hj k hk same => ?_) List.nodup_range
    have lengths := congrArg List.length same
    simp only [List.length_take, List.mem_range] at lengths hj hk
    omega
  have rootless : [] ∉ (FileTree.initial home).nodes.map (·.1) := by
    rw [mem_keys]
    rintro ⟨k, bound, empty⟩
    have := congrArg List.length empty
    simp only [List.length_take, List.length_nil] at this
    omega
  have leads : ∀ k ≤ home.length,
      (FileTree.initial home).node? (home.take k) = some .directory := by
    rintro (_ | k) bound
    · rfl
    have mem : (home.take (k + 1), FileNode.directory) ∈ (FileTree.initial home).nodes :=
      List.mem_map.mpr ⟨k, List.mem_range.mpr bound, rfl⟩
    rw [node?_of_ne_nil fun empty => rootless (empty ▸ List.mem_map_of_mem mem)]
    exact Lookup.lookup_of_mem distinct mem
  refine ⟨distinct, rootless, fun place n here => ?_, ?_⟩
  · by_cases root : place = []
    · exact root ▸ .root
    rw [node?_of_ne_nil root] at here
    obtain ⟨k, bound, rfl⟩ := (mem_keys place).mp (Lookup.isSome_lookup_iff.mp (by simp [here]))
    obtain ⟨notUp, short⟩ := named home[k] (List.getElem_mem bound)
    rw [List.take_add_one, List.getElem?_eq_getElem bound]
    exact .within (leads k (Nat.le_of_lt bound)) notUp short
  · have whole := leads home.length (Nat.le_refl _)
    rwa [List.take_length] at whole

end WellFormed

end Reencode.FileTree
