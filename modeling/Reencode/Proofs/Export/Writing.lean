import Reencode.Proofs.Files.Path
import Reencode.Proofs.Files.Place
import Reencode.Proofs.Tools.Failing

/-!
# Writing one file

An exported name is read as a path, so what stands before its last slash decides where the file
goes: two points lead out of the directory that was asked for, and a leading slash has it forgotten.
Behind the last slash there is always a name, because an exported name ends in an extension
(`FilePath.exists_names_exportName`).  So the file comes to stand right in the directory that the
rest of its path leads to, which is the one that was asked for if the name has no slash.

Wherever it goes, writing it does nothing else: of what was there only a file in its place is
replaced, and what else is new are directories.
-/

namespace Reencode

variable {S O : Type}

/-! ## Exported names as paths -/

namespace FilePath

/-- The last name of an exported image's path is one that ends in the extension. -/
lemma exists_names_exportName (name : String) (format : Format) :
    ∃ before last, (ofString (exportName name format)).names = before ++ [last] ∧ last ≠ ".." := by
  have plain : '/' ∉ '.' :: format.extension.toList := by
    cases format <;> decide
  obtain ⟨before, last, -, split⟩ := splitSlashes_append (stemChars name.toList) plain
  rw [← toList_exportName] at split
  have long : 2 < (last ++ '.' :: format.extension.toList).length := by
    have extension : 2 < ('.' :: format.extension.toList).length := by cases format <;> decide
    rw [List.length_append]
    omega
  -- The last name has an extension, so that it is neither empty nor one or two points.
  have differs : ∀ short : List Char, short.length ≤ 2 →
      last ++ '.' :: format.extension.toList ≠ short := by
    rintro short few rfl
    omega
  refine ⟨(before.filter fun n => n ≠ [] && n ≠ ['.']).map String.ofList,
    String.ofList (last ++ '.' :: format.extension.toList), ?_, fun up => ?_⟩
  · have kept : [last ++ '.' :: format.extension.toList].filter
        (fun n => n ≠ [] && n ≠ ['.']) = [last ++ '.' :: format.extension.toList] := by
      simp [differs ['.'] (by decide)]
    rw [names_ofString, split, List.filter_append, kept, List.map_append]
    rfl
  · exact differs ['.', '.'] (by decide) (String.ofList_injective up)

lemma ofString_exportName {name : String} (plain : '/' ∉ name.toList) (format : Format) :
    ofString (exportName name format) = ⟨"", [exportName name format]⟩ := by
  refine ofString_plain ?_ ?_
  · rw [toList_exportName]
    intro mem
    rcases List.mem_append.mp mem with stem | extension
    · exact plain ((stemChars_isPrefix _).subset stem)
    · revert extension
      cases format <;> decide
  · have extension : 1 < ('.' :: format.extension.toList).length := by cases format <;> decide
    rw [toList_exportName, List.length_append]
    omega

end FilePath

/-- What is exported goes by the name of the entry with the extension of a format. -/
lemma Entry.name_of_exported? {e : Entry} {file : ExportedFile}
    (exported : e.exported? = some file) :
    ∃ format, file.name = exportName e.name format := by
  unfold exported? at exported
  split at exported
  · obtain rfl := Option.some.inj exported
    exact ⟨_, rfl⟩
  · cases exported

/-! ## Files that are written -/

namespace FileTree

variable {t t' : FileTree} {p : FilePath} {data : ByteArray} {place : List String}

/-- What writing a file comes to, directories being made before if need be: it stands in its place,
what else was there is kept, and what else is new is a directory. -/
structure Receives (t : FileTree) (place : List String) (data : ByteArray) (t' : FileTree) :
    Prop where
  written : t'.node? place = some (.file data)
  replaces : t.node? place ≠ some .directory
  kept : ∀ other n, other ≠ place → t.node? other = some n → t'.node? other = some n
  new : ∀ other n, other ≠ place → t'.node? other = some n →
    t.node? other = some n ∨ n = .directory

lemma Grown.receives (grown : t.Grown t') (free : t'.node? place ≠ some .directory) :
    t.Receives place data (t'.put place (.file data)) := by
  have below : place ≠ [] := ne_nil_of_node? free
  refine ⟨?_, fun here => free (grown.kept _ _ here), fun other n away here => ?_,
    fun other n away here => ?_⟩
  · rw [node?_put below, if_pos rfl]
  · rw [node?_put below, if_neg away]
    exact grown.kept _ _ here
  · rw [node?_put below, if_neg away] at here
    exact grown.new _ _ here

/-- A path is not too long if a longer one is not. -/
lemma isTooLong_of_concat {root last : String} {before : List String}
    (short : isTooLong ⟨root, before ++ [last]⟩ = false) : isTooLong ⟨root, before⟩ = false := by
  by_cases atStart : before = []
  · subst atStart
    by_cases relative : root = ""
    · subst relative
      rfl
    · simp [isTooLong, FilePath.text, relative] at short ⊢
      omega
  · simp [isTooLong, FilePath.text, atStart, String.intercalate_append_of_ne_nil] at short ⊢
    omega

/-- A path leads right into the directory that its parent leads to. -/
lemma locate_parent {before : List String} {last : String} (names : p.names = before ++ [last])
    (notUp : last ≠ "..") (leads : t.locate p = .ok place) :
    ∃ above, t.locate p.parent = .ok above ∧ place = above ++ [last] := by
  obtain ⟨root, _⟩ := p
  obtain rfl : _ = before ++ [last] := names
  obtain ⟨short, leads⟩ := follow_of_locate leads
  obtain ⟨above, parent, rfl⟩ := follow_concat notUp leads
  refine ⟨above, ?_, rfl⟩
  rw [FilePath.parent, List.dropLast_concat, locate, isTooLong_of_concat short]
  exact parent

end FileTree

namespace Session

variable {s s' : Session S O} {id : EntryId} {directory path : FilePath}

/-- Where the file of an entry goes: the directory is made if need be, and then the file is put
where its path leads. -/
lemma of_run_writeOne (gave : s.run (writeOne id directory) = (.ok path, s')) :
    ∃ e file made place, s.collection.get? id = some e ∧ e.exported? = some file ∧
      path = directory.join (.ofString file.name) ∧
      s.files.makeDirectories directory = .ok made ∧
      made.locate path = .ok place ∧ made.node? place ≠ some .directory ∧
      s'.files = made.put place (.file file.data) := by
  rw [writeOne] at gave
  rcases exportOne_cases s id with
    ⟨message, missing⟩ | ⟨message, unready⟩ | ⟨e, file, found, exported, first⟩
  · rw [run_bind, missing] at gave
    cases gave
  · rw [run_bind, unready] at gave
    cases gave
  · rw [run_bind_ok first] at gave
    obtain ⟨_, s₁, makes, gave⟩ := exists_of_run_bind_ok gave
    obtain ⟨_, s₂, writes, gave⟩ := exists_of_run_bind_ok gave
    obtain ⟨made, -⟩ := ok_of_run_makeDirectories makes
    obtain ⟨written, -⟩ := ok_of_run_writeFile writes
    obtain ⟨place, leads, free, put⟩ := FileTree.write_eq_ok written
    cases gave
    exact ⟨e, file, s₁.files, place, found, exported, rfl, made, leads, free, put⟩

/-- Even if the file cannot be written, all that was done to the files is to make directories. -/
lemma grown_of_run_writeOne {failure : Failure}
    (failed : s.run (writeOne id directory) = (.error failure, s')) :
    s.files.Grown s'.files := by
  rw [writeOne] at failed
  rcases exportOne_cases s id with
    ⟨message, missing⟩ | ⟨message, unready⟩ | ⟨e, file, found, exported, first⟩
  · rw [run_bind, missing] at failed
    cases failed
    exact .refl _
  · rw [run_bind, unready] at failed
    cases failed
    exact .refl _
  · rw [run_bind_ok first] at failed
    rcases or_exists_of_run_bind_error failed with early | ⟨_, s₁, makes, late⟩
    · exact (error_of_run_makeDirectories early).2.1
    · obtain ⟨made, -⟩ := ok_of_run_makeDirectories makes
      rcases or_exists_of_run_bind_error late with early | ⟨_, _, -, last⟩
      · obtain ⟨-, rfl⟩ := error_of_run_writeFile early
        exact FileTree.grown_of_makeDirectories made
      · cases last

end Session

/-- **One file is written, in the directory that its path leads to.**  Writing the output of an
entry into a directory makes the directory if need be, and puts one file with the bytes of the
output right into the directory that the path of the exported name leads to from there.  Nothing
else that was there is changed or removed, no directory is replaced, and whatever else is new is a
directory.  The file is in the directory that was asked for exactly if what the name says before its
last slash leads back to it; under its own name it is there whenever the entry's name has no slash.
If writing fails, everything that was there is kept. -/
theorem one_file_is_written (s : Session S O) (id : EntryId) (directory : FilePath) :
    match s.run (Session.writeOne id directory) with
    | (.ok path, s') => ∃ e file home place, s.collection.get? id = some e ∧
        e.exported? = some file ∧ path = directory.join (.ofString file.name) ∧
        s'.files.locate directory = .ok home ∧ s'.files.node? home = some .directory ∧
        s'.files.locate path = .ok place ∧ s.files.Receives place file.data s'.files ∧
        ((∃ name, place = home ++ [name]) ↔ s'.files.locate path.parent = .ok home) ∧
        ('/' ∉ e.name.toList → place = home ++ [file.name])
    | (.error _, s') => s.files.Grown s'.files := by
  rcases result : s.run (Session.writeOne id directory) with ⟨failure | path, s'⟩
  · exact Session.grown_of_run_writeOne result
  obtain ⟨e, file, made, place, found, exported, joined, makes, leads, free, put⟩ :=
    Session.of_run_writeOne result
  -- Directories that are made on the way do not move anything that was there before.
  have grown := FileTree.grown_of_makeDirectories makes
  obtain ⟨-, home, there, isHome⟩ := FileTree.lookup_eq_some_iff.mp
    (FileTree.isDirectory_iff.mp (FileTree.isDirectory_of_makeDirectories makes))
  have keeps : ∀ {q : FilePath} {goal : List String}, made.locate q = .ok goal →
      s'.files.locate q = .ok goal :=
    fun leads => put ▸ FileTree.locate_put free _ leads
  obtain ⟨format, named⟩ := Entry.name_of_exported? exported
  obtain ⟨before, last, names, notUp⟩ := FilePath.exists_names_exportName e.name format
  rw [← named] at names
  obtain ⟨before', names'⟩ := directory.names_join names
  obtain ⟨above, parent, rfl⟩ := FileTree.locate_parent (joined ▸ names') notUp leads
  refine ⟨e, file, home, above ++ [last], found, exported, joined, keeps there, ?_, keeps leads,
    put ▸ grown.receives free, ⟨?_, fun back => ?_⟩, fun plain => ?_⟩
  · rw [put]
    exact FileTree.node?_put_directory free _ isHome
  · rintro ⟨name, same⟩
    obtain rfl := (List.append_inj' same rfl).1
    exact keeps parent
  · obtain rfl := Except.ok.inj ((keeps parent).symm.trans back)
    exact ⟨last, rfl⟩
  -- Without a slash the name is one step into the directory, and the step does not go up.
  · have single : FilePath.ofString file.name = ⟨"", [file.name]⟩ :=
      named ▸ FilePath.ofString_exportName plain format
    rw [single] at names joined
    have last_eq : [file.name] = [last] :=
      (List.append_inj' (show [] ++ [file.name] = before ++ [last] from names) rfl).2
    obtain rfl := List.singleton_inj.mp last_eq
    rw [joined, FileTree.locate_join there] at leads
    split at leads
    · cases leads
    · exact FileTree.follow_straight (by simpa using notUp.symm) leads

/-- A name without a slash stays in the directory, which is made on the way. -/
theorem one_file_is_written_of_plain :
    let start : Collection ByteArray := .empty (.initial 4 .onDemand .empty) .jpeg
    let w := Surroundings.unobserved Codec.verbatim 0
    let s := (Session.fresh start ()).afterAll w [.operation (.add "photo.png" ⟨#[1]⟩),
      .operation (.runJobs [1]), .operation .drain]
    let out := FilePath.ofString "out/a"
    ∃ path s', s.run (Session.writeOne (.nth 1) out) = (.ok path, s') ∧
      s'.files.locate out = .ok ["out", "a"] ∧
      s.files.Receives ["out", "a", "photo.jpg"] ⟨#[1]⟩ s'.files := by
  intro start w s out
  have gives : (s.run (Session.writeOne (.nth 1) out)).1.toOption =
      some (.ofString "out/a/photo.jpg") := by decide +kernel
  have located : (s.run (Session.writeOne (.nth 1) out)).2.files.locate out = .ok ["out", "a"] := by
    decide +kernel
  have name : (s.collection.get? (.nth 1)).map (·.name) = some "photo.png" := by decide +kernel
  have output : ((s.collection.get? (.nth 1)).bind Entry.exported?).map
      (fun file => (file.name, file.data)) = some ("photo.jpg", ⟨#[1]⟩) := by decide +kernel
  clear_value s
  have stays := one_file_is_written s (.nth 1) out
  rw [Session.run_eq_ok gives] at stays
  obtain ⟨e, file, home, place, found, exported, -, there, -, -, receives, -, plain⟩ := stays
  obtain rfl := Except.ok.inj (there.symm.trans located)
  simp only [found, exported, Option.map_some, Option.bind_some, Option.some.injEq,
    Prod.mk.injEq] at name output
  obtain ⟨named, data⟩ := output
  have stands : place = ["out", "a", "photo.jpg"] := by
    rw [plain (by rw [name]; decide), named]
    rfl
  exact ⟨_, _, Session.run_eq_ok gives, located, stands ▸ data ▸ receives⟩

/-- Two points lead out of the directory, to a file that has nothing to do with it. -/
theorem one_file_escapes :
    let start : Collection ByteArray := .empty (.initial 4 .onDemand .empty) .jpeg
    let w := Surroundings.unobserved Codec.verbatim 0
    let tree := (FileTree.initial []).withFiles [(.ofString "victim.jpg", ⟨#[9]⟩)]
    let s := { (Session.fresh start ()).afterAll w [.operation (.add "../victim.png" ⟨#[1]⟩),
      .operation (.runJobs [1]), .operation .drain] with files := tree }
    let s' := (s.run (Session.writeOne (.nth 1) (.ofString "out"))).2
    ∃ path home place,
      (s.run (Session.writeOne (.nth 1) (.ofString "out"))).1.toOption = some path ∧
      s'.files.locate (.ofString "out") = .ok home ∧ s'.files.locate path = .ok place ∧
      (¬∃ name, place = home ++ [name]) ∧
      (s.files.read (.ofString "victim.jpg")).toOption = some ⟨#[9]⟩ ∧
      (s'.files.read (.ofString "victim.jpg")).toOption = some ⟨#[1]⟩ := by
  intro start w tree s s'
  refine ⟨.ofString "out/../victim.jpg", ["out"], ["victim.jpg"], by decide +kernel,
    by decide +kernel, by decide +kernel, ?_, by decide +kernel, by decide +kernel⟩
  rintro ⟨name, inside⟩
  simp at inside

end Reencode
