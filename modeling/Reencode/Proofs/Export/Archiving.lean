import Reencode.Proofs.Export.Writing
import Reencode.Proofs.Session.Observers

/-!
# Archives and what is said of them

An archive is packed from one collection of files, and the names that are reported are the ones the
files were collected under.  These are distinct, because each was free when it was given out.  An
archive has its own way with names, though: the name of a member ends at the first NUL.  So what is
reported is in the archive exactly if no reported name holds one (`Archive.Packs.names_iff`), and a
name of which nothing is left, or too much, keeps anything from being exported at all.

Jobs come to nothing but outcomes in the mailbox, so it does not matter which of them finish before
the files are collected; and an archive that was written is a file, which no operation touches.
-/

namespace Reencode

variable {S O : Type}

/-! ## Packing -/

namespace Archive

variable {a a' : Archive} {name : String} {files : List ExportedFile}

/-- Whether an archive takes a file under a name. -/
def Takes (name : String) : Prop :=
  memberName name ≠ "" ∧ (memberName name).utf8ByteSize ≤ longestMemberName

lemma memberName_eq_iff : memberName name = name ↔ '\x00' ∉ name.toList := by
  have chars : memberName name = name ↔
      name.toList.takeWhile (· != '\x00') = name.toList := by
    rw [memberName, ← String.toList_inj, String.toList_ofList]
  rw [chars]
  constructor
  · intro whole mem
    have kept := List.mem_takeWhile_imp (whole.symm ▸ mem)
    simp at kept
  · intro plain
    refine List.takeWhile_eq_self_iff.mpr fun c mem => ?_
    simpa using fun nul : c = '\x00' => plain (nul ▸ mem)

/-- An archive that holds certain files: one member for each of them, in order, with its bytes and
with what is left of its name. -/
structure Packs (a : Archive) (files : List ExportedFile) : Prop where
  members : a.members = files.map fun f => ⟨memberName f.name, f.data⟩
  names : a.names = files.map (·.name)
  finished : a.finished = true

/-- What was asked for is in an archive exactly if no name holds a NUL. -/
lemma Packs.names_iff (h : a.Packs files) :
    a.members.map (·.name) = files.map (·.name) ↔ ∀ f ∈ files, '\x00' ∉ f.name.toList := by
  rw [h.members, List.map_map, List.map_inj_left]
  exact forall₂_congr fun f _ => memberName_eq_iff

lemma add_of_takes (isOpen : a.finished = false) (level : isLevel a.level = true)
    (takes : Takes name) (data : ByteArray) :
    a.add name data = (.ok (), { a with
      members := a.members ++ [⟨memberName name, data⟩], names := a.names ++ [name] }) := by
  simp [add, isOpen, level, takes.1, takes.2]

lemma takes_of_add {data : ByteArray} (added : a.add name data = (.ok (), a')) : Takes name := by
  unfold add at added
  split at added
  · cases added
  · split at added
    · cases added
    · rename_i proper
      split at added
      · cases added
      · rename_i short
        exact ⟨proper, by omega⟩

/-- Files are added one after the other, as long as the archive takes them. -/
lemma addAll_of_takes (isOpen : a.finished = false) (level : isLevel a.level = true)
    (takes : ∀ f ∈ files, Takes f.name) :
    a.addAll (files.map fun f => (f.name, f.data)) = .ok { a with
      members := a.members ++ files.map (fun f => ⟨memberName f.name, f.data⟩)
      names := a.names ++ files.map (·.name) } := by
  induction files generalizing a with
  | nil => simp [addAll]
  | cons f rest ih =>
    obtain ⟨first, others⟩ := List.forall_mem_cons.mp takes
    rw [List.map_cons, addAll, add_of_takes isOpen level first]
    have later := ih (a := { a with
      members := a.members ++ [⟨memberName f.name, f.data⟩], names := a.names ++ [f.name] })
      isOpen level others
    exact later.trans (by simp)

lemma takes_of_addAll (added : a.addAll (files.map fun f => (f.name, f.data)) = .ok a') :
    ∀ f ∈ files, Takes f.name := by
  induction files generalizing a with
  | nil => simp
  | cons f rest ih =>
    rw [List.map_cons, addAll] at added
    split at added
    · rename_i first
      exact List.forall_mem_cons.mpr ⟨takes_of_add first, ih added⟩
    · cases added

end Archive

/-! ## Names that are given out -/

/-- Files that are renamed go by distinct names. -/
lemma ExportedFile.rename_apart (u : UniqueNames) (files : List ExportedFile) :
    Apart u.taken (rename u files) := by
  induction files generalizing u with
  | nil => exact ⟨List.nodup_nil, by simp [rename]⟩
  | cons f rest ih =>
    exact .cons (ih ⟨u.choose f.name :: u.taken⟩) (u.choose_not_mem f.name)

/-- Telling names apart brings no characters into them but those of a number. -/
lemma UniqueNames.of_mem_choose {u : UniqueNames} {name : String} {c : Char}
    (mem : c ∈ (u.choose name).toList) : c ∈ name.toList ∨ c = '_' ∨ c.isDigit = true := by
  by_cases taken : name ∈ u.taken
  · obtain ⟨k, -, chosen⟩ := choose_of_taken taken
    rw [chosen, numbered, String.toList_ofList] at mem
    simp only [List.mem_append, List.mem_cons] at mem
    rcases mem with (stem | rfl | digit) | rest
    · exact .inl ((stemChars_isPrefix _).subset stem)
    · exact .inr (.inl rfl)
    · rw [Nat.toString_eq_ofList_toDigits, String.toList_ofList] at digit
      exact .inr (.inr (Nat.isDigit_of_mem_toDigits (by decide) (by decide) digit))
    · exact .inl (List.mem_of_mem_drop rest)
  · rw [choose_of_free taken] at mem
    exact .inl mem

lemma ExportedFile.of_mem_rename {u : UniqueNames} {files : List ExportedFile} {f : ExportedFile}
    (mem : f ∈ rename u files) :
    ∃ u' : UniqueNames, ∃ old ∈ files, f.name = u'.choose old.name := by
  induction files generalizing u with
  | nil => cases mem
  | cons first rest ih =>
    rcases List.mem_cons.mp mem with rfl | later
    · exact ⟨u, first, List.mem_cons_self, rfl⟩
    · obtain ⟨u', old, among, chosen⟩ := ih later
      exact ⟨u', old, List.mem_cons_of_mem _ among, chosen⟩

/-- A NUL in an exported name comes from the name of an entry. -/
lemma Collection.plain_exported {c : Collection S}
    (plain : ∀ e ∈ c.entries, '\x00' ∉ e.name.toList) :
    ∀ f ∈ c.exported, '\x00' ∉ f.name.toList := by
  intro f mem nul
  obtain ⟨u, old, among, chosen⟩ := ExportedFile.of_mem_rename mem
  obtain ⟨e, entry, exports⟩ := List.mem_filterMap.mp among
  obtain ⟨format, named⟩ := Entry.name_of_exported? exports
  rw [chosen] at nul
  have own : '\x00' ∈ old.name.toList := by
    simpa using UniqueNames.of_mem_choose nul
  rw [named, toList_exportName] at own
  rcases List.mem_append.mp own with stem | extension
  · exact plain e entry ((stemChars_isPrefix _).subset stem)
  · revert extension
    cases format <;> decide

/-! ## Sessions -/

/-- Observers that leave the files alone. -/
def Surroundings.KeepsFiles (w : Surroundings S O) : Prop :=
  ∀ tag event (s : Session S O), (s.run (w.react tag event)).2.files = s.files

namespace Session

variable {w : Surroundings S O} {s s' : Session S O}

lemma files_told (keeps : w.KeepsFiles) (event : Event) (s : Session S O) :
    (s.told w event).files = s.files := by
  rw [told_eq_foldl]
  refine List.foldlRecOn (motive := fun t : Session S O => t.files = s.files) _ _ rfl
    fun t same tag _ => ?_
  obtain ⟨records, notification⟩ := run_notify w event t tag
  rw [notified, notification]
  exact (keeps tag event t).trans same

lemma files_eq_of_path (keeps : w.KeepsFiles) {ds : List Deed} (path : Path w s ds s') :
    s'.files = s.files := by
  induction path with
  | start => rfl
  | log _ _ ih => exact ih
  | silent _ _ _ ih => exact ih
  | told _ _ _ _ ih => exact (files_told keeps _ _).trans ih

/-- Operations do not touch the files. -/
lemma files_after (keeps : w.KeepsFiles) (s : Session S O) (ops : List Operation) :
    (s.after w ops).files = s.files := by
  induction ops generalizing s with
  | nil => rfl
  | cons op rest ih =>
    obtain ⟨ds, path, -⟩ := op.perform_leads (w := w) s
    exact (ih _).trans (files_eq_of_path keeps path)

/-- An archive is built if it takes every name. -/
lemma run_buildArchive (takes : ∀ f ∈ s.collection.exported, Archive.Takes f.name) :
    ∃ (archive : Archive) (s' : Session S O), archive.Packs s.collection.exported ∧
      s.run (buildArchive Settings.compressionLevel) =
        (.ok (archive, s.collection.exported.map (·.name)), s') ∧
      s'.collection = s.collection ∧ s'.files = s.files := by
  let archive : Archive := ⟨Settings.compressionLevel,
    s.collection.exported.map fun f => ⟨Archive.memberName f.name, f.data⟩,
    s.collection.exported.map (·.name), true⟩
  obtain ⟨records, collected⟩ := run_collect s
  have added := Archive.addAll_of_takes (a := .empty Settings.compressionLevel) rfl (by decide)
    takes
  rw [buildArchive, run_bind_ok collected, run_bind_ok (by rw [run_lift, added]),
    run_bind_ok (run_log _ _ _)]
  exact ⟨archive, _, ⟨rfl, rfl, rfl⟩, rfl, rfl, rfl⟩

lemma takes_of_run_buildArchive {level : Int} {built : Archive × List String}
    (gave : s.run (buildArchive level) = (.ok built, s')) :
    ∀ f ∈ s.collection.exported, Archive.Takes f.name := by
  obtain ⟨records, collected⟩ := run_collect s
  rw [buildArchive, run_bind_ok collected] at gave
  obtain ⟨archive, s₁, added, -⟩ := exists_of_run_bind_ok gave
  rw [run_lift] at added
  exact Archive.takes_of_addAll (Prod.ext_iff.mp added).1

/-- What is built is an archive of the files to export, with the names of all of them. -/
lemma of_run_buildArchive {built : Archive × List String}
    (gave : s.run (buildArchive Settings.compressionLevel) = (.ok built, s')) :
    built.1.Packs s.collection.exported ∧ built.2 = s.collection.exported.map (·.name) ∧
      s'.collection = s.collection ∧ s'.files = s.files := by
  obtain ⟨archive, s₁, packs, builds, kept⟩ := run_buildArchive (takes_of_run_buildArchive gave)
  rw [builds] at gave
  cases gave
  exact ⟨packs, rfl, kept⟩

/-- Where an archive is written. -/
def archivePath (s : Session S O) (destination : FilePath) : FilePath :=
  if s.files.isDirectory destination = .ok true then
    destination.join (.ofString s.settings.archiveName)
  else destination

lemma archivePath_of_isDirectory {destination : FilePath} {there : Bool}
    (looked : s.files.isDirectory destination = .ok there) :
    s.archivePath destination =
      if there then destination.join (.ofString s.settings.archiveName) else destination := by
  simp [archivePath, looked]

/-- What writing an archive comes to. -/
lemma of_run_writeArchive {destination : FilePath} {written : WrittenArchive}
    (gave : s.run (writeArchive destination) = (.ok written, s')) :
    ∃ place, written.path = s.archivePath destination ∧
      written.archive.Packs s.collection.exported ∧
      written.names = s.collection.exported.map (·.name) ∧
      s'.files.locate written.path = .ok place ∧
      s.files.Receives place written.archive.toBytes s'.files ∧ s'.collection = s.collection := by
  -- The steps of the program in turn: it looks at the destination, makes the parent, builds and
  -- writes.
  rw [writeArchive, run_bind_ok (run_get s)] at gave
  obtain ⟨there, s₀, looks, gave⟩ := exists_of_run_bind_ok gave
  obtain ⟨looked, rfl⟩ := Prod.ext_iff.mp ((run_lift _ _).symm.trans looks)
  dsimp only at gave
  rw [← archivePath_of_isDirectory looked] at gave
  obtain ⟨_, s₁, makes, gave⟩ := exists_of_run_bind_ok gave
  obtain ⟨⟨archive, names⟩, s₂, builds, gave⟩ := exists_of_run_bind_ok gave
  obtain ⟨_, s₃, writes, gave⟩ := exists_of_run_bind_ok gave
  obtain ⟨made, same⟩ := ok_of_run_makeDirectories makes
  obtain ⟨wrote, same'⟩ := ok_of_run_writeFile writes
  obtain ⟨packs, reported, kept, files⟩ := of_run_buildArchive builds
  obtain ⟨place, leads, free, put⟩ := FileTree.write_eq_ok wrote
  cases gave
  have grown : s.files.Grown s₂.files := files ▸ FileTree.grown_of_makeDirectories made
  refine ⟨place, rfl, same ▸ packs, same ▸ reported, ?_, ?_, same'.trans (kept.trans same)⟩
  · rw [put]
    exact FileTree.locate_put free _ leads
  · rw [put]
    exact grown.receives free

/-- Writing an archive that takes every name fails only if the files refuse it. -/
lemma refused_of_run_writeArchive {destination : FilePath} {failure : Failure}
    (takes : ∀ f ∈ s.collection.exported, Archive.Takes f.name)
    (failed : s.run (writeArchive destination) = (.error failure, s')) :
    s.files.isDirectory destination = .error failure ∨
      s.files.makeDirectories (s.archivePath destination).parent = .error failure ∨
      ∃ made data, s.files.makeDirectories (s.archivePath destination).parent = .ok made ∧
        made.write (s.archivePath destination) data = .error failure := by
  rw [writeArchive, run_bind_ok (run_get s)] at failed
  rcases or_exists_of_run_bind_error failed with unseen | ⟨there, s₀, looks, failed⟩
  · rw [run_lift] at unseen
    exact .inl (Prod.ext_iff.mp unseen).1
  obtain ⟨looked, rfl⟩ := Prod.ext_iff.mp ((run_lift _ _).symm.trans looks)
  dsimp only at failed
  rw [← archivePath_of_isDirectory looked] at failed
  right
  -- Names can be taken, so building does not fail; making the parent or writing is what is left.
  rcases or_exists_of_run_bind_error failed with early | ⟨_, s₁, makes, later⟩
  · exact .inl (error_of_run_makeDirectories early).1
  obtain ⟨made, same⟩ := ok_of_run_makeDirectories makes
  obtain ⟨archive, s₂, -, builds, -, files⟩ := run_buildArchive (s := s₁) (same ▸ takes)
  rw [run_bind_ok builds] at later
  rcases or_exists_of_run_bind_error later with refused | ⟨_, s₃, -, last⟩
  · obtain ⟨refused, -⟩ := error_of_run_writeFile refused
    exact .inr ⟨s₁.files, archive.toBytes, made, files ▸ refused⟩
  · cases last

end Session

/-- **Archives hold what was collected, and what is reported as long as no name holds a NUL.**  In
every session, the files that are collected have distinct names.  Exporting them succeeds exactly if
an archive takes each of their names; it then has one member for each file, in order, with its bytes
and with what is left of its name.  Writing the archive fails in no other way unless the files
refuse it; otherwise its bytes stand where it says, everything else that was there is kept, and the
names it reports are those of all files collected.  These are the names of the members, which then
are distinct, exactly if none of them holds a NUL, and so if no entry's name does.  It does not
matter which jobs finish before the files are collected, and nothing that is done afterwards
touches the archive. -/
theorem archives_are_reported (s : Session S O) :
    let files := s.collection.exported
    (∃ records, s.run Session.collect = (.ok files, s.logged records)) ∧
    (files.map (·.name)).Nodup ∧
    (match s.run Session.exportAll with
      | (.ok archive, s') => (∀ f ∈ files, Archive.Takes f.name) ∧ archive.Packs files ∧
          s'.collection = s.collection ∧ s'.files = s.files
      | (.error _, _) => ¬∀ f ∈ files, Archive.Takes f.name) ∧
    (∀ destination, match s.run (Session.writeArchive destination) with
      | (.ok written, s') => ∃ place, written.path = s.archivePath destination ∧
          written.archive.Packs files ∧ written.names = files.map (·.name) ∧
          s'.files.locate written.path = .ok place ∧
          s.files.Receives place written.archive.toBytes s'.files ∧
          s'.collection = s.collection ∧
          ∀ w : Surroundings S O, w.KeepsFiles → ∀ ops, (s'.after w ops).files = s'.files
      | (.error failure, _) => (∀ f ∈ files, Archive.Takes f.name) →
          s.files.isDirectory destination = .error failure ∨
            s.files.makeDirectories (s.archivePath destination).parent = .error failure ∨
            ∃ made data, s.files.makeDirectories (s.archivePath destination).parent = .ok made ∧
              made.write (s.archivePath destination) data = .error failure) ∧
    (∀ archive : Archive, archive.Packs files →
      (archive.members.map (·.name) = files.map (·.name) ↔ ∀ f ∈ files, '\x00' ∉ f.name.toList)) ∧
    ((∀ e ∈ s.collection.entries, '\x00' ∉ e.name.toList) → ∀ f ∈ files, '\x00' ∉ f.name.toList) ∧
    ∀ (w : Surroundings S O) (numbers : List Nat),
      let later := s.after w [.runJobs numbers]
      later.collection.exported = files ∧ later.files = s.files := by
  intro files
  refine ⟨s.run_collect, (ExportedFile.rename_apart .empty _).distinct, ?_, fun destination => ?_,
    fun archive packs => packs.names_iff, Collection.plain_exported, fun w numbers => ⟨rfl, rfl⟩⟩
  -- Building fails exactly on a name that an archive does not take.
  · rw [Session.exportAll, Session.run_bind]
    rcases result : s.run (Session.buildArchive Settings.compressionLevel) with
      ⟨failure | built, s'⟩
    · intro takes
      obtain ⟨archive, s₁, -, builds, -⟩ := Session.run_buildArchive takes
      rw [builds] at result
      cases result
    · obtain ⟨packs, -, kept⟩ := Session.of_run_buildArchive result
      exact ⟨Session.takes_of_run_buildArchive result, packs, kept⟩
  · rcases result : s.run (Session.writeArchive destination) with ⟨failure | written, s'⟩
    · exact fun takes => Session.refused_of_run_writeArchive takes result
    · obtain ⟨place, path, packs, names, leads, receives, kept⟩ :=
        Session.of_run_writeArchive result
      exact ⟨place, path, packs, names, leads, receives, kept,
        fun w keeps ops => Session.files_after keeps s' ops⟩

/-- Two images that export to one name are told apart in the archive as in the report.  Jobs that
finish before the archive is written make no difference to it, nor does what is done afterwards. -/
theorem archives_are_reported_of_colliding :
    let start : Collection ByteArray := .empty (.initial 4 .onDemand .empty) .jpeg
    let w := Surroundings.unobserved Codec.verbatim 0
    let s := (Session.fresh start ()).after w [.add "photo.png" ⟨#[1]⟩, .add "photo.webp" ⟨#[2]⟩,
      .runJobs [1, 2], .drain, .add "late.png" ⟨#[3]⟩, .runJobs [3]]
    ∃ written s', s.run (Session.writeArchive (.ofString "out/x.zip")) = (.ok written, s') ∧
      written.archive.members.map (fun m => (m.name, m.data)) =
        [("photo.jpg", ⟨#[1]⟩), ("photo_1.jpg", ⟨#[2]⟩)] ∧
      written.names = written.archive.members.map (·.name) ∧
      (s'.after w [.drain, .clear]).files = s'.files := by
  intro start w s
  have gives : (s.run (Session.writeArchive (.ofString "out/x.zip"))).1.toOption.isSome = true := by
    decide +kernel
  have exported : s.collection.exported.map (fun f => (f.name, f.data)) =
      [("photo.jpg", ⟨#[1]⟩), ("photo_1.jpg", ⟨#[2]⟩)] := by decide +kernel
  have plain : ∀ f ∈ s.collection.exported, '\x00' ∉ f.name.toList := by decide +kernel
  -- The files are evaluated; from here on only what was found out about them is used.
  clear_value s
  obtain ⟨written, gives⟩ := Option.isSome_iff_exists.mp gives
  have result := Session.run_eq_ok gives
  obtain ⟨-, -, -, writes, reports, -⟩ := archives_are_reported s
  have writes := writes (.ofString "out/x.zip")
  rw [result] at writes
  obtain ⟨place, -, packs, names, -, -, -, kept⟩ := writes
  refine ⟨written, _, result, ?_, ?_, kept w (fun _ _ _ => rfl) _⟩
  · have members : written.archive.members.map (fun m => (m.name, m.data)) =
        (s.collection.exported.map fun f => (f.name, f.data)).map
          fun f => (Archive.memberName f.1, f.2) := by
      simp [packs.members]
    rw [members, exported]
    decide +kernel
  · rw [names, (reports written.archive packs).mpr plain]

/-- Of two names that differ behind a NUL nothing but the same name is left in the archive. -/
theorem archives_differ_of_cut :
    let start : Collection ByteArray := .empty (.initial 4 .onDemand .empty) .jpeg
    let w := Surroundings.unobserved Codec.verbatim 0
    let s := (Session.fresh start ()).after w [.add "a\x00b.png" ⟨#[1]⟩, .add "a\x00c.png" ⟨#[2]⟩,
      .runJobs [1, 2], .drain]
    (s.run (Session.writeArchive (.ofString "x.zip"))).1.toOption.map
        (fun written => (written.names, written.archive.members.map (·.name))) =
      some (["a\x00b.jpg", "a\x00c.jpg"], ["a", "a"]) := by
  decide +kernel

end Reencode
