import Reencode.Export.Collect
import Reencode.Proofs.Naming.Unique
import Reencode.Proofs.Session.Usage

/-!
# What is exported

`Exports` says which files a list of entries is exported to: one for each entry whose output can be
read, in order, with the bytes of the output, under the stem of the entry's name with the extension
of the format that the bytes were made in.  A name that was given to an earlier file gets the first
number that makes it a new one.  What `Exports` says of names is read off it alone: they are
distinct, and end in the extensions of their formats (`Exports.apart`, `Exports.ends`).

That collecting does this is an induction over the entries (`exports_rename`).  It rests on two
facts about collections in use.  Outputs that can be read were made with the parameters that are
noted with them; and names are distinct.  The second matters for the empty name alone: exported, it
is all stem, so that a number would come after the extension.  But nobody else's exported name is
the same, so none is ever needed.
-/

namespace Reencode

variable {S O : Type} {codec : Codec S}

/-- The name of an exported image with a number before the extension. -/
def exportVariant (name : String) (format : Format) (k : Nat) : String :=
  fileStem name ++ "_" ++ toString k ++ "." ++ format.extension

/-- The files that entries are exported to, when some names are taken. -/
inductive Exports (codec : Codec S) : List String → List Entry → List ExportedFile → Prop
  | done (taken : List String) : Exports codec taken [] []
  | skipped {taken : List String} {e : Entry} {entries : List Entry} {files : List ExportedFile}
      (nothing : ∀ data, ¬e.Holds data) (rest : Exports codec taken entries files) :
      Exports codec taken (e :: entries) files
  | plain {taken : List String} {e : Entry} {entries : List Entry} {files : List ExportedFile}
      {data : ByteArray} {p : Params} (output : e.Produced codec data p)
      (free : exportName e.name p.format ∉ taken)
      (rest : Exports codec (exportName e.name p.format :: taken) entries files) :
      Exports codec taken (e :: entries) (⟨exportName e.name p.format, data⟩ :: files)
  | numbered {taken : List String} {e : Entry} {entries : List Entry} {files : List ExportedFile}
      {data : ByteArray} {p : Params} {k : Nat} (output : e.Produced codec data p)
      (collides : exportName e.name p.format ∈ taken) (positive : 1 ≤ k)
      (free : exportVariant e.name p.format k ∉ taken)
      (least : ∀ j, 1 ≤ j → j < k → exportVariant e.name p.format j ∈ taken)
      (rest : Exports codec (exportVariant e.name p.format k :: taken) entries files) :
      Exports codec taken (e :: entries) (⟨exportVariant e.name p.format k, data⟩ :: files)

/-- Files of distinct names, none of which is taken. -/
structure Apart (taken : List String) (files : List ExportedFile) : Prop where
  distinct : (files.map (·.name)).Nodup
  free : ∀ file ∈ files, file.name ∉ taken

lemma Apart.cons {taken : List String} {file : ExportedFile} {files : List ExportedFile}
    (h : Apart (file.name :: taken) files) (free : file.name ∉ taken) :
    Apart taken (file :: files) where
  distinct := by
    refine List.nodup_cons.mpr ⟨fun again => ?_, h.distinct⟩
    obtain ⟨other, mem, same⟩ := List.mem_map.mp again
    exact h.free other mem (same ▸ List.mem_cons_self)
  free := by
    refine List.forall_mem_cons.mpr ⟨free, fun other mem taken => ?_⟩
    exact h.free other mem (List.mem_cons_of_mem _ taken)

namespace Exports

variable {taken : List String} {entries : List Entry} {files : List ExportedFile}

/-- The files get distinct names, none of which was taken. -/
lemma apart (h : Exports codec taken entries files) : Apart taken files := by
  induction h with
  | done => exact ⟨List.nodup_nil, by simp⟩
  | skipped _ _ ih => exact ih
  | plain _ free _ ih => exact Apart.cons ih free
  | numbered _ _ _ free _ _ ih => exact Apart.cons ih free

/-- Each file holds the output of an entry, and its name ends in the extension of its format. -/
lemma ends (h : Exports codec taken entries files) : ∀ file ∈ files, ∃ e ∈ entries, ∃ p stem,
    e.Produced codec file.data p ∧ file.name = stem ++ "." ++ p.format.extension := by
  induction h with
  | done => simp
  | skipped _ _ ih =>
    intro file mem
    obtain ⟨e, old, rest⟩ := ih file mem
    exact ⟨e, List.mem_cons_of_mem _ old, rest⟩
  | plain output _ _ ih | numbered output _ _ _ _ _ ih =>
    refine List.forall_mem_cons.mpr ⟨⟨_, List.mem_cons_self, _, _, output, rfl⟩, ?_⟩
    intro file mem
    obtain ⟨e, old, rest⟩ := ih file mem
    exact ⟨e, List.mem_cons_of_mem _ old, rest⟩

end Exports

/-! ## Collecting -/

namespace Entry

variable {e : Entry}

lemma exported?_of_produced {data : ByteArray} {p : Params} (h : e.Produced codec data p) :
    e.exported? = some ⟨exportName e.name p.format, data⟩ := by
  obtain ⟨locator, output⟩ := h.held
  simp only [exported?, readOutput, output, h.params]
  rfl

lemma exported?_of_not_holds (nothing : ∀ data, ¬e.Holds data) : e.exported? = none := by
  unfold exported? readOutput
  cases output : e.output with
  | none => rfl
  | some handle =>
    cases handle with
    | held data locator => exact absurd ⟨locator, output⟩ (nothing data)
    | released => cases e.outputParams <;> rfl

end Entry

/-- An exported name is not the one that is exported for the empty name. -/
lemma UniqueNames.choose_ne (u : UniqueNames) {name : String} (named : name ≠ "") (f g : Format) :
    u.choose (exportName name f) ≠ exportName "" g := by
  have stem : stemChars name.toList ≠ [] := stemChars_ne_nil (by simpa using named)
  intro same
  have chars := congrArg String.toList same
  by_cases taken : exportName name f ∈ u.taken
  · obtain ⟨k, -, chosen⟩ := choose_of_taken taken
    rw [chosen, numbered_exportName named] at chars
    have longer : stemChars name.toList ++ '_' :: (toString k).toList ≠ [] := by simp
    refine append_extension_ne longer g (?_ : _ ++ '.' :: f.extension.toList = _)
    simpa [fileStem] using chars
  · rw [choose_of_free taken, toList_exportName name] at chars
    exact append_extension_ne stem g chars

/-- Collecting exports entries of distinct names, if what is taken is not exported for the empty
name. -/
theorem exports_rename (entries : List Entry) : ∀ u : UniqueNames,
    (∀ e ∈ entries, e.Backed codec) → (entries.map Entry.name).Nodup →
    ("" ∈ entries.map Entry.name → ∀ f, exportName "" f ∉ u.taken) →
    Exports codec u.taken entries (ExportedFile.rename u (entries.filterMap Entry.exported?)) := by
  -- Induction on the entries. What is taken is the invariant: no name that an entry with an empty
  -- name could get is taken, unless that entry comes first.
  induction entries with
  | nil => exact fun u _ _ _ => .done u.taken
  | cons e rest ih =>
    intro u backed distinct apart
    obtain ⟨mine, others⟩ := List.forall_mem_cons.mp backed
    obtain ⟨new, distinct⟩ := List.nodup_cons.mp distinct
    by_cases held : ∃ data, e.Holds data
    · obtain ⟨data, held⟩ := held
      obtain ⟨p, output⟩ := mine data held
      have apart' : "" ∈ rest.map Entry.name →
          ∀ f, exportName "" f ∉ u.choose (exportName e.name p.format) :: u.taken := by
        intro mem f
        have named : e.name ≠ "" := fun empty => new (empty ▸ mem)
        rw [List.mem_cons, not_or]
        exact ⟨(u.choose_ne named p.format f).symm, apart (List.mem_cons_of_mem _ mem) f⟩
      have files := ih ⟨u.choose (exportName e.name p.format) :: u.taken⟩ others distinct apart'
      rw [List.filterMap_cons, Entry.exported?_of_produced output]
      simp only [ExportedFile.rename, UniqueNames.allocate]
      by_cases taken : exportName e.name p.format ∈ u.taken
      · obtain ⟨k, first, chosen⟩ := UniqueNames.choose_of_taken taken
        -- Numbered variants of an export name are those of its stem, unless the stem is empty.
        have named : e.name ≠ "" := by
          intro empty
          rw [empty] at taken
          exact apart (by simp [empty]) p.format taken
        have variant : ∀ j, UniqueNames.numbered (exportName e.name p.format) j =
            exportVariant e.name p.format j := UniqueNames.numbered_exportName named p.format
        rw [chosen, variant] at files ⊢
        exact .numbered output taken first.positive (variant k ▸ first.free)
          (fun j positive below => variant j ▸ first.least j positive below) files
      · rw [UniqueNames.choose_of_free taken] at files ⊢
        exact .plain output taken files
    · have nothing : ∀ data, ¬e.Holds data := fun data held' => held ⟨data, held'⟩
      rw [List.filterMap_cons, Entry.exported?_of_not_holds nothing]
      exact .skipped nothing
        (ih u others distinct fun mem => apart (List.mem_cons_of_mem _ mem))

/-! ## One entry -/

/-- What exporting one entry of a collection comes to: the output that can be read, under the name
of the entry. It is not found exactly if the id is that of no entry, not ready exactly if the entry
has no output that can be read, and it fails in no other way. -/
structure Collection.ExportsOne (codec : Codec S) (c : Collection S) (id : EntryId)
    (result : Except Failure ExportedFile) : Prop where
  file : ∀ file, result = .ok file ↔ ∃ e ∈ c.entries, e.id = id ∧ ∃ p,
    e.Produced codec file.data p ∧ file.name = exportName e.name p.format
  notFound : (∃ text, result = .error (.own .notFound text (some id))) ↔
    ∀ e ∈ c.entries, e.id ≠ id
  notReady : (∃ text, result = .error (.own .notReady text (some id))) ↔
    ∃ e ∈ c.entries, e.id = id ∧ ∀ data, ¬e.Holds data
  fails : ∀ failure, result = .error failure →
    failure = .own .notFound (Message.entryNotFound id) (some id) ∨
      ∃ e ∈ c.entries, failure = .own .notReady (Message.entryNotReady id e.name) (some id)

namespace Collection.ExportsOne

variable {c : Collection S} {id : EntryId} {e : Entry}

lemma of_unknown (absent : ∀ e ∈ c.entries, e.id ≠ id) : c.ExportsOne codec id
    (.error (.own .notFound (Message.entryNotFound id) (some id))) where
  file := by
    refine fun file => ⟨nofun, ?_⟩
    rintro ⟨e, mem, same, -⟩
    exact absurd same (absent e mem)
  notFound := ⟨fun _ => absent, fun _ => ⟨_, rfl⟩⟩
  notReady := by
    refine ⟨nofun, ?_⟩
    rintro ⟨e, mem, same, -⟩
    exact absurd same (absent e mem)
  fails := fun _ failed => .inl (Except.error.inj failed).symm

lemma of_unready (mem : e ∈ c.entries) (only : ∀ other ∈ c.entries, other.id = e.id → other = e)
    (nothing : ∀ data, ¬e.Holds data) : c.ExportsOne codec e.id
      (.error (.own .notReady (Message.entryNotReady e.id e.name) (some e.id))) where
  file := by
    refine fun file => ⟨nofun, ?_⟩
    rintro ⟨other, mem', same, p, output, -⟩
    obtain rfl := only other mem' same
    exact absurd output.held (nothing file.data)
  notFound := ⟨nofun, fun absent => absurd rfl (absent e mem)⟩
  notReady := ⟨fun _ => ⟨e, mem, rfl, nothing⟩, fun _ => ⟨_, rfl⟩⟩
  fails := fun _ failed => .inr ⟨e, mem, (Except.error.inj failed).symm⟩

lemma of_output (mem : e ∈ c.entries) (only : ∀ other ∈ c.entries, other.id = e.id → other = e)
    {data : ByteArray} {p : Params} (output : e.Produced codec data p) :
    c.ExportsOne codec e.id (.ok ⟨exportName e.name p.format, data⟩) where
  file := by
    intro file
    constructor
    -- The id is had by one entry only, and an entry holds one output.
    · intro given
      obtain rfl := Except.ok.inj given
      exact ⟨e, mem, rfl, p, output, rfl⟩
    · rintro ⟨other, mem', same, p', output', named⟩
      obtain rfl := only other mem' same
      obtain ⟨rfl, rfl⟩ := output.unique output'
      rw [← named]
  notFound := ⟨nofun, fun absent => absurd rfl (absent e mem)⟩
  notReady := by
    refine ⟨nofun, ?_⟩
    rintro ⟨other, mem', same, nothing⟩
    obtain rfl := only other mem' same
    exact absurd output.held (nothing data)
  fails := nofun

end Collection.ExportsOne

namespace Session

variable {s : Session S O} {id : EntryId} {e : Entry}

lemma run_collect (s : Session S O) :
    ∃ records, s.run collect = (.ok s.collection.exported, s.logged records) := by
  rw [collect, run_bind_ok (run_collection? s)]
  split
  · exact ⟨_, rfl⟩
  · exact ⟨[], by simp⟩

lemma run_exportOne_unknown (unknown : s.collection.get? id = none) :
    s.run (exportOne id) =
      (.error (.own .notFound (Message.entryNotFound id) (some id)), s) := by
  simp [exportOne, run_bind, unknown]

lemma run_exportOne_unready (found : s.collection.get? id = some e) (none : e.exported? = none) :
    s.run (exportOne id) =
      (.error (.own .notReady (Message.entryNotReady id e.name) (some id)), s) := by
  simp [exportOne, run_bind, found, none]

lemma run_exportOne {file : ExportedFile} (found : s.collection.get? id = some e)
    (exported : e.exported? = some file) : s.run (exportOne id) = (.ok file, s) := by
  simp [exportOne, run_bind, found, exported]

/-- Exporting one entry reads the same output as exporting all of them. -/
lemma exportOne_exports (sincere : s.collection.Sincere codec) (id : EntryId) :
    s.collection.ExportsOne codec id (s.run (exportOne id)).1 ∧ (s.run (exportOne id)).2 = s := by
  have shelved := sincere.shelved
  cases found : s.collection.get? id with
  | none =>
    rw [run_exportOne_unknown found]
    refine ⟨.of_unknown fun e mem same => ?_, rfl⟩
    rw [shelved.get?_eq_some_iff.mpr ⟨mem, same⟩] at found
    cases found
  | some e =>
    obtain ⟨mem, rfl⟩ := shelved.get?_eq_some_iff.mp found
    have onShelf := (shelved.mem_entries.mp mem).1
    have only : ∀ other ∈ s.collection.entries, other.id = e.id → other = e :=
      fun other mem' same => shelved.eq_of_id_eq (shelved.mem_entries.mp mem').1 onShelf same
    by_cases held : ∃ data, e.Holds data
    · obtain ⟨data, held⟩ := held
      obtain ⟨p, output⟩ := sincere.sourced.outputs e onShelf data held
      rw [run_exportOne found (Entry.exported?_of_produced output)]
      exact ⟨.of_output mem only output, rfl⟩
    · have nothing : ∀ data, ¬e.Holds data := fun data held' => held ⟨data, held'⟩
      rw [run_exportOne_unready found (Entry.exported?_of_not_holds nothing)]
      exact ⟨.of_unready mem only nothing, rfl⟩

end Session

/-- **Exports are complete, faithful and free of collisions.**  In every session, after any
operations and releases of outputs, whatever observers heard of them and called themselves,
collecting succeeds.  It gives, in the order in which the entries were imported, one file for each
entry whose output can be read.  The file has the bytes of the output, which the codec makes of the
source with the parameters that are noted with the output, be others in force by now.  Its name is
the stem of the entry's name with the extension of the format of those parameters, and with the
first number before the extension that makes it a new name if an earlier file has it.  The names are
distinct, and each ends in the extension of the format of its bytes.  Exporting one entry gives the
same bytes under the name without a number if the output can be read.  An id is not found exactly if
no entry of the collection has it, and an entry is not ready exactly if collecting skips it. -/
theorem exports_are_complete {w : Surroundings S O} (civil : w.Civil) {settings : Settings}
    {workers : Option Int} {format : Value} {pace : Pace} {start : Collection S}
    (made : Collection.create settings workers format pace = .ok start)
    {s : Session S O} (began : s.collection = start) (doings : List Session.Doing)
    {s' : Session S O} (reached : s' = s.afterAll w doings) :
    (∃ files records, s'.run Session.collect = (.ok files, s'.logged records) ∧
      Exports w.codec [] s'.collection.entries files ∧
      s'.collection.entries.Sublist s'.collection.shelf ∧
      (files.map (·.name)).Nodup ∧
      ∀ file ∈ files, ∃ e ∈ s'.collection.entries, ∃ p stem, e.Produced w.codec file.data p ∧
        file.name = stem ++ "." ++ p.format.extension) ∧
    ∀ id, s'.collection.ExportsOne w.codec id (s'.run (Session.exportOne id)).1 ∧
      (s'.run (Session.exportOne id)).2 = s' := by
  subst began reached
  have sincere : (s.afterAll w doings).collection.Sincere w.codec :=
    Collection.Uses.sincere (Session.uses_afterAll civil s doings) (.of_create made)
  generalize s.afterAll w doings = s' at sincere ⊢
  have backed : ∀ e ∈ s'.collection.entries, e.Backed w.codec :=
    fun e mem => sincere.sourced.outputs e (sincere.shelved.mem_entries.mp mem).1
  have names : (s'.collection.entries.map Entry.name).Nodup :=
    s'.collection.names_roster ▸ sincere.names
  obtain ⟨records, collected⟩ := Session.run_collect s'
  have exports : Exports w.codec [] s'.collection.entries s'.collection.exported :=
    exports_rename s'.collection.entries .empty backed names (by simp [UniqueNames.empty])
  exact ⟨⟨_, records, collected, exports, Collection.entries_sublist sincere.shelved,
    exports.apart.distinct, exports.ends⟩, Session.exportOne_exports sincere⟩

/-- An observer that asks for the first image in another format when it is told of the sixth. -/
def Reaction.reformatting (_ : ObserverTag) (event : Event) : Reaction S Unit :=
  if event = .about .added (.nth 6) then
    .call (.setParams (.nth 1) .none .null (.text "PNG")) fun _ => .done
  else .done

/-- Two images export to `photo.jpg`, so the second one gets a number; the name it gets is that of a
third, which gets a number in turn.  The output of a fourth was released, a fifth has no name, and a
sixth has no output yet; and an observer has given the first another format since. -/
theorem exports_are_complete_of_colliding :
    let start : Collection ByteArray := .empty (.initial 4 .onDemand .empty) .jpeg
    let w := Surroundings.calling Codec.verbatim 0 Reaction.reformatting 1
    let doings : List Session.Doing := [.operation (.subscribe ⟨"o"⟩),
      .operation (.add "photo.png" ⟨#[1]⟩), .operation (.add "photo.webp" ⟨#[2]⟩),
      .operation (.add "photo_1.gif" ⟨#[3]⟩), .operation (.add "gone.png" ⟨#[4]⟩),
      .operation (.add "" ⟨#[5]⟩), .operation (.runJobs [1, 2, 3, 4, 5]), .operation .drain,
      .operation (.add "late.png" ⟨#[6]⟩), .releaseOutput (.nth 4)]
    let s := (Session.fresh start ([], ())).afterAll w doings
    (s.collection.find? (.nth 1)).map (·.params.format) = some .png ∧
      s.collection.exported.map (fun file => (file.name, file.data)) =
        [("photo.jpg", ⟨#[1]⟩), ("photo_1.jpg", ⟨#[2]⟩), ("photo_1_1.jpg", ⟨#[3]⟩),
          (".jpg", ⟨#[5]⟩)] ∧
      (∃ files records, s.run Session.collect = (.ok files, s.logged records) ∧
        Exports Codec.verbatim [] s.collection.entries files) ∧
      ∀ id, s.collection.ExportsOne Codec.verbatim id (s.run (Session.exportOne id)).1 := by
  intro start w doings s
  have made : Collection.create Settings.default none .null .onDemand = .ok start := rfl
  have exports := exports_are_complete
    (Surroundings.calling_civil Codec.verbatim 0 Reaction.reformatting 1) made
    (s := Session.fresh start ([], ())) rfl doings rfl
  obtain ⟨files, records, collected, entries, -⟩ := exports.1
  exact ⟨by decide +kernel, by decide +kernel, ⟨files, records, collected, entries⟩,
    fun id => (exports.2 id).1⟩

end Reencode
