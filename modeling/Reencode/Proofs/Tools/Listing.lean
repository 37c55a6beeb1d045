import Reencode.Proofs.Collection.Turn
import Reencode.Proofs.Session.Settled
import Reencode.Proofs.Tools.Routine

/-!
# What a listing says

The tools that answer with the state of the collection say whether all jobs have ended, and each has
its own way to find out: some wait, some look at what is in flight, and clearing knows.  If an
answer says so, then nothing is in flight, or there is nothing left that could be
(`ToolResponse.Sincere`).  A tool is a routine of operations, so its entries are settled then; and
the texts and numbers of the answer are read off them (`Entry.ListedBy`).

The size that is listed is a field of its own, which is set together with the output
(`Entry.Measured`).
-/

namespace Reencode

variable {S O : Type} {w : Surroundings S O}

/-! ## The size of an output -/

/-- An entry that knows the size of its output. -/
def Entry.Measured (e : Entry) : Prop :=
  ∀ data locator, e.output = some (.held data locator) → e.outputSize = data.size

lemma Entry.Turn.measured {e e' : Entry} {d : Deed} (measured : e.Measured) (turn : e.Turn d e') :
    e'.Measured := by
  cases turn with
  | updated _ _ _ =>
    intro data locator out
    cases out
    rfl
  | _ => exact measured

lemma Collection.Steps.measured {codec : Codec S} {settings : Settings} {workers : Option Int}
    {format : Value} {pace : Pace} {start c : Collection S}
    (made : Collection.create settings workers format pace = .ok start) {deeds : List Deed}
    (steps : Collection.Steps codec start deeds c) : ∀ e ∈ c.entries, e.Measured := by
  refine (Shelved.of_create made).entries_induction ?_ (fun h turn => turn.measured h) steps ?_
  · intro _ _ _ _ _ _ _ out
    cases out
  · obtain ⟨n, f, rfl⟩ := Collection.create_eq_ok made
    intro e mem
    obtain ⟨_, nobody, -⟩ := List.mem_filterMap.mp mem
    cases nobody

/-- An output that is read is held, and its size is known. -/
lemma Entry.Measured.of_readOutput {e : Entry} (h : e.Measured) {data : ByteArray} {p : Params}
    (read : e.readOutput = .ok (some (data, p))) :
    e.hasOutput = true ∧ e.outputSize = data.size := by
  unfold readOutput at read
  split at read
  · rename_i handle params output _
    cases handle with
    | released => cases read
    | held bytes locator =>
      cases read
      exact ⟨by simp [hasOutput, output], h _ locator output⟩
  · cases read

/-! ## What is listed of an entry -/

namespace ToolResponse

/-- A listed image is a record of what the snapshot holds. -/
lemma listed_eq_ok {e : EntrySnapshot} {image : Value} (shown : listed e = .ok image) :
    image.field? "id" = some (.text e.id.text) ∧
      image.field? "format" = some (.text e.params.format.name) ∧
      image.field? "quality" = some (.int e.params.quality) ∧
      image.field? "compressed_size" = some (orNull e.hasOutput (.int e.outputSize)) ∧
      image.field? "selected" = some (.bool e.selected) ∧
      image.field? "error" = some (.ofOption (e.fault.map fun f => .text f.message)) := by
  unfold listed at shown
  cases output : e.outputSizeText with
  | error failure =>
    rw [output] at shown
    cases shown
  | ok outputText =>
    cases source : e.sourceSizeText with
    | error failure =>
      rw [output, source] at shown
      cases shown
    | ok sourceText =>
      rw [output, source] at shown
      obtain rfl := Except.ok.inj shown
      exact ⟨rfl, rfl, rfl, rfl, rfl, rfl⟩

lemma forall₂_of_mapM {α β ε : Type} {f : α → Except ε β} : ∀ {xs : List α} {ys : List β},
    xs.mapM f = .ok ys → List.Forall₂ (fun x y => f x = .ok y) xs ys := by
  intro xs
  induction xs with
  | nil =>
    intro ys made
    cases made
    exact .nil
  | cons x rest ih =>
    intro ys made
    rw [List.mapM_cons] at made
    cases first : f x with
    | error failure =>
      rw [first] at made
      cases made
    | ok y =>
      cases others : rest.mapM f with
      | error failure =>
        rw [first, others] at made
        cases made
      | ok zs =>
        rw [first, others] at made
        cases made
        exact .cons first (ih others)

/-- The state of a collection as a record. -/
lemma record_of_toValue_state {snapshot : CollectionSnapshot} {settled : Bool}
    {imported : Option (List EntryId × Nat)} {v : Value}
    (shown : (state snapshot settled imported).toValue = .ok v) :
    ∃ summary images, snapshot.entries.mapM listed = .ok images ∧
      v = .record ([("success", .bool true), ("settled", .bool settled),
        ("selected_id", .ofOption (snapshot.selected.map fun id => .text id.text)),
        ("global_format", .text snapshot.globalFormat), ("summary", .text summary),
        ("images", .list images)] ++ importFields imported) := by
  simp only [toValue] at shown
  cases said : snapshot.summary with
  | error failure =>
    rw [said] at shown
    cases shown
  | ok summary =>
    cases images : snapshot.entries.mapM listed with
    | error failure =>
      rw [said, images] at shown
      cases shown
    | ok shownImages =>
      rw [said, images] at shown
      exact ⟨summary, shownImages, rfl, (Except.ok.inj shown).symm⟩

/-- The state of a collection is told field by field. -/
lemma toValue_state_eq_ok {snapshot : CollectionSnapshot} {settled : Bool}
    {imported : Option (List EntryId × Nat)} {v : Value}
    (shown : (state snapshot settled imported).toValue = .ok v) :
    v.field? "settled" = some (.bool settled) ∧
      v.field? "selected_id" = some (.ofOption (snapshot.selected.map fun id => .text id.text)) ∧
      ∃ images, v.field? "images" = some (.list images) ∧
        List.Forall₂ (fun e image => listed e = .ok image) snapshot.entries images := by
  obtain ⟨summary, images, each, rfl⟩ := record_of_toValue_state shown
  exact ⟨rfl, rfl, images, rfl, forall₂_of_mapM each⟩

/-! ## When an answer says that all jobs have ended -/

/-- An answer that shows a collection as it is, and says that all jobs have ended only if nothing is
in flight or there is nothing left. -/
def Sincere (c : Collection S) : ToolResponse → Prop
  | state snapshot settled _ =>
    snapshot = c.snapshot ∧ (settled = true → c.scheduler.inFlight = 0 ∨ c.ids = [])
  | failed _ => True
  | _ => False

end ToolResponse

namespace Session

open Tools

/-- A tool whose answers are sincere. -/
abbrev Sincerely (a : Act S O ToolResponse) : Prop :=
  Gives (fun response s => response.Sincere s.collection) a

/-- No error response says anything about jobs. -/
lemma failed_sincere (e : ErrorResponse) (_ : e.Built) (s : Session S O) :
    (ToolResponse.failed e).Sincere s.collection := trivial

lemma currentState_sincerely : Sincerely (do stateNow (← isSettled) : Act S O ToolResponse) := by
  intro s s' response gives
  cases gives
  exact ⟨rfl, fun settled => .inl (of_decide_eq_true settled)⟩

/-- Waiting says that it has settled only if nothing is in flight. -/
lemma idle_of_settle {s s' : Session S O} (settles : s.run (settle w) = (.ok true, s')) :
    s'.collection.scheduler.inFlight = 0 := by
  obtain ⟨settled, s'', waited, said⟩ := exists_of_run_bind_ok settles
  cases settled with
  | false => cases said
  | true =>
    cases said
    exact idle_of_waitTurns _ waited

/-- An answer after waiting. -/
lemma settle_sincerely {report : Bool → Act S O ToolResponse}
    (reports : ∀ (s : Session S O) settled, ∃ imported,
      s.run (report settled) = (.ok (.state s.collection.snapshot settled imported), s)) :
    Sincerely (settle w >>= report) := by
  refine .of_bind fun s s' s'' settled response settles gives => ?_
  obtain ⟨imported, reported⟩ := reports s' settled
  rw [reported] at gives
  cases gives
  refine ⟨rfl, fun ended => .inl ?_⟩
  subst ended
  exact idle_of_settle settles

lemma settledState_sincerely : Sincerely (settledState w : Act S O ToolResponse) :=
  settle_sincerely fun _ _ => ⟨none, rfl⟩

lemma importImages_sincerely (paths : Value) (recursive : Bool) :
    Sincerely (importImages w paths recursive : Act S O ToolResponse) := by
  refine .tryCatch (.bind fun _ => .bind fun _ => ?_) fun _ => reported_gives failed_sincere _ _ _ _
  exact .bind fun _ => .bind fun files => .bind fun added => settle_sincerely fun _ _ => ⟨_, rfl⟩

/-- After clearing there is nothing left, as long as observers do not call back. -/
lemma clearImages_sincerely (quiet : w.Quiet) :
    Sincerely (clearImages w : Act S O ToolResponse) := by
  refine .of_bind fun s s' s'' _ response clears gives => ?_
  cases gives
  refine ⟨rfl, fun _ => .inr ?_⟩
  obtain ⟨records, same⟩ := run_clear (w := w) s
  rw [same] at clears
  obtain rfl := (Prod.mk.inj clears).2
  obtain ⟨_, told, -⟩ := told_meanwhile quiet .cleared ((s.withCollection
    (({ s.collection with ids := [] }.destroyAll s.collection.ids).choose none)).logged records)
  rw [told]
  exact Collection.ids_destroyAll _ _

end Session

/-- The tools that answer with the state of the collection. -/
def Tools.listings : List String := ["import_images", "list_images", "select_image",
  "set_image_params", "reset_image_quality", "set_global_format", "remove_image", "clear_images"]

open Tools Session in
/-- Each of them is sincere. -/
lemma Session.sincerely_of_call (quiet : w.Quiet) {name : String} (lists : name ∈ listings)
    {arguments : List (String × Value)} {act : Act S O ToolResponse}
    (called : call? w name arguments = some act) : Sincerely act := by
  unfold call? at called
  split at called <;> cases called
  · exact importImages_sincerely _ _
  · exact .bind fun _ => currentState_sincerely
  · exact .orNoSuchImage failed_sincere currentState_sincerely _
  · exact .tryCatch (.orNoSuchImage failed_sincere settledState_sincerely _)
      (refusal_gives failed_sincere)
  · exact .orNoSuchImage failed_sincere settledState_sincerely _
  · exact .tryCatch (.bind fun _ => settledState_sincerely) (refusal_gives failed_sincere)
  · exact .orNoSuchImage failed_sincere currentState_sincerely _
  · exact clearImages_sincerely quiet
  · exact absurd lists (by decide)
  · exact absurd lists (by decide)

/-! ## What is listed once all jobs have ended -/

/-- A listed image that tells what becomes of the source of an entry with the listed parameters: how
large its encoding is, or why its last attempt failed. -/
structure Entry.ListedBy (codec : Codec S) (selected : Option EntryId) (e : Entry) (image : Value) :
    Prop where
  id : image.field? "id" = some (.text e.id.text)
  format : image.field? "format" = some (.text e.params.format.name)
  quality : image.field? "quality" = some (.int e.params.quality)
  made : match codec.recode e.source e.params with
    | .ok payload => ∃ data, payload = .data data ∧
        image.field? "compressed_size" = some (.int data.size) ∧ image.field? "error" = some .null
    | .error failure => ∃ f, e.fault = some f ∧ f = (Fault.ofFailure failure e.id e.token).1 ∧
        f.token = e.token ∧ image.field? "error" = some (.text f.message)
  marked : image.field? "selected" = some (.bool (decide (some e.id = selected)))

/-- An answer that lists the images of a collection as they are once all jobs have ended, and names
the selected one. -/
structure Collection.ListedBy (codec : Codec S) (c : Collection S) (answer : Value) : Prop where
  images : ∃ images, answer.field? "images" = some (.list images) ∧
    List.Forall₂ (Entry.ListedBy codec c.selected) c.entries images
  named : answer.field? "selected_id" = some (.ofOption (c.selected.map fun id => .text id.text))
  present : ∀ id, c.selected = some id → ∃ e ∈ c.entries, e.id = id

/-- An entry that shows what becomes of its parameters in force is listed with just that. -/
lemma Entry.Shows.listedBy {codec : Codec S} {jobs : List Job} {e : Entry}
    (shows_ : e.Shows codec jobs) (measured : e.Measured) {selected : Option EntryId}
    {image : Value} (shown : ToolResponse.listed (e.snapshot (decide (some e.id = selected))) =
      .ok image) : e.ListedBy codec selected image := by
  obtain ⟨id, format, quality, size, marked, error⟩ := ToolResponse.listed_eq_ok shown
  refine ⟨id, format, quality, ?_, marked⟩
  unfold Entry.Shows at shows_
  -- The entry shows what its source comes to: an output whose size was measured, or a fault.
  cases recoded : codec.recode e.source e.params with
  | ok payload =>
    rw [recoded] at shows_
    obtain ⟨data, rfl, read, clean⟩ := shows_
    obtain ⟨out, measure⟩ := measured.of_readOutput read
    refine ⟨data, rfl, ?_, ?_⟩
    · simpa [snapshot, ToolResponse.orNull, out, measure] using size
    · simpa [snapshot, clean, Value.ofOption] using error
  | error failure =>
    rw [recoded] at shows_
    obtain ⟨⟨f, fault, made, token⟩, -⟩ := shows_
    refine ⟨f, fault, made, token, ?_⟩
    simpa [snapshot, fault, Value.ofOption] using error

/-- **An answer that says that all jobs have ended tells the truth.**  Whatever tools were called
before and whatever else happened to the session, as long as nothing ended the work: when a tool
that lists images answers with success and says that all jobs have ended, then each image is listed
with the size of what the codec makes of its source with just the listed parameters and no error,
or with the message of the fault that its newest attempt, with just those parameters, left; and the
image that is marked as selected is the one that the answer names, which is listed if there is
one. -/
theorem settled_answers_are_true (quiet : w.Quiet) (bytes : w.codec.GivesBytes)
    {settings : Settings} {workers : Option Int} {format : Value} {pace : Pace}
    {start : Collection S} (made : Collection.create settings workers format pace = .ok start)
    {s s' : Session S O} (began : s.collection = start) {visits : List Visit}
    (go_on : ∀ v ∈ visits, v.ends = false) {name : String} (lists : name ∈ Tools.listings)
    {arguments : List (String × Value)} {act : Act S O ToolResponse}
    (called : Tools.call? w name arguments = some act) {response : ToolResponse}
    (answered : (s.afterVisits w visits).run act = (.ok response, s')) {answer : Value}
    (shown : response.toValue = .ok answer)
    (success : answer.field? "success" = some (.bool true))
    (settled : answer.field? "settled" = some (.bool true)) :
    s'.collection.ListedBy w.codec answer := by
  subst began
  obtain ⟨ops, visit, lasting⟩ := Session.visits_routine (w := w) s visits
  obtain ⟨more, call, lasting'⟩ := Session.routinely_of_call called (s.afterVisits w visits)
  have routine := visit.trans call
  -- The call is routine like what came before, and the invariants hold after both.
  rw [answered] at routine
  obtain ⟨deeds, steps, settles, goes_on⟩ := routine.steps_of_quiet quiet
    (List.forall_mem_append.mpr ⟨lasting go_on, lasting'⟩)
  have consistent : s'.collection.Consistent := by
    have enrolled := routine.enrolled quiet (.of_create made)
    exact .of_sound enrolled.shelved (enrolled.roster ▸ Roster.Sound.foldl _ .initial)
  have sincere := Session.sincerely_of_call quiet lists called _ _ _ answered
  cases response with
  | archive => exact sincere.elim
  | file => exact sincere.elim
  | failed refused =>
    obtain rfl := Except.ok.inj shown
    cases success
  | state snapshot ended imported =>
    obtain ⟨rfl, idle⟩ := sincere
    obtain ⟨said, names, images, listed, each⟩ := ToolResponse.toValue_state_eq_ok shown
    rw [said] at settled
    cases settled
    have shows_ : ∀ e ∈ s'.collection.entries, e.Shows w.codec (jobsOf deeds) := by
      -- A state that says that it has settled is idle, or has no entries.
      rcases idle rfl with idle | nobody
      · exact (steps.shows bytes made goes_on (List.subset_nil.mp (settles [])) idle).2
      · simp [Collection.entries, nobody]
    refine ⟨⟨images, listed, ?_⟩, names, consistent.selected⟩
    have pairs := List.forall₂_map_left_iff.mp each
    have measured := steps.measured made
    refine List.Forall₂.imp ?_ ((List.forall₂_and_left _ _).mpr ⟨fun e mem => mem, pairs⟩)
    rintro e image ⟨mem, shown⟩
    exact (shows_ e mem).listedBy (measured e mem) shown

/-- Whether a value is true. -/
def Value.isTrue : Value → Bool
  | bool b => b
  | _ => false

lemma Value.field?_of_isTrue {v : Value} {name : String}
    (h : (v.field? name).any isTrue = true) : v.field? name = some (.bool true) := by
  cases found : v.field? name with
  | none =>
    rw [found] at h
    cases h
  | some x =>
    rw [found, Option.any_some] at h
    cases x with
    | bool b => exact congrArg (some <| Value.bool ·) h
    | _ => cases h

/-- Of two images one cannot be encoded.  The first is encoded once more with other parameters, the
jobs finish in another order than they were dispatched, and then the images are listed. -/
theorem settled_answers_are_true_of_two :
    let w := Surroundings.unobserved Codec.verbatim 0
    let start : Collection ByteArray := .empty (.initial 4 .onDemand .empty) .jpeg
    let s := (Session.fresh start ()).afterVisits w [.perform (.add "a.png" ⟨#[1, 2]⟩),
      .perform (.add "b.png" ⟨#[]⟩),
      .call "set_image_params" [("image_id", .text (EntryId.nth 1).text), ("quality", .int 40)],
      .perform (.runJobs [3, 2, 1])]
    Tools.call? w "list_images" [] = some (Tools.listImages w) ∧
    ∃ response s' answer, s.run (Tools.listImages w) = (.ok response, s') ∧
      response.toValue = .ok answer ∧
      s'.collection.entries.map (fun e => (e.hasOutput, e.fault.isSome)) =
        [(true, false), (false, true)] ∧
      s'.collection.ListedBy .verbatim answer := by
  intro w start s
  have made : Collection.create Settings.default none .null .onDemand = .ok start := rfl
  have quiet : w.Quiet := Surroundings.unobserved_quiet Codec.verbatim 0
  have called : Tools.call? w "list_images" [] = some (Tools.listImages w) := rfl
  have outputs : (s.run (Tools.listImages w)).2.collection.entries.map
      (fun e => (e.hasOutput, e.fault.isSome)) = [(true, false), (false, true)] := by
    decide +kernel
  have answers : (s.run (Tools.listImages w)).1.toOption.bind (fun response =>
      response.toValue.toOption.map fun answer => ((answer.field? "success").any Value.isTrue,
        (answer.field? "settled").any Value.isTrue)) = some (true, true) := by
    decide +kernel
  refine ⟨called, ?_⟩
  rcases answered : s.run (Tools.listImages w) with ⟨failure | response, s'⟩
  · rw [answered] at answers
    cases answers
  · rw [answered] at answers outputs
    cases shown : response.toValue with
    | error failure =>
      simp only [Except.toOption, Option.bind_some, shown, Option.map_none] at answers
      cases answers
    | ok answer =>
      simp only [Except.toOption, Option.bind_some, shown, Option.map_some,
        Option.some.injEq] at answers
      obtain ⟨success, settled⟩ := Prod.mk.inj answers
      exact ⟨response, s', answer, rfl, shown, outputs, settled_answers_are_true quiet
        Codec.verbatim_givesBytes made (s := Session.fresh start ()) rfl (by decide) (by decide)
        called answered shown (Value.field?_of_isTrue success) (Value.field?_of_isTrue settled)⟩

end Reencode
