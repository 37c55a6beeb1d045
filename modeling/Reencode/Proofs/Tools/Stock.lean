import Reencode.Proofs.Collection.Turn
import Reencode.Proofs.Session.Verdict
import Reencode.Proofs.Tools.Failing

/-!
# What is in stock

The stock of a collection is what an import goes by and what it adds to: the entries with what stays
the same about them once they are in (their cards), and how many ids were given out.  While the
observers are `Discreet` nobody else changes the stock: most steps leave it alone
(`Collection.Step.stock_eq`), and so a new image comes last, under the next id
(`Session.Stocked.add`).

Importing several images lets in, of each name that is an image's and is not taken, the first
(`newcomers`).  The loop looks a name up among the entries there are at that moment, those that
came in just before included; that this comes to the same is `newcomers_cons`.  So the loop is
followed file by file with the stock as its invariant (`Session.Stocked.addMany`).
-/

namespace Reencode

variable {S O : Type} {w : Surroundings S O}

/-! ## Cards -/

/-- What there is to know of an entry apart from its jobs. -/
structure Entry.Card where
  id : EntryId
  name : String
  source : ByteArray
  params : Params

/-- The file that was imported. -/
def Entry.Card.file (card : Entry.Card) : String × ByteArray := (card.name, card.source)

/-- The card of an entry. -/
def Entry.card (e : Entry) : Card := ⟨e.id, e.name, e.source, e.params⟩

/-- The cards of the entries of a collection, in order. -/
def Collection.cards (c : Collection S) : List Entry.Card := c.entries.map Entry.card

/-- The entries of a collection, and how many ids were given out. -/
structure Stock where
  cards : List Entry.Card
  given : Nat

namespace Stock

/-- The names that are taken. -/
def names (t : Stock) : List String := t.cards.map (·.name)

/-- The stock with new entries, of which there are as many as ids are given out. -/
def grown (t : Stock) (new : List Entry.Card) : Stock := ⟨t.cards ++ new, t.given + new.length⟩

@[simp] lemma names_grown (t : Stock) (new : List Entry.Card) :
    (t.grown new).names = t.names ++ new.map (·.name) := List.map_append

lemma grown_nil (t : Stock) : t.grown [] = t := by simp [grown]

lemma grown_grown (t : Stock) (new more : List Entry.Card) :
    (t.grown new).grown more = t.grown (new ++ more) := by
  simp [grown, Nat.add_assoc]

end Stock

/-- Whether a deed leaves the entries and their cards alone, and does not shut the scheduler
down. -/
def Deed.isDiscreet : Deed → Bool
  | imported _ | removed _ | cleared | paramsSet _ | shut => false
  | _ => true

/-- Observers that leave the entries and their cards alone, and do not shut the scheduler down. -/
def Surroundings.Discreet (w : Surroundings S O) : Prop := w.ReactBy fun d => d.isDiscreet = true

lemma Surroundings.Discreet.lawful (h : w.Discreet) : w.Lawful := h.mono fun _ _ => trivial

lemma Deed.isDiscreet_of_isHarvest {d : Deed} (harvest : d.isHarvest = true) :
    d.isDiscreet = true := by
  cases d <;> first | rfl | cases harvest

lemma Deed.pays.isDiscreet {d : Deed} {id : EntryId} (h : d.pays id) : d.isDiscreet = true := by
  cases d <;> first | rfl | exact h.elim

lemma Entry.Turn.card_eq {e e' : Entry} {d : Deed} (turn : e.Turn d e')
    (discreet : d.isDiscreet = true) : e'.card = e.card := by
  cases turn with
  | paramsSet => cases discreet
  | _ => rfl

/-! ## Steps -/

namespace Collection

variable {codec : Codec S} {c c' : Collection S} {d : Deed} {ds : List Deed}

/-- The stock of a collection. -/
def stock (c : Collection S) : Stock := ⟨c.cards, c.shelf.length⟩

/-- If no entry comes or goes in a step, whatever no turn changes stays the same. -/
lemma Step.map_entries_eq {α : Type} {view : Entry → α} (shelved : Shelved c.ids c.shelf)
    (st : Step codec c d c') (ids : c'.ids = c.ids)
    (same : ∀ {e e'}, e.Turn d e' → view e' = view e) :
    c'.entries.map view = c.entries.map view := by
  simp only [entries, List.map_filterMap, ids]
  refine List.filterMap_congr fun id mem => ?_
  obtain ⟨e, onShelf, rfl⟩ := shelved.exists_of_mem_alive mem
  obtain ⟨e', mem', turn⟩ :=
    shelved.turn st (shelved.mem_entries.mpr ⟨onShelf, mem⟩) (ids ▸ mem)
  have found := shelved.find?_eq_some_iff.mpr ⟨onShelf, rfl⟩
  have shelved' := shelved.step st
  have found' := shelved'.find?_eq_some_iff.mpr ⟨(shelved'.mem_entries.mp mem').1, turn.id_eq⟩
  rw [find?, find?, found, found', Option.map_some, Option.map_some, same turn]

/-- Discreet steps leave the stock alone. -/
theorem Step.stock_eq (shelved : Shelved c.ids c.shelf) (st : Step codec c d c')
    (discreet : d.isDiscreet = true) : c'.stock = c.stock := by
  have ids : c'.ids = c.ids := by
    rw [st.ids_eq]
    cases d <;> first | rfl | cases discreet
  have known : c'.shelf.map Entry.id = c.shelf.map Entry.id := by
    rw [st.known_eq]
    cases d <;> first | rfl | cases discreet
  have given : c'.shelf.length = c.shelf.length := by
    rw [← List.length_map Entry.id, known, List.length_map]
  exact congrArg₂ Stock.mk (st.map_entries_eq shelved ids fun turn => turn.card_eq discreet) given

lemma Steps.stock_eq (shelved : Shelved c.ids c.shelf) (steps : Steps codec c ds c')
    (discreet : ∀ d ∈ ds, d.isDiscreet = true) : c'.stock = c.stock := by
  induction steps with
  | start => rfl
  | step before last ih =>
    rw [last.stock_eq (shelved.steps before)
      (discreet _ (List.mem_append_right _ List.mem_cons_self))]
    exact ih fun d mem => discreet d (List.mem_append_left _ mem)

/-- A new entry comes last, under the next id. -/
lemma stock_insert (shelved : Shelved c.ids c.shelf) (name : String) (data : ByteArray)
    (p : Params) : (c.insert name data p).2.stock =
      c.stock.grown [⟨c.nextId, name, data, p⟩] := by
  have cards : (c.insert name data p).2.cards = c.cards ++ [⟨c.nextId, name, data, p⟩] := by
    rw [Collection.cards, entries_insert shelved, List.map_append]
    rfl
  exact congrArg₂ Stock.mk cards List.length_append

end Collection

/-! ## Newcomers -/

/-- Whether a file has a name that is an image's and is not taken. -/
def isWelcome (taken : List String) (f : String × ByteArray) : Bool :=
  isImageName f.1 && decide (f.1 ∉ taken)

/-- The files that an import lets in if some names are taken: of each name that is an image's and is
not taken, the first. -/
def newcomers (taken : List String) (files : List (String × ByteArray)) :
    List (String × ByteArray) :=
  (files.filter (isWelcome taken)).eraseDupsBy fun f g => f.1 == g.1

section Newcomers

variable {taken : List String} {f : String × ByteArray} {files : List (String × ByteArray)}

lemma isWelcome_iff : isWelcome taken f = true ↔ isImageName f.1 = true ∧ f.1 ∉ taken := by
  simp [isWelcome]

lemma newcomers_cons_of_not_isWelcome (out : ¬isWelcome taken f = true) :
    newcomers taken (f :: files) = newcomers taken files := by
  rw [newcomers, List.filter_cons_of_neg out, newcomers]

/-- Once a file has come in, its name is taken. -/
lemma newcomers_cons (welcome : isWelcome taken f = true) :
    newcomers taken (f :: files) = f :: newcomers (taken ++ [f.1]) files := by
  rw [newcomers, List.filter_cons_of_pos welcome, List.eraseDupsBy_cons, List.filter_filter,
    newcomers]
  refine congrArg (fun rest => f :: List.eraseDupsBy _ rest) (List.filter_congr fun g _ => ?_)
  by_cases same : g.1 = f.1
  · simp [isWelcome, same]
  · simp [isWelcome, same]

/-- Newcomers come in the order of the files. -/
lemma newcomers_sublist : ∀ {taken : List String}, (newcomers taken files).Sublist files := by
  induction files with
  | nil => exact .slnil
  | cons f rest ih =>
    intro taken
    by_cases welcome : isWelcome taken f = true
    · rw [newcomers_cons welcome]
      exact ih.cons_cons f
    · rw [newcomers_cons_of_not_isWelcome welcome]
      exact ih.cons f

/-- Files that do not have the name of an image do not matter. -/
lemma newcomers_filter (taken : List String) (files : List (String × ByteArray)) :
    newcomers taken (files.filter fun f => isImageName f.1) = newcomers taken files := by
  rw [newcomers, List.filter_filter, newcomers]
  refine congrArg (List.eraseDupsBy _) (List.filter_congr fun f _ => ?_)
  cases image : isImageName f.1 with
  | true => exact Bool.and_true _
  | false => simp [isWelcome, image]

/-- Afterwards the names of all images are taken. -/
lemma mem_of_newcomers {g : String × ByteArray} (image : isImageName g.1 = true) :
    ∀ {taken : List String}, g ∈ files → g.1 ∈ taken ++ (newcomers taken files).map (·.1) := by
  -- Induction on the files, with the names taken so far: a name that was not welcome had been
  -- taken.
  induction files with
  | nil => exact fun mem => nomatch mem
  | cons f rest ih =>
    intro taken mem
    by_cases welcome : isWelcome taken f = true
    · rw [newcomers_cons welcome, List.map_cons]
      rcases List.mem_cons.mp mem with rfl | later
      · simp
      · have last : g.1 ∈ (taken ++ [f.1]) ++ (newcomers (taken ++ [f.1]) rest).map (·.1) :=
          ih later
        simpa using last
    · rw [newcomers_cons_of_not_isWelcome welcome]
      rcases List.mem_cons.mp mem with rfl | later
      · refine List.mem_append_left _ (not_not.mp fun free => welcome ?_)
        exact isWelcome_iff.mpr ⟨image, free⟩
      · exact ih later

end Newcomers

/-- New entries that come into a stock from some files: the newcomers among them, in their order and
under the next ids. -/
structure Stock.LetsIn (t : Stock) (files : List (String × ByteArray)) (new : List Entry.Card) :
    Prop where
  came : new.map (·.file) = newcomers t.names files
  ids : new.map (·.id) = (List.range' (t.given + 1) new.length).map .nth

lemma Stock.LetsIn.length_le {t : Stock} {files : List (String × ByteArray)}
    {new : List Entry.Card} (h : t.LetsIn files new) : new.length ≤ files.length := by
  rw [← List.length_map Entry.Card.file, h.came]
  exact newcomers_sublist.length_le

/-! ## Importing -/

namespace Session

/-- A session in order with this stock, which accepts jobs. -/
structure Stocked (t : Stock) (s : Session S O) : Prop extends s.Orderly where
  accepting : s.collection.scheduler.Accepting
  stock : s.collection.stock = t

variable {t : Stock} {s s' : Session S O} {id : EntryId} {name : String}

/-- A file without the name of an image, or with a name that is taken, is passed over. -/
lemma run_addMany_cons {f : String × ByteArray}
    (out : isImageName f.1 = false ∨ s.collection.findByName f.1 ≠ none)
    (rest : List (String × ByteArray)) :
    ∃ records, s.run (addMany w (f :: rest)) = (s.logged records).run (addMany w rest) := by
  cases image : isImageName f.1 with
  | false =>
    refine ⟨[⟨.debug, "跳过非图片文件: " ++ f.1⟩], ?_⟩
    rw [addMany, image, Bool.not_false, if_pos rfl, run_bind_ok (run_log _ _ _)]
  | true =>
    obtain ⟨e, found⟩ := Option.ne_none_iff_exists'.mp (out.resolve_left (by simp [image]))
    refine ⟨[⟨.debug, Message.duplicateName f.1⟩], ?_⟩
    rw [addMany, image, Bool.not_true, if_neg (by decide), run_bind_ok (run_add_taken found f.2)]
    simp

/-- If the names of all images are taken, nothing is imported. -/
lemma run_addMany_of_taken {files : List (String × ByteArray)} : ∀ {s : Session S O},
    (∀ f ∈ files, isImageName f.1 = true → s.collection.findByName f.1 ≠ none) →
    ∃ records, s.run (addMany w files) = (.ok [], s.logged records) := by
  induction files with
  | nil => exact fun {s} _ => ⟨[], by rw [logged_nil]; rfl⟩
  | cons f rest ih =>
    intro s taken
    have out : isImageName f.1 = false ∨ s.collection.findByName f.1 ≠ none := by
      cases image : isImageName f.1 with
      | false => exact .inl rfl
      | true => exact .inr (taken f List.mem_cons_self image)
    obtain ⟨records, first⟩ := run_addMany_cons (w := w) out rest
    obtain ⟨more, others⟩ := ih (s := s.logged records) fun f mem =>
      taken f (List.mem_cons_of_mem _ mem)
    refine ⟨records ++ more, ?_⟩
    rw [first, others]
    simp [logged]

namespace Stocked

lemma logged (h : Stocked t s) (records : List LogRecord) : Stocked t (s.logged records) :=
  ⟨⟨h.shelved, h.catalogued⟩, h.accepting, h.stock⟩

lemma steps (h : Stocked t s) {codec : Codec S} {ds : List Deed}
    (steps : Collection.Steps codec s.collection ds s'.collection)
    (discreet : ∀ d ∈ ds, d.isDiscreet = true) : Stocked t s' where
  toOrderly := h.toOrderly.steps steps
  accepting := by
    rw [← Scheduler.accepts_iff, steps.accepts_eq, Scheduler.accepts_iff]
    · exact h.accepting
    · rintro d mem rfl
      cases discreet _ mem
  stock := (steps.stock_eq h.shelved discreet).trans h.stock

/-- A name is free exactly if nothing in stock has it. -/
lemma name_free (h : Stocked t s) (name : String) :
    s.collection.findByName name = none ↔ name ∉ t.names := by
  rw [← h.stock, Collection.findByName, List.find?_eq_none]
  simp [Stock.names, Collection.stock, Collection.cards, Entry.card]

lemma chosen (h : Stocked t s) (id : Option EntryId) :
    Stocked t (s.withCollection (s.collection.choose id)) :=
  ⟨⟨h.shelved, h.catalogued⟩, h.accepting, h.stock⟩

/-- A new image comes last. -/
lemma inserted (h : Stocked t s) (codec : Codec S) (name : String) (data : ByteArray)
    (p : Params) : Stocked (t.grown [⟨s.collection.nextId, name, data, p⟩])
      (s.withCollection (s.collection.insert name data p).2) := by
  have imported : Collection.Step codec s.collection _ _ := .imported s.collection name data p
  refine ⟨h.toOrderly.steps (.step .start imported), h.accepting, ?_⟩
  rw [← h.stock]
  exact Collection.stock_insert h.shelved name data p

section Acts

variable (discreet : w.Discreet)

include discreet

lemma told (h : Stocked t s) (event : Event) : Stocked t (s.told w event) := by
  obtain ⟨ds, steps, kind⟩ := told_steps discreet event s
  exact h.steps steps kind

lemma path (h : Stocked t s) {ds : List Deed} (path : Path w s ds s')
    (kind : ∀ d ∈ ds, d.isDiscreet = true) : Stocked t s' := by
  obtain ⟨es, steps, kind'⟩ := path.steps_by discreet
  exact h.steps steps fun d mem => (kind' d mem).elim (kind d) id

lemma harvest {α : Type} {a : Act S O α} (h : Stocked t s) (harvests : Harvests w a) :
    Stocked t (s.run a).2 := by
  obtain ⟨ds, path, kind⟩ := harvests s
  exact h.path discreet path fun d mem => Deed.isDiscreet_of_isHarvest (kind d mem)

/-- Dispatching a job succeeds, and leaves the stock alone. -/
lemma dispatch {α : Type} (h : Stocked t s) (id : EntryId) (x : α) :
    ∃ s', s.run (do Session.dispatch w id; return x) = (.ok x, s') ∧ Stocked t s' := by
  obtain ⟨_, path, d, rfl, pays⟩ := dispatch_leads (w := w) s id
  have dispatched : s.run (Session.dispatch w id) = (.ok (), _) :=
    Prod.ext (dispatch_ok h.accepting) rfl
  refine ⟨_, run_bind_ok dispatched _, h.path discreet path fun d mem => ?_⟩
  obtain rfl := List.mem_singleton.mp mem
  exact pays.isDiscreet

/-- An image whose name is free comes in under the next id. -/
lemma add (h : Stocked t s) (free : name ∉ t.names) (data : ByteArray) :
    ∃ p s', s.run (Session.add w name data) = (.ok (some (.nth (t.given + 1))), s') ∧
      Stocked (t.grown [⟨.nth (t.given + 1), name, data, p⟩]) s' := by
  obtain ⟨records, same⟩ := run_add (w := w) ((h.name_free name).mpr free) data
  have next : s.collection.nextId = .nth (t.given + 1) := by
    rw [← h.stock]
    rfl
  have inside := h.inserted w.codec name data (importParams s.settings s.collection)
  have told := (inside.logged records).told discreet (.about .added s.collection.nextId)
  refine ⟨importParams s.settings s.collection, ?_⟩
  rw [same, run_bind_ok (run_collection? _), ← next]
  split
  · rw [run_bind_ok (run_setSelection _ _)]
    exact ((told.chosen _).told discreet _).dispatch discreet _ _
  · exact told.dispatch discreet _ _

/-- Importing lets in the newcomers, in order and under the next ids. -/
theorem addMany (files : List (String × ByteArray)) : ∀ {t : Stock} {s : Session S O},
    Stocked t s → ∃ new s', s.run (Session.addMany w files) = (.ok (new.map (·.id)), s') ∧
      Stocked (t.grown new) s' ∧ t.LetsIn files new := by
  -- Induction on the files; the stock grows by each one that is welcome, and is otherwise passed on
  -- as it is.
  induction files with
  | nil => exact fun {t s} h => ⟨[], s, rfl, t.grown_nil.symm ▸ h, rfl, rfl⟩
  | cons f rest ih =>
    intro t s h
    obtain ⟨name, data⟩ := f
    by_cases welcome : isWelcome t.names (name, data) = true
    · obtain ⟨image, free⟩ := isWelcome_iff.mp welcome
      obtain ⟨p, s', added, h'⟩ := h.add discreet free data
      obtain ⟨new, s'', others, h'', came, ids⟩ := ih h'
      refine ⟨⟨.nth (t.given + 1), name, data, p⟩ :: new, s'', ?_, ?_, ?_, ?_⟩
      · rw [Session.addMany, image, Bool.not_true, if_neg (by decide), run_bind_ok added,
          run_bind_ok others]
        rfl
      · rw [Stock.grown_grown] at h''
        exact h''
      · rw [newcomers_cons welcome, List.map_cons, came, Stock.names_grown]
        rfl
      · rw [List.map_cons, ids]
        rfl
    · have out : isImageName name = false ∨ s.collection.findByName name ≠ none := by
        by_contra both
        obtain ⟨image, free⟩ := not_or.mp both
        exact welcome (isWelcome_iff.mpr ⟨by simpa using image,
          (h.name_free name).mp (not_not.mp free)⟩)
      obtain ⟨records, first⟩ := run_addMany_cons (w := w) (f := (name, data)) out rest
      obtain ⟨new, s', others, h', came, ids⟩ := ih (h.logged records)
      refine ⟨new, s', first.trans others, h', ?_, ids⟩
      rw [newcomers_cons_of_not_isWelcome welcome, came]

end Acts

end Stocked

end Session

end Reencode
