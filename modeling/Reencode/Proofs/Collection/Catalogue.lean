import Reencode.Proofs.Collection.Step
import Reencode.Proofs.Resource.Ledger

/-!
# The catalogue of a collection

An entry accounts for the locator of its source as long as it is part of the collection, and for
that of its output if it has one; `Entry.InOrder` says that its handles hold just that.  A
collection is `Catalogued` when the live locators of its registry are, up to their order, those that
the entries of its shelf account for.

Each operation on an entry moves the holdings of that one entry and leaves the rest alone, so a step
is a matter of splitting the shelf at the entry (`Catalogued.replace`).
-/

namespace Reencode

variable {S : Type}

namespace Entry

/-- The live locators that an entry accounts for, with their bytes. -/
def holdings (e : Entry) : List (Locator × ByteArray) :=
  e.sourceHandle.holding ++ e.output.elim [] Handle.holding

/-- The locators of an entry's bytes. -/
def locators (e : Entry) : List Locator :=
  e.sourceHandle.locator?.toList ++ (e.output.bind Handle.locator?).toList

/-- An entry whose handles are held and listed until it is destroyed, and released then. -/
structure InOrder (e : Entry) : Prop where
  listed : e.listed = true
  source : e.destroyed = false → ∃ l, e.sourceHandle = .held e.source (some l)
  output : e.destroyed = false → ∀ handle, e.output = some handle →
    ∃ data l p, handle = .held data (some l) ∧ e.outputParams = some p
  gone : e.destroyed = true → e.holdings = []

variable {e : Entry} {r : Registry} {rest : List (Locator × ByteArray)}

/-- A living entry accounts for its source and, if it has one, its output. -/
lemma InOrder.holdings_eq (h : e.InOrder) (life : e.destroyed = false) :
    ∃ l, e.sourceHandle = .held e.source (some l) ∧
      ((e.output = none ∧ e.holdings = [(l, e.source)]) ∨
        ∃ data l' p, e.output = some (.held data (some l')) ∧ e.outputParams = some p ∧
          e.holdings = [(l, e.source), (l', data)]) := by
  obtain ⟨l, source⟩ := h.source life
  refine ⟨l, source, ?_⟩
  cases out : e.output with
  | none => exact .inl ⟨rfl, by simp [holdings, source, out, Handle.holding]⟩
  | some handle =>
    obtain ⟨data, l', p, rfl, made⟩ := h.output life handle out
    exact .inr ⟨data, l', p, rfl, made, by simp [holdings, source, out, Handle.holding]⟩

lemma mem_locators {e : Entry} {l : Locator} : l ∈ e.locators ↔ e.sourceHandle.locator? = some l ∨
    ∃ handle, e.output = some handle ∧ handle.locator? = some l := by
  simp [locators, Option.bind_eq_some_iff]

lemma InOrder.locators_eq (h : e.InOrder) (life : e.destroyed = false) :
    e.locators = e.holdings.map (·.1) := by
  obtain ⟨l, source, ⟨out, holds⟩ | ⟨data, l', p, out, -, holds⟩⟩ := h.holdings_eq life
  · simp [locators, source, out, holds, Handle.locator?]
  · simp [locators, source, out, holds, Handle.locator?]

/-- A new entry accounts for its source. -/
lemma create_catalogued (id : EntryId) (name : String) (source : ByteArray) (params : Params)
    (sound : r.Sound) (live : r.live.Perm rest) :
    (create id name source params true r).1.InOrder ∧
      (create id name source params true r).2.Sound ∧
      (create id name source params true r).2.live.Perm
        ((create id name source params true r).1.holdings ++ rest) := by
  obtain ⟨sound', live'⟩ := Handle.make_listed sound live source
  refine ⟨?_, sound', ?_⟩
  · exact {
      listed := rfl
      source := fun _ => ⟨r.next, rfl⟩
      output := fun _ handle out => by cases out
      gone := fun dead => by cases dead }
  · simpa [holdings, create] using live'

/-- A destroyed entry accounts for nothing. -/
lemma destroy_catalogued (h : e.InOrder) (sound : r.Sound)
    (live : r.live.Perm (e.holdings ++ rest)) :
    (e.destroy r).1.InOrder ∧ (e.destroy r).2.Sound ∧
      (e.destroy r).2.live.Perm ((e.destroy r).1.holdings ++ rest) := by
  cases life : e.destroyed with
  | true =>
    have same : e.destroy r = (e, r) := by simp [destroy, life]
    rw [same]
    exact ⟨h, sound, live⟩
  -- The source is released first and the output after it; each takes its own locator from the live
  -- ones.
  | false =>
    rw [holdings, List.append_assoc] at live
    obtain ⟨sound', live'⟩ := Handle.release_sound sound live
    have gone : ({ e with sourceHandle := .released, output := none, destroyed := true } :
        Entry).InOrder := {
      listed := h.listed
      source := fun alive => by cases alive
      output := fun alive => by cases alive
      gone := fun _ => rfl }
    simp only [destroy, life, Bool.false_eq_true, if_false]
    cases out : e.output with
    | none =>
      rw [out] at live'
      exact ⟨gone, sound', live'⟩
    | some handle =>
      rw [out] at live'
      obtain ⟨sound'', live''⟩ := Handle.release_sound sound' live'
      exact ⟨gone, sound'', live''⟩

/-- A new output is listed in the place of the one there was. -/
lemma storeOutput_catalogued (h : e.InOrder) (life : e.destroyed = false) (sound : r.Sound)
    (live : r.live.Perm (e.holdings ++ rest)) {data : ByteArray} {handle : Handle} {r' : Registry}
    (stored : e.storeOutput r data = .ok (handle, r')) (p : Params) :
    (e.withOutput handle data p).InOrder ∧ r'.Sound ∧
      r'.live.Perm ((e.withOutput handle data p).holdings ++ rest) := by
  obtain ⟨l, source, kinds⟩ := h.holdings_eq life
  have order : (∃ l', handle = .held data (some l')) → (e.withOutput handle data p).InOrder := by
    rintro ⟨l', rfl⟩
    exact {
      listed := h.listed
      source := fun _ => ⟨l, source⟩
      output := fun _ made out => ⟨data, l', p, (Option.some.inj out).symm, rfl⟩
      gone := fun dead => absurd (life.symm.trans dead) (by decide) }
  have placed : (e.withOutput handle data p).holdings = (l, e.source) :: handle.holding := by
    simp [holdings, withOutput, source, Handle.holding]
  rw [placed]
  -- An entry that is not destroyed lists its source, and its output if there is one, which is then
  -- replaced.
  rcases kinds with ⟨out, holds⟩ | ⟨old, l', -, out, -, holds⟩
  · simp only [storeOutput, out, h.listed, Except.ok.injEq] at stored
    obtain ⟨sound', live'⟩ := Handle.make_listed sound live data
    rw [stored, holds] at live'
    rw [stored] at sound'
    have held : handle = .held data (some r.next) := (congrArg Prod.fst stored).symm
    exact ⟨order ⟨r.next, held⟩, sound', live'.trans List.perm_middle⟩
  · have front : r.live.Perm ((l', old) :: (l, e.source) :: rest) := by
      rw [holds] at live
      exact live.trans (List.Perm.swap _ _ _)
    obtain ⟨made, replaced, held, sound', live'⟩ := Handle.replace_sound sound front data
    simp only [storeOutput, out, replaced, Except.ok.injEq] at stored
    subst stored
    exact ⟨order held, sound', live'.trans List.perm_middle⟩

end Entry

/-- A shelf whose entries account for exactly the live locators of a registry. -/
structure Catalogued (shelf : List Entry) (r : Registry) : Prop where
  sound : r.Sound
  order : ∀ e ∈ shelf, e.InOrder
  live : r.live.Perm (shelf.flatMap Entry.holdings)

namespace Catalogued

variable {codec : Codec S} {alive : List EntryId} {shelf : List Entry} {r r' : Registry}
  {e e' : Entry}

lemma of_create {settings : Settings} {workers : Option Int} {format : Value} {pace : Pace}
    {c : Collection S} (made : Collection.create settings workers format pace = .ok c) :
    Catalogued c.shelf c.registry := by
  obtain ⟨n, f, rfl⟩ := Collection.create_eq_ok made
  exact ⟨.empty, by simp [Collection.empty], List.Perm.refl _⟩

/-- Putting an entry back, when an operation on it kept its own account in order whatever the others
account for. -/
lemma replace (h : Catalogued shelf r) (shelved : Shelved alive shelf) (mem : e ∈ shelf)
    (same : e'.id = e.id)
    (own : ∀ rest, r.live.Perm (e.holdings ++ rest) →
      e'.InOrder ∧ r'.Sound ∧ r'.live.Perm (e'.holdings ++ rest)) :
    Catalogued (replaceEntry e' shelf) r' := by
  obtain ⟨before, after, split, split', -⟩ := shelved.exists_split mem same
  -- The live locators are those of the entry and those of all others; only its own part changes.
  have front : ∀ x : Entry, ((before ++ x :: after).flatMap Entry.holdings).Perm
      (x.holdings ++ (before ++ after).flatMap Entry.holdings) := by
    intro x
    simp only [List.flatMap_append, List.flatMap_cons]
    exact List.perm_append_comm_assoc _ _ _
  have live := h.live
  rw [split] at live
  obtain ⟨order, sound, live'⟩ := own _ (live.trans (front e))
  refine ⟨sound, ?_, ?_⟩
  · intro other hother
    rcases (shelved.mem_replaceEntry mem same).mp hother with rfl | ⟨old, -⟩
    · exact order
    · exact h.order other old
  · rw [split']
    exact live'.trans (front e').symm

/-- Putting an entry back that has the handles it had. -/
lemma replace_same (h : Catalogued shelf r) (shelved : Shelved alive shelf) (mem : e ∈ shelf)
    (same : e'.id = e.id) (order : e.InOrder → e'.InOrder) (holds : e'.holdings = e.holdings) :
    Catalogued (replaceEntry e' shelf) r := by
  refine h.replace shelved mem same fun rest live => ⟨order (h.order e mem), h.sound, ?_⟩
  rw [holds]
  exact live

lemma destroy {c : Collection S} (h : Catalogued c.shelf c.registry)
    (shelved : Shelved alive c.shelf) {id : EntryId} (found : c.find? id = some e) :
    Catalogued (c.destroy e).shelf (c.destroy e).registry := by
  obtain ⟨mem, -⟩ := shelved.mem_of_find? found
  exact h.replace shelved mem (e.destroy_id c.registry) fun rest live =>
    Entry.destroy_catalogued (h.order e mem) h.sound live

lemma destroyAll {c : Collection S} (h : Catalogued c.shelf c.registry)
    (shelved : Shelved alive c.shelf) (ids : List EntryId) :
    Catalogued (c.destroyAll ids).shelf (c.destroyAll ids).registry := by
  refine shelved.destroyAll_induction (P := fun c' => Catalogued c'.shelf c'.registry) ?_ ids h
  intro _ c' id e shelved' h' found
  exact h'.destroy shelved' found

/-! ## Reading the catalogue -/

/-- Entries that were destroyed account for nothing. -/
lemma flatMap_holdings {shelf : List Entry} (order : ∀ e ∈ shelf, e.InOrder) :
    (shelf.filter fun e => !e.destroyed).flatMap Entry.holdings =
      shelf.flatMap Entry.holdings := by
  induction shelf with
  | nil => rfl
  | cons e rest ih =>
    have tail := ih fun other mem => order other (List.mem_cons_of_mem _ mem)
    cases life : e.destroyed with
    | true =>
      have gone := (order e List.mem_cons_self).gone life
      simp [life, gone, tail]
    | false => simp [life, tail]

/-- The live locators are those of the entries of the collection. -/
lemma live_entries {c : Collection S} (h : Catalogued c.shelf c.registry)
    (shelved : Shelved c.ids c.shelf) :
    c.registry.live.Perm (c.entries.flatMap Entry.holdings) := by
  have onShelf := (shelved.entries_perm.flatMap_right Entry.holdings)
  rw [flatMap_holdings h.order] at onShelf
  exact h.live.trans onShelf.symm

lemma inOrder {c : Collection S} (h : Catalogued c.shelf c.registry)
    (shelved : Shelved c.ids c.shelf) (mem : e ∈ c.entries) : e.InOrder ∧ e.destroyed = false := by
  obtain ⟨onShelf, alive⟩ := shelved.mem_entries.mp mem
  exact ⟨h.order e onShelf, (shelved.mem_alive_iff onShelf).mp alive⟩

lemma locators_entries {c : Collection S} (h : Catalogued c.shelf c.registry)
    (shelved : Shelved c.ids c.shelf) :
    (c.registry.live.map (·.1)).Perm (c.entries.flatMap Entry.locators) := by
  have keys : (c.entries.flatMap Entry.holdings).map (·.1) = c.entries.flatMap Entry.locators := by
    rw [List.map_flatMap]
    refine List.flatMap_congr fun e mem => ?_
    obtain ⟨order, life⟩ := h.inOrder shelved mem
    exact (order.locators_eq life).symm
  rw [← keys]
  exact (h.live_entries shelved).map _

/-- Each entry of the collection gets back what it accounts for. -/
lemma resolve_holding {c : Collection S} (h : Catalogued c.shelf c.registry)
    (shelved : Shelved c.ids c.shelf) (mem : e ∈ c.entries) {l : Locator} {data : ByteArray}
    (holds : (l, data) ∈ e.holdings) : c.registry.resolve l = some data :=
  Lookup.lookup_of_mem h.sound.distinct
    ((h.live_entries shelved).symm.subset (List.mem_flatMap.mpr ⟨e, mem, holds⟩))

/-! ## Steps -/

/-- Every step keeps the catalogue. -/
theorem step {c c' : Collection S} {d : Deed} (h : Catalogued c.shelf c.registry)
    (shelved : Shelved c.ids c.shelf) (st : Collection.Step codec c d c') :
    Catalogued c'.shelf c'.registry := by
  -- Whatever does not touch a handle leaves the holdings alone.
  cases st with
  | imported name data params =>
    obtain ⟨order, sound, live⟩ :=
      Entry.create_catalogued c.nextId name data params h.sound h.live
    refine ⟨sound, ?_, ?_⟩
    · intro other hother
      rcases List.mem_append.mp hother with old | new
      · exact h.order other old
      · obtain rfl := List.mem_singleton.mp new
        exact order
    · simp only [Collection.insert, List.flatMap_append, List.flatMap_cons, List.flatMap_nil,
        List.append_nil]
      exact live.trans List.perm_append_comm
  | removed found =>
    exact Catalogued.destroy (c := c.drop _) h shelved (Collection.find?_of_get? found).1
  | cleared => exact Catalogued.destroyAll (c := { c with ids := [] }) h shelved c.ids
  | paramsSet params found =>
    obtain ⟨mem, -⟩ := shelved.mem_of_find? found
    exact h.replace_same shelved mem rfl (fun o => ⟨o.listed, o.source, o.output, o.gone⟩) rfl
  | dispatched found accepted =>
    obtain ⟨mem, -⟩ := shelved.mem_of_find? found
    exact h.replace_same shelved mem rfl (fun o => ⟨o.listed, o.source, o.output, o.gone⟩) rfl
  | refused found refusal =>
    obtain ⟨mem, -⟩ := shelved.mem_of_find? found
    exact h.replace_same shelved mem rfl (fun o => ⟨o.listed, o.source, o.output, o.gone⟩) rfl
  | faulted taken found payload recorded =>
    obtain ⟨mem, -⟩ := shelved.mem_of_get? found
    obtain ⟨-, -, rfl⟩ := Entry.recordFault_eq_some recorded
    exact h.replace_same shelved mem rfl (fun o => ⟨o.listed, o.source, o.output, o.gone⟩) rfl
  | updated taken found payload replaced =>
    obtain ⟨mem, -⟩ := shelved.mem_of_get? found
    obtain ⟨-, life, handle, stored, rfl⟩ := Entry.applyOutput_eq_some replaced
    exact h.replace shelved mem rfl fun rest live =>
      Entry.storeOutput_catalogued (h.order _ mem) life h.sound live stored _
  | _ => exact h

theorem steps {c c' : Collection S} {ds : List Deed} (h : Catalogued c.shelf c.registry)
    (shelved : Shelved c.ids c.shelf) (st : Collection.Steps codec c ds c') :
    Catalogued c'.shelf c'.registry := by
  induction st with
  | start => exact h
  | step before last ih => exact ih.step (shelved.steps before) last

end Catalogued

end Reencode
