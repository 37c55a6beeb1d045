import Reencode.Proofs.Collection.Presence

/-!
# What steps do to one entry

The entries of a collection share a registry, a mailbox and a decode cache; still, a step that does
not take an entry out of the collection does to it one of a few things.  `Entry.Turn` lists them:
most deeds are about another entry or about none, and leave the whole record as it is; of the deeds
that are about the entry, only taking over encoded bytes touches its output.

An entry that is there before and after some steps went through one turn after the other
(`Shelved.turns`), because ids are never given out twice.  What no turn breaks therefore holds along
every sequence of steps: an output is not lost (`Entry.Turns.hasOutput`), and it only becomes
another one where that is told (`Entry.Turns.readOutput_eq`).  And what holds of new entries too
holds of all there are (`Shelved.entries_induction`).
-/

namespace Reencode

variable {S : Type}

namespace Deed

/-- The entry of the collection that a deed changes, if it changes one that stays. -/
def subject? : Deed → Option EntryId
  | paramsSet id => some id
  | dispatched j | refused j => some j.entry
  | applied o => some o.entry
  | _ => none

/-- Whether a deed tells of a new output of an entry. -/
def updates (id : EntryId) (d : Deed) : Prop := d.event? = some (.about .outputUpdated id)

end Deed

namespace Entry

/-- What a step may do to an entry that stays in the collection. -/
inductive Turn (e : Entry) : Deed → Entry → Prop
  | spared {d : Deed} (other : d.subject? ≠ some e.id) : Turn e d e
  | paramsSet (params : Params) : Turn e (.paramsSet e.id) { e with params }
  | dispatched : Turn e (.dispatched e.request) e.advance
  | refused : Turn e (.refused e.request) e.advance
  | faulted {o : Outcome} {f : Fault} (mine : o.entry = e.id) (payload : o.payload = .fault f) :
      Turn e (.applied o) { e with fault := some f }
  | updated {o : Outcome} {data : ByteArray} (locator : Option Locator) (mine : o.entry = e.id)
      (payload : o.payload = .data data) :
      Turn e (.applied o) (e.withOutput (.held data locator) data o.params)

namespace Turn

variable {e e' : Entry} {d : Deed}

lemma id_eq (turn : e.Turn d e') : e'.id = e.id := by
  cases turn <;> rfl

/-- A deed that is not about an entry leaves all of it as it is. -/
lemma eq_of_subject? (turn : e.Turn d e') (other : d.subject? ≠ some e.id) : e' = e := by
  cases turn with
  | spared => rfl
  | faulted mine | updated _ mine => exact absurd (congrArg some mine) other
  | _ => exact absurd rfl other

/-- Taking over a fault changes nothing of an entry but its fault. -/
lemma eq_of_fault {o : Outcome} {f : Fault} (turn : e.Turn (.applied o) e')
    (payload : o.payload = .fault f) : ∃ fault, e' = { e with fault } := by
  cases turn with
  | spared => exact ⟨e.fault, rfl⟩
  | faulted => exact ⟨_, rfl⟩
  | updated _ _ other =>
    rw [payload] at other
    cases other

lemma hasOutput (turn : e.Turn d e') (out : e.hasOutput = true) : e'.hasOutput = true := by
  cases turn with
  | updated => rfl
  | _ => exact out

/-- An output only becomes another one when that is told. -/
lemma readOutput_eq (turn : e.Turn d e') (untold : ¬d.updates e.id) :
    e'.readOutput = e.readOutput := by
  cases turn with
  | updated _ mine payload =>
    refine absurd ?_ untold
    simp [Deed.updates, Deed.event?, mine, payload]
  | _ => rfl

end Turn

/-- The turns an entry takes, one after the other. -/
inductive Turns (e : Entry) : List Deed → Entry → Prop
  | start : Turns e [] e
  | step {ds : List Deed} {d : Deed} {a b : Entry} :
      Turns e ds a → a.Turn d b → Turns e (ds ++ [d]) b

namespace Turns

variable {e e' : Entry} {ds : List Deed}

lemma id_eq (turns : e.Turns ds e') : e'.id = e.id := by
  induction turns with
  | start => rfl
  | step _ turn ih => exact turn.id_eq.trans ih

lemma eq_of_subject? (turns : e.Turns ds e') (other : ∀ d ∈ ds, d.subject? ≠ some e.id) :
    e' = e := by
  induction turns with
  | start => rfl
  | step _ turn ih =>
    obtain rfl := ih fun d mem => other d (List.mem_append_left _ mem)
    exact turn.eq_of_subject? (other _ (List.mem_append_right _ List.mem_cons_self))

/-- An output is not lost as long as its entry stays. -/
lemma hasOutput (turns : e.Turns ds e') (out : e.hasOutput = true) : e'.hasOutput = true := by
  induction turns with
  | start => exact out
  | step _ turn ih => exact turn.hasOutput ih

/-- An output only becomes another one when that is told. -/
lemma readOutput_eq (turns : e.Turns ds e') (untold : ∀ d ∈ ds, ¬d.updates e.id) :
    e'.readOutput = e.readOutput := by
  induction turns with
  | start => rfl
  | step before turn ih =>
    have last := untold _ (List.mem_append_right _ List.mem_cons_self)
    rw [← before.id_eq] at last
    exact (turn.readOutput_eq last).trans (ih fun d mem => untold d (List.mem_append_left _ mem))

end Turns

end Entry

/-! ## Turns of the entries of a collection -/

namespace Shelved

variable {codec : Codec S} {alive : List EntryId} {shelf : List Entry} {c c' : Collection S}
  {d : Deed} {ds : List Deed} {e e' : Entry}

/-- Putting a changed entry back is a turn of that entry, and spares all others. -/
lemma turn_of_replace (h : Shelved alive shelf) {a b : Entry} (known : a ∈ shelf)
    (about : d.subject? = some a.id) (turn : a.Turn d b) (mem : e ∈ shelf) :
    ∃ e' ∈ replaceEntry b shelf, e.Turn d e' := by
  have placed : ∀ other, other ∈ replaceEntry b shelf ↔
      other = b ∨ (other ∈ shelf ∧ other.id ≠ a.id) := fun _ => h.mem_replaceEntry known turn.id_eq
  by_cases same : e.id = a.id
  · obtain rfl := h.eq_of_id_eq mem known same
    exact ⟨b, (placed b).mpr (.inl rfl), turn⟩
  · refine ⟨e, (placed e).mpr (.inr ⟨mem, same⟩), .spared ?_⟩
    rw [about]
    exact fun mine => same (Option.some.inj mine).symm

/-- An entry that stays in the collection in a step takes a turn. -/
theorem turn (h : Shelved c.ids c.shelf) (st : Collection.Step codec c d c')
    (mem : e ∈ c.entries) (stays : e.id ∈ c'.ids) : ∃ e' ∈ c'.entries, e.Turn d e' := by
  obtain ⟨onShelf, alive⟩ := h.mem_entries.mp mem
  -- Whoever stays is found on the shelf after the step; so it is enough to look there.
  suffices ∃ e' ∈ c'.shelf, e.Turn d e' by
    obtain ⟨e', mem', turn⟩ := this
    exact ⟨e', (h.step st).mem_entries.mpr ⟨mem', turn.id_eq.symm ▸ stays⟩, turn⟩
  cases st with
  | imported name data params =>
    exact ⟨e, List.mem_append_left _ onShelf, .spared (by simp [Deed.subject?])⟩
  | @removed id a found =>
    obtain ⟨known, rfl⟩ := h.mem_of_get? found
    have other : e.id ≠ a.id := by simpa using (List.mem_filter.mp stays).2
    refine ⟨e, ?_, .spared (by simp [Deed.subject?])⟩
    exact (h.mem_replaceEntry known (a.destroy_id c.registry)).mpr (.inr ⟨onShelf, other⟩)
  | cleared =>
    have nobody : (({ c with ids := [] }.destroyAll c.ids).choose none).ids = [] :=
      Collection.ids_destroyAll c.ids { c with ids := [] }
    rw [nobody] at stays
    cases stays
  | @paramsSet id a params found =>
    obtain ⟨known, rfl⟩ := h.mem_of_find? found
    exact h.turn_of_replace known rfl (.paramsSet params) onShelf
  | dispatched found accepted =>
    exact h.turn_of_replace (h.mem_of_find? found).1 rfl .dispatched onShelf
  | refused found refusal =>
    exact h.turn_of_replace (h.mem_of_find? found).1 rfl .refused onShelf
  | faulted taken found payload recorded =>
    obtain ⟨known, mine⟩ := h.mem_of_get? found
    obtain ⟨-, -, rfl⟩ := Entry.recordFault_eq_some recorded
    exact h.turn_of_replace known (congrArg some mine.symm) (.faulted mine.symm payload) onShelf
  | updated taken found payload replaced =>
    obtain ⟨known, mine⟩ := h.mem_of_get? found
    obtain ⟨-, -, handle, stored, rfl⟩ := Entry.applyOutput_eq_some replaced
    obtain ⟨locator, rfl⟩ := Entry.held_of_storeOutput stored
    exact h.turn_of_replace known (congrArg some mine.symm) (.updated locator mine.symm payload)
      onShelf
  | _ => exact ⟨e, onShelf, .spared (by simp [Deed.subject?])⟩

/-- An entry that is there before and after some steps took turns in between. -/
theorem turns (h : Shelved c.ids c.shelf) (st : Collection.Steps codec c ds c')
    (mem : e ∈ c.entries) (stays : e.id ∈ c'.ids) : ∃ e' ∈ c'.entries, e.Turns ds e' := by
  induction st with
  | start => exact ⟨e, mem, .start⟩
  | @step ds c₁ c₂ d before last ih =>
    -- An id that was given out does not come back, so the entry was there before the last step.
    have known : c₁.Knows e.id := before.knows (.of_mem h (h.mem_entries.mp mem).2)
    have there := (last.admits (h.steps before) stays).resolve_right (not_not_intro known)
    obtain ⟨a, hmem, turns⟩ := ih there
    obtain ⟨b, hmem', turn⟩ := (h.steps before).turn last hmem (turns.id_eq.symm ▸ stays)
    exact ⟨b, hmem', turns.step turn⟩

lemma turns_of_id_eq (h : Shelved c.ids c.shelf) (st : Collection.Steps codec c ds c')
    (mem : e ∈ c.entries) (mem' : e' ∈ c'.entries) (same : e'.id = e.id) : e.Turns ds e' := by
  have after := h.steps st
  obtain ⟨onShelf', stays⟩ := after.mem_entries.mp mem'
  obtain ⟨a, hmem, turns⟩ := h.turns st mem (same ▸ stays)
  obtain ⟨onShelf, -⟩ := after.mem_entries.mp hmem
  obtain rfl := after.eq_of_id_eq onShelf onShelf' (turns.id_eq.trans same.symm)
  exact turns

/-- An entry that is there after a step was just imported, or took a turn. -/
lemma new_or_turn (h : Shelved c.ids c.shelf) (st : Collection.Step codec c d c')
    (mem' : e' ∈ c'.entries) :
    (∃ name data params, e' = (Entry.create c.nextId name data params true c.registry).1) ∨
      ∃ e ∈ c.entries, e.Turn d e' := by
  obtain ⟨onShelf', alive'⟩ := (h.step st).mem_entries.mp mem'
  rcases st.admits h alive' with alive | new
  · obtain ⟨e, onShelf, same⟩ := h.exists_of_mem_alive alive
    have mem := h.mem_entries.mpr ⟨onShelf, same ▸ alive⟩
    obtain ⟨a, hmem, turn⟩ := h.turn st mem (same ▸ alive')
    obtain rfl := (h.step st).eq_of_id_eq ((h.step st).mem_entries.mp hmem).1 onShelf'
      (turn.id_eq.trans same)
    exact .inr ⟨e, mem, turn⟩
  -- Only an import admits, and the entry that it adds is the last one on the shelf.
  · have known : e'.id ∈ d.known (c.shelf.map Entry.id) :=
      st.known_eq ▸ List.mem_map_of_mem onShelf'
    cases st with
    | imported name data params =>
      rcases List.mem_append.mp onShelf' with old | newest
      · exact absurd (List.mem_map_of_mem old) new
      · exact .inl ⟨name, data, params, List.mem_singleton.mp newest⟩
    | _ => exact absurd known new

/-- What every new entry has, and no turn takes away, all entries have. -/
lemma entries_induction {P : Entry → Prop}
    (new : ∀ id name data params r, P (Entry.create id name data params true r).1)
    (turn : ∀ {e d e'}, P e → e.Turn d e' → P e') (h : Shelved c.ids c.shelf)
    (st : Collection.Steps codec c ds c') (start : ∀ e ∈ c.entries, P e) :
    ∀ e ∈ c'.entries, P e := by
  induction st with
  | start => exact start
  | step before last ih =>
    intro e' mem'
    rcases (h.steps before).new_or_turn last mem' with ⟨name, data, params, rfl⟩ | ⟨e, mem, took⟩
    · exact new _ name data params _
    · exact turn (ih e mem) took

end Shelved

end Reencode
