import Reencode.Proofs.Collection.Step

/-!
# Who is present when

Which entries are in a collection at a moment of its history can be read off the deeds before
(`Collection.Steps.ids_eq`), and so can which of them have left again (`leaversOf`).  An entry that
was in the collection when a history began, or came later, is in it at the end unless it left on the
way (`Collection.Steps.present_or_left`): there is no third case, because ids are never given out
twice.

A selection dangles if the selected entry is not in the collection.
-/

namespace Reencode

variable {S : Type}

/-! ## Coming and leaving -/

namespace Deed

/-- Whether a deed takes entries out of the collection. -/
def isRemoval : Deed → Bool
  | removed _ | cleared => true
  | _ => false

/-- The entries that are present after a deed. -/
def present (ids : List EntryId) : Deed → List EntryId
  | imported id => ids ++ [id]
  | removed id => ids.filter (· ≠ id)
  | cleared => []
  | _ => ids

/-- The entries that there are, or were, after a deed. -/
def known (ids : List EntryId) : Deed → List EntryId
  | imported id => ids ++ [id]
  | _ => ids

/-- The selected entry after a deed. -/
def picked (selected : Option EntryId) : Deed → Option EntryId
  | chosen id => id
  | cleared => none
  | _ => selected

/-- Whether a deed leaves alone who is present and who is selected, and is no request for a job. -/
def isPlacid : Deed → Bool
  | imported _ | removed _ | cleared | chosen _ | dispatched _ | refused _ => false
  | _ => true

lemma isPlacid_of_isHarvest {d : Deed} (harvest : d.isHarvest = true) : d.isPlacid = true := by
  cases d <;> first | rfl | cases harvest

lemma subset_present {d : Deed} (stays : d.isRemoval = false) (ids : List EntryId) :
    ids ⊆ d.present ids := by
  cases d with
  | imported id => exact List.subset_append_left ids [id]
  | removed | cleared => cases stays
  | _ => exact List.Subset.refl ids

end Deed

/-- The entries that are present after a history. -/
def presentAfter (ids : List EntryId) (deeds : List Deed) : List EntryId :=
  deeds.foldl Deed.present ids

/-- The entries that leave in a history. -/
def leaversOf (ids : List EntryId) : List Deed → List EntryId
  | [] => []
  | d :: rest => ids.filter (· ∉ d.present ids) ++ leaversOf (d.present ids) rest

@[simp] lemma presentAfter_append (ids : List EntryId) (ds es : List Deed) :
    presentAfter ids (ds ++ es) = presentAfter (presentAfter ids ds) es :=
  List.foldl_append

@[simp] lemma leaversOf_append (ids : List EntryId) (ds es : List Deed) :
    leaversOf ids (ds ++ es) = leaversOf ids ds ++ leaversOf (presentAfter ids ds) es := by
  induction ds generalizing ids with
  | nil => rfl
  | cons d rest ih => simp only [List.cons_append, leaversOf, ih, List.append_assoc]; rfl

lemma leaversOf_singleton (ids : List EntryId) (d : Deed) :
    leaversOf ids [d] = ids.filter (· ∉ d.present ids) := List.append_nil _

/-- Nobody leaves unless there is a removal. -/
lemma leaversOf_eq_nil {ds : List Deed} (stay : ∀ d ∈ ds, d.isRemoval = false) :
    ∀ ids, leaversOf ids ds = [] := by
  induction ds with
  | nil => exact fun _ => rfl
  | cons d rest ih =>
    intro ids
    have nobody : ids.filter (· ∉ d.present ids) = [] := by
      refine List.filter_eq_nil_iff.mpr fun id mem => ?_
      simpa using Deed.subset_present (stay d List.mem_cons_self) ids mem
    rw [leaversOf, nobody, List.nil_append]
    exact ih (fun d mem => stay d (List.mem_cons_of_mem _ mem)) _

namespace Collection

variable {codec : Codec S} {a b c c' : Collection S} {d : Deed} {ds es : List Deed} {id : EntryId}

/-- There is, or was, an entry of this id. -/
def Knows (c : Collection S) (id : EntryId) : Prop := id ∈ c.shelf.map Entry.id

/-- An entry is in the collection, or has yet to come. -/
def Admits (c : Collection S) (id : EntryId) : Prop := id ∈ c.ids ∨ ¬c.Knows id

/-- The selected entry is not in the collection. -/
def Dangles (c : Collection S) (id : EntryId) : Prop := c.selected = some id ∧ id ∉ c.ids

instance (c : Collection S) (id : EntryId) : Decidable (c.Dangles id) :=
  inferInstanceAs (Decidable (_ ∧ _))

lemma Knows.of_find? {e : Entry} (found : c.find? id = some e) : c.Knows id :=
  List.mem_map.mpr ⟨e, List.mem_of_find?_eq_some found, id_of_find? found⟩

lemma Knows.of_mem (shelved : Shelved c.ids c.shelf) (mem : id ∈ c.ids) : c.Knows id :=
  shelved.sublist.subset mem

/-! ## Steps -/

lemma Step.ids_eq (st : Step codec c d c') : c'.ids = d.present c.ids := by
  cases st with
  | cleared => exact ids_destroyAll c.ids { c with ids := [] }
  | _ => rfl

lemma Step.selected_eq (st : Step codec c d c') : c'.selected = d.picked c.selected := by
  cases st <;> rfl

lemma Step.dangles_of_isPlacid (st : Step codec c d c') (placid : d.isPlacid = true)
    (dangles : c'.Dangles id) : c.Dangles id := by
  rw [Dangles, st.ids_eq, st.selected_eq] at dangles
  cases d <;> first | exact dangles | cases placid

/-- The only entry that a step makes known is the one it imports. -/
lemma Step.known_eq (st : Step codec c d c') :
    c'.shelf.map Entry.id = d.known (c.shelf.map Entry.id) := by
  cases st with
  | imported name data params => exact List.map_append
  | cleared =>
    refine destroyAll_induction (P := fun c' : Collection S =>
      c'.shelf.map Entry.id = c.shelf.map Entry.id) ?_ c.ids { c with ids := [] } rfl
    intro c' _ e same _
    exact (Shelved.ids_replaceEntry _ _).trans same
  | removed | paramsSet | dispatched | refused | faulted | updated =>
    exact Shelved.ids_replaceEntry _ _
  | _ => rfl

lemma Step.knows (st : Step codec c d c') (known : c.Knows id) : c'.Knows id := by
  rw [Knows, st.known_eq]
  cases d with
  | imported new => exact List.mem_append_left _ known
  | _ => exact known

lemma Step.knows_of_imported (st : Step codec c (.imported id) c') : c'.Knows id := by
  rw [Knows, st.known_eq]
  exact List.mem_append_right _ List.mem_cons_self

/-- Whoever a step makes known is present after it. -/
lemma Step.mem_of_new (st : Step codec c d c') (new : ¬c.Knows id) (known : c'.Knows id) :
    id ∈ c'.ids := by
  rw [Knows, st.known_eq] at known
  rw [st.ids_eq]
  cases d with
  | imported other =>
    rcases List.mem_append.mp known with old | mine
    · exact absurd old new
    · exact List.mem_append_right _ mine
  | _ => exact absurd known new

/-- Whoever is present after a step was before, or was not known. -/
lemma Step.admits (st : Step codec c d c') (shelved : Shelved c.ids c.shelf)
    (mem : id ∈ c'.ids) : c.Admits id := by
  cases st with
  | imported name data params =>
    rcases List.mem_append.mp mem with old | mine
    · exact .inl old
    · obtain rfl := List.mem_singleton.mp mine
      exact .inr shelved.next_not_mem
  | removed found => exact .inl (List.mem_of_mem_filter mem)
  | cleared =>
    have nobody : (({ c with ids := [] }.destroyAll c.ids).choose none).ids = [] :=
      ids_destroyAll c.ids { c with ids := [] }
    rw [nobody] at mem
    cases mem
  | _ => exact .inl mem

/-! ## Histories -/

lemma Steps.ids_eq (steps : Steps codec c ds c') : c'.ids = presentAfter c.ids ds := by
  induction steps with
  | start => rfl
  | step _ last ih =>
    rw [last.ids_eq, ih, presentAfter_append]
    rfl

lemma Steps.knows (steps : Steps codec c ds c') (known : c.Knows id) : c'.Knows id := by
  induction steps with
  | start => exact known
  | step _ last ih => exact last.knows ih

lemma Steps.admits (steps : Steps codec c ds c') (shelved : Shelved c.ids c.shelf)
    (admitted : c'.Admits id) : c.Admits id := by
  induction steps with
  | start => exact admitted
  | step before last ih =>
    rcases admitted with mem | new
    · exact ih (last.admits (shelved.steps before) mem)
    · exact ih (.inr fun known => new (last.knows known))

/-- Whoever was there when a history began, or came later, is there at the end or left. -/
theorem Steps.present_or_left (steps : Steps codec c ds c') (admitted : c.Admits id)
    (known : c'.Knows id) : id ∈ c'.ids ∨ id ∈ leaversOf c.ids ds := by
  induction steps with
  | start => exact .inl (admitted.resolve_right (not_not_intro known))
  | @step ds c₁ c₂ d before last ih =>
    by_cases old : c₁.Knows id
    · rcases ih old with mem | left
      · by_cases stays : id ∈ c₂.ids
        · exact .inl stays
        · refine .inr ?_
          rw [leaversOf_append, leaversOf_singleton, ← before.ids_eq, ← last.ids_eq]
          exact List.mem_append_right _ (List.mem_filter.mpr ⟨mem, by simpa using stays⟩)
      · exact .inr (by simp [left])
    · exact .inl (last.mem_of_new old known)

/-- A job is dispatched for an entry that there is, or was. -/
lemma Step.knows_of_dispatched {j : Job} (st : Step codec c (.dispatched j) c') :
    c.Knows j.entry := by
  generalize deed : Deed.dispatched j = d at st
  cases st with
  | @dispatched id e found accepted =>
    obtain rfl := Deed.dispatched.inj deed
    obtain rfl := id_of_find? found
    exact .of_find? found
  | _ => cases deed

/-- A job for an entry that was there when a history began, or came later, is dispatched while the
entry is there, or after it left. -/
theorem Steps.present_or_left_of_dispatched {j : Job}
    (steps : Steps codec c (ds ++ .dispatched j :: es) c') (admitted : c.Admits j.entry) :
    j.entry ∈ presentAfter c.ids ds ∨ j.entry ∈ leaversOf c.ids ds := by
  generalize whole : ds ++ .dispatched j :: es = all at steps
  induction steps generalizing es with
  | start => cases (List.append_eq_nil_iff.mp whole).2
  | @step fs c₁ c₂ d before last ih =>
    rcases List.eq_nil_or_concat es with rfl | ⟨es', d', rfl⟩
    · obtain ⟨rfl, mine⟩ := List.append_inj' whole rfl
      obtain rfl := List.singleton_inj.mp mine
      rw [← before.ids_eq]
      exact before.present_or_left admitted last.knows_of_dispatched
    · have longer : (ds ++ .dispatched j :: es') ++ [d'] = fs ++ [d] := by
        rw [← whole, List.concat_eq_append, List.append_assoc, List.cons_append]
      exact ih (List.append_inj' longer rfl).1

end Collection

end Reencode
