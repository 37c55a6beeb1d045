import Reencode.Proofs.Session.EventLog

/-!
# The preview

The preview starts afresh whenever the selection is set, be it in the course of a removal, and when
it is switched between the source and the output.  Nothing else that happens to a collection touches
it, and nothing but the switch decides what it shows.

Of the steps of a collection this is seen one by one (`Collection.Step.preview_eq`).  With observers
that do not call back nothing but running jobs comes between the deeds of an operation, and every
deed that sets the selection is told of.  So what an operation makes of the view can be read off the
events it tells of (`Path.preview_eq`), whether anybody hears them or not.
-/

namespace Reencode

variable {S O : Type} {w : Surroundings S O}

/-! ## Views -/

/-- A view after it was reset: neither zoomed nor moved nor dragged, and with no drag to go on with.
Its bounds are what they were. -/
structure View.ResetTo (before after : View) : Prop where
  identity : after.isIdentity = true
  still : after.dragging = false
  originX : after.originX = zeroReal
  originY : after.originY = zeroReal
  minScale : after.minScale = before.minScale
  maxScale : after.maxScale = before.maxScale

lemma View.resetTo_reset (v : View) : v.ResetTo v.reset := by
  have identity : (oneReal.equal oneReal && zeroReal.equal zeroReal &&
      zeroReal.equal zeroReal) = true := by decide +kernel
  exact ⟨identity, rfl, rfl, rfl, rfl, rfl⟩

namespace Preview

/-- What a deed makes of the preview. -/
def afterDeed (p : Preview) : Deed → Preview
  | .chosen _ | .cleared => p.onSelection
  | .modeSet showSource => p.setMode showSource
  | _ => p

/-- Starting afresh twice is starting afresh. -/
lemma onSelection_onSelection (p : Preview) : p.onSelection.onSelection = p.onSelection := rfl

end Preview

/-! ## Events -/

/-- Whether an event tells that the selection was set. -/
def Event.setsSelection (event : Event) : Bool :=
  decide (event.kind = .selected ∨ event.kind = .cleared)

/-- A deed that is no switch starts the preview afresh exactly if the event that tells of it says
that the selection was set. -/
lemma Preview.afterDeed_eq (p : Preview) {d : Deed} (stays : d.isSwitch = false) :
    p.afterDeed d = if (eventsOf [d]).any (·.setsSelection) then p.onSelection else p := by
  cases d with
  | modeSet => cases stays
  | applied o =>
    rw [eventsOf_singleton, Deed.event?]
    cases o.payload <;> rfl
  | _ => rfl

/-- So do several deeds. -/
lemma Preview.foldl_afterDeed {ds : List Deed} (stays : ∀ d ∈ ds, d.isSwitch = false)
    (p : Preview) : ds.foldl afterDeed p =
      if (eventsOf ds).any (·.setsSelection) then p.onSelection else p := by
  induction ds generalizing p with
  | nil => rfl
  | cons d rest ih =>
    have tail := ih fun d mem => stays d (List.mem_cons_of_mem _ mem)
    have split : eventsOf (d :: rest) = eventsOf [d] ++ eventsOf rest := eventsOf_append [d] rest
    rw [List.foldl_cons, tail, p.afterDeed_eq (stays d List.mem_cons_self), split, List.any_append]
    by_cases now : (eventsOf [d]).any (·.setsSelection) <;>
      by_cases later : (eventsOf rest).any (·.setsSelection) <;>
      simp [now, later, onSelection_onSelection]

/-! ## Steps and paths -/

namespace Collection

variable {codec : Codec S} {c c' : Collection S} {d : Deed} {ds : List Deed}

lemma Step.preview_eq (st : Step codec c d c') : c'.preview = c.preview.afterDeed d := by
  cases st with
  | cleared =>
    have kept : ({ c with ids := [] }.destroyAll c.ids).preview = c.preview :=
      destroyAll_induction (P := fun c' => c'.preview = c.preview) (fun _ _ _ h _ => h) c.ids _ rfl
    exact congrArg Preview.onSelection kept
  | _ => rfl

/-- Running jobs does nothing to the preview. -/
lemma Steps.preview_eq (steps : Steps codec c ds c') :
    c'.preview = (ownOf ds).foldl Preview.afterDeed c.preview := by
  induction steps with
  | start => rfl
  | @step ds c' c'' d _ last ih =>
    rw [ownOf_append, List.foldl_append, ← ih, last.preview_eq]
    cases d <;> rfl

end Collection

/-- What a path without a switch makes of the preview can be read off its events. -/
lemma Path.preview_eq (quiet : w.Quiet) {s s' : Session S O} {ds : List Deed}
    (path : Path w s ds s') (stays : ∀ d ∈ ds, d.isSwitch = false) :
    s'.collection.preview =
      if (eventsOf ds).any (·.setsSelection) then s.collection.preview.onSelection
      else s.collection.preview := by
  obtain ⟨es, steps, same⟩ := path.steps_of_quiet quiet
  rw [steps.preview_eq, same, Preview.foldl_afterDeed, eventsOf_ownOf]
  exact fun d mem => stays d (List.mem_of_mem_filter mem)

/-! ## Operations -/

/-- Whether an operation switches the preview between the source and the output. -/
def Operation.switches : Operation → Bool
  | setPreviewMode _ => true
  | _ => false

lemma Operation.not_isSwitch {op : Operation} (stays : op.switches = false) {d : Deed}
    (allowed : op.allows d) : d.isSwitch = false := by
  cases op with
  | setPreviewMode => cases stays
  | close => exact allowed.2
  | cancelJob | shutExecutor | subscribe | unsubscribe =>
    cases allowed
    rfl
  | _ => exact allowed.2.2

namespace Session

/-- An operation that emits events: what it does is a path of deeds that it may consist of, and the
events tell of these deeds. -/
def Emits (w : Surroundings S O) (s : Session S O) (op : Operation) (events : List Event) : Prop :=
  ∃ ds, Path w s ds (s.run (op.perform w)).2 ∧ (∀ d ∈ ds, op.allows d) ∧ eventsOf ds = events

/-- What is emitted is what observers hear. -/
lemma Emits.tells {heard : O → List (ObserverTag × Event)} {s : Session S O} {op : Operation}
    {events : List Event} (h : s.Emits w op events) (hears : w.Hears heard) :
    s.Tells w heard op events := by
  obtain ⟨ds, path, kind, rfl⟩ := h
  exact op.heard_of_path hears path kind

/-- An observer that is registered once hears the events, and nothing else. -/
lemma Tells.eq_drop {heard : O → List (ObserverTag × Event)} {s : Session S O} {op : Operation}
    {events : List Event} (h : s.Tells w heard op events) {me : ObserverTag}
    (once : s.collection.observers.count me = 1) :
    events = (heardBy me (heard (s.run (op.perform w)).2.memory)).drop
      (heardBy me (heard s.memory)).length := by
  rw [h, heardBy_append, heardBy_flatMap once, List.drop_left]

lemma exists_emits (s : Session S O) (op : Operation) : ∃ events, s.Emits w op events := by
  obtain ⟨ds, path, tidy⟩ := op.perform_leads (w := w) s
  exact ⟨eventsOf ds, ds, path, tidy.kind, rfl⟩

lemma Emits.preview_eq {s : Session S O} {op : Operation} {events : List Event}
    (h : s.Emits w op events) (quiet : w.Quiet) (stays : op.switches = false) :
    (s.run (op.perform w)).2.collection.preview =
      if events.any (·.setsSelection) then s.collection.preview.onSelection
      else s.collection.preview := by
  obtain ⟨ds, path, kind, rfl⟩ := h
  exact path.preview_eq quiet fun d mem => op.not_isSwitch stays (kind d mem)

end Session

/-- Whether an operation that emits these events is one that resets the view: one of them tells that
something, or nothing, was selected, or that all entries were removed; or the preview was
switched. -/
def Operation.Resets (op : Operation) (events : List Event) : Prop :=
  (∃ event ∈ events, event.kind = .selected ∨ event.kind = .cleared) ∨
    ∃ showSource, op = .setPreviewMode showSource

/-- **The view is reset exactly when the selection is set or the preview is switched.**  With
observers that do not call back, an operation that emits an event of a selection, or that all
entries were removed, leaves the view neither zoomed nor moved nor dragged, and so does switching
the preview; every other operation leaves the whole view as it was.  What the preview shows is
decided by the switch alone.  It does not matter whether the operation fails, nor who is told. -/
theorem preview_follows_selection (quiet : w.Quiet) (s : Session S O) (op : Operation) :
    let before := s.collection.preview
    let after := (s.run (op.perform w)).2.collection.preview
    ∃ events, s.Emits w op events ∧
      (∀ heard, w.Hears heard → s.Tells w heard op events) ∧
      (op.Resets events → before.view.ResetTo after.view) ∧
      (¬op.Resets events → after.view = before.view) ∧
      (∀ showSource, op = .setPreviewMode showSource → after.showingSource = showSource) ∧
      ((∀ showSource, op ≠ .setPreviewMode showSource) →
        after.showingSource = before.showingSource) := by
  intro before after
  obtain ⟨events, emits⟩ := s.exists_emits (w := w) op
  refine ⟨events, emits, fun heard hears => emits.tells hears, ?_⟩
  cases switch : op.switches with
  | true =>
    obtain ⟨showSource, rfl⟩ : ∃ showSource, op = .setPreviewMode showSource := by
      cases op <;> first | exact ⟨_, rfl⟩ | cases switch
    have switched : after = before.setMode showSource := rfl
    rw [switched]
    refine ⟨fun _ => before.view.resetTo_reset, fun kept => ?_, ?_, fun other => ?_⟩
    · exact absurd (.inr ⟨showSource, rfl⟩) kept
    · rintro _ ⟨⟩
      rfl
    · exact absurd rfl (other showSource)
  | false =>
    have stays : ∀ showSource, op ≠ .setPreviewMode showSource := by
      rintro showSource rfl
      cases switch
    -- Only the setting of a selection resets the view, and every such event is among those that are
    -- told.
    have told : events.any (·.setsSelection) = true ↔ op.Resets events := by
      simp [Event.setsSelection, Operation.Resets, stays]
    have result : after = if events.any (·.setsSelection) then before.onSelection else before :=
      emits.preview_eq quiet switch
    rw [result]
    refine ⟨fun set => ?_, fun kept => ?_, fun showSource same => ?_, fun _ => ?_⟩
    · rw [if_pos (told.mpr set)]
      exact before.view.resetTo_reset
    · rw [if_neg (mt told.mp kept)]
    · exact absurd same (stays showSource)
    · split <;> rfl

/-- The first of two images is selected, and the preview is zoomed in and being dragged.  Removing
the first image selects the second one and resets the view, removing the second one does not. -/
theorem preview_follows_selection_of_zoomed :
    let w := Surroundings.noting Codec.verbatim fun _ => false
    let imported := (Session.fresh (.empty (.initial 4 .onDemand .empty) .jpeg) []).after w
      [.subscribe ⟨"log"⟩, .add "a.png" ⟨#[1]⟩, .add "b.png" ⟨#[2]⟩]
    let view : View := { View.initial with scale := .int 3, x := .int 5, dragging := true }
    let s := imported.withCollection { imported.collection with preview := ⟨view, true⟩ }
    let seen (op : Operation) := (s.run (op.perform w)).2.collection.preview
    w.Quiet ∧ view.ResetTo (seen (.remove (.nth 1))).view ∧
      (seen (.remove (.nth 1))).showingSource = true ∧ (seen (.remove (.nth 2))).view = view := by
  intro w imported view s seen
  have hears : w.Hears id := Surroundings.noting_hears _ _
  have once : s.collection.observers.count ⟨"log"⟩ = 1 := by decide +kernel
  obtain ⟨events, -, told, reset, -, -, shown⟩ :=
    preview_follows_selection hears.quiet s (.remove (.nth 1))
  obtain ⟨others, -, told', -, kept, -⟩ :=
    preview_follows_selection hears.quiet s (.remove (.nth 2))
  have first : events.map (·.kind) = [.removed, .selected] := by
    rw [(told id hears).eq_drop once]
    decide +kernel
  have second : others.map (·.kind) = [.removed] := by
    rw [(told' id hears).eq_drop once]
    decide +kernel
  have selects : EventKind.selected ∈ events.map (·.kind) := by simp [first]
  obtain ⟨event, mem, kind⟩ := List.mem_map.mp selects
  refine ⟨hears.quiet, reset (.inl ⟨event, mem, .inl kind⟩), shown (by simp), kept ?_⟩
  rintro (⟨event, mem, set⟩ | ⟨_, ⟨⟩⟩)
  have kind : event.kind ∈ others.map (·.kind) := List.mem_map_of_mem mem
  simp [second] at kind
  simp [kind] at set

end Reencode
