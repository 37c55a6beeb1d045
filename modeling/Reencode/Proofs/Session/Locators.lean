import Reencode.Proofs.Collection.Catalogue
import Reencode.Proofs.Session.Observers
import Reencode.Proofs.Work.Result

/-!
# Locators

Between operations the live locators of a session are those of the bytes that its entries hold: one
for each source and one for each output, no two the same, and each resolves to the bytes in
question.  None leaks and none is revoked twice.

All of it is read off `Catalogued`, which holds after any steps, so it does not matter whether an
operation succeeded, when jobs finished or what the observers did, as long as they went through the
operations of the session.
-/

namespace Reencode

variable {S O : Type} {w : Surroundings S O}

/-- A collection whose live locators are exactly those of the bytes that its entries hold. -/
structure Collection.ExactLocators (c : Collection S) : Prop where
  live : ∀ l, c.registry.isLive l = true ↔ ∃ e ∈ c.entries,
    e.sourceHandle.locator? = some l ∨ ∃ handle, e.output = some handle ∧ handle.locator? = some l
  distinct : (c.entries.flatMap Entry.locators).Nodup
  source : ∀ e ∈ c.entries, ∃ l, e.sourceHandle.locator? = some l ∧
    c.registry.resolve l = some e.source
  output : ∀ e ∈ c.entries, ∀ handle, e.output = some handle → ∃ l data p,
    handle.locator? = some l ∧ e.readOutput = .ok (some (data, p)) ∧
      c.registry.resolve l = some data
  balance : c.registry.created = c.registry.revoked + c.registry.liveCount
  missed : c.registry.missed = []

lemma Catalogued.exactLocators {c : Collection S} (catalogued : Catalogued c.shelf c.registry)
    (shelved : Shelved c.ids c.shelf) : c.ExactLocators where
  live := by
    -- Live locators are those of the entries, each held once; the rest is read off what an entry in
    -- order holds.
    intro l
    have live : c.registry.isLive l = true ↔ l ∈ c.registry.live.map (·.1) :=
      Lookup.isSome_lookup_iff
    rw [live, (catalogued.locators_entries shelved).mem_iff, List.mem_flatMap]
    exact exists_congr fun e => and_congr_right fun _ => Entry.mem_locators
  distinct := (catalogued.locators_entries shelved).nodup_iff.mp catalogued.sound.distinct
  source := by
    intro e mem
    obtain ⟨order, life⟩ := catalogued.inOrder shelved mem
    obtain ⟨l, source, -⟩ := order.holdings_eq life
    have holds : (l, e.source) ∈ e.holdings := by simp [Entry.holdings, source, Handle.holding]
    exact ⟨l, by rw [source]; rfl, catalogued.resolve_holding shelved mem holds⟩
  output := by
    intro e mem handle out
    obtain ⟨order, life⟩ := catalogued.inOrder shelved mem
    obtain ⟨data, l, p, rfl, params⟩ := order.output life handle out
    have holds : (l, data) ∈ e.holdings := by simp [Entry.holdings, out, Handle.holding]
    refine ⟨l, data, p, rfl, ?_, catalogued.resolve_holding shelved mem holds⟩
    rw [Entry.readOutput, out, params]
    rfl
  balance := catalogued.sound.balance
  missed := catalogued.sound.missed

/-- **No locator leaks and none is revoked twice.**  After any operations the live locators are
exactly those of the sources and of the outputs of the entries; they are distinct and resolve to the
bytes of the source and of the output; every locator that was created is live or was revoked; and
none was ever to be revoked that was not live. -/
theorem live_locators (lawful : w.Lawful) {settings : Settings} {workers : Option Int}
    {format : Value} {pace : Pace} {start : Collection S}
    (made : Collection.create settings workers format pace = .ok start)
    {s : Session S O} (began : s.collection = start) (ops : List Operation) :
    (s.after w ops).collection.ExactLocators := by
  subst began
  obtain ⟨deeds, steps⟩ := Session.after_steps lawful s ops
  have shelved := Shelved.of_create made
  exact ((Catalogued.of_create made).steps shelved steps).exactLocators (shelved.steps steps)

/-- One image whose output was replaced: of the three locators that were created, one was
revoked. -/
theorem live_locators_of_replaced : ∃ c : Collection ByteArray,
    c = ((Session.fresh (.empty (.initial 4 .onDemand .empty) .jpeg) ()).after
      (.unobserved .verbatim 0) [.add "a.png" ⟨#[1, 2]⟩, .runJob 1, .drain,
        .setParams (.nth 1) .none (.int 40) .null, .runJob 2, .drain]).collection ∧
      (c.registry.created, c.registry.revoked) = (3, 1) ∧ c.ExactLocators := by
  have made : Collection.create Settings.default none .null .onDemand =
      .ok (Collection.empty (.initial 4 .onDemand .empty) .jpeg : Collection ByteArray) := rfl
  exact ⟨_, rfl, by decide +kernel,
    live_locators (Surroundings.unobserved_quiet Codec.verbatim 0).lawful made rfl _⟩

end Reencode
