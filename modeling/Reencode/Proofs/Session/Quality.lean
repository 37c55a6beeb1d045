import Reencode.Proofs.Params.Range
import Reencode.Proofs.Session.Course
import Reencode.Proofs.Work.Result

/-!
# The parameters of a session

New entries, entries that are reset and entries that get the global format have a quality that was
clamped.  Only setting parameters builds them from values of unknown kind; so as long as no quality
that is given there escapes, all entries of a session have parameters in range.
-/

namespace Reencode

variable {S O : Type} {w : Surroundings S O}

/-- Whether an operation is given no quality that escapes. -/
def Operation.Clamped (reader : IntegerReader) : Operation → Prop
  | setParams _ source quality format => ¬(source.resolve quality format).1.Escapes reader
  | _ => True

lemma Operation.Clamped.gives {reader : IntegerReader} {op : Operation}
    (clamped : op.Clamped reader) : op.Gives reader Params.InRange := by
  cases op with
  | setParams id source quality format =>
    intro p p' _ changed
    exact (Params.inRange_of_change changed).mpr clamped
  | _ => trivial

namespace Session

variable {good : Params → Prop}

lemma Courses.allParams {s s' : Session S O} (courses : Courses w.codec good s s')
    (all : s.collection.AllParams good) : s'.collection.AllParams good := by
  obtain ⟨_, course⟩ := courses
  exact course.params all

/-- Closing gives no parameters to anyone. -/
lemma close_allParams (quiet : w.Quiet) {s : Session S O} (all : s.collection.AllParams good) :
    (s.run (Operation.close.perform w)).2.collection.AllParams good := by
  have cleared := (clear_courses quiet s).allParams all
  rw [run_close]
  exact (drain_harvests.courses quiet (s.shutDown w)).allParams cleared

/-- Operations that are given no quality that escapes keep all parameters in range. -/
lemma after_inRange (quiet : w.Quiet) {ops : List Operation}
    (clamped : ∀ op ∈ ops, op.Clamped w.reader) :
    ∀ s : Session S O, s.collection.AllParams Params.InRange →
      (s.after w ops).collection.AllParams Params.InRange := by
  induction ops with
  | nil => exact fun s all => all
  | cons op rest ih =>
    intro s all
    refine ih (fun op mem => clamped op (List.mem_cons_of_mem _ mem))
      (s.run (op.perform w)).2 ?_
    by_cases closes : op = .close
    · subst closes
      exact close_allParams quiet all
    · have gives := (clamped op List.mem_cons_self).gives
      exact (op.courses quiet Params.inRange_clampQuality gives closes s).allParams all

end Session

/-- **Parameters are in range unless a quality escapes.**  Whatever the values given, and however
texts are read leniently: parameters that are built from them are in range exactly if the quality
does not escape, and every spelling of an integer is clamped, or kept if it escapes.  Changes keep
parameters in range as long as no new quality escapes, and so do the operations of a session for all
entries there ever were. -/
theorem params_in_range (quiet : w.Quiet) {settings : Settings} {workers : Option Int}
    {format : Value} {pace : Pace} {start : Collection S}
    (made : Collection.create settings workers format pace = .ok start)
    {s : Session S O} (began : s.collection = start) :
    (∀ reader quality format p, Params.ofValues reader quality format = .ok p →
      (p.InRange ↔ ¬quality.Escapes reader) ∧
      (reader.Agrees → ∀ n, quality.Spells reader n →
        (¬quality.Escapes reader → p.quality = clampQuality n) ∧
        (quality.Escapes reader → p.quality = n))) ∧
    (∀ (reader : IntegerReader) (p p' : Params) (changes : List (Value × Value)), p.InRange →
      (∀ c ∈ changes, ¬c.1.Escapes reader) →
      changes.foldlM (fun p c => p.change reader c.1 c.2) p = .ok p' → p'.InRange) ∧
    ∀ ops : List Operation, (∀ op ∈ ops, op.Clamped w.reader) →
      ∀ e ∈ (s.after w ops).collection.shelf, e.params.InRange := by
  subst began
  refine ⟨?_, ?_, ?_⟩
  · intro reader quality format p built
    exact ⟨Params.inRange_of_ofValues built, fun agrees n spells =>
      readQuality_of_spells agrees (Params.quality_of_ofValues built) spells⟩
  · intro reader p p' changes h clamped changed
    exact Params.inRange_of_changes h clamped changed
  · intro ops clamped
    refine Session.after_inRange quiet clamped s ?_
    obtain ⟨n, f, created⟩ := Collection.create_eq_ok made
    rw [created]
    intro e mem
    cases mem

/-- An image is given a quality that is too high, as an integer with blanks around it; and the
reader in use, which never contradicts the digits, reads one with zeros and a minus in front. -/
theorem params_in_range_of_high :
    let start : Collection ByteArray := .empty (.initial 4 .onDemand .empty) .jpeg
    let w := Surroundings.unobserved Codec.verbatim 0
    let s := (Session.fresh start ()).after w
      [.add "a.png" ⟨#[1, 2]⟩, .setParams (.nth 1) .none (.text " 500 ") (.text "webp")]
    s.collection.shelf.map (·.params) = [⟨100, .webp⟩] ∧
      (∀ e ∈ s.collection.shelf, e.params.InRange) ∧
      ∃ p, Params.ofValues w.reader (.text "0_50.0") (.text "png") = .ok p ∧
        p.quality = clampQuality 50 := by
  intro start w
  have made : Collection.create Settings.default none .null .onDemand = .ok start := rfl
  have quiet : w.Quiet := Surroundings.unobserved_quiet _ 0
  have whole : looksWhole " 500 " = true := by decide +kernel
  have clamped : ¬(Value.text " 500 ").Escapes w.reader := by simp [Value.Escapes, whole]
  have all : ∀ op ∈ [Operation.add "a.png" ⟨#[1, 2]⟩,
      .setParams (.nth 1) .none (.text " 500 ") (.text "webp")], op.Clamped w.reader := by
    simpa [Operation.Clamped, Session.ParamsSource.resolve] using clamped
  have began : (Session.fresh start ()).collection = start := rfl
  have law := params_in_range quiet made began
  have read : w.reader "0_50.0" = .ok 50 := rfl
  have kept : ¬(Value.text "0_50.0").Escapes w.reader := by
    rintro ⟨-, n, read', beyond⟩
    cases read.symm.trans read'
    exact beyond (by decide)
  have built : Params.ofValues w.reader (.text "0_50.0") (.text "png") = .ok ⟨50, .png⟩ := rfl
  exact ⟨by decide +kernel, law.2.2 _ all, _, built,
    ((law.1 _ _ _ _ built).2 lenientInteger_agrees 50 (.lenient read)).1 kept⟩

/-- A plus is enough to escape: then a quality far out of range is kept. -/
theorem params_escape_of_plus : ∃ quality format p,
    Params.ofValues lenientInteger quality format = .ok p ∧ quality.Spells lenientInteger 500 ∧
      ¬(1 ≤ p.quality ∧ p.quality ≤ 100) ∧ p.quality ≠ clampQuality 500 := by
  refine ⟨.text "+500", .text "JPEG", ⟨500, .jpeg⟩, rfl, ?_, by decide, by decide⟩
  exact .digits rfl

end Reencode
