import Mathlib.Data.Finset.Card
import Mathlib.Data.Finset.Range
import Reencode.Proofs.Session.EventLog

/-!
# Registrations and their cancellation

To register an observer gives back a function that cancels the registration.  An observer may be
registered several times, and a collection does not keep the registrations apart: a function that is
called takes the oldest registration of its observer away.  For who is told that makes no difference
as long as no function is called twice, since the registrations of one observer are all alike.  A
function that was called already, though, takes away a registration that is not its own.

`live` are the registrations whose own function was not called.  The observers of a collection are
never more than that, and they are exactly that if every function that is called again finds no live
registration of its observer (`Registering.Proper`).
-/

namespace Reencode

variable {S O : Type} {w : Surroundings S O}

/-- A call that changes who is told of events: an observer is registered, or the function is called
that a registration, by its number, gave back. -/
inductive Registering where
  | subscribe (tag : ObserverTag)
  | cancel (n : Nat)
deriving DecidableEq

/-- What the last deed of a history did. -/
lemma Collection.Steps.of_concat {codec : Codec S} {a c : Collection S} {ds : List Deed} {d : Deed}
    (steps : Steps codec a (ds ++ [d]) c) : ∃ b, Steps codec a ds b ∧ Step codec b d c := by
  generalize whole : ds ++ [d] = es at steps
  cases steps with
  | start => simp at whole
  | step before last =>
    obtain ⟨rfl, same⟩ := List.append_inj' whole rfl
    cases same
    exact ⟨_, before, last⟩

namespace Registering

variable {calls : List Registering} {tags : List ObserverTag} {ds : List Deed} {n : Nat}
  {tag me : ObserverTag}

/-- Who is registered by a call. -/
def registered? : Registering → Option ObserverTag
  | subscribe tag => some tag
  | cancel _ => none

/-- Whose function is called. -/
def called? : Registering → Option Nat
  | subscribe _ => none
  | cancel n => some n

/-- Who was registered, by the numbers of the registrations. -/
def issued (calls : List Registering) : List ObserverTag := calls.filterMap registered?

/-- The registrations of an observer whose own function was not called. -/
def live (calls : List Registering) (me : ObserverTag) : Finset Nat :=
  {n ∈ Finset.range (issued calls).length | (issued calls)[n]? = some me ∧ cancel n ∉ calls}

/-- Every function that is called again finds no live registration of its observer. -/
def Proper (calls : List Registering) : Prop :=
  ∀ before n, before ++ [cancel n] <+: calls → cancel n ∈ before →
    ∀ tag ∈ (issued before)[n]?, live before tag = ∅

/-- Calls that explain who was registered, and whose registrations were cancelled, in a history.  A
function is there to be called only after the registration that gave it back. -/
inductive Explains : List Registering → List Deed → Prop
  | none : Explains [] []
  | subscribe {calls : List Registering} {ds : List Deed} (tag : ObserverTag) :
      Explains calls ds → Explains (calls ++ [.subscribe tag]) (ds ++ [.subscribed tag])
  | cancel {calls : List Registering} {ds : List Deed} {n : Nat} {tag : ObserverTag} :
      Explains calls ds → (issued calls)[n]? = some tag →
        Explains (calls ++ [.cancel n]) (ds ++ [.unsubscribed tag])
  | other {calls : List Registering} {ds : List Deed} {d : Deed} :
      Explains calls ds → d.isSubscription = false → Explains calls (ds ++ [d])

/-! ## Live registrations -/

lemma issued_subscribe (calls : List Registering) (tag : ObserverTag) :
    issued (calls ++ [subscribe tag]) = issued calls ++ [tag] := by
  simp [issued, registered?]

lemma issued_cancel (calls : List Registering) (n : Nat) :
    issued (calls ++ [cancel n]) = issued calls := by
  simp [issued, registered?]

lemma mem_live : n ∈ live calls me ↔ (issued calls)[n]? = some me ∧ cancel n ∉ calls := by
  simp only [live, Finset.mem_filter, Finset.mem_range, and_iff_right_iff_imp]
  rintro ⟨found, -⟩
  exact (List.getElem?_eq_some_iff.mp found).1

/-- No function is called before it was given back. -/
lemma Explains.lt_length (h : Explains calls ds) (called : .cancel n ∈ calls) :
    n < (issued calls).length := by
  induction h with
  | none => cases called
  | @subscribe calls ds tag _ ih =>
    have before : .cancel n ∈ calls := by simpa using called
    have more : issued (calls ++ [.subscribe tag]) = issued calls ++ [tag] := issued_subscribe ..
    simpa [more] using Nat.lt_succ_of_lt (ih before)
  | @cancel calls ds m tag _ found ih =>
    rw [issued_cancel]
    rcases List.mem_append.mp called with before | now
    · exact ih before
    · obtain rfl : n = m := by simpa using now
      exact (List.getElem?_eq_some_iff.mp found).1
  | other _ _ ih => exact ih called

/-- A registration is live from the beginning. -/
lemma live_subscribe (h : Explains calls ds) (tag me : ObserverTag) :
    live (calls ++ [subscribe tag]) me =
      if tag = me then insert (issued calls).length (live calls me) else live calls me := by
  have fresh : cancel (issued calls).length ∉ calls := fun called =>
    Nat.lt_irrefl _ (h.lt_length called)
  ext n
  rcases Nat.lt_trichotomy n (issued calls).length with old | rfl | beyond
  · have here : n ≠ (issued calls).length := Nat.ne_of_lt old
    split <;> simp [mem_live, issued_subscribe, List.getElem?_append_left old, here]
  · split <;> simp [mem_live, issued_subscribe, *]
  · have here : n ≠ (issued calls).length := Nat.ne_of_gt beyond
    have out : (issued calls)[n]? = none := List.getElem?_eq_none (Nat.le_of_lt beyond)
    have out' : (issued calls ++ [tag])[n]? = none := List.getElem?_eq_none (by simp; omega)
    split <;> simp [mem_live, issued_subscribe, out, out', here]

/-- A function that is called ends its own registration. -/
lemma live_cancel (calls : List Registering) (n : Nat) (me : ObserverTag) :
    live (calls ++ [cancel n]) me = (live calls me).erase n := by
  ext m
  simp only [mem_live, issued_cancel, Finset.mem_erase, List.mem_append, List.mem_singleton,
    cancel.injEq, not_or]
  tauto

/-! ## Proper calls -/

lemma Proper.of_append {calls' : List Registering} (h : Proper (calls ++ calls')) : Proper calls :=
  fun before n first => h before n (first.trans (List.prefix_append calls calls'))

/-- A function that is called again finds no live registration of its observer. -/
lemma Proper.live_eq_empty (h : Proper (calls ++ [cancel n])) (again : cancel n ∈ calls)
    (found : (issued calls)[n]? = some tag) : live calls tag = ∅ :=
  h calls n (List.prefix_refl _) again tag found

/-- Functions that are called once at most are called properly. -/
lemma proper_of_nodup (once : (calls.filterMap called?).Nodup) : Proper calls := by
  rintro before n ⟨rest, rfl⟩ again
  have split : (before ++ [cancel n] ++ rest).filterMap called? =
      before.filterMap called? ++ (n :: rest.filterMap called?) := by
    simp [called?]
  have there : n ∈ before.filterMap called? := List.mem_filterMap.mpr ⟨_, again, rfl⟩
  rw [split] at once
  exact absurd rfl ((List.nodup_append.mp once).2.2 n there n List.mem_cons_self)

/-! ## Observers -/

/-- The observers are the live registrations, except that some may be missing unless the calls are
proper. -/
def Accounts (calls : List Registering) (tags : List ObserverTag) : Prop :=
  ∀ me, tags.count me ≤ (live calls me).card ∧
    (Proper calls → tags.count me = (live calls me).card)

lemma Accounts.subscribe (h : Accounts calls tags) (explained : Explains calls ds)
    (tag : ObserverTag) : Accounts (calls ++ [.subscribe tag]) (tags ++ [tag]) := by
  intro me
  obtain ⟨most, exactly⟩ := h me
  have fresh : (issued calls).length ∉ live calls me := fun mem => by
    simpa using (mem_live.mp mem).1
  rw [live_subscribe explained, List.count_append, List.count_singleton]
  by_cases mine : tag = me
  · simp only [mine, if_true, beq_self_eq_true, Finset.card_insert_of_notMem fresh]
    exact ⟨Nat.add_le_add_right most 1, fun proper => by rw [exactly proper.of_append]⟩
  · simp only [if_neg mine, beq_eq_false_iff_ne.mpr mine, Bool.false_eq_true, if_false]
    exact ⟨most, fun proper => exactly proper.of_append⟩

lemma Accounts.cancel (h : Accounts calls tags) (found : (issued calls)[n]? = some tag) :
    Accounts (calls ++ [.cancel n]) (tags.erase tag) := by
  intro me
  obtain ⟨most, exactly⟩ := h me
  rw [live_cancel]
  by_cases mine : tag = me
  · subst mine
    rw [List.count_erase_self]
    by_cases alive : n ∈ live calls tag
    · rw [Finset.card_erase_of_mem alive]
      exact ⟨Nat.sub_le_sub_right most 1, fun proper => by rw [exactly proper.of_append]⟩
    · -- the function was called before, and takes away a registration that is not its own
      have again : .cancel n ∈ calls := by_contra fun first => alive (mem_live.mpr ⟨found, first⟩)
      rw [Finset.erase_eq_of_notMem alive]
      refine ⟨(Nat.sub_le _ 1).trans most, fun proper => ?_⟩
      rw [exactly proper.of_append, proper.live_eq_empty again found]
      rfl
  · have other : n ∉ live calls me := fun mem =>
      mine (Option.some.inj (found.symm.trans (mem_live.mp mem).1))
    rw [List.count_erase_of_ne (Ne.symm mine), Finset.erase_eq_of_notMem other]
    exact ⟨most, fun proper => exactly proper.of_append⟩

/-- Whatever else happens to a collection, its observers are accounted for by the calls. -/
theorem accounts_of_steps {codec : Codec S} {c c' : Collection S} (fresh : c.observers = [])
    (explained : Explains calls ds) (steps : Collection.Steps codec c ds c') :
    Accounts calls c'.observers := by
  -- Induction on the explained history: calls that are issued and calls that cancel, and deeds that
  -- do neither.
  induction explained generalizing c' with
  | none =>
    rw [steps.observers_eq (by simp), fresh]
    exact fun me => ⟨Nat.zero_le _, fun _ => rfl⟩
  | subscribe tag before ih =>
    obtain ⟨b, first, last⟩ := steps.of_concat
    cases last
    exact (ih first).subscribe before tag
  | cancel _ found ih =>
    obtain ⟨b, first, last⟩ := steps.of_concat
    cases last
    exact (ih first).cancel found
  | other _ kind ih =>
    obtain ⟨b, first, last⟩ := steps.of_concat
    rw [last.observers_eq kind]
    exact ih first

/-- **An observer is told once for each live registration.**  From a collection without observers,
whatever is done to it and whoever does it, the next event is told to its observers one after the
other, and an observer is never among them more often than it has registrations whose own function
was not called.  It is among them, and hears the event, exactly that often if the calls are proper;
a function that is called again then changes nothing. -/
theorem told_for_each_registration {s s' : Session S O} (fresh : s.collection.observers = [])
    (steps : Collection.Steps w.codec s.collection ds s'.collection)
    (explained : Explains calls ds) (event : Event) :
    let tags := s'.collection.observers
    s'.told w event = tags.foldl (Session.notified w event) s' ∧
      (∀ me, tags.count me ≤ (live calls me).card) ∧
      (Proper calls →
        (∀ me, tags.count me = (live calls me).card) ∧
        (∀ heard, w.Hears heard → ∀ me, heardBy me (heard (s'.told w event).memory) =
          heardBy me (heard s'.memory) ++ List.replicate (live calls me).card event) ∧
        ∀ n tag, cancel n ∈ calls → (issued calls)[n]? = some tag →
          Proper (calls ++ [cancel n]) → s'.collection.unsubscribe tag = s'.collection) := by
  intro tags
  have accounts := accounts_of_steps fresh explained steps
  refine ⟨Session.told_eq_foldl w event s', fun me => (accounts me).1,
    fun proper => ?_⟩
  -- Among proper calls every registration is counted exactly, and a function that is called again
  -- finds none left.
  have count := fun me => (accounts me).2 proper
  refine ⟨count, fun heard hears me => ?_, fun n tag again found proper' => ?_⟩
  · rw [Session.told_heard hears, heardBy_append, heardBy_map, count me]
  · have missing : tag ∉ s'.collection.observers := by
      rw [← List.count_eq_zero, count tag, proper'.live_eq_empty again found]
      rfl
    rw [Collection.unsubscribe, List.erase_of_not_mem missing]

/-- Three registrations of two observers, of which two are cancelled in another order than they were
made. -/
theorem told_for_each_registration_of_three :
    let w := Surroundings.noting Codec.verbatim fun _ => false
    let s := Session.fresh (.empty (.initial 4 .onDemand .empty) .jpeg) []
    let calls : List Registering :=
      [subscribe ⟨"o"⟩, subscribe ⟨"p"⟩, subscribe ⟨"o"⟩, cancel 2, cancel 1]
    let s' := s.after w [.subscribe ⟨"o"⟩, .subscribe ⟨"p"⟩, .subscribe ⟨"o"⟩,
      .unsubscribe ⟨"o"⟩, .unsubscribe ⟨"p"⟩]
    Proper calls ∧ (live calls ⟨"o"⟩).card = 1 ∧ (live calls ⟨"p"⟩).card = 0 ∧
      heardBy ⟨"o"⟩ (id (s'.told w .cleared).memory) = [.cleared] ∧
      heardBy ⟨"p"⟩ (id (s'.told w .cleared).memory) = [] := by
  intro w s calls s'
  have hears : w.Hears id := Surroundings.noting_hears _ _
  let ds : List Deed := [.subscribed ⟨"o"⟩, .subscribed ⟨"p"⟩, .subscribed ⟨"o"⟩,
    .unsubscribed ⟨"o"⟩, .unsubscribed ⟨"p"⟩]
  have steps : Collection.Steps w.codec s.collection ds s'.collection :=
    ((((Collection.Steps.start.step (.subscribed _ _)).step (.subscribed _ _)).step
      (.subscribed _ _)).step (.unsubscribed _ _)).step (.unsubscribed _ _)
  have explained : Explains calls ds :=
    ((((Explains.none.subscribe ⟨"o"⟩).subscribe ⟨"p"⟩).subscribe ⟨"o"⟩).cancel (n := 2) rfl).cancel
      (n := 1) rfl
  have proper : Proper calls := proper_of_nodup (by decide)
  obtain ⟨-, -, exactly⟩ := told_for_each_registration rfl steps explained .cleared
  obtain ⟨-, heard, -⟩ := exactly proper
  have once : (live calls ⟨"o"⟩).card = 1 := by decide
  have never : (live calls ⟨"p"⟩).card = 0 := by decide
  refine ⟨proper, once, never, ?_, ?_⟩
  · rw [heard id hears, once]
    rfl
  · rw [heard id hears, never]
    rfl

/-- An observer is registered twice, and the function of the second registration is called twice.
The first registration is live, and yet the observer hears of nothing any more. -/
theorem registration_is_lost :
    let w := Surroundings.noting Codec.verbatim fun _ => false
    let s := Session.fresh (.empty (.initial 4 .onDemand .empty) .jpeg) []
    let calls : List Registering := [subscribe ⟨"o"⟩, subscribe ⟨"o"⟩, cancel 1, cancel 1]
    let s' := s.after w [.subscribe ⟨"o"⟩, .subscribe ⟨"o"⟩, .unsubscribe ⟨"o"⟩, .unsubscribe ⟨"o"⟩]
    (∃ ds, Collection.Steps w.codec s.collection ds s'.collection ∧ Explains calls ds) ∧
      live calls ⟨"o"⟩ = {0} ∧ heardBy ⟨"o"⟩ (s'.told w .cleared).memory = [] := by
  intro w s calls s'
  have steps : Collection.Steps w.codec s.collection
      [.subscribed ⟨"o"⟩, .subscribed ⟨"o"⟩, .unsubscribed ⟨"o"⟩, .unsubscribed ⟨"o"⟩]
      s'.collection :=
    (((Collection.Steps.start.step (.subscribed _ _)).step (.subscribed _ _)).step
      (.unsubscribed _ _)).step (.unsubscribed _ _)
  have explained : Explains calls
      [.subscribed ⟨"o"⟩, .subscribed ⟨"o"⟩, .unsubscribed ⟨"o"⟩, .unsubscribed ⟨"o"⟩] :=
    (((Explains.none.subscribe ⟨"o"⟩).subscribe ⟨"o"⟩).cancel (n := 1) rfl).cancel (n := 1) rfl
  exact ⟨⟨_, steps, explained⟩, by decide, by decide +kernel⟩

end Registering
end Reencode
