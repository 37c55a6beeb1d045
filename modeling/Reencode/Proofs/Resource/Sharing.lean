import Mathlib.Data.List.Induction
import Reencode.Proofs.Resource.Ledger

/-!
# Handles that share a registry

Any number of handles list their bytes in one registry, and whoever has the registry may create and
revoke locators as well, those of the handles not excepted.  `Pool` is a registry with the handles
that share it, `Pool.perform` does one thing with it, and `Pool.after` is what is left after any
list of such deeds.

`Pool.Matched` is what handles and registry have to do with each other then.  It comes from
`Pool.Orderly`, which each deed keeps: the registry balances, and every handle that was not released
has a locator of its own, which resolves to its bytes or was pulled, that is, revoked from outside
(`Pool.Pulled`).  A locator that was given out and is dead stays dead (`Registry.Spent`), because no
number is given out twice.  Hence, too, making, replacing and releasing a handle change this handle
and its locator alone (`Pool.Changes`).
-/

namespace Reencode

/-! ## Registries that are asked for anything -/

namespace Registry

/-- A registry that is sound, but for what it was to revoke in vain. -/
def Balanced (r : Registry) : Prop := Sound { r with missed := [] }

/-- A locator that was given out and is dead. -/
structure Spent (r : Registry) (l : Locator) : Prop where
  issued : r.Issued l
  dead : ¬ r.isLive l = true

variable {r : Registry} {l : Locator}

namespace Balanced

lemma create (h : r.Balanced) (data : ByteArray) : (r.create data).2.Balanced :=
  Sound.create h data

lemma revoke (h : r.Balanced) (l : Locator) : (r.revoke l).2.Balanced := by
  by_cases live : r.isLive l = true
  · obtain ⟨data, found⟩ := Option.isSome_iff_exists.mp live
    have left := (Sound.revoke h (Lookup.perm_of_lookup h.distinct found)).1
    have live' : Registry.isLive { r with missed := [] } l = true := live
    rw [Registry.revoke, if_pos live'] at left
    rw [Registry.revoke, if_pos live]
    exact left
  · rw [Registry.revoke, if_neg live]
    exact h

lemma issued_of_isLive (h : r.Balanced) (live : r.isLive l = true) : r.Issued l :=
  h.created l (Lookup.isSome_lookup_iff.mp live)

lemma resolve_next_eq_none (h : r.Balanced) : r.resolve r.next = none := by
  by_contra live
  exact (h.issued_of_isLive (Option.isSome_iff_ne_none.mpr live)).ne_next rfl

/-- The locator created next resolves to the bytes that it is created for. -/
lemma resolve_next (h : r.Balanced) (data : ByteArray) :
    (r.create data).2.resolve r.next = some data := by
  simp [resolve_create, h.resolve_next_eq_none]

end Balanced

lemma Spent.create (h : r.Spent l) (data : ByteArray) : (r.create data).2.Spent l where
  issued := h.issued.create data
  dead live := ((isLive_create data).mp live).elim h.dead h.issued.ne_next

lemma Spent.revoke (h : r.Spent l) (other : Locator) : (r.revoke other).2.Spent l where
  issued := h.issued.revoke other
  dead live := h.dead (isLive_revoke.mp live).1

/-- A locator that is revoked is spent. -/
lemma Issued.spent_revoke (h : r.Issued l) : (r.revoke l).2.Spent l where
  issued := h.revoke l
  dead live := (isLive_revoke.mp live).2 rfl

lemma Spent.resolve_eq_none (h : r.Spent l) : r.resolve l = none := by
  simpa [isLive] using h.dead

end Registry

/-! ## What can be done -/

/-- A registry and the handles that share it. -/
structure Pool where
  registry : Registry
  handles : List Handle

namespace Pool

/-- What is done with a registry or a handle: a handle is made, read, given other bytes or released,
the block it was opened for is left, maybe with an exception, and a locator is created or revoked.
-/
inductive Deed where
  | make (data : ByteArray)
  | read (i : Nat)
  | replace (i : Nat) (data : ByteArray)
  | release (i : Nat)
  | leave (i : Nat) (raised : Option Failure)
  | create (data : ByteArray)
  | revoke (l : Locator)

/-- What a deed gives: nothing, the bytes that were read, the locator that was created, or whether
there was a locator to revoke. -/
inductive Answer where
  | nothing
  | bytes (data : ByteArray)
  | locator (l : Locator)
  | revoked (wasLive : Bool)

/-- A registry that was just made. -/
def start : Pool := ⟨.empty, []⟩

/-- A handle gives up its bytes and is released from then on. -/
def letGo (p : Pool) (i : Nat) : Pool :=
  match p.handles[i]? with
  | some h => ⟨h.release p.registry, p.handles.set i .released⟩
  | none => p

/-- What a deed gives, and what it leaves.  Nothing is done with a handle that there is not. -/
def perform (p : Pool) : Deed → Except Failure Answer × Pool
  | .make data =>
    let (h, r) := Handle.listed p.registry data
    (.ok .nothing, ⟨r, p.handles ++ [h]⟩)
  | .read i =>
    match p.handles[i]? with
    | some h => (h.read.map .bytes, p)
    | none => (.ok .nothing, p)
  | .replace i data =>
    match p.handles[i]? with
    | some h =>
      match h.replace p.registry data with
      | .ok (h, r) => (.ok .nothing, ⟨r, p.handles.set i h⟩)
      | .error failure => (.error failure, p)
    | none => (.ok .nothing, p)
  | .release i => (.ok .nothing, p.letGo i)
  | .leave i raised => (raised.elim (.ok .nothing) .error, p.letGo i)
  | .create data =>
    let (l, r) := p.registry.create data
    (.ok (.locator l), { p with registry := r })
  | .revoke l =>
    let (wasLive, r) := p.registry.revoke l
    (.ok (.revoked wasLive), { p with registry := r })

/-- What is left after one deed after the other, beginning with a new registry. -/
def after (deeds : List Deed) : Pool := deeds.foldl (fun p d => (p.perform d).2) start

lemma after_concat (deeds : List Deed) (d : Deed) :
    after (deeds ++ [d]) = ((after deeds).perform d).2 := by
  simp [after]

/-- The locator of a handle. -/
def locatorAt (p : Pool) (i : Nat) : Option Locator := p.handles[i]?.bind Handle.locator?

/-- A locator that was revoked from outside, while it was live. -/
def Pulled (deeds : List Deed) (l : Locator) : Prop :=
  ∃ before later, deeds = before ++ .revoke l :: later ∧
    (after before).registry.isLive l = true

/-! ## What a deed does -/

/-- What a deed may do with handles that are all listed or released. -/
inductive Done (p : Pool) : Deed → Pool → Prop
  | idle (d : Deed) (own : ∀ l, d ≠ .revoke l) : Done p d p
  | made (data : ByteArray) :
      Done p (.make data)
        ⟨(p.registry.create data).2, p.handles ++ [.held data (some p.registry.next)]⟩
  | replaced {i : Nat} {old : ByteArray} {l : Locator} (data : ByteArray)
      (found : p.handles[i]? = some (.held old (some l))) :
      Done p (.replace i data) ⟨((p.registry.create data).2.revoke l).2,
        p.handles.set i (.held data (some p.registry.next))⟩
  | released {d : Deed} {i : Nat} {old : ByteArray} {l : Locator} (own : ∀ l, d ≠ .revoke l)
      (found : p.handles[i]? = some (.held old (some l))) :
      Done p d ⟨(p.registry.revoke l).2, p.handles.set i .released⟩
  | created (data : ByteArray) :
      Done p (.create data) { p with registry := (p.registry.create data).2 }
  | revoked (l : Locator) :
      Done p (.revoke l) { p with registry := (p.registry.revoke l).2 }

/-- A pool all of whose handles were made with its registry. -/
def Listed (p : Pool) : Prop :=
  ∀ (i : Nat) (h : Handle), p.handles[i]? = some h →
    h = Handle.released ∨ ∃ data l, h = Handle.held data (some l)

variable {p : Pool} {d : Deed} {l : Locator} {i : Nat}

lemma letGo_of_released (found : p.handles[i]? = some .released) : p.letGo i = p := by
  obtain ⟨bound, here⟩ := List.getElem?_eq_some_iff.mp found
  simp only [letGo, found, Handle.release]
  rw [← here, List.set_getElem_self]

lemma done_letGo (listed : p.Listed) (own : ∀ l, d ≠ .revoke l) : Done p d (p.letGo i) := by
  cases found : p.handles[i]? with
  | none =>
    simp only [letGo, found]
    exact .idle d own
  | some h =>
    obtain rfl | ⟨data, l, rfl⟩ := listed i h found
    · rw [letGo_of_released found]
      exact .idle d own
    · simp only [letGo, found]
      exact .released own found

lemma done_perform (listed : p.Listed) (d : Deed) : Done p d (p.perform d).2 := by
  -- A deed on a handle that is not there, or was released, is idle; all others do what they are
  -- called for.
  cases d with
  | make data => exact .made data
  | read i =>
    simp only [perform]
    split <;> exact .idle _ nofun
  | replace i data =>
    simp only [perform]
    split
    · rename_i h found
      obtain rfl | ⟨old, l, rfl⟩ := listed i h found
      · exact .idle _ nofun
      · exact .replaced data found
    · exact .idle _ nofun
  | release i => exact done_letGo listed nofun
  | leave i raised => exact done_letGo listed nofun
  | create data => exact .created data
  | revoke l => exact .revoked l

/-! ## Handles and their locators -/

/-- A handle that was released, or whose locator was given out, and resolves to its bytes unless it
was pulled. -/
def Backed (pulled : Locator → Prop) (r : Registry) (h : Handle) : Prop :=
  h = .released ∨ ∃ data l, h = .held data (some l) ∧ r.Issued l ∧
    (pulled l ∨ r.resolve l = some data)

/-- A pool in order, but for the locators that were pulled, which are dead: the registry balances,
whatever is not released has a locator, and no two handles have the same one. -/
structure Orderly (pulled : Locator → Prop) (p : Pool) : Prop where
  balanced : p.registry.Balanced
  spent : ∀ l, pulled l → p.registry.Spent l
  backed : ∀ (i : Nat) (h : Handle), p.handles[i]? = some h → Backed pulled p.registry h
  apart : ∀ {i j l}, p.locatorAt i = some l → p.locatorAt j = some l → i = j

lemma locatorAt_eq {h : Handle} (found : p.handles[i]? = some h) : p.locatorAt i = h.locator? := by
  simp [locatorAt, found]

lemma locatorAt_set_of_ne {r : Registry} {j : Nat} {new : Handle} (other : j ≠ i) :
    locatorAt ⟨r, p.handles.set i new⟩ j = p.locatorAt j := by
  unfold locatorAt
  rw [List.getElem?_set_ne (Ne.symm other)]

lemma locatorAt_set_self {r : Registry} {old new : Handle} (found : p.handles[i]? = some old) :
    locatorAt ⟨r, p.handles.set i new⟩ i = new.locator? := by
  obtain ⟨bound, -⟩ := List.getElem?_eq_some_iff.mp found
  exact locatorAt_eq (List.getElem?_set_self bound)

namespace Orderly

variable {pulled pulled' : Locator → Prop}

lemma start (none : ∀ l, ¬ pulled l) : Orderly pulled Pool.start where
  balanced := Registry.Sound.empty
  spent l out := absurd out (none l)
  backed _ _ found := nomatch found
  apart has := nomatch has

lemma listed (h : Orderly pulled p) : p.Listed := by
  intro i handle found
  exact (h.backed i handle found).imp_right fun ⟨data, l, held, _⟩ => ⟨data, l, held⟩

lemma issued (h : Orderly pulled p) (has : p.locatorAt i = some l) : p.registry.Issued l := by
  obtain ⟨handle, found, own⟩ := Option.bind_eq_some_iff.mp has
  obtain rfl | ⟨data, l', rfl, issued, -⟩ := h.backed i handle found
  · cases own
  · cases own
    exact issued

lemma create (h : Orderly pulled p) (data : ByteArray) :
    Orderly pulled { p with registry := (p.registry.create data).2 } where
  balanced := h.balanced.create data
  spent l out := (h.spent l out).create data
  backed i handle found := by
    refine (h.backed i handle found).imp_right ?_
    rintro ⟨data', l, rfl, issued, backed⟩
    refine ⟨data', l, rfl, issued.create data, backed.imp_right fun resolves => ?_⟩
    simp [Registry.resolve_create, resolves]
  apart := h.apart

/-- A locator may be revoked if it is nobody's, or else it is pulled. -/
lemma revoke (h : Orderly pulled p) (l : Locator) (more : ∀ l, pulled l → pulled' l)
    (only : ∀ l', pulled' l' → pulled l' ∨ l' = l ∧ p.registry.isLive l = true)
    (own : ∀ i, p.locatorAt i = some l → p.registry.isLive l = true → pulled' l) :
    Orderly pulled' { p with registry := (p.registry.revoke l).2 } where
  balanced := h.balanced.revoke l
  spent l' out := by
    rcases only l' out with before | ⟨rfl, live⟩
    · exact (h.spent l' before).revoke l
    · exact (h.balanced.issued_of_isLive live).spent_revoke
  backed i handle found := by
    refine (h.backed i handle found).imp_right ?_
    rintro ⟨data, l', rfl, issued, backed⟩
    refine ⟨data, l', rfl, issued.revoke l, ?_⟩
    rcases backed with out | resolves
    -- Revoking a locator takes the bytes from the one handle that has it, and counts as pulled if
    -- it was live.
    · exact .inl (more l' out)
    · by_cases same : l' = l
      · subst same
        exact .inl (own i (locatorAt_eq found) (by simp [Registry.isLive, resolves]))
      · exact .inr (by rw [Registry.resolve_revoke, if_neg same, resolves])
  apart := h.apart

/-- A handle may come to any place with a locator that no other handle has. -/
lemma place (h : Orderly pulled p) {handles : List Handle} (i : Nat) (new : Handle)
    (only : ∀ (j : Nat) (handle : Handle), handles[j]? = some handle →
      j = i ∧ handle = new ∨ p.handles[j]? = some handle)
    (backed : Backed pulled p.registry new)
    (fresh : ∀ j l, new.locator? = some l → p.locatorAt j ≠ some l) :
    Orderly pulled { p with handles } where
  balanced := h.balanced
  spent := h.spent
  backed j handle found := by
    rcases only j handle found with ⟨-, rfl⟩ | old
    · exact backed
    · exact h.backed j handle old
  apart {j k l} first second := by
    obtain ⟨one, found, own⟩ := Option.bind_eq_some_iff.mp first
    obtain ⟨two, found', own'⟩ := Option.bind_eq_some_iff.mp second
    have has {n : Nat} {handle : Handle} (old : p.handles[n]? = some handle)
        (own : handle.locator? = some l) : p.locatorAt n = some l := (locatorAt_eq old).trans own
    -- Of two handles with one locator, at most one is new, and what is new is had by nobody else.
    rcases only j one found with ⟨rfl, rfl⟩ | old <;>
      rcases only k two found' with ⟨rfl, rfl⟩ | old'
    · rfl
    · exact absurd (has old' own') (fresh k l own)
    · exact absurd (has old own) (fresh j l own')
    · exact h.apart (has old own) (has old' own')

/-- A locator that its handle gave up is nobody's. -/
lemma nobody (h : Orderly pulled p) {r : Registry} {old new : Handle}
    (found : p.handles[i]? = some old) (own : old.locator? = some l)
    (lost : new.locator? ≠ some l) (j : Nat) :
    locatorAt ⟨r, p.handles.set i new⟩ j ≠ some l := by
  by_cases same : j = i
  · subst same
    rwa [locatorAt_set_self found]
  · rw [locatorAt_set_of_ne same]
    exact fun has => same (h.apart has ((locatorAt_eq found).trans own))

lemma made (h : Orderly pulled p) (data : ByteArray) : Orderly pulled
    ⟨(p.registry.create data).2, p.handles ++ [.held data (some p.registry.next)]⟩ := by
  refine (h.create data).place p.handles.length (.held data (some p.registry.next))
    (fun j handle found => Lookup.eq_or_of_getElem?_concat found) ?_ ?_
  · exact .inr ⟨data, _, rfl, .next _ _, .inr (h.balanced.resolve_next data)⟩
  · rintro j l ⟨⟩ has
    exact (h.issued has).ne_next rfl

lemma replaced (h : Orderly pulled p) {old : ByteArray} (data : ByteArray)
    (found : p.handles[i]? = some (.held old (some l))) : Orderly pulled
      ⟨((p.registry.create data).2.revoke l).2,
        p.handles.set i (.held data (some p.registry.next))⟩ := by
  have has : p.locatorAt i = some l := locatorAt_eq found
  -- The handle has its new locator before the old one, which is nobody's then, is revoked.
  have relisted : Orderly pulled ⟨(p.registry.create data).2,
      p.handles.set i (.held data (some p.registry.next))⟩ := by
    refine (h.create data).place i (.held data (some p.registry.next))
      (fun j handle found => Lookup.eq_or_of_getElem?_set found) ?_ ?_
    · exact .inr ⟨data, _, rfl, .next _ _, .inr (h.balanced.resolve_next data)⟩
    · rintro j l ⟨⟩ has
      exact (h.issued has).ne_next rfl
  have lost : Handle.locator? (.held data (some p.registry.next)) ≠ some l :=
    fun same => (h.issued has).ne_next (Option.some.inj same).symm
  exact relisted.revoke l (fun _ out => out) (fun _ out => .inl out) fun j has =>
    absurd has (h.nobody found rfl lost j)

lemma released (h : Orderly pulled p) {old : ByteArray}
    (found : p.handles[i]? = some (.held old (some l))) :
    Orderly pulled ⟨(p.registry.revoke l).2, p.handles.set i .released⟩ := by
  have unlisted : Orderly pulled ⟨p.registry, p.handles.set i .released⟩ :=
    h.place i .released (fun j handle found => Lookup.eq_or_of_getElem?_set found) (.inl rfl) nofun
  have lost : Handle.released.locator? ≠ some l := nofun
  exact unlisted.revoke l (fun _ out => out) (fun _ out => .inl out) fun j has =>
    absurd has (h.nobody found rfl lost j)

/-- A deed keeps the order, and pulls a locator only if it revokes it while it is live. -/
lemma step (h : Orderly pulled p) {p' : Pool} (done : Done p d p') :
    Orderly (fun l => pulled l ∨ d = .revoke l ∧ p.registry.isLive l = true) p' := by
  have same (own : ∀ l, d ≠ .revoke l) :
      (fun l => pulled l ∨ d = .revoke l ∧ p.registry.isLive l = true) = pulled := by
    funext l
    simp [own l]
  cases done with
  | idle d own => exact (same own).symm ▸ h
  | made data => exact (same nofun).symm ▸ h.made data
  | replaced data found => exact (same nofun).symm ▸ h.replaced data found
  | released own found => exact (same own).symm ▸ h.released found
  | created data => exact (same nofun).symm ▸ h.create data
  | revoked l =>
    refine h.revoke l (fun _ => .inl) (fun l' out => out.imp_right ?_) fun i has live =>
      .inr ⟨rfl, live⟩
    rintro ⟨⟨⟩, live⟩
    exact ⟨rfl, live⟩

end Orderly

/-! ## Locators that are not live any more -/

section

variable {p' : Pool}

/-- A deed creates and revokes locators, and does nothing else to the registry. -/
lemma Done.registry_induction {Q : Registry → Prop} (done : Done p d p')
    (create : ∀ {r : Registry} (data : ByteArray), Q r → Q (r.create data).2)
    (revoke : ∀ {r : Registry} (l : Locator), Q r → Q (r.revoke l).2)
    (h : Q p.registry) : Q p'.registry := by
  cases done with
  | idle => exact h
  | made data | created data => exact create data h
  | replaced data => exact revoke _ (create data h)
  | released | revoked => exact revoke _ h

lemma spent_step (h : p.registry.Spent l) (done : Done p d p') : p'.registry.Spent l :=
  done.registry_induction (Q := fun r => r.Spent l) (fun data h => h.create data)
    (fun other h => h.revoke other) h

/-- A handle keeps its locator, or revokes it when it gives it up. -/
lemma locatorAt_step {pulled : Locator → Prop} (h : Orderly pulled p) (done : Done p d p')
    (has : p.locatorAt i = some l) : p'.locatorAt i = some l ∨ p'.registry.Spent l := by
  have issued := h.issued has
  cases done with
  | idle | created | revoked => exact .inl has
  | made data =>
    obtain ⟨handle, found, own⟩ := Option.bind_eq_some_iff.mp has
    obtain ⟨bound, -⟩ := List.getElem?_eq_some_iff.mp found
    exact .inl ((locatorAt_eq ((List.getElem?_append_left bound).trans found)).trans own)
  | @replaced j old l' data found =>
    -- A handle gives its locator up only to have it revoked.
    by_cases same : i = j
    · subst same
      obtain rfl : l' = l := Option.some.inj ((locatorAt_eq found).symm.trans has)
      exact .inr (issued.create data).spent_revoke
    · exact .inl ((locatorAt_set_of_ne same).trans has)
  | @released _ j old l' own found =>
    by_cases same : i = j
    · subst same
      obtain rfl : l' = l := Option.some.inj ((locatorAt_eq found).symm.trans has)
      exact .inr issued.spent_revoke
    · exact .inl ((locatorAt_set_of_ne same).trans has)

end

/-! ## Any number of deeds -/

variable {deeds before later : List Deed}

lemma pulled_concat :
    Pulled (deeds ++ [d]) l ↔
      Pulled deeds l ∨ d = .revoke l ∧ (after deeds).registry.isLive l = true := by
  constructor
  · rintro ⟨before, later, split, live⟩
    rcases List.eq_nil_or_concat later with rfl | ⟨later, last, rfl⟩
    · obtain ⟨rfl, same⟩ := List.append_inj' split rfl
      exact .inr ⟨List.singleton_inj.mp same, live⟩
    · have split : deeds ++ [d] = (before ++ .revoke l :: later) ++ [last] := by simpa using split
      exact .inl ⟨before, later, (List.append_inj' split rfl).1, live⟩
  · rintro (⟨before, later, rfl, live⟩ | ⟨rfl, live⟩)
    · exact ⟨before, later ++ [d], by simp, live⟩
    · exact ⟨deeds, [], rfl, live⟩

/-- A pool is in order after whatever was done with it. -/
lemma orderly_after (deeds : List Deed) : Orderly (Pulled deeds) (after deeds) := by
  induction deeds using List.reverseRecOn with
  | nil => exact .start fun l ⟨_, _, split, _⟩ => by simp at split
  | append_singleton deeds d ih =>
    have next := ih.step (done_perform ih.listed d)
    rw [after_concat]
    simpa only [← pulled_concat] using next

/-- What every deed keeps is kept by any number of deeds. -/
lemma after_append_induction {Q : Pool → Prop}
    (step : ∀ {pulled p d p'}, Orderly pulled p → Done p d p' → Q p → Q p')
    (h : Q (after before)) (later : List Deed) : Q (after (before ++ later)) := by
  induction later using List.reverseRecOn with
  | nil => simpa using h
  | append_singleton later d ih =>
    have orderly := orderly_after (before ++ later)
    rw [← List.append_assoc, after_concat]
    exact step orderly (done_perform orderly.listed d) ih

lemma issued_after (h : (after before).registry.Issued l) (later : List Deed) :
    (after (before ++ later)).registry.Issued l :=
  after_append_induction (Q := fun p => p.registry.Issued l)
    (fun _ done => done.registry_induction (Q := fun r => r.Issued l)
      (fun data h => h.create data) fun other h => h.revoke other)
    h later

/-- A locator that was given out and is dead never resolves again. -/
lemma spent_after (h : (after before).registry.Spent l) (later : List Deed) :
    (after (before ++ later)).registry.Spent l :=
  after_append_induction (Q := fun p => p.registry.Spent l) (fun _ done h => spent_step h done)
    h later

/-- A locator that a handle had is the handle's still, or dead. -/
lemma locatorAt_after (h : (after before).locatorAt i = some l) (later : List Deed) :
    (after (before ++ later)).locatorAt i = some l ∨
      (after (before ++ later)).registry.Spent l := by
  refine after_append_induction
    (Q := fun p => p.locatorAt i = some l ∨ p.registry.Spent l) ?_ (.inl h) later
  rintro pulled p d p' orderly done (has | spent)
  · exact locatorAt_step orderly done has
  · exact .inr (spent_step spent done)

/-! ## What a deed changes -/

/-- One handle is now `new`, and nothing else has changed: its bytes resolve under a locator that
resolved to nothing before, the locator that it had is dead, all the other handles are what they
were, and every other locator resolves to what it did. -/
structure Changes (p : Pool) (i : Nat) (new : Handle) (p' : Pool) : Prop where
  here : p'.handles[i]? = some new
  others : ∀ j, j ≠ i → p'.handles[j]? = p.handles[j]?
  lists : ∀ {data l}, new = .held data (some l) →
    p.registry.resolve l = none ∧ p'.registry.resolve l = some data
  gaveUp : ∀ {l}, p.locatorAt i = some l → p'.registry.resolve l = none
  keeps : ∀ {l}, p.locatorAt i ≠ some l → new.locator? ≠ some l →
    p'.registry.resolve l = p.registry.resolve l

section

variable {pulled : Locator → Prop}

/-- A locator that is created resolves to its bytes, and changes nothing else. -/
lemma resolve_create_of_ne {r : Registry} (other : l ≠ r.next) (data : ByteArray) :
    (r.create data).2.resolve l = r.resolve l := by
  simp [Registry.resolve_create, other]

lemma Orderly.changes_made (h : Orderly pulled p) (data : ByteArray) :
    Changes p p.handles.length (.held data (some p.registry.next))
      ⟨(p.registry.create data).2, p.handles ++ [.held data (some p.registry.next)]⟩ where
  here := by simp
  others j other := by
    rcases Nat.lt_or_gt_of_ne other with before | beyond
    · exact List.getElem?_append_left before
    · rw [List.getElem?_eq_none (by simpa using Nat.succ_le_of_lt beyond),
        List.getElem?_eq_none (Nat.le_of_lt beyond)]
  lists := by
    rintro _ _ ⟨⟩
    exact ⟨h.balanced.resolve_next_eq_none, h.balanced.resolve_next data⟩
  gaveUp has := by simp [locatorAt] at has
  keeps _ other := resolve_create_of_ne (fun same => other (by rw [same]; rfl)) data

lemma Orderly.changes_replaced (h : Orderly pulled p) {old : ByteArray} (data : ByteArray)
    (found : p.handles[i]? = some (.held old (some l))) :
    Changes p i (.held data (some p.registry.next)) ⟨((p.registry.create data).2.revoke l).2,
      p.handles.set i (.held data (some p.registry.next))⟩ where
  here := List.getElem?_set_self (List.getElem?_eq_some_iff.mp found).1
  others j other := List.getElem?_set_ne other.symm
  lists := by
    rintro _ _ ⟨⟩
    have apart : p.registry.next ≠ l := (h.issued (locatorAt_eq found)).ne_next.symm
    exact ⟨h.balanced.resolve_next_eq_none,
      by rw [Registry.resolve_revoke, if_neg apart, h.balanced.resolve_next]⟩
  gaveUp has := by
    obtain rfl := Option.some.inj ((locatorAt_eq found).symm.trans has)
    rw [Registry.resolve_revoke, if_pos rfl]
  keeps old' new' := by
    rw [locatorAt_eq found] at old'
    rw [Registry.resolve_revoke, if_neg (fun same => old' (by rw [same]; rfl)),
      resolve_create_of_ne (fun same => new' (by rw [same]; rfl))]

lemma Orderly.changes_letGo (h : Orderly pulled p) {old : Handle}
    (found : p.handles[i]? = some old) : Changes p i .released (p.letGo i) := by
  obtain rfl | ⟨data, l, rfl, -⟩ := h.backed i old found
  · rw [letGo_of_released found]
    refine ⟨found, fun _ _ => rfl, nofun, fun has => ?_, fun _ _ => rfl⟩
    rw [locatorAt_eq found] at has
    cases has
  · simp only [letGo, found]
    refine ⟨List.getElem?_set_self (List.getElem?_eq_some_iff.mp found).1,
      fun j other => List.getElem?_set_ne other.symm, nofun, fun has => ?_, fun other _ => ?_⟩
    · obtain rfl := Option.some.inj ((locatorAt_eq found).symm.trans has)
      rw [Handle.release, Registry.resolve_revoke, if_pos rfl]
    · rw [locatorAt_eq found] at other
      rw [Handle.release, Registry.resolve_revoke, if_neg (fun same => other (by rw [same]; rfl))]

end

/-- What handles and their registry have to do with each other after a list of deeds, and what each
further deed does.

Every locator created was revoked or is live (`balance`).  One that was live and is not any more
never resolves again (`gone`), nor does one that was revoked from outside (`pulled`), nor one that a
handle had and gave up (`gaveUp`).  A handle that was not released reads as the bytes that its
locator resolves to, unless that was revoked from outside (`held`); nothing is left of one that was
released, and neither reading nor replacing nor releasing it does anything (`released`). -/
structure Matched (deeds : List Deed) : Prop where
  balance : (after deeds).registry.created =
    (after deeds).registry.revoked + (after deeds).registry.liveCount
  gone : ∀ {before meanwhile later l}, deeds = before ++ meanwhile ++ later →
    (after before).registry.isLive l = true →
      (after (before ++ meanwhile)).registry.isLive l = false →
        (after deeds).registry.resolve l = none
  pulled : ∀ {l}, Pulled deeds l → (after deeds).registry.resolve l = none
  held : ∀ {i h}, (after deeds).handles[i]? = some h → h.isReleased = false →
    ∃ data l, (after deeds).perform (.read i) = (.ok (.bytes data), after deeds) ∧
      h.locator? = some l ∧ (Pulled deeds l ∨ (after deeds).registry.resolve l = some data)
  released : ∀ {i h}, (after deeds).handles[i]? = some h → h.isReleased = true →
    h.size = 0 ∧ h.locator? = none ∧
    (after deeds).perform (.read i) =
      (.error (.own .released "资源已释放，无法读取" none), after deeds) ∧
    (∀ data, (after deeds).perform (.replace i data) =
      (.error (.own .released "资源已释放，无法替换" none), after deeds)) ∧
    (after deeds).perform (.release i) = (.ok .nothing, after deeds)
  gaveUp : ∀ {before later i l}, deeds = before ++ later →
    (after before).locatorAt i = some l → (after deeds).locatorAt i ≠ some l →
      (after deeds).registry.resolve l = none
  -- Now what the next deed does: to one handle, or to one locator.
  makes : ∀ data, ∃ l p', (after deeds).perform (.make data) = (.ok .nothing, p') ∧
    Changes (after deeds) (after deeds).handles.length (.held data (some l)) p'
  replaces : ∀ {i h}, (after deeds).handles[i]? = some h → h.isReleased = false →
    ∀ data, ∃ l p', (after deeds).perform (.replace i data) = (.ok .nothing, p') ∧
      Changes (after deeds) i (.held data (some l)) p'
  releases : ∀ {i h}, (after deeds).handles[i]? = some h →
    ∃ p', (after deeds).perform (.release i) = (.ok .nothing, p') ∧
      Changes (after deeds) i .released p'
  leaves : ∀ {i h}, (after deeds).handles[i]? = some h → ∀ raised : Option Failure,
    ∃ p', (after deeds).perform (.leave i raised) = (raised.elim (.ok .nothing) .error, p') ∧
      Changes (after deeds) i .released p'
  creates : ∀ data, ∃ l r,
    (after deeds).perform (.create data) = (.ok (.locator l), { after deeds with registry := r }) ∧
      (after deeds).registry.resolve l = none ∧ r.resolve l = some data ∧
      ∀ l', l' ≠ l → r.resolve l' = (after deeds).registry.resolve l'
  revokes : ∀ l, ∃ r, (after deeds).perform (.revoke l) =
      (.ok (.revoked ((after deeds).registry.isLive l)), { after deeds with registry := r }) ∧
    r.resolve l = none ∧ ∀ l', l' ≠ l → r.resolve l' = (after deeds).registry.resolve l'

/-- **Handles and their registry match, whatever was done with them.**  The counts balance, no
locator comes back from the dead, a handle reads as what its locator resolves to unless that was
revoked behind its back, and a released one is of no use any more.  Making, replacing, releasing and
leaving a handle change this handle and what its locators resolve to, and nothing else. -/
theorem handles_match_registry (deeds : List Deed) : Matched deeds := by
  have orderly := orderly_after deeds
  refine ⟨orderly.balanced.balance, ?gone, ?pulled, ?held, ?released, ?gaveUp, ?makes, ?replaces,
    ?releases, ?leaves, ?creates, ?revokes⟩
  case gone =>
    -- A locator that was live and is dead was issued and is spent, and what is spent never comes
    -- back.
    rintro before meanwhile later l rfl live dead
    have issued := (orderly_after before).balanced.issued_of_isLive live
    have spent : (after (before ++ meanwhile)).registry.Spent l :=
      ⟨issued_after issued meanwhile, by simp [dead]⟩
    exact (spent_after spent later).resolve_eq_none
  case pulled => exact fun out => (orderly.spent _ out).resolve_eq_none
  case held =>
    -- A handle that is not released has a locator in an orderly pool, which resolves unless it was
    -- pulled.
    intro i h found life
    obtain rfl | ⟨data, l, rfl, -, backed⟩ := orderly.backed i h found
    · cases life
    · exact ⟨data, l, by simp only [perform, found]; rfl, rfl, backed⟩
  case released =>
    intro i h found ended
    obtain rfl | ⟨data, l, rfl, -⟩ := orderly.backed i h found
    · refine ⟨rfl, rfl, by simp only [perform, found]; rfl, fun data => ?_, ?_⟩
      · simp only [perform, found]
        rfl
      · simp only [perform, letGo_of_released found]
    · cases ended
  case gaveUp =>
    rintro before later i l rfl had lost
    rcases locatorAt_after had later with has | spent
    · exact absurd has lost
    · exact spent.resolve_eq_none
  case makes => exact fun data => ⟨_, _, rfl, orderly.changes_made data⟩
  case replaces =>
    intro i h found life data
    obtain rfl | ⟨old, l, rfl, -⟩ := orderly.backed i h found
    · cases life
    · exact ⟨_, _, by simp only [perform, found]; rfl, orderly.changes_replaced data found⟩
  case releases => exact fun found => ⟨_, rfl, orderly.changes_letGo found⟩
  case leaves => exact fun found raised => ⟨_, rfl, orderly.changes_letGo found⟩
  case creates =>
    intro data
    exact ⟨_, _, rfl, orderly.balanced.resolve_next_eq_none, orderly.balanced.resolve_next data,
      fun l' other => resolve_create_of_ne other data⟩
  case revokes =>
    intro l
    refine ⟨((after deeds).registry.revoke l).2, ?_, ?_, fun l' other => ?_⟩
    · cases live : (after deeds).registry.isLive l <;> simp [perform, Registry.revoke, live]
    · rw [Registry.resolve_revoke, if_pos rfl]
    · rw [Registry.resolve_revoke, if_neg other]

/-- A locator pulled from under a handle does not come back, but the next bytes of the handle get
one of their own, until the block that the handle was opened for is left with an exception. -/
example :
    let p := after [.make ⟨#[1]⟩, .revoke (.nth 1), .replace 0 ⟨#[2]⟩]
    let p' := (p.perform (.leave 0 (some (.value "stopped")))).2
    p.registry.resolve (.nth 1) = none ∧ p.locatorAt 0 = some (.nth 2) ∧
      p.registry.resolve (.nth 2) = some ⟨#[2]⟩ ∧
      p'.locatorAt 0 = none ∧ p'.registry.resolve (.nth 2) = none ∧
      (p'.registry.created, p'.registry.revoked, p'.registry.liveCount) = (2, 2, 0) := by
  decide +kernel

end Pool
end Reencode
