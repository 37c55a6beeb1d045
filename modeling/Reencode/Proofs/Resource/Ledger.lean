import Reencode.Proofs.Lookup
import Reencode.Resource.Handle

/-!
# The ledger of a registry

A registry is sound when its live locators are distinct ones of those created so far, every one
created is live or was revoked, and no revoking ever missed.  Creating keeps this, for the next
locator is new; revoking keeps it if the locator is live.

The pairs of locators and bytes that a handle accounts for are its `holding`.  The lemmas below say
how an operation on a handle moves the live locators of the registry from the old holding to the
new one, beside any `rest` that others account for.
-/

namespace Reencode

namespace Registry

/-- A registry that was only asked to revoke live locators. -/
structure Sound (r : Registry) : Prop where
  created : ∀ l ∈ r.live.map (·.1), ∃ n ≤ r.created, l = Locator.nth n
  distinct : (r.live.map (·.1)).Nodup
  balance : r.created = r.revoked + r.live.length
  missed : r.missed = []

/-! ## What is live -/

section

variable {r : Registry} {l : Locator}

@[simp] lemma created_create (r : Registry) (data : ByteArray) :
    (r.create data).2.created = r.created + 1 := rfl

@[simp] lemma created_revoke (r : Registry) (l : Locator) : (r.revoke l).2.created = r.created := by
  unfold revoke
  split <;> rfl

/-- Creating adds one locator to what resolves, unless it resolved before. -/
lemma resolve_create (data : ByteArray) :
    (r.create data).2.resolve l = (r.resolve l).or (if l = r.next then some data else none) := by
  by_cases next : l = r.next
  · simp [resolve, create, List.lookup_append, next]
  · have differs : (l == r.next) = false := by simpa using next
    simp [resolve, create, List.lookup_append, List.lookup_cons, next, differs]

/-- Revoking leaves what every other locator resolves to. -/
lemma resolve_revoke {other : Locator} :
    (r.revoke other).2.resolve l = if l = other then none else r.resolve l := by
  unfold revoke
  split
  · exact Lookup.lookup_filter_ne r.live other l
  · rename_i gone
    split
    · rename_i same
      rw [← same, isLive, Bool.not_eq_true, Option.isSome_eq_false_iff] at gone
      exact Option.isNone_iff_eq_none.mp gone
    · rfl

/-- Creating makes one locator live. -/
lemma isLive_create (data : ByteArray) :
    (r.create data).2.isLive l = true ↔ r.isLive l = true ∨ l = r.next := by
  simp [isLive, resolve, create]

/-- Revoking leaves every other locator as it was, and this one not live. -/
lemma isLive_revoke {other : Locator} :
    (r.revoke other).2.isLive l = true ↔ r.isLive l = true ∧ l ≠ other := by
  rw [isLive, resolve_revoke]
  by_cases same : l = other <;> simp [isLive, same]

/-! ## What was given out -/

/-- A locator that was given out. -/
def Issued (r : Registry) (l : Locator) : Prop := ∃ n ≤ r.created, l = Locator.nth n

namespace Issued

/-- A locator that was given out is not the next one. -/
lemma ne_next (h : r.Issued l) : l ≠ r.next := by
  rintro rfl
  obtain ⟨n, below, same⟩ := h
  have := Locator.nth_inj same
  omega

lemma create (h : r.Issued l) (data : ByteArray) : (r.create data).2.Issued l := by
  obtain ⟨n, below, rfl⟩ := h
  exact ⟨n, Nat.le_succ_of_le below, rfl⟩

lemma revoke (h : r.Issued l) (other : Locator) : (r.revoke other).2.Issued l := by
  rwa [Issued, created_revoke]

lemma next (r : Registry) (data : ByteArray) : (r.create data).2.Issued r.next :=
  ⟨r.created + 1, Nat.le_refl _, rfl⟩

end Issued

end

namespace Sound

variable {r : Registry}

lemma empty : Registry.empty.Sound where
  created := by simp [Registry.empty]
  distinct := List.nodup_nil
  balance := rfl
  missed := rfl

/-- The locator created next is not live. -/
lemma next_not_mem (h : r.Sound) : r.next ∉ r.live.map (·.1) := by
  intro mem
  exact Issued.ne_next (h.created _ mem) rfl

lemma create (h : r.Sound) (data : ByteArray) : (r.create data).2.Sound where
  created := by
    intro l mem
    simp only [Registry.create, List.map_append, List.map_cons, List.map_nil, List.mem_append,
      List.mem_singleton] at mem
    rcases mem with old | rfl
    · exact Issued.create (h.created l old) data
    · exact Issued.next r data
  distinct := by
    simp only [Registry.create, List.map_append, List.map_cons, List.map_nil]
    refine List.Nodup.append h.distinct (List.nodup_singleton _) ?_
    intro l old new
    obtain rfl := List.mem_singleton.mp new
    exact h.next_not_mem old
  balance := by
    have := h.balance
    simp only [Registry.create, List.length_append, List.length_singleton]
    omega
  missed := h.missed

/-- Revoking a live locator takes exactly its pair away. -/
lemma revoke (h : r.Sound) {l : Locator} {data : ByteArray} {rest : List (Locator × ByteArray)}
    (live : r.live.Perm ((l, data) :: rest)) :
    (r.revoke l).2.Sound ∧ (r.revoke l).2.live.Perm rest := by
  have found : r.live.lookup l = some data :=
    Lookup.lookup_of_mem h.distinct (live.symm.subset List.mem_cons_self)
  have known : r.isLive l = true := by simp [isLive, resolve, found]
  -- Revoking takes out one locator and no other, since all are distinct.
  have apart := Lookup.perm_of_lookup h.distinct found
  have left := (List.perm_cons _).mp (apart.symm.trans live)
  have shorter : (r.live.filter fun p => p.1 ≠ l).Sublist r.live := List.filter_sublist
  rw [Registry.revoke, if_pos known]
  refine ⟨?_, left⟩
  exact {
    created := fun other mem => h.created other ((shorter.map _).subset mem)
    distinct := h.distinct.sublist (shorter.map _)
    balance := by
      have count := apart.length_eq
      have balance := h.balance
      simp only [List.length_cons] at count
      dsimp only
      omega
    missed := h.missed }

end Sound

end Registry

/-! ## Handles -/

namespace Handle

/-- The live locators that a handle accounts for. -/
def holding : Handle → List (Locator × ByteArray)
  | held data (some l) => [(l, data)]
  | _ => []

@[simp] lemma created_release (r : Registry) (h : Handle) : (h.release r).created = r.created := by
  unfold release
  split <;> simp

/-- Releasing leaves every locator but the handle's own as it was. -/
lemma isLive_release {r : Registry} {h : Handle} {l : Locator} :
    (h.release r).isLive l = true ↔ r.isLive l = true ∧ h.locator? ≠ some l := by
  match h with
  | held data (some own) =>
    rw [release, Registry.isLive_revoke]
    simp [locator?, eq_comm (a := own)]
  | held data none => simp [release, locator?]
  | released => simp [release, locator?]

variable {r : Registry} {rest : List (Locator × ByteArray)} {data : ByteArray}

/-- A new handle accounts for one more live locator. -/
lemma make_listed (h : r.Sound) (live : r.live.Perm rest) (data : ByteArray) :
    (make true r data).2.Sound ∧
      (make true r data).2.live.Perm ((make true r data).1.holding ++ rest) := by
  refine ⟨h.create data, ?_⟩
  exact (List.perm_append_singleton _ _).trans (live.cons _)

/-- Released bytes leave no live locator behind. -/
lemma release_sound (h : r.Sound) {handle : Handle} (live : r.live.Perm (handle.holding ++ rest)) :
    (handle.release r).Sound ∧ (handle.release r).live.Perm rest := by
  match handle with
  | held data (some l) => exact h.revoke live
  | held data none => exact ⟨h, live⟩
  | released => exact ⟨h, live⟩

/-- Replaced bytes are listed anew before the old locator is revoked. -/
lemma replace_sound (h : r.Sound) {old : ByteArray} {l : Locator}
    (live : r.live.Perm ((l, old) :: rest)) (data : ByteArray) :
    ∃ made, (held old (some l)).replace r data = .ok made ∧ (∃ l', made.1 = held data (some l')) ∧
      made.2.Sound ∧ made.2.live.Perm (made.1.holding ++ rest) := by
  have moved : (r.create data).2.live.Perm ((l, old) :: (r.next, data) :: rest) :=
    (List.perm_append_singleton _ _).trans ((live.cons _).trans (List.Perm.swap _ _ _))
  obtain ⟨sound, left⟩ := (h.create data).revoke moved
  exact ⟨_, rfl, ⟨r.next, rfl⟩, sound, left⟩

end Handle

end Reencode
