import Reencode.Proofs.Collection.Catalogue

/-!
# The career of an entry

An entry lives from its import on through new tokens, results and faults with any token, changes of
its parameters, the release of its output and its destruction, in any order and any number, while
others create and revoke locators in the registry that it shares (`Doing`).

A result or a fault is taken over by the whole entry or not at all, and what is taken over depends
on the state alone (`perform_applyOutput`, `perform_recordFault`).  So the fields that tell of the
output and of the fault can be read off the list of what was taken over (`Bears`): they are those of
the last output in it, and of the last thing in it.

A locator that the entry ever had carries a number that was given out, and is either one of those it
has or not live (`Settles`).  Numbers are not given out twice, hence a locator that is not live
stays so; and a destroyed entry has none.
-/

namespace Reencode

namespace Entry

/-! ## Doings -/

/-- What is done with an entry, or by others with the registry it shares. A result comes in with
parameters of its own or without, and others may revoke a locator of the entry. -/
inductive Doing where
  | nextToken
  | applyOutput (token : Int) (data : ByteArray) (params : Option Params)
  | recordFault (fault : Fault)
  | setParams (params : Params)
  | releaseOutput
  | destroy
  | create (data : ByteArray)
  | revoke (l : Locator)

/-- What the doer is told: nothing, the new token, or whether a result or a fault was taken over. -/
inductive Answer where
  | nothing
  | token (n : Int)
  | taken (b : Bool)

/-- Does one thing to an entry and its registry. -/
def perform : Doing → Entry × Registry → Except Failure Answer × (Entry × Registry)
  | .nextToken, (e, r) => (.ok (.token e.advance.token), (e.advance, r))
  | .applyOutput token data params, (e, r) =>
    match e.applyOutput r token data params with
    | .ok (some s) => (.ok (.taken true), s)
    | .ok none => (.ok (.taken false), (e, r))
    | .error failure => (.error failure, (e, r))
  | .recordFault fault, (e, r) =>
    match e.recordFault fault with
    | some e' => (.ok (.taken true), (e', r))
    | none => (.ok (.taken false), (e, r))
  | .setParams params, (e, r) => (.ok .nothing, ({ e with params }, r))
  | .releaseOutput, (e, r) =>
    match e.releaseOutput r with
    | .ok s => (.ok .nothing, s)
    | .error failure => (.error failure, (e, r))
  | .destroy, (e, r) => (.ok .nothing, e.destroy r)
  | .create data, (e, r) => (.ok .nothing, (e, (r.create data).2))
  | .revoke l, (e, r) => (.ok .nothing, (e, (r.revoke l).2))

/-- An entry and its registry after one thing after the other was done. -/
def afterAll (ds : List Doing) (s : Entry × Registry) : Entry × Registry :=
  ds.foldl (fun s d => (perform d s).2) s

@[simp] lemma afterAll_nil (s : Entry × Registry) : afterAll [] s = s := rfl

lemma afterAll_append (ds ds' : List Doing) (s : Entry × Registry) :
    afterAll (ds ++ ds') s = afterAll ds' (afterAll ds s) :=
  List.foldl_append

/-! ## What is taken over -/

/-- What an entry took over: a fault, or an output and the parameters it counts as made with. -/
inductive Taken where
  | output (data : ByteArray) (params : Params)
  | fault (fault : Fault)

namespace Taken

/-- The output, if it is that. -/
def output? : Taken → Option (ByteArray × Params)
  | output data params => some (data, params)
  | fault _ => none

/-- The fault, if it is that. -/
def fault? : Taken → Option Fault
  | output .. => none
  | fault f => some f

end Taken

/-- What is taken over when one thing is done, by the answer the doer gets. -/
def taken (d : Doing) (s : Entry × Registry) : Option Taken :=
  match d, (perform d s).1 with
  | .applyOutput _ data params, .ok (.taken true) => some (.output data (params.getD s.1.params))
  | .recordFault f, .ok (.taken true) => some (.fault f)
  | _, _ => none

/-- What is taken over when one thing after the other is done, oldest first. -/
def takenIn : List Doing → Entry × Registry → List Taken
  | [], _ => []
  | d :: ds, s => (taken d s).toList ++ takenIn ds (perform d s).2

/-- The outputs in what was taken over. -/
def outputsOf (took : List Taken) : List (ByteArray × Params) := took.filterMap Taken.output?

/-! ## What one doing does -/

section

variable {e e' : Entry} {r r' : Registry} {token : Int} {data : ByteArray}

/-- Whether a result with this token is taken over. -/
def Admits (e : Entry) (token : Int) : Prop :=
  e.destroyed = false ∧ token = e.token ∧ e.output ≠ some .released

lemma isCurrent_iff : e.isCurrent token = true ↔ e.destroyed = false ∧ token = e.token := by
  simp [isCurrent, and_comm]

/-- A result without parameters counts as made with those in force. -/
lemma applyOutput_getD (e : Entry) (r : Registry) (token : Int) (data : ByteArray)
    (params : Option Params) :
    e.applyOutput r token data params =
      e.applyOutput r token data (some (params.getD e.params)) := by
  cases params <;> rfl

/-- A result that is admitted finds a place for its bytes. -/
lemma Admits.stored (h : e.Admits token) (r : Registry) (data : ByteArray) :
    ∃ locator r', e.storeOutput r data = .ok (.held data locator, r') := by
  have held : ∀ old, e.output = some old → ∃ bytes locator, old = .held bytes locator := by
    intro old out
    cases old with
    | held bytes locator => exact ⟨bytes, locator, rfl⟩
    | released => exact absurd out h.2.2
  obtain ⟨⟨handle, r'⟩, stored⟩ := storeOutput_ok held r data
  obtain ⟨locator, rfl⟩ := held_of_storeOutput stored
  exact ⟨locator, r', stored⟩

lemma Admits.applyOutput_eq (h : e.Admits token) {locator : Option Locator}
    (stored : e.storeOutput r data = .ok (.held data locator, r')) (params : Option Params) :
    e.applyOutput r token data params =
      .ok (some (e.withOutput (.held data locator) data (params.getD e.params), r')) := by
  have current : e.isCurrent token = true := isCurrent_iff.mpr ⟨h.1, h.2.1⟩
  rw [applyOutput_getD, Entry.applyOutput_eq, if_pos current, stored]
  rfl

/-- A result that is not admitted changes nothing; the doer gets a failure only if the token is
current. -/
lemma perform_applyOutput_of_not_admits (s : Entry × Registry) (h : ¬ s.1.Admits token)
    (data : ByteArray) (params : Option Params) :
    perform (.applyOutput token data params) s =
      (if s.1.isCurrent token then .error (.own .released "资源已释放，无法替换" none)
        else .ok (.taken false), s) := by
  obtain ⟨e, r⟩ := s
  -- A current result is admitted unless the handle was released, which is then the only thing to
  -- refuse it.
  by_cases current : e.isCurrent token = true
  · have gone : e.output = some .released := by
      by_contra held
      obtain ⟨life, newest⟩ := isCurrent_iff.mp current
      exact h ⟨life, newest, held⟩
    have refused : e.applyOutput r token data params =
        .error (.own .released "资源已释放，无法替换" none) := by
      rw [applyOutput_getD, Entry.applyOutput_eq, if_pos current, storeOutput, gone]
      rfl
    simp only [perform, refused, if_pos current]
  · have stale : e.applyOutput r token data params = .ok none := by
      rw [applyOutput_getD, Entry.applyOutput_eq, if_neg current]
    simp only [perform, stale, if_neg current]

lemma perform_recordFault (s : Entry × Registry) (f : Fault) :
    perform (.recordFault f) s =
      if s.1.isCurrent f.token then (.ok (.taken true), ({ s.1 with fault := some f }, s.2))
      else (.ok (.taken false), s) := by
  obtain ⟨e, r⟩ := s
  by_cases current : e.isCurrent f.token = true <;> simp [perform, recordFault, current]

lemma perform_releaseOutput_of_none {s : Entry × Registry} (out : s.1.output = none) :
    ∃ f, perform .releaseOutput s = (.error f, s) := by
  refine ⟨.outside .attribute "'NoneType' object has no attribute 'release'", ?_⟩
  simp only [perform, releaseOutput, out]

lemma perform_releaseOutput {s : Entry × Registry} {h : Handle} (out : s.1.output = some h) :
    perform .releaseOutput s =
      (.ok .nothing, ({ s.1 with output := some .released }, h.release s.2)) := by
  simp only [perform, releaseOutput, out]

/-- Destroying a destroyed entry changes nothing. -/
lemma perform_destroy_of_destroyed (s : Entry × Registry) (h : s.1.destroyed = true) :
    perform .destroy s = (.ok .nothing, s) := by
  simp [perform, destroy, h]

/-- Everything that one doing can do to an entry and its registry, and what is taken over by it.
Nothing changes where a result or a fault is not taken over, where there is no output to release, or
where the entry was destroyed already. -/
inductive Moves : Doing → Entry × Registry → Option Taken → Entry × Registry → Prop
  | advanced (e : Entry) (r : Registry) : Moves .nextToken (e, r) none (e.advance, r)
  | output {e : Entry} {r r' : Registry} {token : Int} {data : ByteArray} {params : Option Params}
      {locator : Option Locator} (admits : e.Admits token)
      (stored : e.storeOutput r data = .ok (.held data locator, r')) :
      Moves (.applyOutput token data params) (e, r) (some (.output data (params.getD e.params)))
        (e.withOutput (.held data locator) data (params.getD e.params), r')
  | fault {e : Entry} {r : Registry} {f : Fault} (current : e.isCurrent f.token = true) :
      Moves (.recordFault f) (e, r) (some (.fault f)) ({ e with fault := some f }, r)
  | changed (e : Entry) (r : Registry) (params : Params) :
      Moves (.setParams params) (e, r) none ({ e with params }, r)
  | released {e : Entry} {r : Registry} {h : Handle} (out : e.output = some h) :
      Moves .releaseOutput (e, r) none ({ e with output := some .released }, h.release r)
  | destroyed {e : Entry} {r : Registry} (life : e.destroyed = false) :
      Moves .destroy (e, r) none (e.destroy r)
  | created (e : Entry) (r : Registry) (data : ByteArray) :
      Moves (.create data) (e, r) none (e, (r.create data).2)
  | revoked (e : Entry) (r : Registry) (l : Locator) :
      Moves (.revoke l) (e, r) none (e, (r.revoke l).2)
  | idle {d : Doing} {s : Entry × Registry} (old : d ≠ .nextToken)
      (dead : d = .destroy → s.1.destroyed = true) : Moves d s none s

lemma perform_moves (d : Doing) (s : Entry × Registry) : Moves d s (taken d s) (perform d s).2 := by
  obtain ⟨e, r⟩ := s
  cases d with
  | nextToken => exact .advanced e r
  | applyOutput token data params =>
    by_cases admits : e.Admits token
    · obtain ⟨locator, r', stored⟩ := admits.stored r data
      simp only [taken, perform, admits.applyOutput_eq stored]
      exact .output admits stored
    -- A result that is not admitted changes nothing, whether it is refused or ignored.
    · simp only [taken, perform_applyOutput_of_not_admits (e, r) admits]
      have idle : Moves (.applyOutput token data params) (e, r) none (e, r) :=
        .idle (by simp) (by simp)
      by_cases current : e.isCurrent token = true <;> simpa only [current, if_true, if_false]
  | recordFault f =>
    by_cases current : e.isCurrent f.token = true
    · simp only [taken, perform_recordFault, current, if_true]
      exact .fault current
    · simp only [taken, perform_recordFault, current]
      exact .idle (by simp) (by simp)
  | setParams params => exact .changed e r params
  | releaseOutput =>
    cases out : e.output with
    | none =>
      simp only [taken, perform, releaseOutput, out]
      exact .idle (by simp) (by simp)
    | some h =>
      simp only [taken, perform_releaseOutput (s := (e, r)) out]
      exact .released out
  | destroy =>
    by_cases life : e.destroyed = false
    · exact .destroyed life
    · have dead : e.destroyed = true := by simpa using life
      rw [perform_destroy_of_destroyed (e, r) dead]
      exact .idle (by simp) (fun _ => dead)
  | create data => exact .created e r data
  | revoke l => exact .revoked e r l

end

/-! ## Locators -/

section

variable {e : Entry} {r r' : Registry} {data : ByteArray} {locator : Option Locator}

/-- New bytes are listed if the old ones are, and if there are none, if the entry is; then they get
the next locator, and the old one is revoked. -/
lemma storeOutput_eq_ok (stored : e.storeOutput r data = .ok (.held data locator, r')) :
    (locator = none ∧ r' = r ∧
      (e.output = none ∧ e.listed = false ∨ ∃ bytes, e.output = some (.held bytes none))) ∨
    (locator = some r.next ∧ r' = (r.create data).2 ∧ e.output = none ∧ e.listed = true) ∨
    ∃ bytes old, locator = some r.next ∧ r' = ((r.create data).2.revoke old).2 ∧
      e.output = some (.held bytes (some old)) := by
  unfold storeOutput at stored
  -- The output may be there or not and listed or not, and there is a locator to replace only in the
  -- last case.
  cases out : e.output with
  | none =>
    simp only [out, Handle.make, Handle.listed, Handle.unlisted, Except.ok.injEq] at stored
    by_cases listed : e.listed = true
    · simp only [listed, if_true, Prod.mk.injEq, Handle.held.injEq, true_and] at stored
      exact .inr (.inl ⟨stored.1.symm, stored.2.symm, rfl, listed⟩)
    · simp only [listed, Bool.false_eq_true, if_false, Prod.mk.injEq, Handle.held.injEq, true_and]
        at stored
      exact .inl ⟨stored.1.symm, stored.2.symm, .inl ⟨rfl, by simpa using listed⟩⟩
  | some handle =>
    simp only [out] at stored
    match handle with
    | .released => simp [Handle.replace] at stored
    | .held bytes none =>
      simp only [Handle.replace, Except.ok.injEq, Prod.mk.injEq, Handle.held.injEq, true_and]
        at stored
      exact .inl ⟨stored.1.symm, stored.2.symm, .inr ⟨bytes, rfl⟩⟩
    | .held bytes (some old) =>
      simp only [Handle.replace, Registry.create, Except.ok.injEq, Prod.mk.injEq,
        Handle.held.injEq, true_and] at stored
      exact .inr (.inr ⟨bytes, old, stored.1.symm, stored.2.symm, rfl⟩)

lemma created_le_of_storeOutput (stored : e.storeOutput r data = .ok (.held data locator, r')) :
    r.created ≤ r'.created := by
  obtain ⟨-, rfl, -⟩ | ⟨-, rfl, -⟩ | ⟨_, _, -, rfl, -⟩ := storeOutput_eq_ok stored <;> simp

/-- A locator that new bytes are listed under has the last number given out. -/
lemma locator_of_storeOutput {l : Locator}
    (stored : e.storeOutput r data = .ok (.held data (some l), r')) :
    l = r.next ∧ r'.created = r.created + 1 := by
  obtain ⟨none, -, -⟩ | ⟨next, rfl, -⟩ | ⟨_, _, next, rfl, -⟩ := storeOutput_eq_ok stored
  · simp at none
  · exact ⟨Option.some.inj next, by simp⟩
  · exact ⟨Option.some.inj next, by simp⟩

/-- With new bytes the new locator is live, and the old one is not. -/
lemma isLive_of_storeOutput (stored : e.storeOutput r data = .ok (.held data locator, r'))
    (numbered : ∀ l ∈ e.locators, ∃ n ≤ r.created, l = Locator.nth n) (l : Locator) :
    r'.isLive l = true ↔
      locator = some l ∨ r.isLive l = true ∧ e.output.bind Handle.locator? ≠ some l := by
  obtain ⟨rfl, rfl, ⟨out, -⟩ | ⟨bytes, out⟩⟩ | ⟨rfl, rfl, out, -⟩ | ⟨bytes, old, rfl, rfl, out⟩ :=
    storeOutput_eq_ok stored
  · simp [out]
  · simp [out, Handle.locator?]
  · rw [Registry.isLive_create, out]
    simp [or_comm, eq_comm (a := l)]
  -- The new locator is none that was ever given out, so revoking the old one spares it.
  · have apart : old ≠ r.next :=
      Registry.Issued.ne_next (numbered old (by simp [locators, out, Handle.locator?]))
    rw [Registry.isLive_revoke, Registry.isLive_create, out]
    simp only [Option.bind_some, Handle.locator?, Option.some.injEq, ne_eq]
    constructor
    · rintro ⟨live | rfl, other⟩
      · exact .inr ⟨live, fun same => other same.symm⟩
      · exact .inl rfl
    · rintro (rfl | ⟨live, other⟩)
      · exact ⟨.inr rfl, apart.symm⟩
      · exact ⟨.inl live, fun same => other same.symm⟩

/-- Destroying revokes the locators that the entry has. -/
lemma isLive_destroy (life : e.destroyed = false) (l : Locator) :
    (e.destroy r).2.isLive l = true ↔ r.isLive l = true ∧ l ∉ e.locators := by
  have both : l ∉ e.locators ↔
      e.sourceHandle.locator? ≠ some l ∧ e.output.bind Handle.locator? ≠ some l := by
    simp [locators]
  rw [both]
  simp only [destroy, life, Bool.false_eq_true, if_false]
  cases out : e.output with
  | none => simp [Handle.isLive_release]
  | some handle => simp [Handle.isLive_release, and_assoc]

lemma created_destroy : (e.destroy r).2.created = r.created := by
  unfold destroy
  split
  · rfl
  · split <;> simp

lemma locators_destroy (life : e.destroyed = false) : (e.destroy r).1.locators = [] := by
  simp [destroy, life, locators, Handle.locator?]

end

/-- An entry among the numbers given out: those of its locators are some of them, its output is
listed as the entry is, and when it is destroyed it has no locator left. -/
structure Numbered (s : Entry × Registry) : Prop where
  numbered : ∀ l ∈ s.1.locators, ∃ n ≤ s.2.created, l = Locator.nth n
  listed : ∀ data locator, s.1.output = some (.held data locator) → locator.isSome = s.1.listed
  gone : s.1.destroyed = true → s.1.locators = []

/-- A locator that the entry had once: it has it still, or it is not live. -/
structure Settles (l : Locator) (s : Entry × Registry) : Prop where
  number : ∃ n ≤ s.2.created, l = Locator.nth n
  settled : s.2.isLive l = true → l ∈ s.1.locators

section

variable {d : Doing} {s s' : Entry × Registry} {t : Option Taken} {l : Locator}

lemma Moves.created_le (h : Moves d s t s') : s.2.created ≤ s'.2.created := by
  cases h with
  | output admits stored => exact created_le_of_storeOutput stored
  | released out => simp
  | destroyed life => simp [created_destroy]
  | created e r data => simp
  | revoked e r l => simp
  | _ => exact Nat.le_refl _

lemma Numbered.step (h : Numbered s) (moves : Moves d s t s') : Numbered s' where
  numbered := by
    intro l mem
    have old : l ∈ s.1.locators → ∃ n ≤ s'.2.created, l = Locator.nth n := by
      intro mem
      obtain ⟨n, below, number⟩ := h.numbered l mem
      exact ⟨n, Nat.le_trans below moves.created_le, number⟩
    -- Only an output brings in a locator, and it is the one that was created last.
    cases moves with
    | @output e r r' token data params locator admits stored =>
      rcases mem_locators.mp mem with source | ⟨handle, out, listed⟩
      · exact old (mem_locators.mpr (.inl source))
      · obtain rfl := Option.some.inj out
        obtain rfl : locator = some l := listed
        obtain ⟨rfl, created⟩ := locator_of_storeOutput stored
        exact ⟨r.created + 1, Nat.le_of_eq created.symm, rfl⟩
    | @released e r handle out =>
      refine old (mem_locators.mpr (.inl ?_))
      simpa [locators, Handle.locator?] using mem
    | destroyed life => simp [locators_destroy life] at mem
    | _ => exact old mem
  -- Whether an output is listed is passed on from the one before it, and from the entry to the
  -- first.
  listed := by
    cases moves with
    | @output e r r' token data params locator admits stored =>
      intro bytes locator' out
      obtain ⟨rfl, rfl⟩ : data = bytes ∧ locator = locator' := by simpa [withOutput] using out
      obtain ⟨rfl, -, ⟨-, off⟩ | ⟨_, old⟩⟩ | ⟨rfl, -, -, on⟩ | ⟨_, _, rfl, -, old⟩ :=
        storeOutput_eq_ok stored
      · simp [withOutput, off]
      · simpa [withOutput] using h.listed _ _ old
      · simp [withOutput, on]
      · simpa [withOutput] using h.listed _ _ old
    | released out => intro bytes locator out; simp at out
    | destroyed life =>
      intro bytes locator out
      simp [destroy, life] at out
    | _ => exact h.listed
  gone := by
    cases moves with
    | output admits stored =>
      intro dead
      simp [withOutput, admits.1] at dead
    | @released e r handle out =>
      intro dead
      have none := h.gone dead
      simp only [locators, List.append_eq_nil_iff] at none ⊢
      exact ⟨none.1, rfl⟩
    | destroyed life => exact fun _ => locators_destroy life
    | _ => exact h.gone

lemma Settles.step (h : Settles l s) (order : Numbered s) (moves : Moves d s t s') :
    Settles l s' where
  number := by
    obtain ⟨n, below, number⟩ := h.number
    exact ⟨n, Nat.le_trans below moves.created_le, number⟩
  settled := by
    have issued : s.2.Issued l := h.number
    cases moves with
    | @output e r r' token data params locator admits stored =>
      intro live
      -- The locator was given out earlier, so it is not the new one; if it is still live, it is not
      -- the output's.
      rcases (isLive_of_storeOutput stored order.numbered l).mp live with rfl | ⟨live, other⟩
      · exact absurd (locator_of_storeOutput stored).1 issued.ne_next
      · rcases mem_locators.mp (h.settled live) with source | ⟨handle, out, listed⟩
        · exact mem_locators.mpr (.inl source)
        · exact absurd (Option.bind_eq_some_iff.mpr ⟨handle, out, listed⟩) other
    | @released e r handle out =>
      intro live
      obtain ⟨live, other⟩ := Handle.isLive_release.mp live
      rcases mem_locators.mp (h.settled live) with source | ⟨own, out', listed⟩
      · exact mem_locators.mpr (.inl source)
      · obtain rfl := Option.some.inj (out.symm.trans out')
        exact absurd listed other
    | destroyed life =>
      intro live
      obtain ⟨live, free⟩ := (isLive_destroy life l).mp live
      exact absurd (h.settled live) free
    | created e r data =>
      intro live
      rcases (Registry.isLive_create data).mp live with live | next
      · exact h.settled live
      · exact absurd next issued.ne_next
    | revoked e r other => exact fun live => h.settled (Registry.isLive_revoke.mp live).1
    | _ => exact h.settled

end

/-! ## What the fields tell -/

/-- An entry whose fields tell of the last output that it took over, and of the last fault unless an
output came after it. -/
structure Bears (took : List Taken) (e : Entry) : Prop where
  params : e.outputParams = (outputsOf took).getLast?.map (·.2)
  size : e.outputSize = (outputsOf took).getLast?.elim 0 (·.1.size)
  savings : e.savings = (outputsOf took).getLast?.elim Binary64.zero
    fun o => Reencode.savings e.sourceSize o.1.size
  bytes : ∀ data locator, e.output = some (.held data locator) →
    ∃ p, (outputsOf took).getLast? = some (data, p)
  fault : e.fault = took.getLast?.bind Taken.fault?

section

variable {d : Doing} {s s' : Entry × Registry} {t : Option Taken} {took : List Taken}

/-- An output that is taken over replaces all that is told. -/
lemma bears_withOutput (e : Entry) (data : ByteArray) (params : Params)
    (locator : Option Locator) :
    Bears (took ++ [.output data params]) (e.withOutput (.held data locator) data params) := by
  have last : (outputsOf (took ++ [.output data params])).getLast? = some (data, params) := by
    simp [outputsOf, Taken.output?]
  constructor
  · simp [last, withOutput]
  · simp [last, withOutput]
  · simp [last, withOutput, sourceSize]
  · simp [last, withOutput]
  · simp [withOutput, Taken.fault?]

lemma Bears.recordFault {e : Entry} (h : Bears took e) (f : Fault) :
    Bears (took ++ [.fault f]) { e with fault := some f } := by
  have same : outputsOf (took ++ [.fault f]) = outputsOf took := by
    simp [outputsOf, Taken.output?]
  constructor
  · simp [same, h.params]
  · simp [same, h.size]
  · rw [same]
    exact h.savings
  · rw [same]
    exact h.bytes
  · simp [Taken.fault?]

/-- What is told stays when nothing is taken over and the bytes are kept or given up. -/
lemma Bears.congr {e e' : Entry} (h : Bears took e) (source : e'.source = e.source)
    (params : e'.outputParams = e.outputParams) (size : e'.outputSize = e.outputSize)
    (savings : e'.savings = e.savings) (fault : e'.fault = e.fault)
    (bytes : ∀ data locator, e'.output = some (.held data locator) → e'.output = e.output) :
    Bears took e' where
  params := params.trans h.params
  size := size.trans h.size
  savings := by simpa only [savings, sourceSize, source] using h.savings
  bytes := fun data locator out => h.bytes data locator ((bytes data locator out).symm.trans out)
  fault := fault.trans h.fault

lemma Bears.step (h : Bears took s.1) (moves : Moves d s t s') :
    Bears (took ++ t.toList) s'.1 := by
  cases moves with
  | output admits stored => exact bears_withOutput _ _ _ _
  | fault current => exact h.recordFault _
  | released out =>
    rw [Option.toList_none, List.append_nil]
    exact h.congr rfl rfl rfl rfl rfl (by simp)
  | destroyed life =>
    rw [Option.toList_none, List.append_nil]
    exact h.congr (by simp) (by simp [destroy, life]) (by simp [destroy, life])
      (by simp [destroy, life]) (by simp [destroy, life]) (by simp [destroy, life])
  | _ =>
    rw [Option.toList_none, List.append_nil]
    exact h.congr rfl rfl rfl rfl rfl (fun _ _ _ => rfl)

end

/-! ## Runs -/

section

variable {s : Entry × Registry} (ds : List Doing)

lemma Numbered.run (h : Numbered s) : Numbered (afterAll ds s) := by
  induction ds generalizing s with
  | nil => exact h
  | cons d ds ih => exact ih (h.step (perform_moves d s))

lemma Settles.run {l : Locator} (order : Numbered s) (h : Settles l s) :
    Settles l (afterAll ds s) := by
  induction ds generalizing s with
  | nil => exact h
  | cons d ds ih =>
    have moves := perform_moves d s
    exact ih (order.step moves) (h.step order moves)

lemma Bears.run {took : List Taken} (h : Bears took s.1) :
    Bears (took ++ takenIn ds s) (afterAll ds s).1 := by
  induction ds generalizing s took with
  | nil => simpa [takenIn] using h
  | cons d ds ih =>
    rw [takenIn, ← List.append_assoc]
    exact ih (h.step (perform_moves d s))

/-- Whether a new token is taken. -/
def Doing.isNextToken : Doing → Bool
  | nextToken => true
  | _ => false

lemma token_afterAll (s : Entry × Registry) :
    (afterAll ds s).1.token = s.1.token + ds.countP Doing.isNextToken := by
  induction ds generalizing s with
  | nil => simp
  | cons d ds ih =>
    have one : (perform d s).2.1.token = s.1.token + if d.isNextToken then 1 else 0 := by
      have moves := perform_moves d s
      generalize (perform d s).2 = s', taken d s = t at moves
      cases moves with
      | destroyed life => simp [Doing.isNextToken]
      | @idle d s old dead => cases d <;> simp [Doing.isNextToken] at old ⊢
      | _ => simp [Doing.isNextToken, withOutput]
    have split := ih (perform d s).2
    rw [one] at split
    rw [List.countP_cons]
    refine split.trans ?_
    split_ifs <;> push_cast <;> omega

lemma destroyed_afterAll (s : Entry × Registry) :
    (afterAll ds s).1.destroyed = true ↔ s.1.destroyed = true ∨ .destroy ∈ ds := by
  induction ds generalizing s with
  | nil => simp
  | cons d ds ih =>
    have one : (perform d s).2.1.destroyed = true ↔ s.1.destroyed = true ∨ .destroy = d := by
      -- What a doing does to an entry is one of the moves, and only one of them destroys it.
      have moves := perform_moves d s
      generalize (perform d s).2 = s', taken d s = t at moves
      cases moves with
      | destroyed life => simp
      | @idle d s old dead =>
        constructor
        · exact .inl
        · rintro (gone | rfl)
          · exact gone
          · exact dead rfl
      | _ => simp [withOutput, advance]
    rw [List.mem_cons, ← or_assoc, ← one]
    exact ih (perform d s).2

lemma create_numbered (id : EntryId) (name : String) (source : ByteArray) (params : Params)
    (listed : Bool) (r : Registry) : Numbered (create id name source params listed r) where
  numbered := by
    intro l mem
    rcases mem_locators.mp mem with own | ⟨handle, out, -⟩
    · cases listed with
      | false => simp [create, Handle.make, Handle.unlisted, Handle.locator?] at own
      | true =>
        obtain rfl := Option.some.inj own
        exact ⟨r.created + 1, Nat.le_refl _, rfl⟩
    · simp [create] at out
  listed := by simp [create]
  gone := by simp [create]

lemma create_bears (id : EntryId) (name : String) (source : ByteArray) (params : Params)
    (listed : Bool) (r : Registry) : Bears [] (create id name source params listed r).1 where
  params := rfl
  size := rfl
  savings := rfl
  bytes := by simp [create]
  fault := rfl

end

/-! ## The state machine -/

/-- The entry and the registry after an output was taken over: all that tells of the output changed
together and nothing else did, the bytes are listed if the entry is, and the locator of the output
before is not live any more. -/
def TakesOver (s : Entry × Registry) (data : ByteArray) (params : Params)
    (s' : Entry × Registry) : Prop :=
  ∃ locator, locator.isSome = s.1.listed ∧
    s'.1 = s.1.withOutput (.held data locator) data params ∧
    ∀ l, s'.2.isLive l = true ↔
      locator = some l ∨ s.2.isLive l = true ∧ s.1.output.bind Handle.locator? ≠ some l

/-- What can be said of an entry that started as `s₀` when `ds` was done to it.

Tokens count from that of the start (`token`), and an entry is destroyed for good (`destroyed`).  A
result is taken over if the entry is alive, the token the newest one and the output not released
(`output`); otherwise nothing changes, and it is a failure if the token counts (`noOutput`).  A
fault is taken over if the entry is alive and the token the newest one, and else nothing changes
(`fault`).  Releasing the output leaves a handle that no result gets past, and its locator dead
(`release`); there must be one (`noRelease`).  The fields tell of what was taken over (`bears`).  No
locator that a destroyed entry had before is live (`gone`), and destroying it again changes nothing
(`again`). -/
structure Career (s₀ : Entry × Registry) (ds : List Doing) : Prop where
  token : (afterAll ds s₀).1.token = s₀.1.token + ds.countP Doing.isNextToken
  destroyed : (afterAll ds s₀).1.destroyed = true ↔ .destroy ∈ ds
  output : ∀ token data params, (afterAll ds s₀).1.Admits token →
    ∃ s', perform (.applyOutput token data params) (afterAll ds s₀) = (.ok (.taken true), s') ∧
      TakesOver (afterAll ds s₀) data (params.getD (afterAll ds s₀).1.params) s'
  noOutput : ∀ token data params, ¬ (afterAll ds s₀).1.Admits token →
    perform (.applyOutput token data params) (afterAll ds s₀) =
      (if (afterAll ds s₀).1.isCurrent token then .error (.own .released "资源已释放，无法替换" none)
        else .ok (.taken false), afterAll ds s₀)
  fault : ∀ f, perform (.recordFault f) (afterAll ds s₀) =
    if (afterAll ds s₀).1.destroyed = false ∧ f.token = (afterAll ds s₀).1.token then
      (.ok (.taken true), ({ (afterAll ds s₀).1 with fault := some f }, (afterAll ds s₀).2))
    else (.ok (.taken false), afterAll ds s₀)
  release : ∀ h, (afterAll ds s₀).1.output = some h →
    ∃ r, perform .releaseOutput (afterAll ds s₀) =
        (.ok .nothing, ({ (afterAll ds s₀).1 with output := some .released }, r)) ∧
      ∀ l, r.isLive l = true ↔ (afterAll ds s₀).2.isLive l = true ∧ h.locator? ≠ some l
  noRelease : (afterAll ds s₀).1.output = none →
    ∃ f, perform .releaseOutput (afterAll ds s₀) = (.error f, afterAll ds s₀)
  bears : Bears (takenIn ds s₀) (afterAll ds s₀).1
  gone : .destroy ∈ ds → ∀ ds₁ ds₂, ds = ds₁ ++ ds₂ →
    ∀ l ∈ (afterAll ds₁ s₀).1.locators, (afterAll ds s₀).2.isLive l = false
  again : .destroy ∈ ds → perform .destroy (afterAll ds s₀) = (.ok .nothing, afterAll ds s₀)

/-- **The state machine of an entry.** Whatever is done to an entry and to the registry it shares,
in any order and with any tokens: a result or a fault changes everything that depends on it or
nothing at all, and it does so exactly when the entry is not destroyed, the token is the newest one
and, for a result, the handle of the output there is was not released.  The fields that tell of the
output are those of the last output that was taken over, and those of a new entry if there is none.
No locator that the entry ever had is live after its destruction, whatever is done then. -/
theorem results_move_together (id : EntryId) (name : String) (source : ByteArray) (params : Params)
    (listed : Bool) (r : Registry) (ds : List Doing) :
    Career (create id name source params listed r) ds := by
  have fresh := create_numbered id name source params listed r
  have born : (create id name source params listed r).1.destroyed = false := rfl
  have bears := (create_bears id name source params listed r).run ds
  -- From here on only that the entry was born in order matters, not how.
  generalize create id name source params listed r = s₀ at fresh born bears ⊢
  have order := fresh.run ds
  have destroyed : (afterAll ds s₀).1.destroyed = true ↔ .destroy ∈ ds := by
    rw [destroyed_afterAll, born]
    simp
  refine {
    token := token_afterAll ds s₀
    destroyed := destroyed
    output := ?_
    noOutput := fun token data params late =>
      perform_applyOutput_of_not_admits (afterAll ds s₀) late data params
    fault := ?_
    release := fun h out => ⟨_, perform_releaseOutput out, fun l => Handle.isLive_release⟩
    noRelease := perform_releaseOutput_of_none
    bears := bears
    gone := ?_
    again := fun dead => perform_destroy_of_destroyed _ (destroyed.mpr dead) }
  · intro token data params admits
    generalize afterAll ds s₀ = s at order admits ⊢
    obtain ⟨e, r⟩ := s
    obtain ⟨locator, r', stored⟩ := admits.stored r data
    refine ⟨_, by rw [perform, admits.applyOutput_eq stored], locator, ?_, rfl,
      isLive_of_storeOutput stored order.numbered⟩
    -- The new output is listed as the entry is, and that was settled at the import.
    have kept : Numbered (e.withOutput (.held data locator) data (params.getD e.params), r') :=
      order.step (.output admits stored)
    exact kept.listed data locator rfl
  · intro f
    rw [perform_recordFault]
    exact if_congr isCurrent_iff rfl rfl
  -- A locator that was the entry's at some time is settled from then on: if it is live, it still is
  -- the entry's. But the entry has none any more.
  · rintro dead ds₁ ds₂ rfl l mem
    have before := fresh.run ds₁
    have own : Settles l (afterAll ds₁ s₀) := ⟨before.numbered l mem, fun _ => mem⟩
    have settled := own.run ds₂ before
    rw [← afterAll_append] at settled
    by_contra live
    have left := settled.settled (by simpa using live)
    rw [order.gone (destroyed.mpr dead)] at left
    simp at left

end Entry

end Reencode
