import Reencode.Proofs.Work.DecodeCache

/-!
# Calls of one cache that overlap

A call for the surface of an entry takes the lock of the cache to look the entry up and, if it finds
nothing, once more to commit what it decoded in between.  While it decodes, other calls may come
between, of the same entry too, and entries may be invalidated and their retirements ended.
`DecodeCache.Traffic` is a cache with all the calls that were ever made of it, and
`DecodeCache.Traffic.step` lets one of them go on.  A call that nobody comes between does what
`DecodeCache.getOrDecode` does (`DecodeCache.Traffic.steps_of_undisturbed`).

Each call brings the codec as it finds it, so that two calls of one entry may well decode different
surfaces.  What is asked of the codecs is that decoding comes to a surface or fails.

`DecodeCache.Traffic.Coherent` is what the calls can rely on.  Its parts about what is kept and
counted hold of every state that is reached (`Regular`).  That calls agree on a surface is a matter
of a stretch of moves from the commit that stored it (`Agreed`), and so is that an entry is decoded
once (`Thrifty`); each is kept by every move that does not invalidate the entry, and from there by
induction on the moves of the stretch.
-/

namespace Reencode

namespace DecodeCache

variable {S : Type}

/-- A call for the surface of an entry, with the codec as it is to this call. Decoding comes to a
surface, unless it fails. -/
structure Call (S : Type) where
  entry : EntryId
  source : ByteArray
  codec : Codec S
  solid : ∀ surface, (codec.decode source).result = .ok surface → surface ≠ none

/-- A call for which the codec makes a given number of whatever the bytes are. -/
def Call.numbered (id : EntryId) (n : Nat) : Call Nat where
  entry := id
  source := .empty
  codec := ⟨fun _ => .ok (some n), fun _ _ _ => .ok .nothing⟩
  solid := by rintro _ ⟨⟩; nofun

/-- How far a call has come: it found nothing, or decoded, or is done because it found a surface,
committed what it decoded and was given something for it, or failed with its decoding. -/
inductive Phase (S : Type) where
  | missed
  | decoded (surface : Option S)
  | hit (surface : S)
  | committed (made given : Option S)
  | failed (failure : Failure)

namespace Phase

/-- Whether a call has yet to decode. -/
def isMissed : Phase S → Bool
  | missed => true
  | _ => false

/-- Whether a call has yet to commit. -/
def isDecoded : Phase S → Bool
  | decoded _ => true
  | _ => false

/-- Whether a call has committed. -/
def isCommitted : Phase S → Bool
  | committed .. => true
  | _ => false

/-- What a call decoded, if it did so with success. -/
def made? : Phase S → Option (Option S)
  | decoded surface | committed surface _ => some surface
  | _ => none

/-- Whether a call has decoded with success. -/
def hasDecoded (phase : Phase S) : Bool := phase.made?.isSome

/-- What a call came to, if it is done. -/
def given? : Phase S → Option (Option S)
  | hit surface => some (some surface)
  | committed _ given => some given
  | _ => none

end Phase

/-- A cache with the calls that were ever made of it, oldest first, and how far they have come. -/
structure Traffic (S : Type) where
  cache : DecodeCache S
  calls : List (Call S × Phase S)

namespace Traffic

/-- What happens to a cache while its lock is held, or in a codec while it is not: a call begins and
looks its entry up, decodes or commits, an entry is invalidated, or its retirement is ended. -/
inductive Move (S : Type) where
  | call (c : Call S)
  | decode (k : Nat)
  | commit (k : Nat)
  | invalidate (id : EntryId)
  | releaseRetired (id : EntryId)

/-- Whether a move is a commit. -/
def Move.isCommit : Move S → Bool
  | .commit _ => true
  | _ => false

/-- A new cache, of which no call was made. -/
def start : Traffic S := ⟨.empty, []⟩

/-- What is left after a move; none if the call has nothing of the kind to do. -/
def step (t : Traffic S) : Move S → Option (Traffic S)
  | .call c =>
    let phase := match t.cache.lookup c.entry with
      | some surface => .hit surface
      | none => .missed
    some { t with calls := t.calls ++ [(c, phase)] }
  | .decode k =>
    match t.calls[k]? with
    | some (c, .missed) =>
      let phase := match (c.codec.decode c.source).result with
        | .ok surface => .decoded surface
        | .error failure => .failed failure
      some { t with calls := t.calls.set k (c, phase) }
    | _ => none
  | .commit k =>
    match t.calls[k]? with
    | some (c, .decoded made) =>
      let (given, cache) := t.cache.commit c.entry made
      some { cache, calls := t.calls.set k (c, .committed made given) }
    | _ => none
  | .invalidate id => some { t with cache := t.cache.invalidate id }
  | .releaseRetired id => some { t with cache := t.cache.releaseRetired id }

/-- What is left after one move after the other. -/
def steps (t : Traffic S) : List (Move S) → Option (Traffic S)
  | [] => some t
  | move :: rest => (t.step move).bind fun t => t.steps rest

/-- What a call came to, if it is done. -/
def answer (t : Traffic S) (k : Nat) : Option (Option S) := t.calls[k]?.bind fun p => p.2.given?

/-- How many calls of an entry have come to a phase of a kind. -/
def tally (t : Traffic S) (id : EntryId) (kind : Phase S → Bool) : Nat :=
  t.calls.countP fun p => decide (p.1.entry = id) && kind p.2

/-- How many calls of an entry are under way. -/
def underWay (t : Traffic S) (id : EntryId) : Nat :=
  t.tally id Phase.isMissed + t.tally id Phase.isDecoded

/-- How often the bytes of an entry were decoded with success. -/
def decodings (t : Traffic S) (id : EntryId) : Nat := t.tally id Phase.hasDecoded

/-- The calls of an entry do not overlap while the moves are made. -/
def Apart (t : Traffic S) (id : EntryId) (moves : List (Move S)) : Prop :=
  ∀ part t', part <+: moves → t.steps part = some t' → t'.underWay id ≤ 1

/-! ## A call that nobody comes between -/

section Undisturbed

variable (t : Traffic S) (c : Call S)

/-- A call that takes all its steps at once gives what asking the cache gives, and leaves the cache
that asking it leaves. -/
theorem steps_of_undisturbed :
    match (t.cache.getOrDecode c.codec c.entry c.source).result with
    | .ok (given, cache) => ∃ moves t', t.steps (.call c :: moves) = some t' ∧
        t'.answer t.calls.length = some given ∧ t'.cache = cache
    | .error failure => ∃ moves t', t.steps (.call c :: moves) = some t' ∧
        t'.calls = t.calls ++ [(c, .failed failure)] ∧ t'.cache = t.cache := by
  have last : ∀ phase phase' : Phase S,
      (t.calls ++ [(c, phase)]).set t.calls.length (c, phase') = t.calls ++ [(c, phase')] := by
    intro phase phase'
    rw [List.set_append_right _ _ (Nat.le_refl _), Nat.sub_self]
    rfl
  unfold getOrDecode
  -- A hit needs no further move; a failing decoding needs one, and a good one a commit besides.
  cases looked : t.cache.lookup c.entry with
  | some surface =>
    refine ⟨[], ⟨t.cache, t.calls ++ [(c, .hit surface)]⟩, ?_, ?_, rfl⟩
    · simp [steps, step, looked]
    · simp [answer, Phase.given?]
  | none =>
    cases decoded : (c.codec.decode c.source).result with
    | error failure =>
      simp only [Attempt.andThen, decoded]
      refine ⟨[.decode t.calls.length], ⟨t.cache, t.calls ++ [(c, .failed failure)]⟩, ?_,
        rfl, rfl⟩
      simp [steps, step, looked, decoded, last]
    | ok surface =>
      simp only [Attempt.andThen, decoded, Attempt.ok]
      refine ⟨[.decode t.calls.length, .commit t.calls.length],
        ⟨(t.cache.commit c.entry surface).2,
          t.calls ++ [(c, .committed surface (t.cache.commit c.entry surface).1)]⟩, ?_, ?_, rfl⟩
      · simp [steps, step, looked, decoded, last]
      · simp [answer, Phase.given?]

end Undisturbed

/-! ## What a move does -/

/-- What a move may do. -/
inductive Moved (t : Traffic S) : Move S → Traffic S → Prop
  | hit {c : Call S} {surface : S} (found : t.cache.lookup c.entry = some surface) :
      Moved t (.call c) { t with calls := t.calls ++ [(c, .hit surface)] }
  | missed {c : Call S} (absent : t.cache.lookup c.entry = none) :
      Moved t (.call c) { t with calls := t.calls ++ [(c, .missed)] }
  | decoded {k : Nat} {c : Call S} {surface : Option S} (found : t.calls[k]? = some (c, .missed))
      (made : (c.codec.decode c.source).result = .ok surface) :
      Moved t (.decode k) { t with calls := t.calls.set k (c, .decoded surface) }
  | failed {k : Nat} {c : Call S} {failure : Failure} (found : t.calls[k]? = some (c, .missed))
      (raised : (c.codec.decode c.source).result = .error failure) :
      Moved t (.decode k) { t with calls := t.calls.set k (c, .failed failure) }
  | committed {k : Nat} {c : Call S} {made : Option S}
      (found : t.calls[k]? = some (c, .decoded made)) :
      Moved t (.commit k) {
        cache := (t.cache.commit c.entry made).2
        calls := t.calls.set k (c, .committed made (t.cache.commit c.entry made).1) }
  | invalidated (id : EntryId) :
      Moved t (.invalidate id) { t with cache := t.cache.invalidate id }
  | released (id : EntryId) :
      Moved t (.releaseRetired id) { t with cache := t.cache.releaseRetired id }

variable {t t' : Traffic S} {move : Move S} {moves : List (Move S)} {id : EntryId}

lemma moved_of_step (moves : t.step move = some t') : t.Moved move t' := by
  cases move with
  | call c =>
    cases moves
    split
    · rename_i found
      exact .hit found
    · rename_i absent
      exact .missed absent
  | decode k =>
    simp only [step] at moves
    split at moves
    · rename_i c found
      cases moves
      split
      · rename_i made
        exact .decoded found made
      · rename_i raised
        exact .failed found raised
    · cases moves
  | commit k =>
    simp only [step] at moves
    split at moves
    · rename_i c made found
      cases moves
      exact .committed found
    · cases moves
  | invalidate id =>
    cases moves
    exact .invalidated id
  | releaseRetired id =>
    cases moves
    exact .released id

/-! ## Counting calls -/

lemma tally_append (t : Traffic S) (c : Call S) (phase : Phase S) (id : EntryId)
    (kind : Phase S → Bool) :
    Traffic.tally ⟨t.cache, t.calls ++ [(c, phase)]⟩ id kind =
      t.tally id kind + if c.entry = id ∧ kind phase = true then 1 else 0 := by
  simp [tally, List.countP_append, List.countP_singleton]

/-- A call that goes on is one less of the kind that it was, and one more of the kind that it has
become. -/
lemma tally_set {k : Nat} {c : Call S} {phase : Phase S} (found : t.calls[k]? = some (c, phase))
    (phase' : Phase S) (cache : DecodeCache S) (id : EntryId) (kind : Phase S → Bool) :
    Traffic.tally ⟨cache, t.calls.set k (c, phase')⟩ id kind +
        (if c.entry = id ∧ kind phase = true then 1 else 0) =
      t.tally id kind + if c.entry = id ∧ kind phase' = true then 1 else 0 := by
  simpa [tally] using Lookup.countP_set_add found (c, phase')
    fun p => decide (p.1.entry = id) && kind p.2

lemma tally_set_of_ne {k : Nat} {c : Call S} {phase : Phase S}
    (found : t.calls[k]? = some (c, phase)) (other : c.entry ≠ id) (phase' : Phase S)
    (cache : DecodeCache S) (kind : Phase S → Bool) :
    Traffic.tally ⟨cache, t.calls.set k (c, phase')⟩ id kind = t.tally id kind := by
  simpa [other] using tally_set found phase' cache id kind

lemma tally_set_own {k : Nat} {c : Call S} {phase : Phase S}
    (found : t.calls[k]? = some (c, phase)) (phase' : Phase S) (cache : DecodeCache S)
    (kind : Phase S → Bool) :
    Traffic.tally ⟨cache, t.calls.set k (c, phase')⟩ c.entry kind + (kind phase).toNat =
      t.tally c.entry kind + (kind phase').toNat := by
  have count := tally_set found phase' cache c.entry kind
  cases before : kind phase <;> cases after : kind phase' <;>
    simpa [before, after] using count

/-! ## What is cached and counted -/

/-- What holds of every state that is reached: no entry is cached and retired, nothing but surfaces
is cached, what a call decoded is what its codec makes of its bytes, and the commits were counted.
-/
structure Regular (t : Traffic S) : Prop where
  apart : ∀ p ∈ t.cache.surfaces, p.1 ∉ t.cache.retired
  solid : ∀ p ∈ t.cache.surfaces, p.2 ≠ none
  made : ∀ p ∈ t.calls, ∀ surface, p.2.made? = some surface →
    (p.1.codec.decode p.1.source).result = .ok surface
  counted : t.cache.decodes = t.calls.countP fun p => p.2.isCommitted

namespace Regular

lemma start : (Traffic.start : Traffic S).Regular where
  apart _ mem := nomatch mem
  solid _ mem := nomatch mem
  made _ mem := nomatch mem
  counted := rfl

/-- A call that begins has neither decoded nor committed. -/
lemma begun (h : t.Regular) (c : Call S) {phase : Phase S} (early : phase.made? = none)
    (uncommitted : phase.isCommitted = false) :
    Regular { t with calls := t.calls ++ [(c, phase)] } where
  apart := h.apart
  solid := h.solid
  made p mem surface made := by
    rcases List.mem_append.mp mem with old | new
    · exact h.made p old surface made
    · obtain rfl := List.mem_singleton.mp new
      exact nomatch early.symm.trans made
  counted := by simp [h.counted, uncommitted]

/-- A call that goes on without the cache does not commit. -/
lemma wentOn (h : t.Regular) {k : Nat} {c : Call S} (found : t.calls[k]? = some (c, .missed))
    {phase : Phase S} (made : ∀ surface, phase.made? = some surface →
      (c.codec.decode c.source).result = .ok surface) (uncommitted : phase.isCommitted = false) :
    Regular { t with calls := t.calls.set k (c, phase) } where
  apart := h.apart
  solid := h.solid
  made p mem surface own := by
    rcases List.mem_or_eq_of_mem_set mem with old | rfl
    · exact h.made p old surface own
    · exact made surface own
  counted := by
    have count := Lookup.countP_set_add found (c, phase) fun p => p.2.isCommitted
    have before : (Phase.missed : Phase S).isCommitted = false := rfl
    simp only [before, uncommitted, Bool.false_eq_true, if_false, Nat.add_zero] at count
    exact h.counted.trans count.symm

lemma solid_of_decoded (h : t.Regular) {k : Nat} {c : Call S} {made : Option S}
    (found : t.calls[k]? = some (c, .decoded made)) : made ≠ none :=
  c.solid made (h.made _ (List.mem_of_getElem? found) made rfl)

lemma committed (h : t.Regular) {k : Nat} {c : Call S} {made : Option S}
    (found : t.calls[k]? = some (c, .decoded made)) :
    Regular {
      cache := (t.cache.commit c.entry made).2
      calls := t.calls.set k (c, .committed made (t.cache.commit c.entry made).1) } where
  apart p mem := by
    rw [retired_commit]
    rcases mem_surfaces_commit mem with old | ⟨rfl, free⟩
    · exact h.apart p old
    · exact free
  solid p mem := by
    rcases mem_surfaces_commit mem with old | ⟨rfl, -⟩
    · exact h.solid p old
    · exact h.solid_of_decoded found
  made p mem surface own := by
    -- The committed phase keeps what was decoded, so the new pair owes its claim to the old one.
    rcases List.mem_or_eq_of_mem_set mem with old | rfl
    · exact h.made p old surface own
    · exact h.made _ (List.mem_of_getElem? found) surface own
  counted := by
    have count := Lookup.countP_set_add found
      (c, .committed made (t.cache.commit c.entry made).1) fun p => p.2.isCommitted
    have before : (Phase.decoded made).isCommitted = false := rfl
    have after (given : Option S) : (Phase.committed made given).isCommitted = true := rfl
    simp only [before, after, Bool.false_eq_true, if_false, if_true, Nat.add_zero] at count
    rw [decodes_commit, h.counted, ← count]

lemma step (h : t.Regular) (moved : t.Moved move t') : t'.Regular := by
  cases moved with
  | hit | missed => exact h.begun _ rfl rfl
  | decoded found made => exact h.wentOn found (by rintro _ ⟨⟩; exact made) rfl
  | failed found => exact h.wentOn found (by rintro _ ⟨⟩) rfl
  | committed found => exact h.committed found
  | invalidated id =>
    refine ⟨fun p mem => ?_, fun p mem => h.solid p (mem_surfaces_invalidate.mp mem).1, h.made,
      h.counted⟩
    obtain ⟨old, other⟩ := mem_surfaces_invalidate.mp mem
    exact fun retired => (mem_retired_invalidate.mp retired).elim other (h.apart p old)
  | released id =>
    exact ⟨fun p mem retired => h.apart p mem (mem_retired_releaseRetired.mp retired).1, h.solid,
      h.made, h.counted⟩

lemma steps (h : t.Regular) (went : t.steps moves = some t') : t'.Regular := by
  induction moves generalizing t with
  | nil =>
    cases went
    exact h
  | cons move rest ih =>
    obtain ⟨t₁, first, later⟩ := Option.bind_eq_some_iff.mp went
    exact ih (h.step (moved_of_step first)) later

lemma free_of_lookup (h : t.Regular) {surface : S} (found : t.cache.lookup id = some surface) :
    id ∉ t.cache.retired :=
  h.apart _ (mem_of_lookup (lookup_eq_some_iff.mp found))

end Regular

/-! ## Agreeing on a surface -/

/-- A surface is found for an entry, and was given to all calls of the entry that have come to an
end since an earlier state. -/
structure Agreed (id : EntryId) (surface : S) (old t : Traffic S) : Prop where
  kept : t.cache.lookup id = some surface
  given : ∀ {k c phase given}, t.calls[k]? = some (c, phase) → c.entry = id →
    phase.given? = some given → old.answer k = none → given = some surface

namespace Agreed

variable {surface : S} {old : Traffic S}

lemma begun (h : Agreed id surface old t) {c : Call S} {phase : Phase S}
    (said : c.entry = id → ∀ given, phase.given? = some given → given = some surface) :
    Agreed id surface old { t with calls := t.calls ++ [(c, phase)] } where
  kept := h.kept
  given {k c' phase' given} here own done new := by
    rcases Lookup.eq_or_of_getElem?_concat here with ⟨-, same⟩ | before
    · obtain ⟨rfl, rfl⟩ := Prod.mk.inj same
      exact said own given done
    · exact h.given before own done new

lemma wentOn (h : Agreed id surface old t) {cache : DecodeCache S} {k : Nat} {c : Call S}
    {phase : Phase S} (kept : cache.lookup id = some surface)
    (said : c.entry = id → ∀ given, phase.given? = some given → given = some surface) :
    Agreed id surface old ⟨cache, t.calls.set k (c, phase)⟩ where
  kept := kept
  given {i c' phase' given} here own done new := by
    rcases Lookup.eq_or_of_getElem?_set here with ⟨-, same⟩ | before
    · obtain ⟨rfl, rfl⟩ := Prod.mk.inj same
      exact said own given done
    · exact h.given before own done new

lemma step (h : Agreed id surface old t) (regular : t.Regular) (moved : t.Moved move t')
    (spared : move ≠ .invalidate id) : Agreed id surface old t' := by
  -- Only invalidating the entry itself could break the agreement: a commit that finds the surface
  -- there gives that one.
  cases moved with
  | hit found =>
    refine h.begun ?_
    rintro rfl _ ⟨⟩
    exact found.symm.trans h.kept
  | missed => exact h.begun fun _ _ done => nomatch done
  | decoded | failed => exact h.wentOn h.kept fun _ _ done => nomatch done
  | committed =>
    refine h.wentOn (lookup_commit_of_some h.kept _ _) ?_
    rintro rfl _ ⟨⟩
    exact commit_of_lookup (regular.free_of_lookup h.kept) h.kept _
  | invalidated other =>
    have apart : id ≠ other := fun same => spared (same ▸ rfl)
    exact ⟨(lookup_invalidate_of_ne apart).trans h.kept, h.given⟩
  | released => exact ⟨h.kept, h.given⟩

lemma steps (h : Agreed id surface old t) (regular : t.Regular) (went : t.steps moves = some t')
    (spared : .invalidate id ∉ moves) : Agreed id surface old t' := by
  induction moves generalizing t with
  | nil =>
    cases went
    exact h
  | cons move rest ih =>
    obtain ⟨t₁, first, later⟩ := Option.bind_eq_some_iff.mp went
    have moved := moved_of_step first
    exact ih (h.step regular moved fun same => spared (same ▸ List.mem_cons_self))
      (regular.step moved) later fun mem => spared (List.mem_cons_of_mem _ mem)

/-- A commit that stores a surface is the first to agree on it. -/
lemma of_commit (regular : t.Regular) {k : Nat} (moved : t.Moved (.commit k) t')
    (absent : t.cache.contains id = false) (present : t'.cache.contains id = true) :
    ∃ c surface, t.calls[k]? = some (c, .decoded (some surface)) ∧ c.entry = id ∧
      Agreed id surface t t' := by
  cases moved with
  | @committed _ c made found =>
    obtain ⟨surface, rfl⟩ := Option.ne_none_iff_exists'.mp (regular.solid_of_decoded found)
    -- The entry was absent and is now there, so of the three ends of a commit only storing is left.
    have stored : c.entry = id ∧ (t.cache.commit c.entry (some surface)).1 = some surface ∧
        (t.cache.commit c.entry (some surface)).2.lookup c.entry = some surface := by
      generalize result : t.cache.commit c.entry (some surface) = result' at present ⊢
      cases result ▸ t.cache.committed_commit c.entry (some surface) with
      | barred | beaten => exact nomatch absent.symm.trans present -- Nothing was stored.
      | stored free new =>
        refine ⟨?_, rfl, by simp [lookup, List.lookup_append, new]⟩
        obtain ⟨p, mem, rfl⟩ := List.mem_map.mp (Lookup.isSome_lookup_iff.mp present)
        rcases List.mem_append.mp mem with old | new
        · exact absurd rfl (contains_eq_false_iff.mp absent p old)
        · rw [List.mem_singleton.mp new]
    obtain ⟨rfl, given, there⟩ := stored
    refine ⟨c, surface, found, rfl, there, fun {i c' phase given'} here _ done new => ?_⟩
    -- A call that is answered now and was not before can only be the one that committed.
    rcases Lookup.eq_or_of_getElem?_set here with ⟨-, same⟩ | before
    · obtain ⟨rfl, rfl⟩ := Prod.mk.inj same
      exact (Option.some.inj done).symm.trans given
    · simp [answer, before, done] at new

end Agreed

/-! ## Decoding once -/

/-- No call of an entry is about to decode, for its surface is cached, or about to be. -/
structure Supplied (id : EntryId) (t : Traffic S) : Prop where
  idle : t.tally id Phase.isMissed = 0
  there : (t.cache.lookup id).isSome = true ∨ 0 < t.tally id Phase.isDecoded

/-- Since the bytes of an entry had been decoded so many times, they were decoded once at most, and
not without need. -/
structure Thrifty (id : EntryId) (n : Nat) (t : Traffic S) : Prop where
  free : id ∉ t.cache.retired
  once : t.decodings id = n ∨ t.decodings id = n + 1 ∧ t.Supplied id

namespace Thrifty

variable {n : Nat}

/-- Whatever leaves the calls of the entry as they are keeps the entry from being decoded again, as
long as its surface stays. -/
lemma congr (h : Thrifty id n t) (free : id ∉ t'.cache.retired)
    (found : (t.cache.lookup id).isSome = true → (t'.cache.lookup id).isSome = true)
    (missed : t'.tally id Phase.isMissed = t.tally id Phase.isMissed)
    (decoded : t'.tally id Phase.isDecoded = t.tally id Phase.isDecoded)
    (made : t'.decodings id = t.decodings id) : Thrifty id n t' where
  free := free
  once := by
    rw [made]
    refine h.once.imp_right fun ⟨one, supplied⟩ => ⟨one, missed.trans supplied.idle, ?_⟩
    rw [decoded]
    exact supplied.there.imp_left found

/-- A call that looks up in vain comes before any decoding, or it would not be alone. -/
lemma missed (h : Thrifty id n t) {c : Call S} (absent : t.cache.lookup c.entry = none)
    (alone : Traffic.underWay ⟨t.cache, t.calls ++ [(c, .missed)]⟩ id ≤ 1) :
    Thrifty id n { t with calls := t.calls ++ [(c, .missed)] } := by
  have count := t.tally_append c .missed id
  have waits : (Phase.missed : Phase S).isMissed = true := rfl
  have fresh : (Phase.missed : Phase S).isDecoded = false := rfl
  have early : (Phase.missed : Phase S).hasDecoded = false := rfl
  have made : Traffic.decodings ⟨t.cache, t.calls ++ [(c, .missed)]⟩ id = t.decodings id := by
    simp [decodings, count, early]
  by_cases own : c.entry = id
  · refine ⟨h.free, .inl ?_⟩
    rcases h.once with none | ⟨-, -, there | there⟩
    · exact made.trans none
    · rw [← own, absent] at there
      cases there
    · -- One call of the entry has yet to commit, and this one would be another.
      simp only [underWay, count, own, waits, fresh, true_and, and_false, if_true,
        Bool.false_eq_true, if_false] at alone
      omega
  · exact h.congr h.free (fun found => found) (by simp [count, own]) (by simp [count, own]) made

/-- A call decodes only if none has decoded before. -/
lemma decoded (h : Thrifty id n t) {k : Nat} {c : Call S} {surface : Option S}
    (found : t.calls[k]? = some (c, .missed)) (alone : t.underWay id ≤ 1) :
    Thrifty id n { t with calls := t.calls.set k (c, .decoded surface) } := by
  by_cases own : c.entry = id
  · subst own
    refine ⟨h.free, ?_⟩
    have count := tally_set_own found (.decoded surface) t.cache
    have waiting : _ + 1 = t.tally c.entry Phase.isMissed := count Phase.isMissed
    have fresh : _ + 0 = t.tally c.entry Phase.isDecoded + 1 := count Phase.isDecoded
    have made : decodings _ c.entry = t.decodings c.entry + 1 := count Phase.hasDecoded
    unfold underWay at alone
    -- If the bytes had been decoded before, no call would be waiting to do so.
    rcases h.once with none | ⟨-, idle, -⟩
    · exact .inr ⟨by omega, by omega, .inr (by omega)⟩
    · omega
  · have count := tally_set_of_ne found own (.decoded surface) t.cache
    exact h.congr h.free (fun found => found) (count _) (count _) (count _)

/-- A call that fails to decode leaves the decoding to others. -/
lemma failed (h : Thrifty id n t) {k : Nat} {c : Call S} {failure : Failure}
    (found : t.calls[k]? = some (c, .missed)) :
    Thrifty id n { t with calls := t.calls.set k (c, .failed failure) } := by
  by_cases own : c.entry = id
  · subst own
    refine ⟨h.free, ?_⟩
    have count := tally_set_own found (.failed failure) t.cache
    have waiting : _ + 1 = t.tally c.entry Phase.isMissed := count Phase.isMissed
    have made : decodings _ c.entry = t.decodings c.entry := count Phase.hasDecoded
    rcases h.once with none | ⟨-, idle, -⟩
    · exact .inl (made.trans none)
    · omega
  · have count := tally_set_of_ne found own (.failed failure) t.cache
    exact h.congr h.free (fun found => found) (count _) (count _) (count _)

/-- What a call commits is found from then on. -/
lemma committed (h : Thrifty id n t) (regular : t.Regular) {k : Nat} {c : Call S}
    {surface : Option S} (found : t.calls[k]? = some (c, .decoded surface)) :
    Thrifty id n {
      cache := (t.cache.commit c.entry surface).2
      calls := t.calls.set k (c, .committed surface (t.cache.commit c.entry surface).1) } := by
  have free : id ∉ (t.cache.commit c.entry surface).2.retired :=
    (t.cache.retired_commit c.entry surface).symm ▸ h.free
  by_cases own : c.entry = id
  -- A commit decodes nothing, and afterwards the entry is found: from now on no call will miss it.
  · subst own
    have count := tally_set_own found (.committed surface (t.cache.commit c.entry surface).1)
      (t.cache.commit c.entry surface).2
    have waiting : _ = t.tally c.entry Phase.isMissed := count Phase.isMissed
    have made : decodings _ c.entry = t.decodings c.entry :=
      Nat.add_right_cancel (count Phase.hasDecoded)
    obtain ⟨kept, -, there⟩ :=
      lookup_commit_of_free h.free regular.solid (regular.solid_of_decoded found)
    refine ⟨free, h.once.imp made.trans fun ⟨one, supplied⟩ => ?_⟩
    exact ⟨made.trans one, waiting.trans supplied.idle, .inl (by simp [there])⟩
  · have count := tally_set_of_ne found own
      (.committed surface (t.cache.commit c.entry surface).1) (t.cache.commit c.entry surface).2
    refine h.congr free (fun there => ?_) (count _) (count _) (count _)
    obtain ⟨kept, there⟩ := Option.isSome_iff_exists.mp there
    simp [lookup_commit_of_some there]

lemma step (h : Thrifty id n t) (regular : t.Regular) (moved : t.Moved move t')
    (spared : move ≠ .invalidate id) (alone : t.underWay id ≤ 1) (alone' : t'.underWay id ≤ 1) :
    Thrifty id n t' := by
  cases moved with
  | @hit c surface found =>
    have count := t.tally_append c (.hit surface) id
    have idle : (Phase.hit surface).isMissed = false := rfl
    have past : (Phase.hit surface).isDecoded = false := rfl
    have spared : (Phase.hit surface).hasDecoded = false := rfl
    exact h.congr h.free (fun found => found) (by simp [count, idle]) (by simp [count, past])
      (by simp [decodings, count, spared])
  | missed absent => exact h.missed absent alone'
  | decoded found => exact h.decoded found alone
  | failed found => exact h.failed found
  | committed found => exact h.committed regular found
  -- Invalidating or releasing another entry leaves the calls and the surface of this one as they
  -- are.
  | invalidated other =>
    have apart : id ≠ other := fun same => spared (same ▸ rfl)
    refine h.congr (fun retired => ?_) (fun found => ?_) rfl rfl rfl
    · exact (mem_retired_invalidate.mp retired).elim apart h.free
    · rwa [lookup_invalidate_of_ne apart]
  | released =>
    exact h.congr (fun retired => h.free (mem_retired_releaseRetired.mp retired).1)
      (fun found => found) rfl rfl rfl

lemma steps (h : Thrifty id n t) (regular : t.Regular) (went : t.steps moves = some t')
    (spared : .invalidate id ∉ moves) (apart : t.Apart id moves) : Thrifty id n t' := by
  induction moves generalizing t with
  | nil =>
    cases went
    exact h
  | cons move rest ih =>
    obtain ⟨t₁, first, later⟩ := Option.bind_eq_some_iff.mp went
    have moved := moved_of_step first
    -- That calls do not overlap is asked of every state on the way, so of this one and of the next.
    have alone : t.underWay id ≤ 1 := apart [] t List.nil_prefix rfl
    have onward : t₁.Apart id rest := fun part t₂ start went₂ =>
      apart (move :: part) t₂ (List.cons_prefix_cons.mpr ⟨rfl, start⟩)
        (Option.bind_eq_some_iff.mpr ⟨t₁, first, went₂⟩)
    have alone' : t₁.underWay id ≤ 1 := onward [] t₁ List.nil_prefix rfl
    exact ih (h.step regular moved (fun same => spared (same ▸ List.mem_cons_self)) alone alone')
      (regular.step moved) later (fun mem => spared (List.mem_cons_of_mem _ mem)) onward

end Thrifty

/-! ## What the calls can rely on -/

/-- What holds of a cache and its calls, however the calls overlap. No entry is cached and retired
at a time. A commit that stores a surface stores what its call decoded; that surface is found until
the entry is invalidated, and it is given to every call of the entry that finds one or commits
meanwhile, this one included. While an entry is neither invalidated nor retired, and its calls do
not overlap, it is decoded once at most. What was decoded with success is what the codec made of the
bytes. A commit counts one decoding, nothing else counts, and only those that have yet to commit are
uncounted. A call whose decoding fails fails with it, and leaves the cache as it is. -/
structure Coherent (t : Traffic S) : Prop where
  apart : ∀ {id}, t.cache.contains id = true → id ∉ t.cache.retired
  agreed : ∀ {k t₁ id}, t.step (.commit k) = some t₁ → t.cache.contains id = false →
    t₁.cache.contains id = true →
      ∃ c surface, t.calls[k]? = some (c, .decoded (some surface)) ∧ c.entry = id ∧
        ∀ {moves t₂}, t₁.steps moves = some t₂ → .invalidate id ∉ moves →
          Agreed id surface t t₂
  once : ∀ {moves t' id}, t.steps moves = some t' → .invalidate id ∉ moves →
    id ∉ t.cache.retired → t.Apart id moves → t'.decodings id ≤ t.decodings id + 1
  made : ∀ p ∈ t.calls, ∀ surface, p.2.made? = some surface →
    (p.1.codec.decode p.1.source).result = .ok surface
  counted : t.cache.decodes + (t.calls.countP fun p => p.2.isDecoded) =
    t.calls.countP fun p => p.2.hasDecoded
  counting : ∀ {move t'}, t.step move = some t' →
    t'.cache.decodes = t.cache.decodes + move.isCommit.toNat
  harmless : ∀ {k c failure}, t.calls[k]? = some (c, .missed) →
    (c.codec.decode c.source).result = .error failure →
      t.step (.decode k) = some ⟨t.cache, t.calls.set k (c, .failed failure)⟩

lemma countP_hasDecoded (calls : List (Call S × Phase S)) :
    (calls.countP fun p => p.2.hasDecoded) =
      (calls.countP fun p => p.2.isCommitted) + calls.countP fun p => p.2.isDecoded := by
  induction calls with
  | nil => rfl
  | cons p rest ih =>
    obtain ⟨c, phase⟩ := p
    simp only [List.countP_cons, ih]
    cases phase <;> simp only [Phase.hasDecoded, Phase.made?, Phase.isCommitted, Phase.isDecoded,
      Option.isSome_some, Option.isSome_none, Bool.false_eq_true, if_true, if_false] <;> omega

lemma Moved.decodes_eq (moved : t.Moved move t') :
    t'.cache.decodes = t.cache.decodes + move.isCommit.toNat := by
  cases moved with
  | committed => exact decodes_commit ..
  | _ => rfl

/-- Calls of a cache that was new when the first of them began can rely on it, however they
overlap. -/
theorem overlapping_calls_agree (went : start.steps moves = some t) : t.Coherent := by
  have regular : t.Regular := Regular.start.steps went
  refine ⟨?apart, ?agreed, ?once, regular.made, ?counted, ?counting, ?harmless⟩
  case apart =>
    intro id there
    obtain ⟨p, mem, rfl⟩ := List.mem_map.mp (Lookup.isSome_lookup_iff.mp there)
    exact regular.apart p mem
  case agreed =>
    intro k t₁ id first absent present
    have moved := moved_of_step first
    obtain ⟨c, surface, found, own, agreed⟩ := Agreed.of_commit regular moved absent present
    exact ⟨c, surface, found, own, fun later spared =>
      agreed.steps (regular.step moved) later spared⟩
  case once =>
    intro moves t' id later spared free apart
    -- Counting starts here, where nothing was decoded yet beyond what is counted.
    have thrifty : Thrifty id (t.decodings id) t := ⟨free, .inl rfl⟩
    rcases (thrifty.steps regular later spared apart).once with none | ⟨one, -⟩ <;> omega
  case counted => rw [regular.counted, countP_hasDecoded]
  case counting =>
    intro move t' first
    exact (moved_of_step first).decodes_eq
  case harmless =>
    intro k c failure found raised
    simp only [step, found, raised]

/-- Two calls of an entry decode different surfaces, the later one commits first, and both are given
what it decoded. -/
theorem overlapping_calls_agree_of_two :
    let id : EntryId := .nth 1
    ∃ t t₁ t₂ : Traffic Nat, start.steps [.call (.numbered id 1), .call (.numbered id 2),
        .decode 0, .decode 1] = some t ∧ t.Coherent ∧
      t.step (.commit 1) = some t₁ ∧ t₁.step (.commit 0) = some t₂ ∧
      t₂.answer 1 = some (some 2) ∧ t₂.answer 0 = some (some 2) := by
  intro id
  obtain ⟨t, t₁, t₂, went, rest⟩ : ∃ t t₁ t₂ : Traffic Nat, start.steps
      [.call (.numbered id 1), .call (.numbered id 2), .decode 0, .decode 1] = some t ∧
      t.step (.commit 1) = some t₁ ∧ t₁.step (.commit 0) = some t₂ ∧
      t₂.answer 1 = some (some 2) ∧ t₂.answer 0 = some (some 2) :=
    ⟨_, _, _, rfl, rfl, rfl, rfl, rfl⟩
  exact ⟨t, t₁, t₂, went, overlapping_calls_agree went, rest⟩

end Traffic
end DecodeCache
end Reencode
