import Reencode.Proofs.Work.Rollback

/-!
# Schedulers with a cache in common

A cache may be made first and then be given to schedulers, one or several, which are to work on it.
`Workshop` is such a cache with the schedulers that were made with it.  A scheduler asks whether the
cache holds anything before it takes it, and leaves an empty one alone; `Station.shares` says which
of them work on the cache, so that what one of them does to it is there for the others.

What is done in a workshop is told in `Errand`s, one after the other: a scheduler is made, a job is
submitted, a job runs, an entry is forgotten.  For what becomes of the cache it matters what the
jobs that ran offer to it (`Errand.offers`): a job that finds nothing for its entry decodes its
source, and puts the surface there unless the entry is retired (`Job.lookup_run`).
-/

namespace Reencode

variable {S : Type}

/-! ## What a job does to the cache -/

/-- Surfaces are found in front of those that are added. -/
lemma DecodeCache.lookup_surfaces_commit (c : DecodeCache S) (id other : EntryId)
    (surface : Option S) : (c.commit id surface).2.surfaces.lookup other =
      (c.surfaces ++ if id ∈ c.retired then [] else [(id, surface)]).lookup other := by
  generalize made : c.commit id surface = made'
  cases made ▸ c.committed_commit id surface with
  | barred retired => simp [retired]
  | @beaten first free kept =>
    rw [if_neg free, List.lookup_append]
    by_cases mine : other = id
    · simp [mine, kept]
    · have differs : (other == id) = false := by simpa using mine
      simp [List.lookup_cons, differs]
  | stored free absent => simp [free]

namespace Job

variable {codec : Codec S} {j : Job} {c : DecodeCache S} {id : EntryId}

/-- What a job adds to a cache that has nothing for its entry, if its source can be decoded. -/
def offer (decode : ByteArray → Attempt (Option S)) (j : Job) : List (EntryId × Option S) :=
  match j.defect, (decode j.source).result with
  | .none, .ok surface => [(j.entry, surface)]
  | _, _ => []

lemma entry_of_mem_offer {decode : ByteArray → Attempt (Option S)} {p : EntryId × Option S}
    (mem : p ∈ j.offer decode) : p.1 = j.entry := by
  unfold offer at mem
  split at mem
  · rw [List.mem_singleton.mp mem]
  · cases mem

/-- What a job offers is not found for other entries. -/
lemma lookup_append_offer (table : List (EntryId × Option S))
    (decode : ByteArray → Attempt (Option S)) (other : id ≠ j.entry) :
    (table ++ j.offer decode).lookup id = table.lookup id := by
  have absent : (j.offer decode).lookup id = none := by
    refine List.lookup_eq_none_iff.mpr fun p mem => ?_
    simpa [entry_of_mem_offer mem] using other
  rw [List.lookup_append, absent, Option.or_none]

/-- A job whose entry has a surface in the cache encodes that one, and decodes nothing. -/
lemma run_of_lookup {kept : S} (sound : j.defect = .none) (found : c.lookup j.entry = some kept) :
    j.run codec c = j.encode codec (some kept) [] c .none := by
  simp [run, recode, DecodeCache.getOrDecode, sound, found, Attempt.ok, Usage.none]

lemma decodes_encode (surface : Option S) (records : List LogRecord) (usage : Usage) :
    (j.encode codec surface records c usage).usage.decodes = usage.decodes := by
  unfold encode
  dsimp only
  split
  · rfl
  · split <;> rfl

/-- What is found after a job ran is what was found before or, unless its entry is retired, what the
job offers. -/
lemma lookup_run (codec : Codec S) (j : Job) (c : DecodeCache S) (id : EntryId) :
    (j.run codec c).cache.surfaces.lookup id =
      (c.surfaces ++ if j.entry ∈ c.retired then [] else j.offer codec.decode).lookup id := by
  -- A surface that is found there already makes an offer come too late.
  have unchanged : j.offer codec.decode = [] ∨ (∃ kept : S, c.lookup j.entry = some kept) →
      c.surfaces.lookup id =
        (c.surfaces ++ if j.entry ∈ c.retired then [] else j.offer codec.decode).lookup id := by
    rintro (nothing | ⟨kept, found⟩)
    · simp [nothing]
    · split
      · rw [List.append_nil]
      · by_cases mine : id = j.entry
        · rw [mine, List.lookup_append, DecodeCache.lookup_eq_some_iff.mp found]
          rfl
        · exact (lookup_append_offer _ _ mine).symm
  cases defect : j.defect with
  | work | report => simpa [run, defect, failed] using unchanged (.inl (by simp [offer, defect]))
  | none =>
    cases found : c.lookup j.entry with
    | some kept =>
      rw [run_of_lookup defect found, encode_cache]
      exact unchanged (.inr ⟨kept, found⟩)
    | none =>
      cases decoded : (codec.decode j.source).result with
      | error failure =>
        have same : (j.run codec c).cache = c := by
          simp [run, recode, DecodeCache.getOrDecode, defect, found, Attempt.andThen, decoded,
            failed]
        rw [same]
        exact unchanged (.inl (by simp [offer, defect, decoded]))
      | ok surface =>
        have committed : (j.run codec c).cache = (c.commit j.entry surface).2 := by
          simp [run, recode, DecodeCache.getOrDecode, defect, found, Attempt.andThen, decoded,
            Attempt.ok, encode_cache]
        rw [committed, DecodeCache.lookup_surfaces_commit]
        simp [offer, defect, decoded]

end Job

/-- A scheduler after one of its pending jobs ran. -/
structure Scheduler.Worked (decode : ByteArray → Attempt (Option S)) (j : Job)
    (s s' : Scheduler S) : Prop where
  counted : s'.Counted
  pending : s'.pending ⊆ s.pending
  closed : s'.closed = s.closed
  executorShut : s'.executorShut = s.executorShut
  surfaces : ∀ id, s'.cache.surfaces.lookup id =
    (s.cache.surfaces ++ if j.entry ∈ s.cache.retired then [] else j.offer decode).lookup id
  retired : ∀ id, id ∈ s'.cache.retired ↔
    id ∈ s.cache.retired ∧ (id = j.entry → ∃ p ∈ s'.pending, p.2.entry = id)

lemma Scheduler.worked_runPending {codec : Codec S} {s : Scheduler S} {k : Nat} {j : Job}
    (counted : s.Counted) (found : s.pending.lookup k = some j) :
    Worked codec.decode j s (s.runPending codec k).2.1 := by
  rw [runPending_eq found]
  refine ⟨counted.settled found, ?_, closed_settled, executorShut_settled, fun id => ?_,
    fun id => ?_⟩
  · rw [pending_settled]
    exact List.filter_sublist.subset
  · rw [surfaces_settled, Job.lookup_run]
  · rw [mem_retired_settled, (j.run_grown codec s.cache).retired]
    refine and_congr_right fun _ => forall_congr' fun mine => ?_
    rw [(counted.settled found).isRunning_iff, mine]

/-! ## Workshops -/

/-- A scheduler that was made with a cache to work on. If it shares that cache, its own does not
matter; else its jobs decode with its codec too. -/
structure Station (S : Type) where
  codec : Codec S
  scheduler : Scheduler S
  shares : Bool

/-- A cache, what surfaces that are put into it are decoded with, and the schedulers that were made
with it, oldest first. -/
structure Workshop (S : Type) where
  decode : ByteArray → Attempt (Option S)
  cache : DecodeCache S
  stations : List (Station S)

/-- What was done in a workshop. -/
inductive Errand where
  | hired (shares : Bool)
  | submitted (i : Nat) (j : Job)
  | ran (i : Nat) (j : Job)
  | forgot (i : Nat) (id : EntryId)

namespace Workshop

/-- The scheduler of a station, with the cache it works on. -/
def scheduler (w : Workshop S) (st : Station S) : Scheduler S :=
  if st.shares then { st.scheduler with cache := w.cache } else st.scheduler

/-- The codec of a station, with the decoding of the cache it works on. -/
def codec (w : Workshop S) (st : Station S) : Codec S :=
  if st.shares then { st.codec with decode := w.decode } else st.codec

/-- The workshop after the scheduler of a station did something. -/
def put (w : Workshop S) (i : Nat) (st : Station S) (s : Scheduler S) : Workshop S :=
  { w with
    cache := if st.shares then s.cache else w.cache
    stations := w.stations.set i { st with scheduler := s } }

/-- What is done in a workshop.  A scheduler takes the cache only if that holds something. -/
inductive Step : Workshop S → List Errand → Workshop S → Prop
  | hire {w : Workshop S} {s : Scheduler S} (codec : Codec S) (workers : Int) (pace : Pace)
      (made : Scheduler.create workers pace w.cache = .ok s) :
      Step w [.hired (decide (w.cache.size ≠ 0))]
        { w with stations := w.stations ++ [⟨codec, s, decide (w.cache.size ≠ 0)⟩] }
  | submit {w : Workshop S} {i : Nat} {st : Station S} (there : w.stations[i]? = some st)
      (j : Job) :
      Step w (.submitted i j :: if st.scheduler.pace = .immediate then [.ran i j] else [])
        (w.put i st ((w.scheduler st).submit (w.codec st) j).2.1)
  | run {w : Workshop S} {i k : Nat} {st : Station S} {j : Job}
      (there : w.stations[i]? = some st) (waiting : st.scheduler.pending.lookup k = some j) :
      Step w [.ran i j] (w.put i st ((w.scheduler st).runPending (w.codec st) k).2.1)
  | forget {w : Workshop S} {i : Nat} {st : Station S} (there : w.stations[i]? = some st)
      (id : EntryId) : Step w [.forgot i id] (w.put i st ((w.scheduler st).forget id))

/-- A sequence of steps, and what was done in them. -/
inductive Steps (start : Workshop S) : List Errand → Workshop S → Prop
  | start : Steps start [] start
  | step {past now : List Errand} {w w' : Workshop S} :
      Steps start past w → Step w now w' → Steps start (past ++ now) w'

end Workshop

namespace Errand

/-- The scheduler that did it. -/
def station? : Errand → Option Nat
  | hired _ => none
  | submitted i _ | ran i _ | forgot i _ => some i

/-- What the jobs that ran offer to the cache. -/
def offers (decode : ByteArray → Attempt (Option S)) (past : List Errand) :
    List (EntryId × Option S) :=
  past.flatMap fun
    | ran _ j => j.offer decode
    | _ => []

/-- No job is submitted of an entry that was forgotten.  One that is retired in the cache that was
given had been forgotten before. -/
structure Orderly (given : DecodeCache S) (past : List Errand) : Prop where
  free : ∀ i j, submitted i j ∈ past → j.entry ∉ given.retired
  before : past.Pairwise fun e e' => ∀ i id i' j, e = forgot i id → e' = submitted i' j →
    j.entry ≠ id

/-- Only the scheduler that has the jobs of an entry forgets it. -/
def Owned (past : List Errand) (id : EntryId) : Prop :=
  ∀ i i' j, forgot i id ∈ past → submitted i' j ∈ past → j.entry = id → i' = i

variable {given : DecodeCache S} {past now : List Errand} {id : EntryId} {e : Errand}

lemma Orderly.of_append (h : Orderly given (past ++ now)) : Orderly given past :=
  ⟨fun i j mem => h.free i j (List.mem_append_left _ mem), (List.pairwise_append.mp h.before).1⟩

/-- The entry of a job that is submitted now was not forgotten. -/
lemma Orderly.not_forgotten {i i' : Nat} {j : Job} (h : Orderly given (past ++ [submitted i j])) :
    forgot i' j.entry ∉ past := fun mem =>
  (List.pairwise_append.mp h.before).2.2 _ mem _ List.mem_cons_self i' j.entry i j rfl rfl rfl

lemma Owned.of_append (h : Owned (past ++ now) id) : Owned past id := fun i i' j forgotten mem =>
  h i i' j (List.mem_append_left _ forgotten) (List.mem_append_left _ mem)

end Errand

namespace Workshop

variable {w : Workshop S} {i i' : Nat} {st : Station S} {s s' : Scheduler S} {id : EntryId}

/-! ## Stations -/

/-- Jobs of an entry are pending at a station. -/
def Waiting (w : Workshop S) (i : Nat) (id : EntryId) : Prop :=
  ∃ st, w.stations[i]? = some st ∧ ∃ p ∈ st.scheduler.pending, p.2.entry = id

lemma scheduler_of_shares (shares : st.shares = true) :
    w.scheduler st = { st.scheduler with cache := w.cache } := if_pos shares

lemma codec_of_shares (shares : st.shares = true) :
    w.codec st = { st.codec with decode := w.decode } := if_pos shares

lemma cache_put (shares : st.shares = true) : (w.put i st s).cache = s.cache := if_pos shares

lemma length_put : (w.put i st s).stations.length = w.stations.length := List.length_set

lemma scheduler_put (shares : st.shares = true) :
    (w.put i st s).scheduler { st with scheduler := s } = s := by
  simp [put, scheduler, shares]

lemma put_put (shares : st.shares = true) :
    (w.put i st s).put i { st with scheduler := s } s' = w.put i st s' := by
  simp [put, shares]

/-- What is pending after a scheduler did something is pending at its station, or was so at another
one before. -/
lemma waiting_put (there : w.stations[i]? = some st) (waiting : (w.put i st s).Waiting i' id) :
    (i' = i ∧ ∃ p ∈ s.pending, p.2.entry = id) ∨ i' ≠ i ∧ w.Waiting i' id := by
  obtain ⟨st', here, pending⟩ := waiting
  by_cases same : i' = i
  · subst same
    obtain ⟨bound, -⟩ := List.getElem?_eq_some_iff.mp there
    obtain rfl := Option.some.inj (here.symm.trans (List.getElem?_set_self bound))
    exact .inl ⟨rfl, pending⟩
  · have old : w.stations[i']? = some st' := by
      rw [← here]
      exact (List.getElem?_set_ne (Ne.symm same)).symm
    exact .inr ⟨same, st', old, pending⟩

end Workshop

end Reencode
