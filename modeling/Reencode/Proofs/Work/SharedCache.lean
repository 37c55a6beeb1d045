import Reencode.Proofs.Work.Workshop

/-!
# A cache given to schedulers

Schedulers that take the cache given to them work on it and on no other.  So the cache holds what it
held in the beginning and what their jobs decoded, without what was forgotten, and each job finds
there whatever the others put there (`Workshop.given_cache_is_worked_on`).

`Workshop.Followed` compares the cache with what was done: an entry that was not forgotten has in it
what it had in the cache that was given, or what a job of it decoded first; an entry that was
forgotten has nothing, and is retired while jobs of it are pending.  Running a job and forgetting an
entry are the two steps that change the cache.
-/

namespace Reencode

variable {S : Type}

/-! ## Following what is done -/

open Errand

/-- A scheduler that works on the cache given to it and was not closed, and whose pending jobs were
submitted to it. -/
structure Station.Regular (past : List Errand) (i : Nat) (st : Station S) : Prop where
  shares : st.shares = true
  counted : st.scheduler.Counted
  isOpen : st.scheduler.closed = false
  running : st.scheduler.executorShut = false
  submitted : ∀ p ∈ st.scheduler.pending, submitted i p.2 ∈ past

lemma Station.Regular.mono {past : List Errand} {i : Nat} {st : Station S}
    (h : st.Regular past i) (now : List Errand) : st.Regular (past ++ now) i :=
  { h with submitted := fun p mem => List.mem_append_left _ (h.submitted p mem) }

namespace Workshop

/-- A workshop, compared with all that was done in it. For an entry that was not forgotten there is
what was given or the first offer, and it is retired only if it was so in the beginning. There is
nothing for an entry that was forgotten by the scheduler that has its jobs, and it is retired while
some of them are pending. -/
structure Followed (given : DecodeCache S) (decode : ByteArray → Attempt (Option S))
    (past : List Errand) (w : Workshop S) : Prop where
  decodes : w.decode = decode
  regular : ∀ (i : Nat) (st : Station S), w.stations[i]? = some st → st.Regular past i
  kept : ∀ id, (∀ i, forgot i id ∉ past) →
    w.cache.surfaces.lookup id = (given.surfaces ++ offers decode past).lookup id ∧
      (id ∈ w.cache.retired → id ∈ given.retired)
  gone : ∀ id, (∃ i, forgot i id ∈ past) → Owned past id →
    w.cache.surfaces.lookup id = none ∧ ∀ i, w.Waiting i id → id ∈ w.cache.retired

variable {given : DecodeCache S} {decode : ByteArray → Attempt (Option S)} {past : List Errand}
  {w w' : Workshop S} {i i' k : Nat} {st : Station S} {j : Job} {id : EntryId} {s : Scheduler S}
  {e : Errand}

namespace Followed

lemma start : (Workshop.mk decode given []).Followed given decode [] where
  decodes := rfl
  regular := by simp
  kept id _ := ⟨by simp [offers], fun mem => mem⟩
  gone id forgotten := by simp at forgotten

/-- A pending job was submitted. -/
lemma submitted_of_waiting (h : w.Followed given decode past) (waiting : w.Waiting i id) :
    ∃ j, .submitted i j ∈ past ∧ j.entry = id := by
  obtain ⟨st, there, p, mem, mine⟩ := waiting
  exact ⟨p.2, (h.regular i st there).submitted p mem, mine⟩

lemma regular_put (h : w.Followed given decode past)
    (regular : Station.Regular (past ++ [e]) i { st with scheduler := s }) :
    ∀ (i' : Nat) (st' : Station S), (w.put i st s).stations[i']? = some st' →
      st'.Regular (past ++ [e]) i' := by
  intro i' st' there
  rcases Lookup.eq_or_of_getElem?_set there with ⟨rfl, rfl⟩ | old
  · exact regular
  · exact (h.regular i' st' old).mono [e]

/-- A scheduler that takes the cache has no jobs yet. -/
lemma hired (h : w.Followed given decode past) {workers : Int} {pace : Pace}
    (made : Scheduler.create workers pace w.cache = .ok s) (codec : Codec S) :
    Workshop.Followed given decode (past ++ [.hired true])
      { w with stations := w.stations ++ [⟨codec, s, true⟩] } := by
  obtain ⟨cache, rfl⟩ : ∃ cache, s = .initial workers pace cache := by
    unfold Scheduler.create at made
    split at made
    · cases made
    · exact ⟨_, (Except.ok.inj made).symm⟩
  refine ⟨h.decodes, fun i st here => ?_, fun id stays => ?_, fun id forgotten owned => ?_⟩
  -- The new station is the last one, and has no job that could be waiting.
  · rcases Lookup.eq_or_of_getElem?_concat here with ⟨rfl, rfl⟩ | old
    · exact ⟨rfl, .initial workers pace cache, rfl, rfl, by simp [Scheduler.initial]⟩
    · exact (h.regular i st old).mono _
  · obtain ⟨found, free⟩ := h.kept id fun i mem => stays i (List.mem_append_left _ mem)
    exact ⟨by simpa [offers] using found, free⟩
  · obtain ⟨absent, retired⟩ := h.gone id (by simpa using forgotten) owned.of_append
    refine ⟨absent, ?_⟩
    rintro i ⟨st, here, p, mem, mine⟩
    rcases Lookup.eq_or_of_getElem?_concat here with ⟨rfl, rfl⟩ | old
    · simp [Scheduler.initial] at mem
    · exact retired i ⟨st, old, p, mem, mine⟩

/-- A job waits behind the others. -/
lemma submitted (h : w.Followed given decode past) (there : w.stations[i]? = some st)
    (orderly : Orderly given (past ++ [.submitted i j])) :
    (w.put i st ((w.scheduler st).queued j)).Followed given decode (past ++ [.submitted i j]) := by
  have regular := h.regular i st there
  rw [scheduler_of_shares regular.shares]
  generalize same : ({ st.scheduler with cache := w.cache } : Scheduler S) = s
  have pending : (s.queued j).pending = st.scheduler.pending ++ [(s.accepted + 1, j)] := by
    rw [← same]
    rfl
  have cache : (w.put i st (s.queued j)).cache = w.cache := by
    rw [cache_put regular.shares, ← same]
    rfl
  have counted : s.Counted := same ▸ regular.counted.congr rfl rfl rfl
  -- Submitting leaves the cache alone; orderliness is what keeps the job from being of a forgotten
  -- entry.
  refine ⟨h.decodes, h.regular_put ?_, fun id stays => ?_, fun id forgotten owned => ?_⟩
  · refine ⟨regular.shares, counted.queued j, ?_, ?_, fun p mem => ?_⟩
    · exact same ▸ regular.isOpen
    · exact same ▸ regular.running
    · rw [pending] at mem
      rcases List.mem_append.mp mem with old | new
      · exact List.mem_append_left _ (regular.submitted p old)
      · simp [List.mem_singleton.mp new]
  · obtain ⟨found, free⟩ := h.kept id fun i mem => stays i (List.mem_append_left _ mem)
    rw [cache]
    exact ⟨by simpa [offers] using found, free⟩
  · have forgotten : ∃ i, forgot i id ∈ past := by simpa using forgotten
    obtain ⟨absent, retired⟩ := h.gone id forgotten owned.of_append
    rw [cache]
    refine ⟨absent, fun i' waiting => ?_⟩
    rcases waiting_put there waiting with ⟨-, p, mem, mine⟩ | ⟨-, old⟩
    · rw [pending] at mem
      rcases List.mem_append.mp mem with old | new
      · exact retired i ⟨st, there, p, old, mine⟩
      · obtain rfl := List.mem_singleton.mp new
        obtain ⟨who, mem⟩ := forgotten
        exact absurd (mine ▸ mem) orderly.not_forgotten
    · exact retired i' old

/-- A job ran on the cache. -/
lemma ran (h : w.Followed given decode past) (there : w.stations[i]? = some st)
    (waiting : ∃ p ∈ st.scheduler.pending, p.2 = j) (orderly : Orderly given past)
    (worked : Scheduler.Worked decode j (w.scheduler st) s) :
    (w.put i st s).Followed given decode (past ++ [.ran i j]) := by
  have regular := h.regular i st there
  rw [scheduler_of_shares regular.shares] at worked
  obtain ⟨p, mem, rfl⟩ := waiting
  have asked : .submitted i p.2 ∈ past := regular.submitted p mem
  have more : offers decode (past ++ [.ran i p.2]) = offers decode past ++ p.2.offer decode := by
    simp [offers]
  refine ⟨h.decodes, h.regular_put ?_, fun id stays => ?_, fun id forgotten owned => ?_⟩
  · exact ⟨regular.shares, worked.counted, worked.closed.trans regular.isOpen,
      worked.executorShut.trans regular.running,
      fun p mem => List.mem_append_left _ (regular.submitted p (worked.pending mem))⟩
  · obtain ⟨found, free⟩ := h.kept id fun i mem => stays i (List.mem_append_left _ mem)
    rw [cache_put regular.shares, worked.surfaces, worked.retired]
    refine ⟨?_, fun mem => free mem.1⟩
    dsimp only
    rw [more, ← List.append_assoc]
    -- The offer of a job counts for its own entry only, and there only if nothing was found before.
    by_cases mine : id = p.2.entry
    · subst mine
      have barred : p.2.entry ∉ w.cache.retired := fun mem => orderly.free i p.2 asked (free mem)
      rw [if_neg barred, List.lookup_append, found, ← List.lookup_append]
    · rw [Job.lookup_append_offer _ _ mine, ← found]
      split
      · rw [List.append_nil]
      · rw [Job.lookup_append_offer _ _ mine]
  · obtain ⟨who, forgot⟩ : ∃ i, forgot i id ∈ past := by simpa using forgotten
    obtain ⟨absent, barred⟩ := h.gone id ⟨who, forgot⟩ owned.of_append
    rw [cache_put regular.shares, worked.surfaces, worked.retired]
    dsimp only
    -- While the job was waiting, its entry was retired, so that what it decoded was not stored.
    by_cases mine : id = p.2.entry
    · subst mine
      have here : p.2.entry ∈ w.cache.retired := barred i ⟨st, there, p, mem, rfl⟩
      rw [if_pos here, List.append_nil]
      refine ⟨absent, fun i' waiting' => ⟨here, fun _ => ?_⟩⟩
      rcases waiting_put there waiting' with ⟨-, left⟩ | ⟨other, elsewhere⟩
      · exact left
      · -- all jobs of the entry were submitted to the one scheduler that forgot it
        obtain ⟨j', asked', same⟩ := h.submitted_of_waiting elsewhere
        have first := owned.of_append who i p.2 forgot asked rfl
        have second := owned.of_append who i' j' forgot asked' same
        exact absurd (second.trans first.symm) other
    · refine ⟨?_, fun i' waiting' => ⟨?_, fun same => absurd same mine⟩⟩
      · split
        · rw [List.append_nil, absent]
        · rw [Job.lookup_append_offer _ _ mine, absent]
      · rcases waiting_put there waiting' with ⟨-, q, left, named⟩ | ⟨-, elsewhere⟩
        · exact barred i ⟨st, there, q, worked.pending left, named⟩
        · exact barred i' elsewhere

/-- A pending job runs. -/
lemma run (h : w.Followed given decode past) (there : w.stations[i]? = some st)
    (waiting : st.scheduler.pending.lookup k = some j) (orderly : Orderly given past) :
    (w.put i st ((w.scheduler st).runPending (w.codec st) k).2.1).Followed given decode
      (past ++ [.ran i j]) := by
  have regular := h.regular i st there
  have mem : (k, j) ∈ st.scheduler.pending :=
    (Lookup.perm_of_lookup regular.counted.numbers waiting).symm.subset List.mem_cons_self
  have decodes : (w.codec st).decode = decode := by
    rw [codec_of_shares regular.shares]
    exact h.decodes
  refine h.ran there ⟨(k, j), mem, rfl⟩ orderly ?_
  rw [← decodes, scheduler_of_shares regular.shares]
  exact Scheduler.worked_runPending (regular.counted.congr rfl rfl rfl) waiting

/-- A job that runs at once waits, and then runs. -/
lemma submit (h : w.Followed given decode past) (there : w.stations[i]? = some st)
    {now : List Errand}
    (told : now = .submitted i j :: if st.scheduler.pace = .immediate then [.ran i j] else [])
    (orderly : Orderly given (past ++ now)) :
    (w.put i st ((w.scheduler st).submit (w.codec st) j).2.1).Followed given decode
      (past ++ now) := by
  have regular := h.regular i st there
  have shared := scheduler_of_shares (w := w) regular.shares
  have counted : (w.scheduler st).Counted := shared ▸ regular.counted.congr rfl rfl rfl
  have pace : (w.scheduler st).pace = st.scheduler.pace := by rw [shared]
  rw [Scheduler.submit_eq counted.bounded (by rw [shared]; exact regular.isOpen)
    (by rw [shared]; exact regular.running), pace]
  rw [← List.singleton_append] at told
  obtain rfl := told
  rw [← List.append_assoc] at orderly ⊢
  have first := h.submitted there orderly.of_append
  -- At an immediate pace the submission is followed by the run, which has to be followed in turn.
  split
  · rename_i immediate
    rw [if_pos immediate] at orderly
    generalize queued : (w.scheduler st).queued j = s at first ⊢
    have here : (w.put i st s).stations[i]? = some { st with scheduler := s } := by
      obtain ⟨bound, -⟩ := List.getElem?_eq_some_iff.mp there
      exact List.getElem?_set_self bound
    have waiting : s.pending.lookup ((w.scheduler st).accepted + 1) = some j := by
      rw [← queued, Scheduler.queued, List.lookup_append, counted.lookup_next]
      simp
    have second := first.run here waiting orderly.of_append
    rw [scheduler_put regular.shares, put_put regular.shares] at second
    exact second
  · simpa using first

/-- An entry is forgotten. -/
lemma forgot (h : w.Followed given decode past) (there : w.stations[i]? = some st)
    (id : EntryId) : (w.put i st ((w.scheduler st).forget id)).Followed given decode
      (past ++ [.forgot i id]) := by
  have regular := h.regular i st there
  rw [scheduler_of_shares regular.shares]
  generalize same : ({ st.scheduler with cache := w.cache } : Scheduler S) = s
  have before : s.cache = w.cache := same ▸ rfl
  have counted : s.Counted := same ▸ regular.counted.congr rfl rfl rfl
  have alike := ({ s with cache := s.cache.invalidate id } : Scheduler S).releaseIdle_alike id
  have pending : (s.forget id).pending = st.scheduler.pending := alike.pending.trans (same ▸ rfl)
  -- Forgetting removes the surface of the one entry and retires it exactly while jobs of it are
  -- running.
  have surfaces : ∀ other, (s.forget id).cache.surfaces.lookup other =
      if other = id then none else w.cache.surfaces.lookup other := by
    intro other
    rw [Scheduler.forget, alike.surfaces, before]
    exact Lookup.lookup_filter_ne _ id other
  have retired : ∀ other, other ∈ (s.forget id).cache.retired ↔
      (other = id ∨ other ∈ w.cache.retired) ∧ (other = id → s.isRunning id = true) := by
    intro other
    rw [Scheduler.forget, Scheduler.mem_retired_releaseIdle, DecodeCache.mem_retired_invalidate,
      before]
    rfl
  refine ⟨h.decodes, h.regular_put ?_, fun other stays => ?_, fun other forgotten owned => ?_⟩
  · refine ⟨regular.shares, counted.forget id, ?_, ?_, fun p mem => ?_⟩
    · exact alike.closed.trans (same ▸ regular.isOpen)
    · exact alike.executorShut.trans (same ▸ regular.running)
    · exact List.mem_append_left _ (regular.submitted p (pending ▸ mem))
  · have differs : other ≠ id := by
      rintro rfl
      exact stays i (by simp)
    obtain ⟨found, free⟩ := h.kept other fun i mem => stays i (List.mem_append_left _ mem)
    rw [cache_put regular.shares, surfaces, if_neg differs, retired]
    exact ⟨by simpa [offers] using found, fun mem => free (mem.1.resolve_left differs)⟩
  · rw [cache_put regular.shares, surfaces, retired]
    by_cases mine : other = id
    · subst mine
      refine ⟨if_pos rfl, fun i' waiting => ⟨.inl rfl, fun _ => ?_⟩⟩
      -- A job that waits elsewhere was submitted there, but only the station that owns the entry
      -- forgets it.
      rcases waiting_put there waiting with ⟨-, left⟩ | ⟨elsewhere, old⟩
      · rw [counted.isRunning_iff, ← alike.pending]
        exact left
      · obtain ⟨j, asked, named⟩ := h.submitted_of_waiting old
        exact absurd (owned i i' j (by simp) (List.mem_append_left _ asked) named) elsewhere
    · have forgotten : ∃ i, .forgot i other ∈ past := by simpa [mine] using forgotten
      obtain ⟨absent, barred⟩ := h.gone other forgotten owned.of_append
      rw [if_neg mine]
      refine ⟨absent, fun i' waiting => ⟨.inr ?_, fun same => absurd same mine⟩⟩
      rcases waiting_put there waiting with ⟨-, left⟩ | ⟨-, old⟩
      · exact barred i ⟨st, there, pending ▸ left⟩
      · exact barred i' old

/-- What is done in a workshop in which no scheduler left the cache alone. -/
lemma step (h : w.Followed given decode past) {now : List Errand} (step : Step w now w')
    (taken : .hired false ∉ now) (orderly : Orderly given (past ++ now)) :
    w'.Followed given decode (past ++ now) := by
  cases step with
  | hire codec workers pace made =>
    have holds : decide (w.cache.size ≠ 0) = true := by
      by_contra empty
      simp_all
    rw [holds]
    exact h.hired made codec
  | run there waiting => exact h.run there waiting orderly.of_append
  | forget there id => exact h.forgot there id
  | submit there j => exact h.submit there rfl orderly

end Followed

/-! ### Runs -/

lemma Steps.followed (steps : Steps ⟨decode, given, []⟩ past w) (taken : .hired false ∉ past)
    (orderly : Orderly given past) : w.Followed given decode past := by
  induction steps with
  | start => exact .start
  | step _ last ih =>
    obtain ⟨before, now⟩ := not_or.mp (mt List.mem_append.mpr taken)
    exact (ih before orderly.of_append).step last now orderly

/-- What is done at a station is done where there is one, and none of them goes away. -/
lemma Step.lt_length {now : List Errand} (step : Step w now w') :
    w.stations.length ≤ w'.stations.length ∧
      ∀ e ∈ now, ∀ i ∈ e.station?, i < w'.stations.length := by
  cases step with
  | hire codec workers pace made => simp [Errand.station?]
  | @submit i st there j =>
    have bound := (List.getElem?_eq_some_iff.mp there).1
    refine ⟨Nat.le_of_eq length_put.symm, fun e mem i' named => ?_⟩
    have same : e.station? = some i := by
      split at mem <;> simp at mem <;> rcases mem with rfl | rfl <;> rfl
    obtain rfl := Option.some.inj (same.symm.trans named)
    rw [length_put]
    exact bound
  | run there waiting =>
    have bound := (List.getElem?_eq_some_iff.mp there).1
    simpa [length_put, Errand.station?] using bound
  | forget there id =>
    have bound := (List.getElem?_eq_some_iff.mp there).1
    simpa [length_put, Errand.station?] using bound

lemma Steps.lt_length {start : Workshop S} (steps : Steps start past w) :
    ∀ e ∈ past, ∀ i ∈ e.station?, i < w.stations.length := by
  induction steps with
  | start => simp
  | step _ last ih =>
    intro e mem i named
    rcases List.mem_append.mp mem with before | now
    · exact Nat.lt_of_lt_of_le (ih e before i named) last.lt_length.1
    · exact last.lt_length.2 e now i named

/-- A scheduler that is the only one has all jobs. -/
lemma Steps.owned {start : Workshop S} (steps : Steps start past w) (single : w.stations.length ≤ 1)
    (id : EntryId) : Owned past id := by
  intro i i' j forgotten asked _
  have first := steps.lt_length _ forgotten i rfl
  have second := steps.lt_length _ asked i' rfl
  omega

/-- **Schedulers work on the cache that was given to them.**  If the cache held something whenever a
scheduler was made with it, then all schedulers work on it.  Whatever they are told to do, as long
as no job is submitted of an entry that was forgotten, there is in the cache for an entry what there
was in the beginning or what a job of it decoded first, and nothing for an entry that was forgotten
by the only scheduler, or by the one that has its jobs.  A job whose entry has a surface there, from
the beginning or by whatever scheduler, is encoded from it, and nothing is decoded. -/
theorem given_cache_is_worked_on (steps : Steps ⟨decode, given, []⟩ past w)
    (taken : .hired false ∉ past) (orderly : Orderly given past) :
    (∀ st ∈ w.stations, (w.scheduler st).cache = w.cache) ∧
      (∀ id, (∀ i, .forgot i id ∉ past) →
        w.cache.surfaces.lookup id = (given.surfaces ++ offers decode past).lookup id) ∧
      (∀ id, (∃ i, .forgot i id ∈ past) → w.stations.length ≤ 1 ∨ Owned past id →
        w.cache.contains id = false) ∧
      ∀ (j : Job) (kept : S), (∀ i, .forgot i j.entry ∉ past) → j.defect = .none →
        (given.surfaces ++ offers decode past).lookup j.entry = some (some kept) →
        ∀ st ∈ w.stations, let report := j.run (w.codec st) (w.scheduler st).cache
          report = j.encode (w.codec st) (some kept) [] w.cache .none ∧
            report.usage.decodes = 0 := by
  have followed := steps.followed taken orderly
  have works : ∀ st ∈ w.stations, (w.scheduler st).cache = w.cache := by
    intro st mem
    obtain ⟨i, there⟩ := List.mem_iff_getElem?.mp mem
    rw [scheduler_of_shares (followed.regular i st there).shares]
  refine ⟨works, fun id stays => (followed.kept id stays).1, fun id forgotten alone => ?_, ?_⟩
  -- With a single station every entry is owned by it.
  · have owned : Owned past id := by
      rcases alone with single | owned
      · exact steps.owned single id
      · exact owned
    rw [DecodeCache.contains, (followed.gone id forgotten owned).1]
    rfl
  -- The entry is found in the cache, so the job does not decode.
  · intro j kept stays sound there st mem report
    have found : w.cache.lookup j.entry = some kept := by
      rw [DecodeCache.lookup_eq_some_iff, (followed.kept j.entry stays).1, there]
    have encoded : report = j.encode (w.codec st) (some kept) [] w.cache .none := by
      rw [← Job.run_of_lookup sound found, ← works st mem]
    refine ⟨encoded, ?_⟩
    rw [encoded, Job.decodes_encode]
    rfl

/-- Two schedulers are made with a cache that has a surface.  The first one runs a job of another
entry; the second one uses both surfaces, and forgets the entry whose jobs are its own. -/
theorem given_cache_is_worked_on_of_two :
    let job (n : Nat) : Job := ⟨.nth n, n, ⟨#[1]⟩, .default, .none⟩
    let given : DecodeCache ByteArray := ⟨[(.nth 9, some ⟨#[7]⟩)], [], 1⟩
    let past : List Errand := [.hired true, .hired true, .submitted 0 (job 1), .ran 0 (job 1),
      .submitted 1 (job 2), .ran 1 (job 2), .forgot 1 (.nth 2)]
    ∃ w, Steps ⟨Codec.verbatim.decode, given, []⟩ past w ∧ .hired false ∉ past ∧
      Orderly given past ∧ w.cache.contains (.nth 2) = false ∧ ∀ st ∈ w.stations,
        ((job 9).run (w.codec st) (w.scheduler st).cache).usage.decodes = 0 ∧
        ((job 1).run (w.codec st) (w.scheduler st).cache).usage.decodes = 0 := by
  intro job given past
  let start : Workshop ByteArray := ⟨Codec.verbatim.decode, given, []⟩
  obtain ⟨w, steps⟩ : ∃ w, Steps start past w := by
    have hired := (Steps.start : Steps start [] start).step (.hire .verbatim 4 .immediate rfl)
    have hired := hired.step (.hire .verbatim 4 .onDemand rfl)
    have done := hired.step (.submit (i := 0) rfl (job 1))
    have asked := done.step (.submit (i := 1) rfl (job 2))
    have done := asked.step (.run (i := 1) (k := 1) rfl rfl)
    exact ⟨_, done.step (.forget (i := 1) rfl (.nth 2))⟩
  have taken : .hired false ∉ past := by simp [past]
  have orderly : Orderly given past :=
    ⟨by simp [given], by simp [past, job]⟩
  obtain ⟨-, -, gone, reused⟩ := given_cache_is_worked_on steps taken orderly
  have owned : Owned past (.nth 2) := by
    intro i i' j forgotten asked named
    obtain rfl : i = 1 := by simpa [past] using forgotten
    have asked : i' = 0 ∧ j = job 1 ∨ i' = 1 ∧ j = job 2 := by simpa [past] using asked
    rcases asked with ⟨-, rfl⟩ | ⟨rfl, -⟩
    · exact absurd named (by decide)
    · rfl
  have stays : ∀ id : EntryId, id ≠ .nth 2 → ∀ i, .forgot i id ∉ past := by simp [past]
  refine ⟨w, steps, taken, orderly, gone (.nth 2) ⟨1, by simp [past]⟩ (.inr owned),
    fun st mem => ⟨?_, ?_⟩⟩
  · exact (reused (job 9) ⟨#[7]⟩ (stays _ (by decide)) rfl rfl st mem).2
  · exact (reused (job 1) ⟨#[1]⟩ (stays _ (by decide)) rfl rfl st mem).2

/-- Two schedulers are made with an empty cache.  They leave it alone: what the first one decodes is
not put there, and the second one decodes the same source again. -/
theorem empty_cache_is_left_alone :
    let job (n : Nat) : Job := ⟨.nth 1, n, ⟨#[1]⟩, .default, .none⟩
    let past : List Errand := [.hired false, .hired false, .submitted 0 (job 1), .ran 0 (job 1),
      .submitted 1 (job 2), .ran 1 (job 2)]
    ∃ w, Steps ⟨Codec.verbatim.decode, .empty, []⟩ past w ∧
      Orderly (.empty : DecodeCache ByteArray) past ∧
      offers Codec.verbatim.decode past = [(.nth 1, some ⟨#[1]⟩), (.nth 1, some ⟨#[1]⟩)] ∧
      w.cache = .empty ∧ w.stations.map (·.scheduler.usage.decodes) = [1, 1] := by
  intro job past
  let start : Workshop ByteArray := ⟨Codec.verbatim.decode, .empty, []⟩
  have hired := (Steps.start : Steps start [] start).step (.hire .verbatim 4 .immediate rfl)
  have hired := hired.step (.hire .verbatim 4 .immediate rfl)
  have done := hired.step (.submit (i := 0) rfl (job 1))
  have done := done.step (.submit (i := 1) rfl (job 2))
  have orderly : Orderly (.empty : DecodeCache ByteArray) past :=
    ⟨by simp [DecodeCache.empty], by simp [past]⟩
  exact ⟨_, done, orderly, rfl, rfl, rfl⟩

end Workshop

end Reencode
