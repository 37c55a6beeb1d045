import Mathlib.Tactic.Common
import Reencode.Work.Job

/-!
# What a job comes to

`Codec.recode` is what a codec makes of a source for some parameters: decode, then encode.  It
knows no cache, so it is the yardstick for what jobs do.  `Job.result` is the outcome of a job by
that yardstick.

`Job.run_outcome` says that running a job gives exactly this outcome whatever the cache holds, as
long as the cache is *faithful*: each surface in it is what the codec makes of the source of its
entry.  Running a job keeps the cache faithful, so the sharing of decoded surfaces between jobs
can never be seen in what they come to.
-/

namespace Reencode

variable {S : Type}

/-- What decoding a source and encoding the surface comes to. -/
def Codec.recode (codec : Codec S) (source : ByteArray) (p : Params) : Except Failure Payload :=
  match (codec.decode source).result with
  | .error failure => .error failure
  | .ok surface =>
    match (codec.encode surface p.format p.quality).result with
    | .error failure => .error failure
    | .ok product => Job.payloadOf product

/-- A codec for which bytes are their own surface; it decodes and encodes none that are empty. -/
def Codec.verbatim : Codec ByteArray where
  decode data := if data.size = 0 then .fail .overflow else .ok (some data)
  encode surface _ _ :=
    match surface with
    | some data => .ok (.bytes data)
    | none => .fail .overflow

/-- The fault that a failure leaves with a job. -/
def Job.fault (j : Job) (failure : Failure) : Fault :=
  (Fault.ofFailure failure j.entry j.token).1

/-- The outcome of a job, read off its own source and parameters alone. -/
def Job.result (codec : Codec S) (j : Job) : Outcome :=
  match codec.recode j.source j.params with
  | .ok payload => j.outcome payload
  | .error failure => j.outcome (.fault (j.fault failure))

/-- A codec that encodes to bytes, or fails. -/
def Codec.GivesBytes (codec : Codec S) : Prop :=
  ∀ surface format quality product, (codec.encode surface format quality).result = .ok product →
    ∃ data, product = .bytes data

lemma Codec.GivesBytes.recode {codec : Codec S} (h : codec.GivesBytes) {source : ByteArray}
    {p : Params} {payload : Payload} (recoded : codec.recode source p = .ok payload) :
    ∃ data, payload = .data data := by
  unfold Codec.recode at recoded
  split at recoded
  · cases recoded
  · split at recoded
    · cases recoded
    · rename_i product encoded
      obtain ⟨data, rfl⟩ := h _ _ _ _ encoded
      exact ⟨data, (Except.ok.inj recoded).symm⟩

lemma Codec.verbatim_givesBytes : Codec.verbatim.GivesBytes := by
  intro surface format quality product encoded
  cases surface with
  | none => cases encoded
  | some data => exact ⟨data, (Except.ok.inj encoded).symm⟩

lemma Fault.ofFailure_token (failure : Failure) (id : EntryId) (token : Int) :
    (Fault.ofFailure failure id token).1.token = token := by
  unfold Fault.ofFailure
  split <;> rfl

lemma Job.payloadOf_ne_fault {product : Product} {f : Fault} :
    Job.payloadOf product ≠ .ok (.fault f) := by
  cases product <;> simp [Job.payloadOf]

lemma Codec.recode_ne_fault {codec : Codec S} {source : ByteArray} {p : Params} {f : Fault} :
    codec.recode source p ≠ .ok (.fault f) := by
  unfold Codec.recode
  split
  · simp
  · split
    · simp
    · exact Job.payloadOf_ne_fault

namespace Job

variable {codec : Codec S} {j : Job}

/-! ## Reading a result -/

@[simp] lemma result_entry : (j.result codec).entry = j.entry := by
  unfold result
  split <;> rfl

@[simp] lemma result_token : (j.result codec).token = j.token := by
  unfold result
  split <;> rfl

@[simp] lemma result_params : (j.result codec).params = j.params := by
  unfold result
  split <;> rfl

/-- A result with bytes has the bytes that the codec makes of the source. -/
lemma recode_of_result_data {data : ByteArray} (h : (j.result codec).payload = .data data) :
    codec.recode j.source j.params = .ok (.data data) := by
  unfold result at h
  split at h
  · rename_i payload recoded
    rw [recoded, show payload = .data data from h]
  · cases h

/-- A result without anything comes from a codec that gives nothing. -/
lemma recode_of_result_nothing (h : (j.result codec).payload = .nothing) :
    codec.recode j.source j.params = .ok .nothing := by
  unfold result at h
  split at h
  · rename_i payload recoded
    rw [recoded, show payload = .nothing from h]
  · cases h

/-- A result with a fault tells of the failure of recoding the source. -/
lemma recode_of_result_fault {f : Fault} (h : (j.result codec).payload = .fault f) :
    ∃ failure, codec.recode j.source j.params = .error failure ∧ f = j.fault failure := by
  unfold result at h
  split at h
  · rename_i payload recoded
    rw [show payload = .fault f from h] at recoded
    exact absurd recoded Codec.recode_ne_fault
  · rename_i failure recoded
    cases h
    exact ⟨failure, recoded, rfl⟩

/-- The fault of a result carries the token of its job. -/
lemma result_fault_token {f : Fault} (h : (j.result codec).payload = .fault f) :
    f.token = j.token := by
  obtain ⟨failure, -, rfl⟩ := recode_of_result_fault h
  exact Fault.ofFailure_token failure j.entry j.token

end Job

/-! ## Faithful caches -/

namespace DecodeCache

variable {codec : Codec S} {sources : EntryId → Option ByteArray} {c : DecodeCache S}

/-- Whatever is committed for an entry is what the codec makes of the entry's source. -/
def Faithful (codec : Codec S) (sources : EntryId → Option ByteArray) (c : DecodeCache S) : Prop :=
  ∀ id surface, (id, surface) ∈ c.surfaces →
    ∃ data, sources id = some data ∧ (codec.decode data).result = .ok surface

lemma faithful_empty : (DecodeCache.empty : DecodeCache S).Faithful codec sources := by
  intro id surface mem
  cases mem

lemma Faithful.of_lookup (h : c.Faithful codec sources) {id : EntryId} {data : ByteArray}
    {surface : Option S} (known : sources id = some data)
    (found : c.surfaces.lookup id = some surface) : (codec.decode data).result = .ok surface := by
  obtain ⟨before, after, split, -⟩ := List.lookup_eq_some_iff.mp found
  obtain ⟨data', known', decoded⟩ := h id surface (by simp [split])
  obtain rfl : data = data' := Option.some.inj (known.symm.trans known')
  exact decoded

/-- Knowing more sources does not make a cache less faithful. -/
lemma Faithful.mono (h : c.Faithful codec sources) {sources' : EntryId → Option ByteArray}
    (more : ∀ id data, sources id = some data → sources' id = some data) :
    c.Faithful codec sources' := by
  intro id surface mem
  obtain ⟨data, known, decoded⟩ := h id surface mem
  exact ⟨data, more id data known, decoded⟩

lemma Faithful.of_subset (h : c.Faithful codec sources) {c' : DecodeCache S}
    (fewer : ∀ p ∈ c'.surfaces, p ∈ c.surfaces) : c'.Faithful codec sources :=
  fun id surface mem => h id surface (fewer _ mem)

/-- Committing what decoding came to gives just that, and keeps the cache faithful: if another
job was first, it committed the same. -/
lemma Faithful.commit (h : c.Faithful codec sources) {id : EntryId} {data : ByteArray}
    {surface : Option S} (known : sources id = some data)
    (decoded : (codec.decode data).result = .ok surface) :
    (c.commit id surface).1 = surface ∧ (c.commit id surface).2.Faithful codec sources := by
  simp only [DecodeCache.commit]
  split
  · exact ⟨rfl, h⟩
  · split
    · rename_i first found
      have same : Except.ok first = Except.ok surface :=
        (h.of_lookup known found).symm.trans decoded
      exact ⟨Except.ok.inj same, h⟩
    · refine ⟨rfl, fun other kept mem => ?_⟩
      rcases List.mem_append.mp mem with old | new
      · exact h other kept old
      · obtain ⟨rfl, rfl⟩ := Prod.mk.inj (List.mem_singleton.mp new)
        exact ⟨data, known, decoded⟩

/-- A surface asked for is what decoding comes to, from the cache or not. -/
lemma Faithful.getOrDecode (h : c.Faithful codec sources) {id : EntryId} {data : ByteArray}
    (known : sources id = some data) :
    match (codec.decode data).result with
    | .error failure => (c.getOrDecode codec id data).result = .error failure
    | .ok surface => ∃ c', (c.getOrDecode codec id data).result = .ok (surface, c') ∧
        c'.Faithful codec sources := by
  unfold DecodeCache.getOrDecode
  -- A surface that is cached is what the bytes decode to, so it makes no difference whether it is
  -- found.
  cases found : c.lookup id with
  | some surface =>
    have hit : c.surfaces.lookup id = some (some surface) := by
      simpa [DecodeCache.lookup, Option.join_eq_some_iff] using found
    rw [h.of_lookup known hit]
    exact ⟨c, rfl, h⟩
  | none =>
    cases decoded : (codec.decode data).result with
    | error failure => simp [Attempt.andThen, decoded]
    | ok surface =>
      have committed := h.commit known decoded
      refine ⟨(c.commit id surface).2, ?_, committed.2⟩
      simp only [Attempt.andThen, decoded, Attempt.ok]
      exact congrArg Except.ok (Prod.ext committed.1 rfl)

end DecodeCache

/-! ## Running a job -/

namespace Job

variable {codec : Codec S} {sources : EntryId → Option ByteArray} {j : Job} {c : DecodeCache S}

lemma encode_outcome (surface : Option S) (records : List LogRecord) (usage : Usage)
    (decoded : (codec.decode j.source).result = .ok surface) :
    (j.encode codec surface records c usage).outcome = some (j.result codec) := by
  unfold Job.encode
  simp only [result, Codec.recode, decoded]
  cases (codec.encode surface j.params.format j.params.quality).result with
  | error failure => rfl
  | ok product =>
    dsimp only
    cases payloadOf product with
    | ok payload => rfl
    | error failure => rfl

lemma encode_cache (surface : Option S) (records : List LogRecord) (usage : Usage) :
    (j.encode codec surface records c usage).cache = c := by
  unfold Job.encode
  dsimp only
  split
  · rfl
  · split <;> rfl

/-- With a faithful cache a job comes to its result, and leaves the cache faithful. -/
theorem run_outcome (h : c.Faithful codec sources) (known : sources j.entry = some j.source)
    (sound : j.defect = .none) :
    (j.run codec c).outcome = some (j.result codec) ∧
      (j.run codec c).cache.Faithful codec sources := by
  simp only [run, sound, recode]
  have asked := h.getOrDecode known
  cases decoded : (codec.decode j.source).result with
  | error failure =>
    rw [decoded] at asked
    simp only at asked
    rw [asked]
    refine ⟨?_, h⟩
    simp only [result, Codec.recode, decoded]
    rfl
  | ok surface =>
    rw [decoded] at asked
    obtain ⟨c', given, faithful⟩ := asked
    rw [given]
    dsimp only
    rw [encode_cache]
    exact ⟨encode_outcome _ _ _ decoded, faithful⟩

end Job

end Reencode
