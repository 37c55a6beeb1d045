import Reencode.Codec.Pictures
import Reencode.Proofs.Session.Report

/-!
# Which half is to blame

A fault says whether decoding or encoding failed, and it is made long after the failure, from the
failure alone. What an imaging library fails with says nothing of the half; so the codec turns such
failures into failures of decoding or of encoding (`Imaging.decode`, `Imaging.encode`), and the
fault only reads that off. The codec knows the failures it turns one by one (`Failure.Expected`).
Whatever is not among them passes as it is, and a fault made of it blames the encoding. That is
right when encoding failed, and so every failure of encoding is blamed on encoding; it is wrong when
decoding did.

The library is not looked into: it may fail with anything but the failures that are not its own
(`Imaging.Foreign`).
-/

namespace Reencode

variable {S : Type}

/-! ## Failures by kind -/

namespace Failure

variable {f : Failure}

/-- A failure that others than this library have. -/
def Foreign (f : Failure) : Prop := ∀ kind message entry, f ≠ own kind message entry

/-- A failure that imaging libraries are expected to have: the machine refused, a value or its kind
is wrong, a key is missing, the data are of no known format, malformed or too short, or the picture
is too large. -/
def Expected : Failure → Prop
  | own .. => False
  | invalid .. => True
  | outside k _ => k ∈ [OutsideKind.value, .unicode, .io, .fileExists, .fileMissing, .isDirectory,
      .notDirectory, .unknownPicture, .tooManyPixels, .type, .key, .malformed, .endOfData]

lemma foreign_outside (k : OutsideKind) (message : String) : (outside k message).Foreign :=
  nofun

lemma asPictureFailure_of_expected (h : f.Expected) (kind : OwnKind) (operation : String) :
    ∃ message, f.asPictureFailure kind operation = own kind message none := by
  cases f with
  | own k message entry => exact h.elim
  | invalid model errors => exact ⟨_, rfl⟩
  | outside k message => cases k <;> first | exact ⟨_, rfl⟩ | simp [Expected] at h

lemma asPictureFailure_of_not_expected (h : ¬ f.Expected) (kind : OwnKind) (operation : String) :
    f.asPictureFailure kind operation = f := by
  cases f with
  | own k message entry => rfl
  | invalid model errors => exact (h trivial).elim
  | outside k message => cases k <;> first | rfl | simp [Expected] at h

end Failure

lemma Unreadable.foreign_failure (u : Unreadable) : u.failure.Foreign :=
  Failure.foreign_outside u.kind u.message

/-- Only failures that this library does not have itself. -/
def OnlyForeign {α : Type} (x : Except Failure α) : Prop := ∀ e, x = .error e → e.Foreign

namespace OnlyForeign

variable {α β : Type}

lemma ok (a : α) : OnlyForeign (.ok a) := nofun

lemma outside (k : OutsideKind) (message : String) :
    OnlyForeign (.error (.outside k message) : Except Failure α) := by
  rintro e ⟨⟩
  exact Failure.foreign_outside k message

lemma bind {x : Except Failure α} {f : α → Except Failure β} (hx : OnlyForeign x)
    (hf : ∀ a, OnlyForeign (f a)) : OnlyForeign (x >>= f) := by
  cases x with
  | error e =>
    intro e' h
    obtain rfl : e = e' := Except.error.inj h
    exact hx e rfl
  | ok a => exact hf a

lemma map {x : Except Failure α} (f : α → β) (hx : OnlyForeign x) : OnlyForeign (f <$> x) :=
  map_eq_pure_bind f x ▸ bind hx fun a => ok (f a)

lemma mapError {ε : Type} {g : ε → Failure} (hg : ∀ cause, (g cause).Foreign) (x : Except ε α) :
    OnlyForeign (x.mapError g) := by
  cases x with
  | error cause =>
    rintro e ⟨⟩
    exact hg cause
  | ok a => exact ok a

lemma ite (c : Prop) [Decidable c] {x y : Except Failure α} (hx : OnlyForeign x)
    (hy : OnlyForeign y) : OnlyForeign (if c then x else y) := by
  split
  · exact hx
  · exact hy

end OnlyForeign

/-! ## The codec -/

namespace Attempt

variable {α β : Type}

lemma result_andThen (a : Attempt α) (next : α → Attempt β) :
    (a.andThen next).result = a.result >>= fun value => (next value).result := by
  obtain ⟨records, result⟩ := a
  cases result <;> rfl

lemma result_ofExcept (x : Except Failure α) : (ofExcept x).result = x := by cases x <;> rfl

lemma result_owned (a : Attempt α) (kind : OwnKind) (operation : String) :
    (a.owned kind operation).result = a.result.mapError (·.asPictureFailure kind operation) := by
  obtain ⟨records, result⟩ := a
  cases result with
  | ok value => rfl
  | error e =>
    cases e with
    | own k message entry => rfl
    | invalid model errors => rfl
    | outside k message => cases k <;> rfl

end Attempt

namespace Imaging

/-- The library fails with nothing but failures of its own. -/
structure Foreign (L : Imaging S) : Prop where
  read : ∀ b, OnlyForeign (L.read b)
  prepare : ∀ p f, OnlyForeign (L.prepare p f)
  write : ∀ p options, OnlyForeign (L.write p options)

variable {L : Imaging S}

lemma result_decode_of_empty {b : ByteArray} (h : b.size = 0) :
    (L.codec.decode b).result = .error (.own .decode "源数据为空" none) := by
  simp only [codec, decode, h, if_true]
  rfl

lemma result_decode_of_error {b : ByteArray} {cause : Failure} (h : b.size ≠ 0)
    (hread : L.read b = .error cause) :
    (L.codec.decode b).result = .error (cause.asPictureFailure .decode "图像解码") := by
  simp only [codec, decode, h, if_false, hread, Attempt.result_andThen, Attempt.result_owned,
    Attempt.result_ofExcept]
  rfl

lemma result_decode_of_ok {b : ByteArray} {p : S} (h : b.size ≠ 0) (hread : L.read b = .ok p) :
    (L.codec.decode b).result = .ok (some p) := by
  simp only [codec, decode, h, if_false, hread, Attempt.result_andThen, Attempt.result_owned,
    Attempt.result_ofExcept]
  rfl

/-- Decoding fails for want of a source, or because the library cannot read it. -/
lemma exists_of_decode_error {b : ByteArray} {e : Failure}
    (h : (L.codec.decode b).result = .error e) :
    b.size = 0 ∧ e = .own .decode "源数据为空" none ∨
      b.size ≠ 0 ∧ ∃ cause, L.read b = .error cause ∧
        e = cause.asPictureFailure .decode "图像解码" := by
  by_cases hsize : b.size = 0
  · rw [result_decode_of_empty hsize] at h
    exact .inl ⟨hsize, (Except.error.inj h).symm⟩
  · cases hread : L.read b with
    | error cause =>
      rw [result_decode_of_error hsize hread] at h
      exact .inr ⟨hsize, cause, rfl, (Except.error.inj h).symm⟩
    | ok p =>
      rw [result_decode_of_ok hsize hread] at h
      cases h

/-- Reading the arguments, converting and writing have foreign failures only, which encoding turns
into its own. -/
lemma exists_onlyForeign_encode (hL : L.Foreign) (p : S) (format quality : Value) :
    ∃ written : Except Failure ByteArray, OnlyForeign written ∧
      (L.encode p format quality).result =
        written.mapError (·.asPictureFailure .encode "图像编码") := by
  refine ⟨_, ?_, Attempt.result_owned _ _ _⟩
  simp only [Attempt.result_andThen, Attempt.result_ofExcept]
  refine .bind ?_ fun made => .bind (.ok ()) fun _ => hL.write _ _
  refine .bind (.mapError (fun cause => Failure.foreign_outside _ _) _) fun f => ?_
  refine .bind (hL.prepare p f) fun q => .bind ?_ fun n => .ok (q, f, n)
  unfold Value.asNumber
  split
  · exact .ok _
  · exact .outside _ _

/-- Encoding never fails with a failure of decoding. -/
lemma encode_error (hL : L.Foreign) {surface : Option S} {format : Format} {quality : Int}
    {e : Failure} (h : (L.codec.encode surface format quality).result = .error e)
    (message : String) (entry : Option EntryId) : e ≠ .own .decode message entry := by
  cases surface with
  | none =>
    cases h
    exact nofun
  | some p =>
    obtain ⟨written, hwritten, hresult⟩ :=
      exists_onlyForeign_encode hL p (.text format.name) (.int quality)
    simp only [codec, Attempt.result_andThen, hresult] at h
    cases written with
    | ok data => cases h
    | error cause =>
      obtain rfl : cause.asPictureFailure .encode "图像编码" = e := Except.error.inj h
      -- An expected cause is wrapped as a failure of encoding; any other comes from outside as it
      -- is.
      by_cases hcause : cause.Expected
      · obtain ⟨message', hmade⟩ :=
          Failure.asPictureFailure_of_expected hcause .encode "图像编码"
        rw [hmade]
        exact nofun
      · rw [Failure.asPictureFailure_of_not_expected hcause]
        exact hwritten cause rfl _ _ _

end Imaging

/-! ## The fault -/

/-- Only a failure of decoding is blamed on decoding. -/
lemma Fault.ofFailure_kind_eq_decode_iff (f : Failure) (id : EntryId) (token : Int) :
    (Fault.ofFailure f id token).1.kind = .decode ↔
      ∃ message entry, f = .own .decode message entry := by
  unfold Fault.ofFailure
  split <;> simp_all

/-- A failure of decoding is blamed on decoding if the source is empty or the cause is expected. -/
lemma Imaging.kind_of_decode_error {L : Imaging S} (hL : L.Foreign) {b : ByteArray} {e : Failure}
    (h : (L.codec.decode b).result = .error e) (id : EntryId) (token : Int) :
    (Fault.ofFailure e id token).1.kind = .decode ↔
      b.size = 0 ∨ ∃ cause, L.read b = .error cause ∧ cause.Expected := by
  rw [Fault.ofFailure_kind_eq_decode_iff]
  obtain ⟨hsize, rfl⟩ | ⟨hsize, cause, hread, rfl⟩ := exists_of_decode_error h
  · exact iff_of_true ⟨_, _, rfl⟩ (.inl hsize)
  -- Whether the cause is expected decides whether it is wrapped, and only a wrapped one blames
  -- decoding.
  · by_cases hcause : cause.Expected
    · obtain ⟨message, hmade⟩ :=
        Failure.asPictureFailure_of_expected hcause .decode "图像解码"
      exact iff_of_true ⟨_, _, hmade⟩ (.inr ⟨cause, hread, hcause⟩)
    · rw [Failure.asPictureFailure_of_not_expected hcause]
      refine iff_of_false ?_ ?_
      · rintro ⟨message, entry, rfl⟩
        exact hL.read b _ hread _ _ _ rfl
      · rintro (hempty | ⟨cause', hread', hcause'⟩)
        · exact hsize hempty
        · obtain rfl : cause = cause' := Except.error.inj (hread.symm.trans hread')
          exact hcause hcause'

/-! ## The library at hand -/

namespace Picture

open OnlyForeign

lemma onlyForeign_accepts (t : Transparency) : OnlyForeign (Palette.accepts t) := by
  cases t with
  | index i => exact ite _ (ok _) (outside _ _)
  | table alphas => exact ite _ (ok _) (outside _ _)
  | colour channels => exact outside _ _

lemma onlyForeign_colours (engine : ColourEngine) (p : Picture) :
    OnlyForeign (p.colours engine) := by
  obtain ⟨canvas, t⟩ := p
  cases canvas with
  | grey r =>
    refine bind ?_ fun entry => ok _
    unfold colourEntry
    split <;> first | exact ok _ | exact outside _ _
  | space s r => cases s <;> exact ok _
  | _ => exact ok _

lemma onlyForeign_withAlpha (p : Picture) : OnlyForeign p.withAlpha := by
  obtain ⟨canvas, t⟩ := p
  cases canvas with
  | indexed r palette =>
    cases t with
    | none => exact ok _
    | some t => exact bind (onlyForeign_accepts t) fun _ => ok _
  | _ => exact ok _

lemma onlyForeign_prepare (engine : ColourEngine) (p : Picture) (f : Format) :
    OnlyForeign (p.prepare engine f) := by
  cases f with
  | jpeg =>
    simp only [prepare, forJpeg]
    -- Every way of preparing changes colours or adds an opacity; neither makes a failure of the
    -- library's own.
    split
    case h_5 => exact onlyForeign_colours engine p
    all_goals exact map _ (onlyForeign_withAlpha p)
  | webp =>
    simp only [prepare, forWebp]
    split
    case h_4 => exact ok _
    case h_5 => exact onlyForeign_colours engine p
    all_goals exact onlyForeign_withAlpha p
  | png =>
    simp only [prepare, forPng]
    split
    · exact onlyForeign_colours engine p
    · exact onlyForeign_withAlpha p
    · exact ok _

lemma onlyForeign_transparencyBody (l : Png.Layout) (t : Option Transparency) :
    OnlyForeign (Png.transparencyBody l t) := by
  unfold Png.transparencyBody
  repeat' split
  all_goals first | exact ok _ | exact outside _ _

lemma onlyForeign_write (p : Picture) (options : SaveOptions) : OnlyForeign (p.write options) := by
  cases options with
  | jpeg quality sampling =>
    refine ite _ (outside _ _) ?_
    split
    · exact outside _ _
    · exact ite _ (outside _ _) (ok _)
    · exact outside _ _
  | webp quality alphaQuality =>
    refine ite _ (outside _ _) ?_
    split <;> first | exact ok _ | exact outside _ _
  | png =>
    simp only [write, Png.write]
    split
    · exact outside _ _
    · rename_i layout rows _
      have hrest := onlyForeign_transparencyBody layout p.transparency
      exact ite _ (OnlyForeign.bind (outside _ _) fun _ => hrest.bind fun _ => ok _)
        (hrest.bind fun _ => ok _)

lemma imaging_foreign (engine : ColourEngine) : (imaging engine).Foreign where
  read b := by
    dsimp only [imaging]
    exact mapError Unreadable.foreign_failure (read b)
  prepare := onlyForeign_prepare engine
  write := onlyForeign_write

end Picture

/-! ## Running a job -/

lemma Job.product_of_decode_error {codec : Codec S} {j : Job} {cache : DecodeCache S} {e : Failure}
    (hlookup : cache.lookup j.entry = none) (h : (codec.decode j.source).result = .error e) :
    j.product codec cache = .error e := by
  simp only [Job.product, DecodeCache.getOrDecode, hlookup, Attempt.result_andThen, h]
  rfl

/-- **A failure is blamed on the half that failed, but for causes that decoding does not expect.**
For every imaging library, every job and every cache, running the job gives an outcome of its entry
and token. If the source has to be decoded and cannot be, there is a fault of that entry and token
in it, and it blames decoding exactly if the source is empty or the library failed with one of the
failures that are expected of it; any other failure to decode is blamed on encoding. If the surface
cannot be encoded, whatever the failure, the fault blames encoding. -/
theorem faults_blame_the_half (L : Imaging S) (hL : L.Foreign) (j : Job)
    (hsound : j.defect = .none) (cache : DecodeCache S) :
    ∃ o, (j.run L.codec cache).outcome = some o ∧ o.entry = j.entry ∧ o.token = j.token ∧
      (∀ e, cache.lookup j.entry = none → (L.codec.decode j.source).result = .error e →
        ∃ f, o.payload = .fault f ∧ f.entry = j.entry ∧ f.token = j.token ∧
          (f.kind = .decode ↔
            j.source.size = 0 ∨ ∃ cause, L.read j.source = .error cause ∧ cause.Expected)) ∧
      ∀ surface cache' e,
        (cache.getOrDecode L.codec j.entry j.source).result = .ok (surface, cache') →
        (L.codec.encode surface j.params.format j.params.quality).result = .error e →
        ∃ f, o.payload = .fault f ∧ f.entry = j.entry ∧ f.token = j.token ∧ f.kind = .encode := by
  refine ⟨_, Job.run_outcome_eq hsound cache, rfl, rfl, ?decode, ?encode⟩
  case decode =>
    intro e hlookup hdecode
    have hproduct := Job.product_of_decode_error hlookup hdecode
    refine ⟨j.fault e, by rw [Job.outcome, hproduct, Job.payloadFor],
      Fault.ofFailure_entry .., Fault.ofFailure_token .., ?_⟩
    exact Imaging.kind_of_decode_error hL hdecode j.entry j.token
  case encode =>
    intro surface cache' e hsurface hencode
    have hproduct : j.product L.codec cache = .error e := by
      simp only [Job.product, hsurface, hencode]
    refine ⟨j.fault e, by rw [Job.outcome, hproduct, Job.payloadFor],
      Fault.ofFailure_entry .., Fault.ofFailure_token .., ?_⟩
    -- A fault that blamed decoding would stem from a failure of the library's own that encoding
    -- never gives.
    cases hkind : (j.fault e).kind with
    | encode => rfl
    | decode =>
      obtain ⟨message, entry, hown⟩ := (Fault.ofFailure_kind_eq_decode_iff e _ _).mp hkind
      exact (Imaging.encode_error hL hencode message entry hown).elim

/-- A file of no known format: it cannot be decoded, and the fault says so. -/
theorem faults_blame_the_half_of_unknown :
    let j : Job := ⟨.nth 1, 1, ⟨#[1, 2, 3]⟩, ⟨75, .jpeg⟩, .none⟩
    (Picture.imaging .exact).Foreign ∧ j.defect = .none ∧
    ∃ o f, (j.run Picture.codec .empty).outcome = some o ∧ o.payload = .fault f ∧
      f.entry = j.entry ∧ f.token = j.token ∧ f.kind = .decode := by
  intro j
  have hread : (Picture.imaging .exact).read j.source = .error Unreadable.unknown.failure := rfl
  have hsize : j.source.size ≠ 0 := by decide
  have hdecode := Imaging.result_decode_of_error hsize hread
  obtain ⟨o, hrun, -, -, hfault, -⟩ :=
    faults_blame_the_half (Picture.imaging .exact) (Picture.imaging_foreign .exact) j rfl .empty
  obtain ⟨f, hpayload, hentry, htoken, hkind⟩ := hfault _ rfl hdecode
  refine ⟨Picture.imaging_foreign .exact, rfl, o, f, hrun, hpayload, hentry, htoken, ?_⟩
  refine hkind.mpr (.inr ⟨_, hread, ?_⟩)
  simp [Unreadable.failure, Unreadable.kind, Failure.Expected]

/-- A file of one grey pixel with attributes that end within their header. -/
def Png.cutAttributes : ByteArray := ⟨#[
  0x89, 0x50, 0x4e, 0x47, 0x0d, 0x0a, 0x1a, 0x0a,
  0, 0, 0, 13, 0x49, 0x48, 0x44, 0x52, 0, 0, 0, 1, 0, 0, 0, 1, 8, 0, 0, 0, 0,
  0x3a, 0x7e, 0x9b, 0x55,
  0, 0, 0, 4, 0x65, 0x58, 0x49, 0x66, 0x49, 0x49, 0x2a, 0, 0x25, 0x0a, 0x62, 0xff,
  0, 0, 0, 13, 0x49, 0x44, 0x41, 0x54, 0x78, 0x01, 0x01, 2, 0, 0xfd, 0xff, 0, 0x80, 0, 0x82, 0,
  0x81, 0xc3, 0x6e, 0x25, 0xe0,
  0, 0, 0, 0, 0x49, 0x45, 0x4e, 0x44, 0xae, 0x42, 0x60, 0x82]⟩

/-- The attributes of a file end too early, so that it cannot be decoded, but the fault blames
encoding. -/
theorem fault_blames_encoding_of_cut_attributes :
    let j : Job := ⟨.nth 1, 1, Png.cutAttributes, ⟨75, .jpeg⟩, .none⟩
    (Picture.codec.decode j.source).result =
      .error (.outside .layout "unpack requires a buffer of 4 bytes") ∧
    ∃ o f, (j.run Picture.codec .empty).outcome = some o ∧ o.payload = .fault f ∧
      f.kind = .encode := by
  intro j
  -- The picture itself has no decidable equality, so the kernel evaluates only why it is refused.
  have hcause : (match Picture.read j.source with | .error u => some u | .ok _ => none) =
      some .cutNumbers := by
    decide +kernel
  have hread : (Picture.imaging .exact).read j.source = .error Unreadable.cutNumbers.failure := by
    simp only [Picture.imaging]
    cases hpicture : Picture.read j.source with
    | error u =>
      rw [hpicture] at hcause
      rw [Option.some.inj hcause]
      rfl
    | ok p =>
      rw [hpicture] at hcause
      cases hcause
  have hsize : j.source.size ≠ 0 := by decide
  have hdecode := Imaging.result_decode_of_error hsize hread
  have hproduct : j.product Picture.codec .empty = .error Unreadable.cutNumbers.failure :=
    Job.product_of_decode_error rfl hdecode
  exact ⟨hdecode, _, _, Job.run_outcome_eq rfl .empty, by rw [hproduct]; rfl, rfl⟩

end Reencode
