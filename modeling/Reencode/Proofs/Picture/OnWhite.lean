import Mathlib.Data.Rat.Floor
import Mathlib.Tactic.Linarith
import Reencode.Proofs.Picture.Stricter

/-!
# Laid on white

JPEG has no opacity, so what is transparent is laid on a white ground. What a picture shows is first
said without regard to how it is converted: each sample has a colour, and it has an opacity, which
stands beside the sample or follows from the entry, by the index of a palette or because the sample
is the one shade or colour that the entry names. A channel laid on white is then the exact blend of
the channel and 255, rounded to the nearest integer.

The blend is computed without a division, as `divide255`; that this rounds correctly is arithmetic
of numbers below 65026, and the only place where it is looked into. The rest is that the cases of
`forJpeg` all come to the same map over what is shown. One does not: an entry beside grey or
coloured samples is passed over, and the shade or colour it names keeps its place where white should
be.
-/
namespace Reencode

/-! ## Blending -/

/-- A channel at an opacity over white: the nearest integer to the exact blend. -/
def BlendsTo (channel alpha out : UInt8) : Prop :=
  (out.toNat : ℤ) =
    round (((channel.toNat : ℚ) * alpha.toNat + 255 * (255 - alpha.toNat)) / 255)

/-- The colour laid on white, channel by channel. -/
structure Rgba.LaidOnWhite (c : Rgba) (out : Rgb) : Prop where
  red : BlendsTo c.red c.alpha out.red
  green : BlendsTo c.green c.alpha out.green
  blue : BlendsTo c.blue c.alpha out.blue

/-- The two colours differ at most in what is hidden because they are transparent. -/
def Rgba.LooksLike (c d : Rgba) : Prop := c.alpha = d.alpha ∧ (c.alpha ≠ 0 → c = d)

/-- The quotient that is computed misses the exact one by less than a half. -/
lemma divide255_spec {n : Nat} (h : n ≤ 65025) :
    2 * n < 2 * 255 * divide255 n + 255 ∧ 2 * 255 * divide255 n < 2 * n + 255 := by
  unfold divide255
  omega

lemma round_div_255 {n : Nat} (h : n ≤ 65025) : round ((n : ℚ) / 255) = divide255 n := by
  obtain ⟨hlow, hhigh⟩ := divide255_spec h
  have hlow' : (2 * n : ℚ) < 2 * 255 * divide255 n + 255 := by exact_mod_cast hlow
  have hhigh' : (2 * 255 * divide255 n : ℚ) < 2 * n + 255 := by exact_mod_cast hhigh
  rw [round_eq, Int.floor_eq_iff]
  push_cast
  constructor <;> linarith

lemma channelOverWhite_blends (channel alpha : UInt8) :
    BlendsTo channel alpha (channelOverWhite channel alpha) := by
  have hc : channel.toNat ≤ 255 := Nat.le_of_lt_succ channel.toNat_lt
  have ha : alpha.toNat ≤ 255 := Nat.le_of_lt_succ alpha.toNat_lt
  have hprod : channel.toNat * alpha.toNat ≤ 255 * alpha.toNat := Nat.mul_le_mul_right _ hc
  -- The sum of the weighted channels, which is at most 255 times 255; there the division by shifts
  -- is exact.
  set n := 255 * (255 - alpha.toNat) + channel.toNat * alpha.toNat with hn
  have hle : n ≤ 65025 := by omega
  have hbyte : divide255 n < 256 := by
    have := (divide255_spec hle).2
    omega
  have hexact : ((channel.toNat : ℚ) * alpha.toNat + 255 * (255 - alpha.toNat)) = (n : ℚ) := by
    rw [hn]
    push_cast [Nat.cast_sub ha]
    ring
  rw [BlendsTo, hexact, round_div_255 hle, channelOverWhite, ← hn,
    UInt8.toNat_ofNat_of_lt' hbyte]

lemma BlendsTo.unique {channel alpha out out' : UInt8} (h : BlendsTo channel alpha out)
    (h' : BlendsTo channel alpha out') : out = out' := by
  have heq : (out.toNat : ℤ) = out'.toNat := Eq.trans h (Eq.symm h')
  exact UInt8.toNat_inj.mp (by exact_mod_cast heq)

lemma blendsTo_full (channel : UInt8) : BlendsTo channel 255 channel := by
  have hexact : ((channel.toNat : ℚ) * (255 : UInt8).toNat +
      255 * (255 - (255 : UInt8).toNat)) / 255 = (channel.toNat : ℤ) := by
    simp
  rw [BlendsTo, hexact, round_intCast]

lemma blendsTo_transparent (channel : UInt8) : BlendsTo channel 0 255 := by
  have hexact : ((channel.toNat : ℚ) * (0 : UInt8).toNat +
      255 * (255 - (0 : UInt8).toNat)) / 255 = (255 : ℤ) := by
    simp
  rw [BlendsTo, hexact, round_intCast]
  rfl

namespace Rgba

variable {c d : Rgba} {out out' : Rgb}

lemma overWhite_laidOnWhite (c : Rgba) : c.LaidOnWhite c.overWhite :=
  ⟨channelOverWhite_blends _ _, channelOverWhite_blends _ _, channelOverWhite_blends _ _⟩

lemma LaidOnWhite.unique (h : c.LaidOnWhite out) (h' : c.LaidOnWhite out') : out = out' := by
  obtain ⟨r, g, b⟩ := out
  obtain ⟨r', g', b'⟩ := out'
  obtain ⟨rfl, rfl, rfl⟩ : r = r' ∧ g = g' ∧ b = b' :=
    ⟨h.red.unique h'.red, h.green.unique h'.green, h.blue.unique h'.blue⟩
  rfl

lemma overWhite_of_laidOnWhite (h : c.LaidOnWhite out) : c.overWhite = out :=
  (overWhite_laidOnWhite c).unique h

@[simp] lemma overWhite_withAlpha_255 (c : Rgb) : (c.withAlpha 255).overWhite = c :=
  overWhite_of_laidOnWhite ⟨blendsTo_full _, blendsTo_full _, blendsTo_full _⟩

lemma overWhite_of_full (h : c.alpha = 255) : c.overWhite = c.rgb := by
  obtain ⟨r, g, b, a⟩ := c
  obtain rfl : a = 255 := h
  exact overWhite_withAlpha_255 ⟨r, g, b⟩

lemma overWhite_of_transparent (h : c.alpha = 0) : c.overWhite = Rgb.grey 255 := by
  obtain ⟨r, g, b, a⟩ := c
  obtain rfl : a = 0 := h
  exact overWhite_of_laidOnWhite
    ⟨blendsTo_transparent _, blendsTo_transparent _, blendsTo_transparent _⟩

lemma LooksLike.overWhite_eq (h : c.LooksLike d) : c.overWhite = d.overWhite := by
  by_cases hc : c.alpha = 0
  · rw [overWhite_of_transparent hc, overWhite_of_transparent (h.1 ▸ hc)]
  · rw [h.2 hc]

end Rgba

/-! ## What a picture shows -/

/-- The opacity that an entry gives to an index of a palette. -/
def Transparency.ofIndex : Option Transparency → UInt8 → UInt8
  | some (.index transparent), i => if (i.toNat : ℤ) = transparent then 0 else 255
  | some (.table alphas), i => alphas.data[i.toNat]?.getD 255
  | _, _ => 255

/-- The opacity that an entry gives to a shade or a colour, which it names channel by channel. -/
def Transparency.ofChannels : Option Transparency → List UInt8 → UInt8
  | some (.index shade), channels =>
    if channels.map (fun v => (v.toNat : ℤ)) = [shade] then 0 else 255
  | some (.colour named), channels =>
    if channels.map (fun v => (v.toNat : ℤ)) = named then 0 else 255
  | _, _ => 255

namespace Picture

variable {p : Picture} {shown : Raster Rgba} {engine : ColourEngine}

/-- What a picture of greys, of colours or of a palette shows: its colours, each with its
opacity. -/
def shown? (p : Picture) : Option (Raster Rgba) :=
  match p.canvas with
  | .grey r => some (r.map fun v =>
      (Rgb.grey v).withAlpha (Transparency.ofChannels p.transparency [v]))
  | .rgb r => some (r.map fun c =>
      c.withAlpha (Transparency.ofChannels p.transparency [c.red, c.green, c.blue]))
  | .indexed r palette => some (r.map fun i =>
      (palette.colour i).withAlpha (Transparency.ofIndex p.transparency i))
  | .greyAlpha r => some (r.map fun c => ⟨c.tone, c.tone, c.tone, c.alpha⟩)
  | .indexedAlpha r palette => some (r.map fun c => (palette.colour c.tone).withAlpha c.alpha)
  | .rgba r => some r
  | _ => none

/-- The picture has an entry that names the transparent shade or colour. -/
def Keyed (p : Picture) : Prop := (p.mode = .grey ∨ p.mode = .rgb) ∧ p.transparency ≠ none

lemma size_of_shown? (h : p.shown? = some shown) :
    (shown.width, shown.height) = p.canvas.size := by
  obtain ⟨canvas, t⟩ := p
  cases canvas <;> simp only [shown?, Option.some.injEq, reduceCtorEq] at h <;> subst h <;> rfl

/-- An entry beside greys or colours makes some samples transparent and leaves the others
opaque. -/
lemma ofChannels_cases (t : Option Transparency) (channels : List UInt8) :
    Transparency.ofChannels t channels = 0 ∨ Transparency.ofChannels t channels = 255 := by
  cases t with
  | none => exact .inr rfl
  | some t =>
    cases t with
    | table alphas => exact .inr rfl
    | index i => exact ite_eq_or_eq ..
    | colour named => exact ite_eq_or_eq ..

lemma alphaOf_eq_ofIndex (t : Transparency) (i : UInt8) :
    Palette.alphaOf t i = Transparency.ofIndex (some t) i := by
  cases t with
  | index k => simp only [Palette.alphaOf, Transparency.ofIndex, eq_comm]
  | table alphas =>
    by_cases h : i.toNat < alphas.size
    · have hdata : alphas.data[i.toNat]? = some alphas[i.toNat] := Array.getElem?_eq_getElem h
      simp only [Palette.alphaOf, Transparency.ofIndex, h, hdata, dite_true, Option.getD_some]
    · have hdata : alphas.data[i.toNat]? = none := Array.getElem?_eq_none (Nat.le_of_not_lt h)
      simp only [Palette.alphaOf, Transparency.ofIndex, h, hdata, dite_false, Option.getD_none]
  | colour named => rfl

/-! ## Laying on white -/

/-- Samples that are all opaque are on white already. -/
lemma map_overWhite_full {α : Type} (r : Raster α) (f : α → Rgb) :
    (r.map fun a => (f a).withAlpha 255).map Rgba.overWhite = r.map f := by
  rw [Raster.map_map]
  exact congrArg r.map (funext fun a => Rgba.overWhite_withAlpha_255 (f a))

/-- Without an entry beside greys or colours, all that is shown is laid on white. -/
lemma forJpeg_of_not_keyed (hshown : p.shown? = some shown) (hfits : p.EntryFits)
    (hkeyed : ¬ p.Keyed) : p.forJpeg engine = .ok (plain (.rgb (shown.map Rgba.overWhite))) := by
  obtain ⟨canvas, t⟩ := p
  -- Case by case: either the picture is opaque, and white does not show, or its opacity is laid on
  -- white.
  cases canvas with
  | grey r =>
    obtain rfl : t = none := by
      by_contra ht
      exact hkeyed ⟨.inl rfl, ht⟩
    cases hshown
    exact congrArg (fun r => Except.ok (plain (.rgb r))) (map_overWhite_full r Rgb.grey).symm
  | rgb r =>
    obtain rfl : t = none := by
      by_contra ht
      exact hkeyed ⟨.inr rfl, ht⟩
    cases hshown
    have hmap := map_overWhite_full r id
    rw [Raster.map_id] at hmap
    exact congrArg (fun r => Except.ok (plain (.rgb r))) hmap.symm
  | indexed r palette =>
    cases hshown
    cases t with
    | none =>
      exact congrArg (fun r => Except.ok (plain (.rgb r)))
        (map_overWhite_full r palette.colour).symm
    | some t =>
      simp only [forJpeg, withAlpha, accepts_of_entryFits hfits, alphaOf_eq_ofIndex]
      rfl
  | greyAlpha r =>
    cases hshown
    rfl
  | indexedAlpha r palette =>
    cases hshown
    rfl
  | rgba r =>
    cases hshown
    rfl
  | _ => cases hshown

/-- The named shade or colour is passed over: all samples stay as they are. -/
lemma forJpeg_of_keyed (hshown : p.shown? = some shown) (hfits : p.EntryFits) (hkeyed : p.Keyed) :
    (∃ entry, p.forJpeg engine = .ok ⟨.rgb (shown.map Rgba.rgb), entry⟩) ∧
    ∀ c ∈ shown.samples, c.alpha = 0 ∨ c.alpha = 255 := by
  obtain ⟨canvas, t⟩ := p
  cases canvas with
  | grey r =>
    cases hshown
    obtain ⟨entry, hentry⟩ := colourEntry_of_entryFits hfits
    refine ⟨⟨entry, ?_⟩, ?_⟩
    · simp only [forJpeg, colours, hentry, Raster.map_map]
      rfl
    · intro c hc
      obtain ⟨v, -, rfl⟩ := Array.mem_map.mp hc
      exact ofChannels_cases t _
  | rgb r =>
    cases hshown
    refine ⟨⟨t, ?_⟩, ?_⟩
    · simp only [forJpeg, colours, Raster.map_map]
      exact congrArg (fun r => Except.ok (Picture.mk (.rgb r) t)) (Raster.map_id r).symm
    · intro c hc
      obtain ⟨v, -, rfl⟩ := Array.mem_map.mp hc
      exact ofChannels_cases t _
  | _ => simp [Keyed, mode, Canvas.mode] at hkeyed

/-- A named colour that keeps its place stands where white should, unless it is white. -/
lemma laidOnWhite_rgb_iff {c : Rgba} (h : c.alpha = 0 ∨ c.alpha = 255) :
    c.LaidOnWhite c.rgb ↔ ¬ (c.alpha = 0 ∧ c.rgb ≠ Rgb.grey 255) := by
  rcases h with htransparent | hfull
  · rw [not_and, not_not]
    refine ⟨fun hlaid _ => ?_, fun hwhite => ?_⟩
    · rw [← Rgba.overWhite_of_transparent htransparent, Rgba.overWhite_of_laidOnWhite hlaid]
    · rw [hwhite htransparent, ← Rgba.overWhite_of_transparent htransparent]
      exact Rgba.overWhite_laidOnWhite c
  · refine iff_of_true ?_ fun hhidden => by simp [hfull] at hhidden
    rw [← Rgba.overWhite_of_full hfull]
    exact Rgba.overWhite_laidOnWhite c

lemma map_overWhite_of_looksLike {r r' : Raster Rgba} (hwidth : r.width = r'.width)
    (hheight : r.height = r'.height)
    (hlike : List.Forall₂ Rgba.LooksLike r.samples.toList r'.samples.toList) :
    r.map Rgba.overWhite = r'.map Rgba.overWhite := by
  have hmap : ∀ {l l' : List Rgba}, List.Forall₂ Rgba.LooksLike l l' →
      l.map Rgba.overWhite = l'.map Rgba.overWhite := by
    intro l l' h
    induction h with
    | nil => rfl
    | cons hhead _ ih => rw [List.map_cons, List.map_cons, hhead.overWhite_eq, ih]
  have hsamples : r.samples.map Rgba.overWhite = r'.samples.map Rgba.overWhite :=
    Array.toList_inj.mp (by simpa using hmap hlike)
  simp only [Raster.map, hwidth, hheight, hsamples]

/-- What JPEG makes of a sample that shows `c`, beside an entry that names a colour or not. -/
structure Flattened (keyed : Prop) (c : Rgba) (out : Rgb) : Prop where
  laid : ¬ keyed → c.LaidOnWhite out
  full_kept : c.alpha = 255 → out = c.rgb
  transparent_white : ¬ keyed → c.alpha = 0 → out = Rgb.grey 255
  keyed_kept : keyed → out = c.rgb
  keyed_laid_iff : keyed → (c.LaidOnWhite out ↔ ¬ (c.alpha = 0 ∧ c.rgb ≠ Rgb.grey 255))

lemma Flattened.of_keyed {keyed : Prop} {c : Rgba} (h : keyed)
    (hends : c.alpha = 0 ∨ c.alpha = 255) : Flattened keyed c c.rgb where
  laid hn := (hn h).elim
  full_kept _ := rfl
  transparent_white hn := (hn h).elim
  keyed_kept _ := rfl
  keyed_laid_iff _ := laidOnWhite_rgb_iff hends

lemma Flattened.of_not_keyed {keyed : Prop} (h : ¬ keyed) (c : Rgba) :
    Flattened keyed c c.overWhite where
  laid _ := c.overWhite_laidOnWhite
  full_kept := Rgba.overWhite_of_full
  transparent_white _ := Rgba.overWhite_of_transparent
  keyed_kept hk := (h hk).elim
  keyed_laid_iff hk := (h hk).elim

/-- **JPEG lays what is transparent on white, but for a named shade or colour.** For every picture
of greys, of colours or of a palette, whose entry can be read, the JPEG version exists, has its size
and no opacity. Every sample is the colour that is shown laid on white, each channel the nearest
integer to the exact blend, whether the opacity stands beside the sample or comes from the entry of
a palette, so that opaque samples keep their colour, transparent ones are white, and pictures that
differ in hidden colours only give the same version. Only an entry beside greys or colours is passed
over: there all samples keep their colour, which is right for those that are opaque or white, and
for no others. -/
theorem jpeg_is_on_white (engine : ColourEngine) (p : Picture) (shown : Raster Rgba)
    (hshown : p.shown? = some shown) (hfits : p.EntryFits) :
    (∃ (q : Picture) (out : Raster Rgb), p.prepare engine .jpeg = .ok q ∧ q.canvas = .rgb out ∧
      q.canvas.size = p.canvas.size ∧
      List.Forall₂ (Flattened p.Keyed) shown.samples.toList out.samples.toList) ∧
    ∀ (p' : Picture) (shown' : Raster Rgba), p'.shown? = some shown' → p'.EntryFits →
      ¬ p.Keyed → ¬ p'.Keyed → p.canvas.size = p'.canvas.size →
      List.Forall₂ Rgba.LooksLike shown.samples.toList shown'.samples.toList →
      p.prepare engine .jpeg = p'.prepare engine .jpeg := by
  refine ⟨?each, ?alike⟩
  case each =>
    by_cases hkeyed : p.Keyed
    · obtain ⟨⟨entry, hprepare⟩, hends⟩ := forJpeg_of_keyed hshown hfits hkeyed
      refine ⟨_, shown.map Rgba.rgb, hprepare, rfl, size_of_shown? hshown, ?_⟩
      rw [Raster.samples_map, Array.toList_map, List.forall₂_map_right_iff, List.forall₂_same]
      exact fun c hc => Flattened.of_keyed hkeyed (hends c (Array.mem_toList_iff.mp hc))
    · refine ⟨_, shown.map Rgba.overWhite, forJpeg_of_not_keyed hshown hfits hkeyed, rfl,
        size_of_shown? hshown, ?_⟩
      rw [Raster.samples_map, Array.toList_map, List.forall₂_map_right_iff, List.forall₂_same]
      exact fun c _ => Flattened.of_not_keyed hkeyed c
  -- Both pictures come to the same raster before they are laid on white.
  case alike =>
    intro p' shown' hshown' hfits' hkeyed hkeyed' hsize hlike
    rw [← size_of_shown? hshown, ← size_of_shown? hshown', Prod.mk.injEq] at hsize
    have hmap := map_overWhite_of_looksLike hsize.1 hsize.2 hlike
    calc p.prepare engine .jpeg = .ok (plain (.rgb (shown.map Rgba.overWhite))) :=
          forJpeg_of_not_keyed hshown hfits hkeyed
      _ = .ok (plain (.rgb (shown'.map Rgba.overWhite))) := by rw [hmap]
      _ = p'.prepare engine .jpeg := (forJpeg_of_not_keyed hshown' hfits' hkeyed').symm

/-- A palette picture whose only colour is transparent, and a picture of another colour that is
transparent too: both give the same version. -/
theorem jpeg_is_on_white_of_transparent :
    let palette : Palette := ⟨⟨#[10, 20, 30]⟩⟩
    let p : Picture := ⟨.indexed (Raster.solid 2 1 0) palette, some (.table ⟨#[0]⟩)⟩
    let p' : Picture := plain (.rgba (Raster.solid 2 1 ⟨90, 80, 70, 0⟩))
    p.shown? = some (Raster.solid 2 1 ⟨10, 20, 30, 0⟩) ∧ p.EntryFits ∧ ¬ p.Keyed ∧
    p.prepare .exact .jpeg = p'.prepare .exact .jpeg := by
  intro palette p p'
  have hshown : p.shown? = some (Raster.solid 2 1 ⟨10, 20, 30, 0⟩) := by
    simp only [p, shown?, Raster.map_solid]
    rfl
  have hkeyed : ¬ p.Keyed := by simp [p, Keyed, mode, Canvas.mode]
  have hkeyed' : ¬ p'.Keyed := by simp [p', plain, Keyed, mode, Canvas.mode]
  have hfits : p.EntryFits := Nat.le_of_ble_eq_true rfl
  refine ⟨hshown, hfits, hkeyed, ?_⟩
  refine (jpeg_is_on_white .exact p _ hshown hfits).2 p' _ rfl trivial hkeyed hkeyed' rfl ?_
  exact .cons ⟨rfl, fun h => (h rfl).elim⟩ (.cons ⟨rfl, fun h => (h rfl).elim⟩ .nil)

/-- The colour that the entry of a picture of colours names as transparent stays: the picture shows
nothing, but the JPEG version is the colour, not white. -/
theorem jpeg_keeps_named_colour :
    let p : Picture := ⟨.rgb (Raster.solid 1 1 ⟨10, 20, 30⟩), some (.colour [10, 20, 30])⟩
    p.shown? = some (Raster.solid 1 1 ⟨10, 20, 30, 0⟩) ∧ p.EntryFits ∧
    p.prepare .exact .jpeg = .ok p ∧ ¬ Rgba.LaidOnWhite ⟨10, 20, 30, 0⟩ ⟨10, 20, 30⟩ := by
  intro p
  refine ⟨?_, trivial, rfl, fun hlaid => ?_⟩
  · simp only [p, shown?, Raster.map_solid]
    rfl
  · have hwhite := Rgba.overWhite_of_laidOnWhite hlaid
    rw [Rgba.overWhite_of_transparent rfl] at hwhite
    cases hwhite

end Picture
end Reencode
