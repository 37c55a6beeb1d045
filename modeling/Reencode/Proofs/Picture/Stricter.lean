import Mathlib.Tactic.Common
import Reencode.Picture.Prepare

/-!
# Preparing for a stricter format

The formats are ordered by what they refuse: PNG takes nearly everything, WEBP only colours, JPEG
only colours without opacity. Each preparation decides anew what to do from the kind of canvas and
from the entry beside it, so three case splits have to agree. They agree for two reasons. A
preparation leaves nothing for itself to do: what comes out for WEBP is in colours, and what is in
colours WEBP takes as it is. And a looser preparation only does, earlier, a conversion that the
stricter one begins with: PNG turns inks and transparent palettes into colours exactly as WEBP does,
and JPEG is WEBP laid on white. Preparations along the order then absorb one another, failures
included.
-/
namespace Reencode

/-- The place of a format among PNG, WEBP and JPEG, the one that takes most first. -/
def Format.strictness : Format → Nat
  | .png => 0
  | .webp => 1
  | .jpeg => 2

namespace Picture

variable {p q : Picture} {engine : ColourEngine}

/-- The picture is in colours, with or without opacities. -/
def Coloured (p : Picture) : Prop := p.mode = .rgb ∨ p.mode = .rgba

/-- The picture has opacities: each sample has one, or the entry gives them to a palette. -/
def Translucent (p : Picture) : Prop :=
  match p.canvas, p.transparency with
  | .indexed _ _, some _ | .greyAlpha _, _ | .indexedAlpha _ _, _ | .rgba _, _ => True
  | _, _ => False

/-- The entry is one that a conversion of the canvas can read: for a palette an index it may have
or at most 256 opacities, for greys a table, which says nothing there, or one shade. -/
def EntryFits (p : Picture) : Prop :=
  match p.canvas, p.transparency with
  | .indexed _ _, some (.index i) => 0 ≤ i ∧ i < 256
  | .indexed _ _, some (.table alphas) => alphas.size ≤ 256
  | .indexed _ _, some (.colour _) => False
  | .grey _, some (.colour channels) => channels.length = 1
  | _, _ => True

/-! ## Conversions to colours -/

lemma accepts_of_entryFits {r : Raster UInt8} {palette : Palette} {t : Transparency}
    (h : EntryFits ⟨.indexed r palette, some t⟩) : Palette.accepts t = .ok () := by
  cases t with
  | index i => exact if_pos h
  | table alphas => exact if_pos h
  | colour channels => exact h.elim

lemma colourEntry_of_entryFits {r : Raster UInt8} {t : Option Transparency}
    (h : EntryFits ⟨.grey r, t⟩) : ∃ entry, colourEntry t = .ok entry := by
  cases t with
  | none => exact ⟨_, rfl⟩
  | some t =>
    cases t with
    | index i => exact ⟨_, rfl⟩
    | table alphas => exact ⟨_, rfl⟩
    | colour channels =>
      obtain ⟨i, rfl⟩ := List.length_eq_one_iff.mp h
      exact ⟨_, rfl⟩

/-- Whatever `colours` gives is in colours without opacity and has the size of the picture. -/
lemma colours_spec (h : p.colours engine = .ok q) :
    q.mode = .rgb ∧ q.canvas.size = p.canvas.size := by
  obtain ⟨canvas, t⟩ := p
  cases canvas with
  | grey r =>
    cases hentry : colourEntry t with
    | error e => simp [colours, hentry, bind, Except.bind] at h
    | ok entry =>
      obtain rfl : ⟨.rgb (r.map Rgb.grey), entry⟩ = q := by
        simpa [colours, hentry, bind, Except.bind, pure, Except.pure] using h
      exact ⟨rfl, rfl⟩
  | space s r =>
    cases s <;> simp only [colours, Except.ok.injEq] at h <;> subst h <;>
      exact ⟨rfl, rfl⟩
  | _ =>
    simp only [colours, Except.ok.injEq] at h
    subst h
    exact ⟨rfl, rfl⟩

/-- What has opacities is given in colours with them, at its size. -/
lemma withAlpha_spec (hp : p.Translucent) (h : p.withAlpha = .ok q) :
    q.mode = .rgba ∧ q.canvas.size = p.canvas.size := by
  obtain ⟨canvas, t⟩ := p
  cases canvas with
  | indexed r palette =>
    cases t with
    | none => exact hp.elim
    | some t =>
      cases haccepts : Palette.accepts t with
      | error e => simp [withAlpha, haccepts, bind, Except.bind] at h
      | ok u =>
        obtain rfl : plain (.rgba (r.map fun i =>
            (palette.colour i).withAlpha (Palette.alphaOf t i))) = q := by
          simpa [withAlpha, haccepts, bind, Except.bind, pure, Except.pure] using h
        exact ⟨rfl, rfl⟩
  | greyAlpha r =>
    cases h
    exact ⟨rfl, rfl⟩
  | indexedAlpha r palette =>
    cases h
    exact ⟨rfl, rfl⟩
  | rgba r =>
    cases h
    exact ⟨rfl, rfl⟩
  | _ => exact hp.elim

lemma onWhite_of_rgb (h : p.mode = .rgb) : p.onWhite = p := by
  obtain ⟨canvas, t⟩ := p
  cases canvas with
  | rgb r => rfl
  | _ => cases h

lemma onWhite_spec (h : p.mode = .rgba) :
    p.onWhite.mode = .rgb ∧ p.onWhite.canvas.size = p.canvas.size := by
  obtain ⟨canvas, t⟩ := p
  cases canvas with
  | rgba r => exact ⟨rfl, rfl⟩
  | _ => cases h

/-! ## What each format does with opacities -/

lemma forWebp_of_translucent (h : p.Translucent) : p.forWebp engine = p.withAlpha := by
  obtain ⟨canvas, t⟩ := p
  cases canvas <;> cases t <;> first | rfl | exact h.elim

lemma forWebp_of_not_translucent (h : ¬ p.Translucent) :
    p.forWebp engine = p.colours engine := by
  obtain ⟨canvas, t⟩ := p
  cases canvas <;> cases t <;> first | exact (h trivial).elim | simp only [forWebp]

lemma forJpeg_of_translucent (h : p.Translucent) :
    p.forJpeg engine = onWhite <$> p.withAlpha := by
  obtain ⟨canvas, t⟩ := p
  cases canvas <;> cases t <;> first | rfl | exact h.elim

lemma forJpeg_of_not_translucent (h : ¬ p.Translucent) :
    p.forJpeg engine = p.colours engine := by
  obtain ⟨canvas, t⟩ := p
  cases canvas <;> cases t <;> first | exact (h trivial).elim | simp only [forJpeg]

lemma forWebp_spec (h : p.forWebp engine = .ok q) :
    q.Coloured ∧ q.canvas.size = p.canvas.size := by
  by_cases hp : p.Translucent
  · rw [forWebp_of_translucent hp] at h
    exact ⟨.inr (withAlpha_spec hp h).1, (withAlpha_spec hp h).2⟩
  · rw [forWebp_of_not_translucent hp] at h
    exact ⟨.inl (colours_spec h).1, (colours_spec h).2⟩

/-- JPEG is WEBP laid on white. -/
lemma forJpeg_eq (p : Picture) : p.forJpeg engine = onWhite <$> p.forWebp engine := by
  by_cases hp : p.Translucent
  · rw [forJpeg_of_translucent hp, forWebp_of_translucent hp]
  · rw [forJpeg_of_not_translucent hp, forWebp_of_not_translucent hp]
    cases h : p.colours engine with
    | error e => rfl
    | ok q => simp [onWhite_of_rgb (colours_spec h).1]

lemma forJpeg_spec (h : p.forJpeg engine = .ok q) :
    q.mode = .rgb ∧ q.canvas.size = p.canvas.size := by
  by_cases hp : p.Translucent
  · rw [forJpeg_of_translucent hp] at h
    obtain ⟨c, hc, rfl⟩ : ∃ c, p.withAlpha = .ok c ∧ c.onWhite = q := by
      cases hc : p.withAlpha with
      | error e => simp [hc] at h
      | ok c => exact ⟨c, rfl, by simpa [hc] using h⟩
    obtain ⟨hmode, hsize⟩ := withAlpha_spec hp hc
    exact ⟨(onWhite_spec hmode).1, (onWhite_spec hmode).2.trans hsize⟩
  · rw [forJpeg_of_not_translucent hp] at h
    exact colours_spec h

/-! ## Nothing is left to do -/

/-- What is in colours WEBP takes as it is. -/
lemma forWebp_of_coloured (h : p.Coloured) : p.forWebp engine = .ok p := by
  obtain ⟨canvas, t⟩ := p
  cases canvas <;> first | rfl | simp [Coloured, mode, Canvas.mode] at h

/-- What is in colours PNG takes as it is. -/
lemma forPng_of_coloured (h : p.Coloured) : p.forPng engine = .ok p := by
  obtain ⟨canvas, t⟩ := p
  cases canvas <;> first | rfl | simp [Coloured, mode, Canvas.mode] at h

/-- PNG either takes the picture as it is or turns inks and palettes into the colours that WEBP
would. -/
lemma forPng_cases (engine : ColourEngine) (p : Picture) :
    p.forPng engine = .ok p ∨
      p.forPng engine = p.forWebp engine ∧ (p.mode = .cmyk ∨ p.mode = .indexed) := by
  obtain ⟨canvas, t⟩ := p
  cases canvas <;> cases t <;>
    first | exact .inl rfl | exact .inr ⟨rfl, .inl rfl⟩ | exact .inr ⟨rfl, .inr rfl⟩

lemma forPng_size (h : p.forPng engine = .ok q) : q.canvas.size = p.canvas.size := by
  rcases forPng_cases engine p with hsame | ⟨hcolours, -⟩
  · rw [hsame] at h
    cases h
    rfl
  · exact (forWebp_spec (hcolours ▸ h)).2

lemma forWebp_forWebp (p : Picture) :
    (p.forWebp engine >>= forWebp engine) = p.forWebp engine := by
  cases h : p.forWebp engine with
  | error e => rfl
  | ok q => exact forWebp_of_coloured (forWebp_spec h).1

lemma forPng_forWebp (p : Picture) : (p.forPng engine >>= forWebp engine) = p.forWebp engine := by
  rcases forPng_cases engine p with hsame | ⟨hcolours, -⟩
  · rw [hsame]
    rfl
  · rw [hcolours, forWebp_forWebp]

lemma forPng_forPng (p : Picture) :
    (p.forPng engine >>= forPng engine) = p.forPng engine := by
  cases h : p.forPng engine with
  | error e => rfl
  | ok q =>
    rcases forPng_cases engine p with hsame | ⟨hcolours, -⟩
    · obtain rfl : p = q := by simpa [hsame] using h
      exact h
    · exact forPng_of_coloured (forWebp_spec (hcolours ▸ h)).1

/-- Whatever WEBP absorbs JPEG absorbs too. -/
lemma bind_forJpeg {first : Except Failure Picture}
    (h : (first >>= forWebp engine) = p.forWebp engine) :
    (first >>= forJpeg engine) = p.forJpeg engine := by
  calc (first >>= forJpeg engine) = onWhite <$> (first >>= forWebp engine) := by
        cases first with
        | error e => rfl
        | ok q => exact forJpeg_eq q
    _ = p.forJpeg engine := by rw [h, forJpeg_eq]

lemma forJpeg_forJpeg (p : Picture) :
    (p.forJpeg engine >>= forJpeg engine) = p.forJpeg engine := by
  cases h : p.forJpeg engine with
  | error e => rfl
  | ok q =>
    have hmode := (forJpeg_spec h).1
    calc q.forJpeg engine = onWhite <$> q.forWebp engine := forJpeg_eq q
      _ = .ok q.onWhite := by rw [forWebp_of_coloured (.inl hmode)]; rfl
      _ = .ok q := by rw [onWhite_of_rgb hmode]

/-! ## Success -/

lemma exists_colours (hfits : p.EntryFits) : ∃ q, p.colours engine = .ok q := by
  obtain ⟨canvas, t⟩ := p
  cases canvas with
  | grey r =>
    obtain ⟨entry, hentry⟩ := colourEntry_of_entryFits hfits
    exact ⟨_, by simp only [colours, hentry]; rfl⟩
  | space s r => cases s <;> exact ⟨_, rfl⟩
  | _ => exact ⟨_, rfl⟩

lemma exists_withAlpha (hfits : p.EntryFits) : ∃ q, p.withAlpha = .ok q := by
  obtain ⟨canvas, t⟩ := p
  cases canvas with
  | indexed r palette =>
    cases t with
    | none => exact ⟨_, rfl⟩
    | some t =>
      exact ⟨_, by simp only [withAlpha, accepts_of_entryFits hfits]; rfl⟩
  | _ => exact ⟨_, rfl⟩

lemma exists_forWebp (engine : ColourEngine) (hfits : p.EntryFits) :
    ∃ q, p.forWebp engine = .ok q := by
  by_cases hp : p.Translucent
  · exact forWebp_of_translucent hp ▸ exists_withAlpha hfits
  · exact forWebp_of_not_translucent hp ▸ exists_colours hfits

lemma exists_prepare (hfits : p.EntryFits) (g : Format) : ∃ q, p.prepare engine g = .ok q := by
  cases g with
  | png =>
    rcases forPng_cases engine p with hsame | ⟨hcolours, -⟩
    · exact ⟨p, hsame⟩
    · obtain ⟨q, hq⟩ := exists_forWebp engine hfits
      exact ⟨q, hcolours.trans hq⟩
  | webp => exact exists_forWebp engine hfits
  | jpeg =>
    obtain ⟨q, hq⟩ := exists_forWebp engine hfits
    exact ⟨q.onWhite, by simp [prepare, forJpeg_eq, hq]⟩

/-! ## The order -/

/-- **Preparing for a stricter format never depends on an earlier preparation for a looser one**:
for every picture, prepared for one format and then for another that is as strict or stricter, the
result is that of the second preparation alone, canvas and entry, or the same failure. So every
preparation is idempotent, and the JPEG version is the WEBP version laid on white. A result has the
size of the picture, is in colours without opacity for JPEG and in colours for WEBP; and there is
one unless the entry cannot be read. All this is so whatever the colour engine makes of opponent
colours. -/
theorem prepare_absorbs (engine : ColourEngine) (p : Picture) {f g : Format}
    (h : f.strictness ≤ g.strictness) :
    (p.prepare engine f >>= fun q => q.prepare engine g) = p.prepare engine g ∧
    p.prepare engine .jpeg = onWhite <$> p.prepare engine .webp ∧
    (∀ q, p.prepare engine g = .ok q → q.canvas.size = p.canvas.size ∧
      (g = .jpeg → q.mode = .rgb) ∧ (g = .webp → q.mode = .rgb ∨ q.mode = .rgba)) ∧
    (p.EntryFits → ∃ q, p.prepare engine g = .ok q) := by
  refine ⟨?absorbs, forJpeg_eq p, ?spec, fun hfits => exists_prepare hfits g⟩
  -- Of six ways from a format to one at least as strict, those to JPEG are those to WEBP laid on
  -- white.
  case absorbs =>
    cases g with
    | png =>
      cases f with
      | png => exact forPng_forPng p
      | webp | jpeg => simp [Format.strictness] at h
    | webp =>
      cases f with
      | png => exact forPng_forWebp p
      | webp => exact forWebp_forWebp p
      | jpeg => simp [Format.strictness] at h
    | jpeg =>
      cases f with
      | png => exact bind_forJpeg (forPng_forWebp p)
      | webp => exact bind_forJpeg (forWebp_forWebp p)
      | jpeg => exact forJpeg_forJpeg p
  case spec =>
    intro q hq
    cases g with
    | png => exact ⟨forPng_size hq, nofun, nofun⟩
    | webp => exact ⟨(forWebp_spec hq).2, nofun, fun _ => (forWebp_spec hq).1⟩
    | jpeg => exact ⟨(forJpeg_spec hq).2, fun _ => (forJpeg_spec hq).1, nofun⟩

/-- A palette picture with a half transparent colour: its WEBP version has opacities, which JPEG
then lays on white just as it lays the palette picture itself. -/
theorem prepare_absorbs_of_palette :
    let palette : Palette := ⟨⟨#[10, 20, 30]⟩⟩
    let p : Picture := ⟨.indexed (Raster.solid 2 1 0) palette, some (.table ⟨#[128]⟩)⟩
    let veiled : Picture := plain (.rgba (Raster.solid 2 1 ⟨10, 20, 30, 128⟩))
    Format.webp.strictness ≤ Format.jpeg.strictness ∧
    p.prepare .exact .webp = .ok veiled ∧
    veiled.prepare .exact .jpeg = p.prepare .exact .jpeg := by
  intro palette p veiled
  have hwebp : p.prepare .exact .webp = .ok veiled := by
    simp only [p, prepare, forWebp, withAlpha, Raster.map_solid]
    rfl
  refine ⟨by decide, hwebp, ?_⟩
  have habsorbs := (prepare_absorbs .exact p (f := .webp) (g := .jpeg) (by decide)).1
  rwa [hwebp] at habsorbs

end Picture
end Reencode
