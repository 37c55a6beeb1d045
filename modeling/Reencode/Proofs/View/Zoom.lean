import Reencode.Proofs.Number.Order
import Reencode.View.Gesture

/-!
# The zoom stays within its bounds

A zoom multiplies, and what comes of it may be anything: beyond the bounds, an infinity, zero, or a
NaN, which is neither above nor below anything.  `View.clamp` brings all of it back.  It begins with
the lower bound and leaves it only for a product that is above it, so a product that cannot be
compared ends at the lower bound (`View.clamp_eq`).

Whatever a gesture does, it leaves the bounds alone and sets the zoom, if it does, to something
within them (`View.Bounded.perform`).
-/

namespace Reencode

namespace View

variable {v : View}

/-! ## Clamping -/

/-- The lower bound, unless the value is above it; the upper bound for a value above that. -/
lemma clamp_eq {low high : Number} (bounds : low.le high = true) (value : Number) :
    clamp value low high =
      if low.lt value then if high.lt value then high else value else low := by
  unfold clamp Number.max Number.min
  cases above : low.lt value with
  | true => rfl
  | false => simp [Number.lt_eq_false bounds]

/-- A value is brought within the bounds, whatever it is. -/
lemma clamp_within {low high : Number} (bounds : low.le high = true) (value : Number) :
    low.le (clamp value low high) = true ∧ (clamp value low high).le high = true := by
  obtain ⟨lowNumber, highNumber, -⟩ := Number.le_iff.mp bounds
  rw [clamp_eq bounds]
  split
  · rename_i above
    obtain ⟨-, number, -⟩ := Number.lt_iff.mp above
    split
    · exact ⟨bounds, Number.le_self highNumber⟩
    · rename_i below
      have below : high.lt value = false := by simpa using below
      exact ⟨Number.le_of_lt above, Number.le_of_not_lt number highNumber below⟩
  · exact ⟨Number.le_self lowNumber, bounds⟩

/-! ## Bounded views -/

/-- A view whose zoom is within its bounds, and so is the zoom that it is reset to. -/
structure Bounded (v : View) : Prop where
  low : v.minScale.le (.int 1) = true
  high : (Number.int 1).le v.maxScale = true
  above : v.minScale.le v.scale = true
  below : v.scale.le v.maxScale = true

lemma Bounded.bounds (h : v.Bounded) : v.minScale.le v.maxScale = true :=
  Number.le_trans h.low h.high

/-- Nothing but the zoom and its bounds matters. -/
lemma Bounded.congr (h : v.Bounded) {w : View} (scale : w.scale = v.scale)
    (minScale : w.minScale = v.minScale) (maxScale : w.maxScale = v.maxScale) : w.Bounded where
  low := minScale ▸ h.low
  high := maxScale ▸ h.high
  above := minScale ▸ scale ▸ h.above
  below := maxScale ▸ scale ▸ h.below

/-! ## Gestures -/

/-- What zooming does to a view: it sets the zoom to the product, brought within the bounds. -/
lemma zoomBy_eq_ok {factor : Number} {w : View} :
    v.zoomBy factor = .ok w ↔ factor.le (.int 0) = false ∧
      ∃ product, v.scale.mul factor = some product ∧
        w = { v with scale := clamp product v.minScale v.maxScale } := by
  unfold zoomBy
  cases factor.le (.int 0) with
  | true => simp
  | false => cases v.scale.mul factor <;> simp [eq_comm]

/-- A gesture zooms, or resets the view, or leaves the zoom and its bounds alone. -/
lemma perform_cases (v : View) (g : Gesture) :
    (∃ factor, (v.perform g).2 = (v.afterZoom (v.zoomBy factor)).2) ∨
      (v.perform g).2 = v.reset ∨
      ((v.perform g).2.scale = v.scale ∧ (v.perform g).2.minScale = v.minScale ∧
        (v.perform g).2.maxScale = v.maxScale) := by
  cases g with
  | zoomBy factor => exact .inl ⟨factor, rfl⟩
  | wheel turn => exact .inl ⟨_, rfl⟩
  | reset => exact .inr (.inl rfl)
  | startDrag pointerX pointerY =>
    obtain ⟨originX, originY, same⟩ := v.exists_perform_startDrag pointerX pointerY
    exact .inr (.inr (by simp [same]))
  | panTo pointerX pointerY =>
    obtain ⟨x, y, same⟩ := v.exists_perform_panTo pointerX pointerY
    exact .inr (.inr (by simp [same]))
  | stopDrag => exact .inr (.inr ⟨rfl, rfl, rfl⟩)

/-- No gesture moves the bounds. -/
lemma perform_bounds (v : View) (g : Gesture) :
    (v.perform g).2.minScale = v.minScale ∧ (v.perform g).2.maxScale = v.maxScale := by
  rcases v.perform_cases g with ⟨factor, zoomed⟩ | back | ⟨-, bounds⟩
  · obtain ⟨scale, same⟩ := v.exists_afterZoom factor
    simp [zoomed, same]
  · rw [back]
    exact ⟨rfl, rfl⟩
  · exact bounds

lemma after_bounds (v : View) (gestures : List Gesture) :
    (v.after gestures).minScale = v.minScale ∧ (v.after gestures).maxScale = v.maxScale := by
  induction gestures generalizing v with
  | nil => exact ⟨rfl, rfl⟩
  | cons g rest ih =>
    obtain ⟨low, high⟩ := v.perform_bounds g
    obtain ⟨low', high'⟩ := ih (v.perform g).2
    exact ⟨low'.trans low, high'.trans high⟩

namespace Bounded

/-- Zooming keeps a view bounded, whether it fails or not. -/
lemma afterZoom (h : v.Bounded) (factor : Number) :
    (v.afterZoom (v.zoomBy factor)).2.Bounded := by
  cases zoomed : v.zoomBy factor with
  | error failure => exact h
  | ok w =>
    obtain ⟨-, product, -, rfl⟩ := zoomBy_eq_ok.mp zoomed
    obtain ⟨above, below⟩ := clamp_within h.bounds product
    exact ⟨h.low, h.high, above, below⟩

/-- The zoom that a view is reset to is one. -/
lemma reset (h : v.Bounded) : v.reset.Bounded := by
  have one : (Number.int 1).le oneReal = true ∧ oneReal.le (.int 1) = true := by decide +kernel
  exact ⟨h.low, h.high, Number.le_trans h.low one.1, Number.le_trans one.2 h.high⟩

/-- A gesture keeps a view bounded. -/
lemma perform (h : v.Bounded) (g : Gesture) : (v.perform g).2.Bounded := by
  rcases v.perform_cases g with ⟨factor, zoomed⟩ | back | ⟨scale, low, high⟩
  · rw [zoomed]
    exact h.afterZoom factor
  · rw [back]
    exact h.reset
  · exact h.congr scale low high

lemma after (h : v.Bounded) (gestures : List Gesture) : (v.after gestures).Bounded := by
  induction gestures generalizing v with
  | nil => exact h
  | cons g rest ih => exact ih (h.perform g)

end Bounded

/-- **The zoom stays within its bounds.**  After any gestures, with any numbers, the zoom of a view
that began within its bounds is within the same bounds.  To zoom by a factor either sets the zoom to
the product, or to a bound if the product is beyond it; a product that compares with nothing becomes
the lower bound.  Or it fails, and leaves the whole view as it was; it does so for a factor that is
zero or negative, and for one whose product is too large for a double. -/
theorem zoom_stays_within_bounds (h : v.Bounded) (gestures : List Gesture) :
    let w := v.after gestures
    (w.minScale = v.minScale ∧ w.maxScale = v.maxScale) ∧
      (v.minScale.le w.scale = true ∧ w.scale.le v.maxScale = true) ∧
      ∀ factor,
        (∃ product scale, w.scale.mul factor = some product ∧
          scale = (if v.minScale.lt product then
            if v.maxScale.lt product then v.maxScale else product else v.minScale) ∧
          w.perform (.zoomBy factor) = (.ok (.zoom scale), { w with scale })) ∨
        ∃ failure, w.perform (.zoomBy factor) = (.error failure, w) ∧
          (factor.le (.int 0) = true ∨ w.scale.mul factor = none) := by
  intro w
  have bounded : w.Bounded := h.after gestures
  obtain ⟨low, high⟩ : w.minScale = v.minScale ∧ w.maxScale = v.maxScale := v.after_bounds gestures
  refine ⟨⟨low, high⟩, ⟨low ▸ bounded.above, high ▸ bounded.below⟩, fun factor => ?_⟩
  rw [perform]
  cases zoomed : w.zoomBy factor with
  | error failure =>
    refine .inr ⟨failure, rfl, ?_⟩
    by_contra fine
    obtain ⟨positive, product⟩ := not_or.mp fine
    obtain ⟨product, made⟩ := Option.ne_none_iff_exists'.mp product
    have good := zoomBy_eq_ok.mpr ⟨by simpa using positive, product, made, rfl⟩
    rw [good] at zoomed
    cases zoomed
  | ok w' =>
    obtain ⟨-, product, made, rfl⟩ := zoomBy_eq_ok.mp zoomed
    refine .inl ⟨product, _, made, ?_, rfl⟩
    rw [clamp_eq bounded.bounds, low, high]

/-- A view that is zoomed by NaN while it is dragged, and then by infinity, is within the bounds,
and to zoom it by minus one does nothing. -/
theorem zoom_stays_within_bounds_of_wild :
    let gestures : List Gesture := [.zoomBy (.real .nan), .startDrag (.int 3) (.int 4),
      .zoomBy (.real (.infinity false)), .panTo (.int 5) (.int 6)]
    let w := initial.after gestures
    initial.Bounded ∧ initial.minScale.le w.scale = true ∧ w.scale.le initial.maxScale = true ∧
      (w.perform (.zoomBy (.int (-1)))).2 = w := by
  intro gestures w
  have bounded : initial.Bounded := by constructor <;> decide +kernel
  obtain ⟨-, ⟨above, below⟩, zoomed⟩ := zoom_stays_within_bounds bounded gestures
  have refused : (w.perform (.zoomBy (.int (-1)))).1 = .error (factorFailure (.int (-1))) := rfl
  refine ⟨bounded, above, below, ?_⟩
  rcases zoomed (.int (-1)) with ⟨product, scale, -, -, went⟩ | ⟨failure, failed, -⟩
  · rw [went] at refused
    cases refused
  · rw [failed]

end View

end Reencode
