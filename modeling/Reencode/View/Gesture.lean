import Reencode.View.Basic

/-!
# Gestures

What a user does to a view, as data: what happens to a view in the course of time is a list of
gestures. A gesture that fails leaves behind what it had done before.
-/
namespace Reencode

/-- A step of a user who looks at a picture. -/
inductive Gesture where
  | zoomBy (factor : Number)
  | wheel (turn : Number)
  | startDrag (pointerX pointerY : Number)
  | panTo (pointerX pointerY : Number)
  | stopDrag
  | reset

/-- What a gesture gives back. -/
inductive Gesture.Answer where
  | done
  | zoom (scale : Number)
  | moved (b : Bool)

namespace View

/-- The view that a zoom leads to, or the view as it was if the zoom fails. -/
def afterZoom (v : View) : Except Failure View → Except Failure Gesture.Answer × View
  | .ok w => (.ok (.zoom w.scale), w)
  | .error e => (.error e, v)

/-- Performs a gesture. -/
def perform (v : View) : Gesture → Except Failure Gesture.Answer × View
  | .zoomBy factor => v.afterZoom (v.zoomBy factor)
  | .wheel turn => v.afterZoom (v.wheel turn)
  | .startDrag pointerX pointerY =>
    let (result, v) := v.startDrag pointerX pointerY
    (result.map fun _ => .done, v)
  | .panTo pointerX pointerY =>
    let (result, v) := v.panTo pointerX pointerY
    (result.map .moved, v)
  | .stopDrag => (.ok .done, v.stopDrag)
  | .reset => (.ok .done, v.reset)

/-- The view after gestures, whether they fail or not. -/
def after (v : View) (gestures : List Gesture) : View :=
  gestures.foldl (fun v g => (v.perform g).2) v

/-! ## What a gesture leaves alone -/

/-- Zooming sets nothing but the zoom. -/
theorem exists_afterZoom (v : View) (factor : Number) :
    ∃ scale, (v.afterZoom (v.zoomBy factor)).2 = { v with scale } := by
  unfold zoomBy
  split
  · exact ⟨v.scale, rfl⟩
  · split
    · exact ⟨_, rfl⟩
    · exact ⟨v.scale, rfl⟩

/-- Beginning to drag sets nothing but where the drag began. -/
theorem exists_perform_startDrag (v : View) (pointerX pointerY : Number) :
    ∃ originX originY, (v.perform (.startDrag pointerX pointerY)).2 =
      { v with dragging := true, originX, originY } := by
  simp only [perform, startDrag]
  split
  · exact ⟨v.originX, v.originY, rfl⟩
  · split
    · exact ⟨_, v.originY, rfl⟩
    · exact ⟨_, _, rfl⟩

/-- Moving the pointer sets nothing but the shift. -/
theorem exists_perform_panTo (v : View) (pointerX pointerY : Number) :
    ∃ x y, (v.perform (.panTo pointerX pointerY)).2 = { v with x, y } := by
  simp only [perform, panTo]
  split
  · exact ⟨v.x, v.y, rfl⟩
  · split
    · exact ⟨v.x, v.y, rfl⟩
    · split
      · exact ⟨_, v.y, rfl⟩
      · exact ⟨_, _, rfl⟩

end View
end Reencode
