import Reencode.Failure
import Reencode.Settings.Basic

/-!
# Views

How a preview is zoomed and moved. The zoom stays within its bounds: a product beyond one becomes
the bound, and a product that compares with nothing becomes the lower bound. While the pointer
drags, the picture moves by as much as the pointer does.
-/
namespace Reencode

/-- Zoom and shift of a preview, and while the pointer drags it the place where the pointer would be
for no shift. -/
structure View where
  scale : Number
  x : Number
  y : Number
  dragging : Bool
  originX : Number
  originY : Number
  minScale : Number
  maxScale : Number
deriving DecidableEq

namespace View

/-- The number one as a double. -/
def oneReal : Number := .real Binary64.one

/-- The number zero as a double. -/
def zeroReal : Number := .real Binary64.zero

/-- Neither zoomed nor moved. -/
def initial : View where
  scale := oneReal
  x := zeroReal
  y := zeroReal
  dragging := false
  originX := zeroReal
  originY := zeroReal
  minScale := .real Settings.minScale
  maxScale := .real Settings.maxScale

/-- The number within bounds that is nearest to another one. -/
def clamp (value low high : Number) : Number := (low.max value).min high

/-- The failure of a factor that is zero or negative. It shows the factor, and fails itself if that
has no text. -/
def factorFailure (factor : Number) : Failure :=
  if factor.toValue.isWritable then .value ("缩放因子必须为正数，得到: " ++ factor.text)
  else Value.lengthFailure

/-- Multiplies the zoom by a factor, which must not be zero or negative. -/
def zoomBy (v : View) (factor : Number) : Except Failure View :=
  if factor.le (.int 0) then .error (factorFailure factor)
  else
    match v.scale.mul factor with
    | some product => .ok { v with scale := clamp product v.minScale v.maxScale }
    | none => .error .overflow

/-- Zooms by a turn of the wheel: down shrinks, anything else enlarges. -/
def wheel (v : View) (turn : Number) : Except Failure View :=
  v.zoomBy (.real (if (Number.int 0).lt turn then Settings.wheelOut else Settings.wheelIn))

/-- The difference of two coordinates. -/
def distance (a b : Number) : Except Failure Number :=
  match a.sub b with
  | some d => .ok d
  | none => .error .overflow

/-- Begins to drag. The coordinates are taken over one after the other, so that a failure in the
second keeps the first. -/
def startDrag (v : View) (pointerX pointerY : Number) : Except Failure Unit × View :=
  let v := { v with dragging := true }
  match distance pointerX v.x with
  | .error e => (.error e, v)
  | .ok originX =>
    let v := { v with originX }
    match distance pointerY v.y with
    | .error e => (.error e, v)
    | .ok originY => (.ok (), { v with originY })

/-- Moves with the pointer while dragging, and says whether it did. -/
def panTo (v : View) (pointerX pointerY : Number) : Except Failure Bool × View :=
  if !v.dragging then (.ok false, v)
  else
    match distance pointerX v.originX with
    | .error e => (.error e, v)
    | .ok x =>
      let v := { v with x }
      match distance pointerY v.originY with
      | .error e => (.error e, v)
      | .ok y => (.ok true, { v with y })

/-- Ends dragging. -/
def stopDrag (v : View) : View := { v with dragging := false }

/-- Neither zoomed nor moved nor dragged; the bounds stay. -/
def reset (v : View) : View := { initial with minScale := v.minScale, maxScale := v.maxScale }

/-- Whether the picture is shown as it is. -/
def isIdentity (v : View) : Bool :=
  v.scale.equal oneReal && v.x.equal zeroReal && v.y.equal zeroReal

/-- Shift and zoom. -/
def transform (v : View) : Number × Number × Number := (v.x, v.y, v.scale)

/-- The state of a view, by names. -/
def fields (v : View) : List (String × Value) := [
  ("x", v.x.toValue), ("y", v.y.toValue), ("scale", v.scale.toValue),
  ("dragging", .bool v.dragging), ("origin", .list [v.originX.toValue, v.originY.toValue])]

/-- Sets one of the numbers of a view, by its name. -/
def withNumber (v : View) (name : String) (n : Number) : View :=
  match name with
  | "scale" => { v with scale := n }
  | "x" => { v with x := n }
  | "y" => { v with y := n }
  | "drag_origin_x" => { v with originX := n }
  | "drag_origin_y" => { v with originY := n }
  | "min_scale" => { v with minScale := n }
  | "max_scale" => { v with maxScale := n }
  | _ => v

end View

/-- What the preview shows. -/
structure Preview where
  view : View
  showingSource : Bool
deriving DecidableEq

namespace Preview

/-- The output, as it is. -/
def initial : Preview := ⟨View.initial, false⟩

/-- Shows the source or the output, and resets the view. -/
def setMode (p : Preview) (showSource : Bool) : Preview := ⟨p.view.reset, showSource⟩

/-- Resets the view for another entry. -/
def onSelection (p : Preview) : Preview := { p with view := p.view.reset }

/-- The state of the preview, by names. -/
def fields (p : Preview) : List (String × Value) :=
  p.view.fields ++ [("showing_original", .bool p.showingSource)]

end Preview
end Reencode
