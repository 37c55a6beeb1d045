import Mathlib.Algebra.Group.Prod
import Mathlib.Tactic.Abel
import Reencode.Proofs.Number.Whole
import Reencode.View.Gesture

/-!
# Dragging moves the picture as far as the pointer

A view does not add up how far the pointer moves.  When it is pressed the view notes where the
pointer would be for no shift, and from then on each shift is read off the pointer alone.  So it
makes no difference which way the pointer takes, and a drag moves the picture by the distance from
where the pointer was pressed to where it was last moved to (`travel`).

That is a fact about integers, and `Drag` is the view with nothing but integers in it
(`Drag.shift_after`).  A view follows it as long as its numbers subtract exactly
(`View.Follows.after`): integers always do, whole doubles do up to `2 ^ 53`.
-/

namespace Reencode

/-! ## Strokes -/

/-- A step of a user who drags and zooms, with whole pointer coordinates. -/
inductive Stroke where
  | press (p : Int × Int)
  | move (p : Int × Int)
  | release
  | zoomBy (factor : Number)
  | wheel (turn : Number)

namespace Stroke

/-- The gesture of a stroke. -/
def gesture : Stroke → Gesture
  | press p => .startDrag (.int p.1) (.int p.2)
  | move p => .panTo (.int p.1) (.int p.2)
  | release => .stopDrag
  | zoomBy factor => .zoomBy factor
  | wheel turn => .wheel turn

/-- Whether the picture is held after the stroke, for one that takes hold of it or lets it go. -/
def holds? : Stroke → Option Bool
  | press _ => some true
  | release => some false
  | _ => none

/-- Where a stroke moves the pointer to. -/
def goal? : Stroke → Option (Int × Int)
  | move p => some p
  | _ => none

/-- The sizes of the coordinates of a stroke, together. -/
def size : Stroke → Nat
  | press p | move p => p.1.natAbs + p.2.natAbs
  | _ => 0

end Stroke

/-- Whether the picture is held after strokes: whether it was last taken hold of or let go. -/
def held (strokes : List Stroke) : Bool := (strokes.filterMap Stroke.holds?).getLast?.getD false

/-- Where the pointer is last moved to before the picture is let go or taken hold of anew. -/
def dragTo (strokes : List Stroke) : Option (Int × Int) :=
  ((strokes.takeWhile fun s => s.holds?.isNone).filterMap Stroke.goal?).getLast?

/-- How far strokes move the picture: for each time the pointer is pressed, from there to where the
drag ends. -/
def travel : List Stroke → Int × Int
  | [] => 0
  | .press p :: rest => ((dragTo rest).map (· - p)).getD 0 + travel rest
  | _ :: rest => travel rest

lemma dragTo_move (p : Int × Int) (rest : List Stroke) :
    dragTo (.move p :: rest) = some ((dragTo rest).getD p) := by
  simp [dragTo, Stroke.holds?, Stroke.goal?, List.getLast?_cons]

/-! ## A view of integers -/

/-- The shift of a picture, and where the pointer would be for no shift while the picture is
held. -/
structure Drag where
  shift : Int × Int
  origin : Option (Int × Int)

namespace Drag

/-- What a stroke does to the picture. -/
def step (d : Drag) : Stroke → Drag
  | .press p => { d with origin := some (p - d.shift) }
  | .move p => { d with shift := d.origin.elim d.shift (p - ·) }
  | .release => { d with origin := none }
  | .zoomBy _ | .wheel _ => d

/-- Moving the pointer does nothing unless the picture is held. -/
lemma step_move_of_none {d : Drag} (idle : d.origin = none) (p : Int × Int) :
    d.step (.move p) = d := by
  obtain ⟨shift, _⟩ := d
  obtain rfl := idle
  rfl

/-- The picture after strokes. -/
def after (d : Drag) (strokes : List Stroke) : Drag := strokes.foldl step d

/-- The drag that is going on ends where it takes the pointer, whatever came before; then come the
drags that begin later. -/
lemma shift_after (d : Drag) (strokes : List Stroke) :
    (d.after strokes).shift =
      (d.origin.bind fun o => (dragTo strokes).map (· - o)).getD d.shift + travel strokes := by
  -- Induction on the strokes from the first one, so that the state it starts from has to vary.
  induction strokes generalizing d with
  | nil => cases d.origin <;> simp [after, dragTo, travel]
  | cons s rest ih =>
    have next : (d.after (s :: rest)).shift = ((d.step s).after rest).shift := rfl
    rw [next, ih]
    cases s with
    | press p =>
      have ends : dragTo (.press p :: rest) = none := rfl
      -- a drag that begins at `p` moves by `q - p`, and this from where the picture is now
      have from_here : ∀ q, q - (p - d.shift) = d.shift + (q - p) := fun q => by abel
      cases goal : dragTo rest with
      | none => cases d.origin <;> simp [step, travel, ends, goal]
      | some q => cases d.origin <;> simp [step, travel, ends, goal, from_here, add_assoc]
    | move p =>
      cases h : d.origin with
      | none => simp [step, travel, h]
      | some o => cases goal : dragTo rest <;> simp [step, travel, dragTo_move, goal, h]
    | release =>
      have ends : dragTo (.release :: rest) = none := rfl
      cases d.origin <;> simp [step, travel, ends]
    | zoomBy factor =>
      have goes_on : dragTo (.zoomBy factor :: rest) = dragTo rest := rfl
      simp [step, travel, goes_on]
    | wheel turn =>
      have goes_on : dragTo (.wheel turn :: rest) = dragTo rest := rfl
      simp [step, travel, goes_on]

lemma isSome_origin_step (d : Drag) (s : Stroke) :
    (d.step s).origin.isSome = s.holds?.getD d.origin.isSome := by
  cases s <;> rfl

/-- The picture is held if it was last taken hold of. -/
lemma isSome_origin_after (d : Drag) (strokes : List Stroke) : (d.after strokes).origin.isSome =
    (strokes.filterMap Stroke.holds?).getLast?.getD d.origin.isSome := by
  induction strokes generalizing d with
  | nil => rfl
  | cons s rest ih =>
    have next : (d.after (s :: rest)).origin = ((d.step s).after rest).origin := rfl
    rw [next, ih, isSome_origin_step]
    cases h : s.holds? <;> simp [h, List.getLast?_cons]

/-- The numbers of the picture are at most so large. -/
structure Within (d : Drag) (bound : Nat) : Prop where
  shift : d.shift.1.natAbs + d.shift.2.natAbs ≤ bound
  origin : ∀ o ∈ d.origin, o.1.natAbs + o.2.natAbs ≤ bound

/-- A stroke enlarges the numbers by no more than its own. -/
lemma Within.step {d : Drag} {bound : Nat} (h : d.Within bound) (s : Stroke) :
    (d.step s).Within (bound + s.size) := by
  obtain ⟨shift, origin⟩ := h
  cases s with
  | press p =>
    refine ⟨Nat.le_add_right_of_le shift, ?_⟩
    rintro _ ⟨⟩
    -- The origin of a drag is the pointer less the shift, so it is bounded by both together.
    simp only [Prod.fst_sub, Prod.snd_sub, Stroke.size]
    omega
  | move p =>
    cases held : d.origin with
    | none =>
      have same : d.step (.move p) = d := step_move_of_none held p
      rw [same]
      exact ⟨Nat.le_add_right_of_le shift, fun o mem => Nat.le_add_right_of_le (origin o mem)⟩
    | some o =>
      have small := origin o held
      refine ⟨?_, fun o' mem => Nat.le_add_right_of_le (origin o' mem)⟩
      simp only [Drag.step, held, Option.elim_some, Prod.fst_sub, Prod.snd_sub, Stroke.size]
      omega
  | release => exact ⟨Nat.le_add_right_of_le shift, by simp [Drag.step]⟩
  | zoomBy | wheel => exact ⟨shift, origin⟩

end Drag

/-! ## Exact views -/

/-- Numbers stand for integers in such a way that it is exact to subtract one from an integer, if
the three integers are of certain sizes. -/
def Number.Subtract (stands : Number → Int → Prop) (fits : Nat → Prop) : Prop :=
  ∀ ⦃p a n⦄, stands a n → fits p.natAbs → fits n.natAbs → fits (p - n).natAbs →
    ∃ d, (Number.int p).sub a = some d ∧ stands d (p - n)

lemma Number.subtract_int : Number.Subtract (fun a n => a = .int n) fun _ => True := by
  rintro p _ n rfl - - -
  exact ⟨.int (p - n), rfl, rfl⟩

lemma Number.subtract_whole : Number.Subtract Number.Whole (· ≤ twoTo 53) := fun p _ _ whole =>
  Number.exists_sub_whole (a := .int p) rfl whole

namespace View

variable {stands : Number → Int → Prop} {fits : Nat → Prop} {v : View} {d : Drag} {bound : Nat}

/-- The numbers of the view stand for those of the picture. -/
structure Follows (stands : Number → Int → Prop) (v : View) (d : Drag) : Prop where
  x : stands v.x d.shift.1
  y : stands v.y d.shift.2
  dragging : v.dragging = d.origin.isSome
  origin : ∀ o ∈ d.origin, stands v.originX o.1 ∧ stands v.originY o.2

namespace Follows

lemma distance_eq_ok {a b c : Number} (h : a.sub b = some c) : distance a b = .ok c := by
  simp [distance, h]

/-- A zoom leaves alone what the picture consists of. -/
lemma zoom (h : v.Follows stands d) (factor : Number) :
    (v.afterZoom (v.zoomBy factor)).2.Follows stands d := by
  obtain ⟨scale, same⟩ := v.exists_afterZoom factor
  rw [same]
  exact ⟨h.x, h.y, h.dragging, h.origin⟩

/-- Moving the pointer while the picture is held. -/
lemma perform_move (sub : Number.Subtract stands fits) (h : v.Follows stands d)
    {o : Int × Int} (held : d.origin = some o) {p : Int × Int} (small : d.Within bound)
    (room : ∀ n ≤ bound + (Stroke.move p).size, fits n) :
    ∃ x y, stands x (p - o).1 ∧ stands y (p - o).2 ∧
      v.perform (Stroke.move p).gesture = (.ok (.moved true), { v with x, y }) := by
  have dragging : v.dragging = true := by rw [h.dragging, held]; rfl
  have origin := small.origin o held
  simp only [Stroke.size] at room
  obtain ⟨x, subX, standsX⟩ := sub (p := p.1) (h.origin o held).1 (room _ (by omega))
    (room _ (by omega)) (room _ (by omega))
  obtain ⟨y, subY, standsY⟩ := sub (p := p.2) (h.origin o held).2 (room _ (by omega))
    (room _ (by omega)) (room _ (by omega))
  refine ⟨x, y, standsX, standsY, ?_⟩
  simp [Stroke.gesture, View.perform, panTo, dragging, distance_eq_ok subX, distance_eq_ok subY,
    Except.map]

/-- A stroke does to the view what it does to the picture. -/
lemma perform (sub : Number.Subtract stands fits) (h : v.Follows stands d)
    (small : d.Within bound) (s : Stroke) (room : ∀ n ≤ bound + s.size, fits n) :
    (v.perform s.gesture).2.Follows stands (d.step s) := by
  cases s with
  | press p =>
    have shift := small.shift
    simp only [Stroke.size] at room
    obtain ⟨originX, subX, standsX⟩ := sub (p := p.1) h.x (room _ (by omega))
      (room _ (by omega)) (room _ (by omega))
    obtain ⟨originY, subY, standsY⟩ := sub (p := p.2) h.y (room _ (by omega))
      (room _ (by omega)) (room _ (by omega))
    have pressed : (v.perform (Stroke.press p).gesture).2 =
        { v with dragging := true, originX, originY } := by
      simp [Stroke.gesture, View.perform, startDrag, distance_eq_ok subX, distance_eq_ok subY]
    rw [pressed]
    refine ⟨h.x, h.y, rfl, ?_⟩
    rintro _ ⟨⟩
    exact ⟨standsX, standsY⟩
  | move p =>
    cases held : d.origin with
    | none =>
      have ignored : (v.perform (Stroke.move p).gesture).2 = v := by
        simp [Stroke.gesture, View.perform, panTo, h.dragging, held]
      rw [ignored, Drag.step_move_of_none held]
      exact h
    | some o =>
      obtain ⟨x, y, standsX, standsY, moved⟩ := h.perform_move sub held small room
      rw [moved]
      refine ⟨?_, ?_, h.dragging, h.origin⟩ <;> simpa [Drag.step, held]
  | release => exact ⟨h.x, h.y, rfl, by simp [Drag.step]⟩
  | zoomBy factor => exact h.zoom factor
  | wheel turn => exact h.zoom _

/-- Strokes do to the view what they do to the picture, if there is room for all of them. -/
lemma after (sub : Number.Subtract stands fits) (h : v.Follows stands d)
    (small : d.Within bound) (strokes : List Stroke)
    (room : ∀ n ≤ bound + (strokes.map Stroke.size).sum, fits n) :
    (v.after (strokes.map Stroke.gesture)).Follows stands (d.after strokes) := by
  induction strokes generalizing v d bound with
  | nil => exact h
  | cons s rest ih =>
    rw [List.map_cons, List.sum_cons] at room
    have first := h.perform sub small s fun n le => room n (by omega)
    exact ih first (small.step s) fun n le => room n (by omega)

end Follows

/-! ## Path independence -/

lemma held_eq (shift : Int × Int) (strokes : List Stroke) :
    ((Drag.mk shift none).after strokes).origin.isSome = held strokes :=
  Drag.isSome_origin_after ⟨shift, none⟩ strokes

lemma shift_after (shift : Int × Int) (strokes : List Stroke) :
    ((Drag.mk shift none).after strokes).shift = shift + travel strokes :=
  Drag.shift_after ⟨shift, none⟩ strokes

lemma follows_still {x y : Int} (hx : stands v.x x) (hy : stands v.y y)
    (still : v.dragging = false) : v.Follows stands ⟨(x, y), none⟩ :=
  ⟨hx, hy, still, by simp⟩

lemma within_still (x y : Int) : (Drag.mk (x, y) none).Within (x.natAbs + y.natAbs) :=
  ⟨Nat.le_refl _, by simp⟩

/-- **Dragging is path independent.**  A view whose shift is made of integers, and that is not being
dragged, is shifted by strokes with integer coordinates of any size as far as they travel, and a
move of the pointer is accepted when the picture is held.  Whatever the view and the numbers, a
zoom sets nothing but the zoom, a drag does not set it, and a move while nothing is dragged answers
that nothing moved, and nothing does. -/
theorem drag_is_path_independent {x y : Int} (hx : v.x = .int x) (hy : v.y = .int y)
    (still : v.dragging = false) (strokes : List Stroke) :
    let w := v.after (strokes.map Stroke.gesture)
    (w.x = .int (x + (travel strokes).1) ∧ w.y = .int (y + (travel strokes).2)) ∧
      (∀ p : Int × Int,
        (w.perform (.panTo (.int p.1) (.int p.2))).1 = .ok (.moved (held strokes))) ∧
      ∀ (u : View) (a b : Number),
        (u.dragging = false → u.perform (.panTo a b) = (.ok (.moved false), u)) ∧
        (∃ scale, (u.perform (.zoomBy a)).2 = { u with scale }) ∧
        (∃ scale, (u.perform (.wheel a)).2 = { u with scale }) ∧
        (u.perform (.startDrag a b)).2.scale = u.scale ∧
        (u.perform (.panTo a b)).2.scale = u.scale ∧ (u.perform .stopDrag).2.scale = u.scale := by
  intro w
  -- The view follows the ideal drag stroke by stroke; integers fit whatever their size.
  have start : v.Follows (fun a n => a = .int n) ⟨(x, y), none⟩ := follows_still hx hy still
  have follows := start.after Number.subtract_int (within_still x y) strokes fun _ _ => trivial
  obtain ⟨hx, hy, dragging, origin⟩ := follows
  rw [held_eq] at dragging
  rw [shift_after] at hx hy
  refine ⟨⟨hx, hy⟩, fun p => ?_, fun u a b => ⟨?_, u.exists_afterZoom a, u.exists_afterZoom _, ?_⟩⟩
  · cases holding : ((Drag.mk (x, y) none).after strokes).origin with
    | none =>
      have idle : held strokes = false := by rw [← held_eq (x, y), holding]; rfl
      simp [View.perform, panTo, dragging, idle, w, Except.map]
    | some o =>
      have busy : held strokes = true := by rw [← held_eq (x, y), holding]; rfl
      obtain ⟨originX, originY⟩ := origin o holding
      simp [View.perform, panTo, dragging, busy, w, originX, originY, distance, Number.sub,
        Number.combine, Except.map]
  · intro idle
    simp [View.perform, panTo, idle, Except.map]
  · obtain ⟨originX, originY, pressed⟩ := u.exists_perform_startDrag a b
    obtain ⟨x, y, moved⟩ := u.exists_perform_panTo a b
    rw [pressed, moved]
    exact ⟨rfl, rfl, rfl⟩

/-- The pointer is moved far away and back, the zoom fails in between, a drag is begun anew before
the first one ends, and the last move comes after it. -/
theorem drag_is_path_independent_of_restarted :
    let v : View := { initial with x := .int 5, y := .int (-7), scale := .int 2 }
    let strokes : List Stroke := [.move (1, 1), .press (3, 4), .move (2 ^ 80, -9),
      .zoomBy (.real .nan), .zoomBy (.int (-1)), .move (10, 10), .press (0, 0), .wheel (.int 1),
      .move (1, 2), .release, .move (50, 50)]
    v.dragging = false ∧ travel strokes = (8, 8) ∧
      (v.after (strokes.map Stroke.gesture)).x = .int 13 ∧
      (v.after (strokes.map Stroke.gesture)).y = .int 1 := by
  intro v strokes
  have far : travel strokes = (8, 8) := rfl
  obtain ⟨⟨x, y⟩, -⟩ := drag_is_path_independent (v := v) rfl rfl rfl strokes
  rw [far] at x y
  exact ⟨rfl, far, x, y⟩

/-- A view whose shift is whole, as that of a new view is, is shifted in the same way by doubles
too, as long as all coordinates together are no larger than the doubles that count exactly. -/
theorem whole_shift_after {x y : Int} (hx : v.x.Whole x) (hy : v.y.Whole y)
    (still : v.dragging = false) (strokes : List Stroke)
    (room : x.natAbs + y.natAbs + (strokes.map Stroke.size).sum ≤ twoTo 53) :
    let w := v.after (strokes.map Stroke.gesture)
    w.x.Whole (x + (travel strokes).1) ∧ w.y.Whole (y + (travel strokes).2) := by
  have start : v.Follows Number.Whole ⟨(x, y), none⟩ := follows_still hx hy still
  have follows := start.after Number.subtract_whole (within_still x y) strokes fun n le =>
    Nat.le_trans le room
  obtain ⟨hx, hy, -, -⟩ := follows
  rw [shift_after] at hx hy
  exact ⟨hx, hy⟩

example : initial.x.Whole 0 ∧ initial.y.Whole 0 := by
  refine ⟨⟨?_, ?_⟩, ⟨?_, ?_⟩⟩ <;> decide +kernel

end View

end Reencode
