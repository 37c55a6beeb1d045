/-!
# Rasters

A raster is a rectangle of samples, row by row from the top, each row from the left. It holds as
many samples as its width times its height, by construction, so that whatever maps the samples one
by one keeps the size, and whatever rearranges them has to say where each comes from.
-/
namespace Reencode

/-- A rectangle of samples, row by row. -/
structure Raster (α : Type) where
  width : Nat
  height : Nat
  samples : Array α
  size_eq : samples.size = width * height
deriving DecidableEq

namespace Raster

variable {α β γ : Type}

/-- The raster with the sample `f x y` in column `x` of row `y`. -/
def ofFn (width height : Nat) (f : Nat → Nat → α) : Raster α where
  width := width
  height := height
  samples := Array.ofFn fun i : Fin (width * height) => f (i.val % width) (i.val / width)
  size_eq := by simp

/-- The raster with one sample everywhere. -/
def solid (width height : Nat) (a : α) : Raster α where
  width := width
  height := height
  samples := Array.replicate (width * height) a
  size_eq := by simp

/-- The sample in a column and a row, the default one outside. -/
def get [Inhabited α] (r : Raster α) (x y : Nat) : α := r.samples.getD (y * r.width + x) default

/-- Changes the samples one by one. -/
def map (f : α → β) (r : Raster α) : Raster β where
  width := r.width
  height := r.height
  samples := r.samples.map f
  size_eq := by simpa using r.size_eq

@[simp] theorem width_map (f : α → β) (r : Raster α) : (r.map f).width = r.width := rfl

@[simp] theorem height_map (f : α → β) (r : Raster α) : (r.map f).height = r.height := rfl

@[simp] theorem samples_map (f : α → β) (r : Raster α) :
    (r.map f).samples = r.samples.map f := rfl

theorem map_map (f : α → β) (g : β → γ) (r : Raster α) : (r.map f).map g = r.map (g ∘ f) := by
  simp [map]

@[simp] theorem map_solid (f : α → β) (width height : Nat) (a : α) :
    (solid width height a).map f = solid width height (f a) := by
  simp [map, solid]

@[simp] theorem map_id (r : Raster α) : r.map id = r := by simp [map]

/-- The rows, each from the left. -/
def row (r : Raster α) (y : Nat) : Array α :=
  r.samples.extract (y * r.width) (y * r.width + r.width)

/-! ## Rearranging -/

/-- Turned over from left to right. -/
def reversed [Inhabited α] (r : Raster α) : Raster α :=
  ofFn r.width r.height fun x y => r.get (r.width - 1 - x) y

/-- Upside down, still reading from left to right. -/
def flipped [Inhabited α] (r : Raster α) : Raster α :=
  ofFn r.width r.height fun x y => r.get x (r.height - 1 - y)

/-- With rows and columns exchanged. -/
def transposed [Inhabited α] (r : Raster α) : Raster α :=
  ofFn r.height r.width fun x y => r.get y x

end Raster
end Reencode
