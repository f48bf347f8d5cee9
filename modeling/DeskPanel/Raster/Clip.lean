import DeskPanel.Word

/-!
# Clip rectangles

A clip rectangle limits drawing to `[x, x + width) × [y, y + height)` in physical pixels; its
far edges are computed with 32-bit saturating addition, so a rectangle reaching past the range
ends at its top.

## Main definitions

* `ClipRect`, `ClipRect.contains`.
-/

namespace DeskPanel

/-- A clip rectangle. -/
structure ClipRect where
  x : Int
  y : Int
  width : Int
  height : Int
  deriving DecidableEq, Repr, Inhabited

/-- Whether a point lies inside the rectangle. -/
def ClipRect.contains (c : ClipRect) (px py : Int) : Bool :=
  c.x ≤ px && px < IntRange.i32.addSat c.x c.width &&
    c.y ≤ py && py < IntRange.i32.addSat c.y c.height

end DeskPanel
