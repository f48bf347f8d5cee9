import DeskPanel.Binary.Arith
import DeskPanel.Word

/-!
# The pixels a rectangle covers

A rectangle `x, y, width, height` in logical pixels is filled without anti-aliasing on a pixmap
of `pw × ph` physical pixels at an integer scale. Coordinates become single-precision numbers,
the far edges are sums in that precision, and a rectangle with a negative extent is empty.
Numbers are brought into 32 bits by saturation at `±2147483520`, the widest single-precision
whole numbers inside that range.

Two ways of covering apply, as a raster library does:

* At scale 1 on a pixmap at most 8191 pixels each way, each edge is rounded on its own: the
  origin by `⌊v⌋ + ½` truncated (so a negative whole number moves up by one), the extent the
  same way but at least one pixel. A rectangle whose far edge leaves the 32-bit range is empty.
* Otherwise the rectangle is scaled as a path: a path with a non-finite corner or an extent of
  at most `1/4096` is not drawn. The pixmap is drawn in square tiles of 8191 pixels, row by
  row; for each tile the path is moved by minus the tile's corner, drawn, and moved back, each
  move in single precision, so that far edges drift. In a tile the path is drawn only when
  its bounds, brought into 32 bits, have a width and a height that are positive and inside
  the 32-bit range; then the pixels of the tile whose centres lie inside are covered.

Either way what is covered lies in the pixmap. All edges fall on whole pixels.

## Main definitions

* `PixelRect` — a nonempty range of pixel columns and rows.
* `Cover.tilesOf` — the tiles of a pixmap, in drawing order.
* `Cover.Edges.piecesIn` — what a path covers, tile by tile.
* `coverRects` — the pixels a rectangle covers, as pieces that do not overlap.
-/

namespace DeskPanel

open Binary

/-- A nonempty range of pixels `[x0, x1) × [y0, y1)`. -/
structure PixelRect where
  x0 : Nat
  y0 : Nat
  x1 : Nat
  y1 : Nat
  deriving DecidableEq, Repr, Inhabited

namespace Cover

/-- The side of the square tiles a large pixmap is drawn in, and the largest side of a pixmap
drawn in one piece. -/
def tileSide : Nat := 8191

/-- The widest whole number of single precision inside the 32-bit range, where saturation
stops. -/
def fitLimit : Int := 2147483520

/-- One half. -/
def half : Binary32 := Datum.ofRatio false (2 ^ Format.single.unitShift) 2

/-- The largest extent counted as none. -/
def nearlyZero : Binary32 := Datum.ofRatio false (2 ^ Format.single.unitShift) 4096

/-- An edge in whole pixels, brought into 32 bits by saturation. -/
def clampEdge (v : Binary32) : Int := v.toIntSat IntRange.i32.lo IntRange.i32.hi

/-- Whether the bounds `[a, b)`, brought into 32 bits, have a positive width in the 32-bit
range. -/
def boundsFit (a b : Binary32) : Bool :=
  let w := clampEdge b - clampEdge a
  0 < w && w ≤ IntRange.i32.hi

/-- Rounds an edge: `⌊v⌋ + ½`, truncated, saturated at `±fitLimit`. -/
def roundEdge (v : Binary32) : Int := (v.floor + half).toIntSat (-fitLimit) fitLimit

/-- The range `[a, b)` cut to `[0, n)`, when it keeps something. -/
def cut (a b : Int) (n : Nat) : Option (Nat × Nat) :=
  let lo := max a 0
  let hi := min b n
  if lo < hi then some (lo.toNat, hi.toNat) else none

/-- The first pixel whose centre is at or right of an edge at a whole number of pixels. -/
def firstCentre (v : Binary32) : Int := (v - half).ceil.toIntSat IntRange.i64.lo IntRange.i64.hi

/-- The starts of the tiles along a side of `n` pixels. -/
def tileStarts (n : Nat) : List Nat :=
  (List.range ((n + tileSide - 1) / tileSide)).map (· * tileSide)

/-- The tiles of a `pw × ph` pixmap, row by row and left to right in a row. -/
def tilesOf (pw ph : Nat) : List PixelRect :=
  (tileStarts ph).flatMap fun y =>
    (tileStarts pw).map fun x => ⟨x, y, min pw (x + tileSide), min ph (y + tileSide)⟩

/-- A coordinate moved by `d` pixels in single precision; a move by nothing leaves it as it
is. -/
def moveBy (v : Binary32) (d : Int) : Binary32 := if d = 0 then v else v + Datum.ofInt d

/-- The edges of a rectangular path: left, top, right and bottom. -/
structure Edges where
  left : Binary32
  top : Binary32
  right : Binary32
  bottom : Binary32

namespace Edges

/-- The path moved by `dx` pixels right and `dy` down. -/
def move (e : Edges) (dx dy : Int) : Edges :=
  ⟨moveBy e.left dx, moveBy e.top dy, moveBy e.right dx, moveBy e.bottom dy⟩

/-- What the path covers in a `tw × th` tile, the path given in the tile's coordinates, as
pixels of the tile. -/
def coverIn (e : Edges) (tw th : Nat) : Option PixelRect := do
  unless boundsFit e.left e.right && boundsFit e.top e.bottom do none
  let (x0, x1) ← cut (firstCentre e.left) (firstCentre e.right) tw
  let (y0, y1) ← cut (firstCentre e.top) (firstCentre e.bottom) th
  return ⟨x0, y0, x1, y1⟩

/-- What the path covers, tile by tile: it is moved into each tile's coordinates and back. -/
def piecesIn (e : Edges) : List PixelRect → List PixelRect
  | [] => []
  | t :: ts =>
    let inside := e.move (-(t.x0 : Int)) (-(t.y0 : Int))
    let here := (inside.coverIn (t.x1 - t.x0) (t.y1 - t.y0)).map fun p =>
      ⟨t.x0 + p.x0, t.y0 + p.y0, t.x0 + p.x1, t.y0 + p.y1⟩
    here.toList ++ piecesIn (inside.move t.x0 t.y0) ts

end Edges

/-- What a rectangle `[left, right) × [top, bottom)` covers when each edge is rounded on its
own, on a `pw × ph` pixmap. -/
def roundedCover (left top right bottom : Binary32) (pw ph : Nat) : Option PixelRect := do
  let rx := roundEdge left
  let ry := roundEdge top
  let rw := max 1 (roundEdge (right - left))
  let rh := max 1 (roundEdge (bottom - top))
  unless IntRange.i32.contains (rx + rw) && IntRange.i32.contains (ry + rh) do none
  let (x0, x1) ← cut rx (rx + rw) pw
  let (y0, y1) ← cut ry (ry + rh) ph
  return ⟨x0, y0, x1, y1⟩

/-- What a rectangular path covers on a `pw × ph` pixmap, drawn tile by tile, unless it has a
non-finite corner or extent or an extent of at most `nearlyZero`. -/
def pathCover (e : Edges) (pw ph : Nat) : List PixelRect :=
  let finite := e.left.isFinite && e.top.isFinite && e.right.isFinite && e.bottom.isFinite &&
    (e.right - e.left).isFinite && (e.bottom - e.top).isFinite
  if !finite || (e.right - e.left).le nearlyZero || (e.bottom - e.top).le nearlyZero then []
  else e.piecesIn (tilesOf pw ph)

end Cover

open Cover in
/-- The pixels a rectangle covers on a `pw × ph` pixmap at scale `scale` (at least one), as
pieces that do not overlap. -/
def coverRects (x y w h : Int) (scale : Int) (pw ph : Nat) : List PixelRect :=
  let fx : Binary32 := Datum.ofInt x
  let fy : Binary32 := Datum.ofInt y
  let right := fx + Datum.ofInt w
  let bottom := fy + Datum.ofInt h
  let s : Binary32 := Datum.ofInt scale
  -- a rectangle with a negative extent is no rectangle
  if !(fx.le right && fy.le bottom) || pw = 0 || ph = 0 then []
  else if scale = 1 ∧ pw ≤ tileSide ∧ ph ≤ tileSide then
    (roundedCover fx fy right bottom pw ph).toList
  else pathCover ⟨fx * s, fy * s, right * s, bottom * s⟩ pw ph

end DeskPanel
