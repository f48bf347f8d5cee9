import DeskPanel.Font.Face
import DeskPanel.Binary.Decimal
import DeskPanel.Word

/-!
# Glyph coverage

A glyph drawn at a pixel size becomes a small coverage mask: for each pixel, how much of it the
outline covers, as a byte. The outline is scaled by `px / unitsPerEm`; the mask's origin is
the whole part of the scaled bounds, and the outline keeps, within the first pixel, the
fraction its left edge has and the fraction that puts its bottom on a whole pixel. Heights grow
downward in the mask.

Coverage is signed area. Each edge that rises or falls is walked from its first end to its
second through the pixels it passes, crossing at each step the nearer of the next column and
the next row boundary. In each pixel it adds the height it spans there, split by where its
middle lies within the pixel: the part right of the edge to the pixel's own cell, the part left
of it to the next. A running sum over the whole mask, row after row, then leaves each pixel
with the area of the outline before it in its row, which is the covered fraction; the sum
takes the cells four at a time, pairwise within each four. Vertical edges
are walked first, then the sloped ones, each kind in the order the outline draws them. Every
step is rounded to single precision, and the fraction is scaled by 255.9, made positive and cut
to a byte.

## Main definitions

* `GlyphMetrics`, `GlyphMask`.
* `GlyphMask.walkRows`, `GlyphMask.walkCells` — one edge's share of the coverage.
* `FontFace.scaleAt`, `FontFace.rasterize`.
-/

namespace DeskPanel

open Binary

/-- Where a glyph's mask lies relative to the pen and the baseline, its size in pixels, and how
far the glyph moves the pen. -/
structure GlyphMetrics where
  xmin : Int
  ymin : Int
  width : Nat
  height : Nat
  advance : Binary32

/-- A glyph drawn at a size: its metrics and the coverage byte of each pixel, row by row. -/
structure GlyphMask where
  metrics : GlyphMetrics
  coverage : List Nat

namespace GlyphMask

/-- The single-precision value nearest to an integer. -/
def real (i : Int) : Binary32 := Datum.ofInt i

/-- Positive zero. -/
def nought : Binary32 := Datum.zero false

/-- The part of a value after its whole part toward zero. -/
def fract (v : Binary32) : Binary32 := v - v.trunc

/-- A fraction moved up by one when its sign is negative. -/
def lift (v : Binary32) : Binary32 := if v.negative then v + real 1 else v

/-- A value's whole part, as an integer. -/
def whole (v : Binary32) : Int := v.toIntSat IntRange.i64.lo IntRange.i64.hi

/-- A value's whole part toward zero, saturated to 32 bits. -/
def whole32 (v : Binary32) : Int := v.toIntSat IntRange.i32.lo IntRange.i32.hi

/-- The factor from a covered fraction to a byte: the single-precision value nearest 255.9. -/
def byteScale : Binary32 := Datum.ofDecimal false 2559 (-1)

/-- The byte of a covered fraction: scaled, made positive, capped at 255, cut toward zero. -/
def byteOf (v : Binary32) : Nat :=
  (Datum.min (v * byteScale).abs (real 255)).toIntSat 0 255 |>.toNat

/-- The next value toward zero, for a positive value. -/
def below (v : Binary32) : Binary32 := ⟨v.bits - 1⟩

/-- The cell a coordinate lies in, as a whole value; a coordinate on a cell boundary counts to
the cell before it when `back` holds. -/
def cell (v : Binary32) (back : Bool) : Binary32 := (if back then below v else v).trunc

/-- Adds a value to one cell of the accumulation buffer; cells outside it are left alone. -/
def addAt (a : Array Binary32) (i : Int) (v : Binary32) : Array Binary32 :=
  if 0 ≤ i then a.modify i.toNat (· + v) else a

/-- Adds one pixel's share of an edge: of the height the edge spans there, the part right of
the edge's middle `mid` goes to the pixel's own cell, the rest to the next cell. -/
def addShare (a : Array Binary32) (i : Int) (height mid : Binary32) : Array Binary32 :=
  let m := height * mid
  addAt (addAt a i (height - m)) (i + 1) m

/-- Walks a vertical edge through its rows: `n` more row boundaries to cross, the next one at
`target`, each crossing moving the cell by `rowStep`; the edge ends at height `stop`. -/
def walkRows (mid step stop : Binary32) (rowStep : Int) :
    Nat → Array Binary32 → Int → Binary32 → Binary32 → Array Binary32
  | 0, a, i, prev, _ => addShare a i (prev - stop) mid
  | n + 1, a, i, prev, target =>
    walkRows mid step stop rowStep n (addShare a i (prev - target) mid) (i + rowStep) target
      (target + step)

/-- A sloped edge in mask pixels: its ends, its extent, how much of the edge's course one
column and one row take, and the way it moves across columns and rows. -/
structure Slope where
  x0 : Binary32
  y0 : Binary32
  x1 : Binary32
  y1 : Binary32
  dx : Binary32
  dy : Binary32
  perColumn : Binary32
  perRow : Binary32
  stepX : Binary32
  stepY : Binary32
  columnStep : Int
  rowStep : Int

/-- Where a walk along a sloped edge stands: its cell, the point it last reached, the next
column and row boundaries ahead, and how far along the edge it meets each. -/
structure Walk where
  index : Int
  x : Binary32
  y : Binary32
  nextColumn : Binary32
  nextRow : Binary32
  atColumn : Binary32
  atRow : Binary32

/-- The middle of two positions, as a fraction of the pixel they share. -/
def midway (a b : Binary32) : Binary32 := fract ((a + b) / real 2)

/-- Walks a sloped edge through `n` more cell boundaries, crossing each time the one it meets
first: the next column boundary when it comes strictly sooner, else the next row boundary. -/
def walkCells (e : Slope) : Nat → Array Binary32 → Walk → Array Binary32
  | 0, a, p => addShare a p.index (p.y - e.y1) (midway p.x e.x1)
  | n + 1, a, p =>
    if p.atColumn.lt p.atRow then
      let y := p.atColumn * e.dy + e.y0
      let x := p.nextColumn
      walkCells e n (addShare a p.index (p.y - y) (midway p.x x))
        { p with
          index := p.index + e.columnStep
          x := x
          y := y
          nextColumn := x + e.stepX
          atColumn := p.atColumn + e.perColumn }
    else
      let y := p.nextRow
      let x := p.atRow * e.dx + e.x0
      walkCells e n (addShare a p.index (p.y - y) (midway p.x x))
        { p with
          index := p.index + e.rowStep
          x := x
          y := y
          nextRow := y + e.stepY
          atRow := p.atRow + e.perRow }

/-- The whole value one, or zero. -/
def unitIf (b : Bool) : Binary32 := if b then real 1 else nought

/-- Adds one edge of an outline to the buffer of a mask `w` pixels wide. The edge is given in
font units from the outline's left and top, scaled by `s` (whose reciprocal is `inv`) and moved
by `(dx, dy)`. -/
def traceEdge (w : Nat) (s inv dx dy : Binary32) (a : Array Binary32) (e : Segment) :
    Array Binary32 :=
  let x0 := real e.x0 * s + dx
  let y0 := real e.y0 * s + dy
  let x1 := real e.x1 * s + dx
  let y1 := real e.y1 * s + dy
  let startX := cell x0 (e.x1 < e.x0)
  let startY := cell y0 (e.y1 < e.y0)
  let endY := cell y1 (e.y0 < e.y1)
  let index := whole32 (startX + startY * real w)
  let nextRow := startY + unitIf (e.y0 ≤ e.y1)
  if e.isVertical then
    let step := Datum.copySign (real 1) (y1 - y0)
    walkRows (fract x0) step y1 (whole32 (Datum.copySign (real w) step))
      (whole32 (startY - endY).abs).toNat a index y0 nextRow
  else
    let endX := cell x1 (e.x0 < e.x1)
    let ex := real (e.x1 - e.x0)
    let ey := real (e.y1 - e.y0)
    let perColumn := real 1 / ex * inv
    let perRow := real 1 / ey * inv
    let stepX := Datum.copySign (real 1) perColumn
    let stepY := Datum.copySign (real 1) perRow
    let nextColumn := startX + unitIf (e.x0 ≤ e.x1)
    let slope : Slope :=
      { x0, y0, x1, y1
        dx := ex * s
        dy := ey * s
        perColumn := perColumn.abs
        perRow := perRow.abs
        stepX, stepY
        columnStep := whole32 stepX
        rowStep := whole32 (Datum.copySign (real w) stepY) }
    let walk : Walk :=
      { index, x := x0, y := y0, nextColumn, nextRow
        atColumn := perColumn * (nextColumn - x0)
        atRow := perRow * (nextRow - y0) }
    walkCells slope (whole32 ((startX - endX).abs + (startY - endY).abs)).toNat a walk

/-- The running sums of four cells `c0 … c3` after the total `o` of the cells before them,
added in pairs: `c1 + c0`, then `(c2 + c1) + c0` and `(c3 + c2) + (c1 + c0)`, and only then
the total before. The last is the total after the four. -/
def fourSums (o c0 c1 c2 c3 : Binary32) : List Binary32 :=
  let low := c1 + c0
  [c0 + o, low + o, (c2 + c1) + c0 + o, (c3 + c2) + low + o]

/-- The running sum of the first `n` cells, each total as a coverage byte. The cells are summed
four at a time (`fourSums`), the last total of each four carried to the next. -/
def runningBytes (a : Array Binary32) (n : Nat) : List Nat :=
  let cellAt (i : Nat) : Binary32 := a.getD i nought
  let totals := ((List.range ((n + 3) / 4)).foldl (fun (o, out) g =>
    let sums := fourSums o (cellAt (4 * g)) (cellAt (4 * g + 1)) (cellAt (4 * g + 2))
      (cellAt (4 * g + 3))
    (sums.getLastD o, sums.reverse ++ out)) (nought, [])).2.reverse
  (totals.take n).map byteOf

end GlyphMask

namespace FontFace

open GlyphMask

/-- Pixels per font unit at a pixel size. -/
def scaleAt (face : FontFace) (px : Binary32) : Binary32 := px / real face.unitsPerEm

/-- How far a glyph moves the pen at a pixel size. -/
def advanceAt (face : FontFace) (g : Glyph) (px : Binary32) : Binary32 :=
  face.scaleAt px * real g.advance

/-- A glyph's coverage mask at a pixel size; no size at all gives an empty mask. -/
def rasterize (face : FontFace) (g : Glyph) (px : Binary32) : GlyphMask :=
  if px.le nought then ⟨⟨0, 0, 0, 0, nought⟩, []⟩
  else
    let s := face.scaleAt px
    let b := g.bounds
    let left := real b.xmin * s
    let bottom := real b.ymin * s
    let wide := real (b.xmax - b.xmin) * s
    let high := real (b.ymax - b.ymin) * s
    let dx := lift (fract left)
    let dy := lift (fract (real 1 - fract high - fract bottom))
    let w := (whole32 (wide + dx).ceil).toNat
    let h := (whole32 (high + dy).ceil).toNat
    let inv := real 1 / s
    let placed := g.edges.map fun e =>
      (⟨e.x0 - b.xmin, b.ymax - e.y0, e.x1 - b.xmin, b.ymax - e.y1⟩ : Segment)
    let ordered := placed.filter (·.isVertical) ++ placed.filter (!·.isVertical)
    let a := ordered.foldl (traceEdge w s inv dx dy) (Array.replicate (w * h + 3) nought)
    ⟨⟨whole32 left.floor, whole32 bottom.floor, w, h, s * real g.advance⟩, runningBytes a (w * h)⟩

end FontFace

end DeskPanel
