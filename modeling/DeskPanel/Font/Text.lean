import DeskPanel.Font.Raster
import DeskPanel.Font.Engine

/-!
# Text drawn with a font face

A face at a pixel size measures and draws text. The width of a run is the sum of its glyphs'
advances, in single precision from zero, rounded up; its height is the line size at that pixel
size, rounded up.

Drawing works in physical pixels: the pixel size and the logical position are multiplied by the
canvas scale. The baseline lies the rounded ascent below the top. Each glyph's mask is placed at
the rounded pen position plus the mask's left offset, with the mask's bottom its offset below
the baseline, and blended with the colour under the clip; the pen then moves on by the glyph's
advance.

## Main definitions

* `FontFace.measureAt`, `FontFace.drawAt`.
* `TextEngine.ofFace`.
-/

namespace DeskPanel

open Binary GlyphMask

namespace FontFace

/-- The extent of a run of text at a pixel size. -/
def measureAt (face : FontFace) (px : Binary32) : Measure := fun text =>
  let width := text.toList.foldl (fun w c => w + face.advanceAt (face.glyphOf c) px) nought
  let height := real face.lineSize * face.scaleAt px
  pure ⟨whole32 width.ceil, whole32 height.ceil⟩

/-- The mask of a glyph, taken from the masks already drawn when its glyph is among them. -/
def maskOf (face : FontFace) (px : Binary32) (drawn : List (Nat × GlyphMask)) (c : Char) :
    GlyphMask × List (Nat × GlyphMask) :=
  let i := face.glyphIndex c
  match drawn.find? (·.1 == i) with
  | some (_, m) => (m, drawn)
  | none =>
    let m := face.rasterize (face.glyphOf c) px
    (m, (i, m) :: drawn)

/-- Draws a run of text at a pixel size with the top left of its line at a logical point. -/
def drawAt (face : FontFace) (px : Binary32) (c : Canvas) (text : String) (x y : Int)
    (clip : ClipRect) (color : Color) : Checked Canvas := do
  let px := px * real c.scale
  let ascent := real face.ascent * face.scaleAt px
  let baseline ← IntRange.i32.add (← IntRange.i32.mul y c.scale) (whole32 ascent.round)
  let pen := real (← IntRange.i32.mul x c.scale)
  let (c, _, _) ← text.toList.foldlM (fun (c, pen, drawn) ch => do
      let (mask, drawn) := face.maskOf px drawn ch
      let m := mask.metrics
      let gx := whole32 (pen + real m.xmin).round
      let gy ← IntRange.i32.sub baseline (← IntRange.i32.add (IntRange.i32.wrap m.height) m.ymin)
      let c ← c.blendCoverage gx gy m.width mask.coverage clip color
      pure (c, pen + m.advance, drawn)) (c, pen, [])
  pure c

end FontFace

/-- The engine of a face at a pixel size. -/
def TextEngine.ofFace (face : FontFace) (px : Binary32) : TextEngine :=
  ⟨face.measureAt px, face.drawAt px⟩

end DeskPanel
