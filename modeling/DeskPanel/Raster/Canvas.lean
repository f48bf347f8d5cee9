import DeskPanel.Color
import DeskPanel.Raster.Clip
import DeskPanel.Raster.Cover

/-!
# The canvas

Drawing over one surface's pixel memory: four bytes per pixel, premultiplied red, green, blue
and alpha, rows top to bottom. Coordinates given to `fillRect` and `clip` are logical and are
multiplied by the scale, which is at least one; `blendCoverage` works in physical pixels.

* `clear` writes the colour premultiplied by whole-number rounding into every pixel.
* `fillRect` covers the pixels of `coverRects`. An opaque colour is written as it is; any other
  colour is blended over what is there in 8-bit arithmetic, `d' = s + (d·(255 − a_s) + 255) / 256`,
  with the source premultiplied in single precision.
* `blendCoverage` blends a colour through a mask of 8-bit coverage whose top-left corner lands at
  a point, skipping pixels outside the canvas or the clip: with `α = coverage · a / 255`, each
  channel becomes `(s·α + d·(255 − α)) / 255`, where the source alpha counts as 255. The mask's
  positions are 32-bit sums that fault on overflow.
* `finish` swaps red and blue in every pixel, as the compositor reads them.

## Main definitions

* `Canvas`, `Canvas.create?`.
* `Canvas.clear`, `Canvas.fillRect`, `Canvas.clip`, `Canvas.blendCoverage`, `Canvas.finish`.
-/

namespace DeskPanel

open Binary

/-- A canvas over pixel memory: the memory, whose first `4 · width · height` bytes are drawn
on, the size in physical pixels, and the scale. -/
structure Canvas where
  data : ByteArray
  width : Nat
  height : Nat
  scale : Int

namespace Canvas

/-- The number of bytes a canvas draws on. -/
def byteLength (c : Canvas) : Nat := c.width * c.height * 4

/-- A canvas over `data`, unless the memory is too small for the size or the size in bytes
leaves the 64-bit range. The scale is at least one. -/
def create? (data : ByteArray) (width height : Nat) (scale : Int) : Option Canvas :=
  let len := width * height * 4
  if IntRange.u64.contains (width * height) && IntRange.u64.contains len && len ≤ data.size then
    some ⟨data, width, height, max scale 1⟩
  else none

/-- Writes a byte of the memory, when the index is inside it. -/
def putByte (d : ByteArray) (i : Nat) (v : UInt8) : ByteArray :=
  if h : i < d.size then d.set i v h else d

/-- A byte of the memory; zero outside it. -/
def getByte (d : ByteArray) (i : Nat) : UInt8 := if h : i < d.size then d[i] else 0

/-- Changes the four bytes of the `count` pixels from pixel `start` of the memory. -/
def mapPixels (d : ByteArray) (start count : Nat)
    (f : UInt8 × UInt8 × UInt8 × UInt8 → UInt8 × UInt8 × UInt8 × UInt8) : ByteArray :=
  match count with
  | 0 => d
  | n + 1 =>
    let o := start * 4
    let (r, g, b, a) := f (getByte d o, getByte d (o + 1), getByte d (o + 2), getByte d (o + 3))
    let d := putByte (putByte (putByte (putByte d o r) (o + 1) g) (o + 2) b) (o + 3) a
    mapPixels d (start + 1) n f

/-- Changes the pixels of `rows` rows of a memory `stride` pixels wide, from row `y` and column
`x`, `count` pixels each. -/
def mapRows (d : ByteArray) (stride x y count rows : Nat)
    (f : UInt8 × UInt8 × UInt8 × UInt8 → UInt8 × UInt8 × UInt8 × UInt8) : ByteArray :=
  match rows with
  | 0 => d
  | n + 1 => mapRows (mapPixels d (y * stride + x) count f) stride x (y + 1) count n f

/-- Four bytes from a list of channel values. -/
def bytesOf (vs : List Nat) : UInt8 × UInt8 × UInt8 × UInt8 :=
  ((vs.getD 0 0).toUInt8, (vs.getD 1 0).toUInt8, (vs.getD 2 0).toUInt8, (vs.getD 3 0).toUInt8)

/-- The canvas with its memory changed by `f`; the memory is handed over, so that `f` may
change it in place. -/
def withData (c : Canvas) (f : ByteArray → ByteArray) : Canvas :=
  match c with
  | ⟨d, w, h, s⟩ => ⟨f d, w, h, s⟩

/-- Writes the colour, premultiplied, into every pixel. -/
def clear (c : Canvas) (color : Color) : Canvas :=
  let px := bytesOf color.premultiplied
  let n := c.width * c.height
  c.withData fun d => mapPixels d 0 n fun _ => px

/-! ### Filling rectangles -/

/-- A channel as a single-precision fraction of 255. -/
def unit (v : Nat) : Binary32 := Datum.ofInt v / Datum.ofInt 255

/-- A single-precision fraction as a byte: `v · 255 + ½`, truncated. -/
def toByte (v : Binary32) : Nat :=
  ((v * Datum.ofInt 255 + Cover.half).toIntSat 0 65535).toNat

/-- The colour as source bytes for filling: premultiplied in single precision. -/
def fillSource (color : Color) : List Nat :=
  let a := unit color.alpha
  if color.alpha = 255 then [color.red, color.green, color.blue].map (toByte ∘ unit) ++ [255]
  else [color.red, color.green, color.blue].map (fun v => toByte (unit v * a)) ++ [toByte a]

/-- Blends a premultiplied source over a destination byte in 8-bit arithmetic. -/
def blendOver (s sa d : Nat) : Nat := s + (d * (255 - sa) + 255) / 256

/-- What filling with premultiplied source bytes `src` does to one pixel: a `solid` source is
written as it is, any other blended over the pixel. -/
def fillWith (src : List Nat) (solid : Bool) (px : UInt8 × UInt8 × UInt8 × UInt8) :
    UInt8 × UInt8 × UInt8 × UInt8 :=
  if solid then bytesOf src
  else
    let sa := src.getD 3 0
    let (r, g, b, a) := px
    bytesOf [blendOver (src.getD 0 0) sa r.toNat, blendOver (src.getD 1 0) sa g.toNat,
      blendOver (src.getD 2 0) sa b.toNat, blendOver sa sa a.toNat]

/-- Fills a rectangle given in logical pixels, piece by piece. -/
def fillRect (c : Canvas) (x y w h : Int) (color : Color) : Canvas :=
  let src := fillSource color
  let solid := color.alpha == 255
  let width := c.width
  let paint (d : ByteArray) (r : PixelRect) : ByteArray :=
    mapRows d width r.x0 r.y0 (r.x1 - r.x0) (r.y1 - r.y0) (fillWith src solid)
  let pieces := coverRects x y w h c.scale c.width c.height
  c.withData fun d => pieces.foldl paint d

/-! ### Clips and coverage -/

/-- The physical clip of a logical rectangle, multiplied by the scale with saturation. -/
def clip (c : Canvas) (x y w h : Int) : ClipRect :=
  ⟨IntRange.i32.mulSat x c.scale, IntRange.i32.mulSat y c.scale,
    IntRange.i32.mulSat w c.scale, IntRange.i32.mulSat h c.scale⟩

/-- Blends one pixel of a coverage mask at `(px, py)`. -/
def blendAt (c : Canvas) (px py : Int) (cov : Nat) (color : Color) : Canvas :=
  let alpha := cov * color.alpha / 255
  let inv := 255 - alpha
  let o := (py.toNat * c.width + px.toNat) * 4
  let mix (s : Nat) (d : UInt8) : UInt8 := ((s * alpha + d.toNat * inv) / 255).toUInt8
  c.withData fun d =>
    let d := putByte d o (mix color.red (getByte d o))
    let d := putByte d (o + 1) (mix color.green (getByte d (o + 1)))
    let d := putByte d (o + 2) (mix color.blue (getByte d (o + 2)))
    putByte d (o + 3) (mix 255 (getByte d (o + 3)))

/-- Blends a colour through a coverage mask `maskWidth` wide whose top-left corner lands at
physical `(x, y)`, inside `clip`. -/
def blendCoverage (c : Canvas) (x y : Int) (maskWidth : Nat) (coverage : List Nat)
    (clip : ClipRect) (color : Color) : Checked Canvas :=
  if maskWidth = 0 then pure c
  else
    coverage.zipIdx.foldlM (fun c (cov, i) => do
      if cov = 0 then return c
      let px ← IntRange.i32.add x (IntRange.i32.wrap (i % maskWidth))
      let py ← IntRange.i32.add y (IntRange.i32.wrap (i / maskWidth))
      if px < 0 ∨ py < 0 ∨ IntRange.i32.wrap c.width ≤ px ∨ IntRange.i32.wrap c.height ≤ py then
        return c
      if !clip.contains px py then return c
      return c.blendAt px py cov color) c

/-- Swaps red and blue in every pixel. -/
def finish (c : Canvas) : Canvas :=
  let n := c.width * c.height
  c.withData fun d => mapPixels d 0 n fun (r, g, b, a) => (b, g, r, a)

end Canvas

end DeskPanel
