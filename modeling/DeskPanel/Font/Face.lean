/-!
# Font faces

A face gives every character a glyph and holds the line metrics of the font, all in font
units. A glyph is an advance and an outline of closed contours of straight edges. A level edge
bounds no area between itself and a scan line, so only the edges that rise or fall decide how
a glyph covers pixels.

The built-in face `FontFace.sample` is the face of the font files the panel ships with: a
capital A drawn as a sans-serif letter, and every other character as one hollow box.

## Main definitions

* `Segment`, `Glyph`, `Glyph.edges`, `Glyph.bounds`.
* `FontFace`, `FontFace.glyphOf`, `FontFace.lineSize`, `FontFace.sample`.
* `FontFace.decode` — the face held by a font file's bytes, or why there is none.
-/

namespace DeskPanel

/-- A straight segment of an outline, from `(x0, y0)` to `(x1, y1)`. -/
structure Segment where
  x0 : Int
  y0 : Int
  x1 : Int
  y1 : Int
  deriving DecidableEq, Repr

/-- Whether a segment runs straight up or down. -/
def Segment.isVertical (e : Segment) : Bool := e.x0 == e.x1

/-- The extent of an outline in font units. -/
structure Bounds where
  xmin : Int
  ymin : Int
  xmax : Int
  ymax : Int
  deriving DecidableEq, Repr

/-- A glyph: how far it moves the pen, and its outline as closed contours of points. -/
structure Glyph where
  advance : Nat
  contours : List (List (Int × Int))
  deriving DecidableEq, Repr

namespace Glyph

/-- The edges of one closed contour, the last point joined back to the first. -/
def contourEdges (c : List (Int × Int)) : List ((Int × Int) × (Int × Int)) :=
  match c with
  | [] => []
  | p :: _ => c.zip (c.drop 1 ++ [p])

/-- The edges of the outline that are not level, contour by contour, in the order they are
drawn. -/
def edges (g : Glyph) : List Segment :=
  g.contours.flatMap fun c =>
    (contourEdges c).filterMap fun ((x0, y0), (x1, y1)) =>
      if y0 ≠ y1 then some ⟨x0, y0, x1, y1⟩ else none

/-- The smallest box holding every point of the outline; all zero for an empty outline. -/
def bounds (g : Glyph) : Bounds :=
  match g.contours.flatten with
  | [] => ⟨0, 0, 0, 0⟩
  | (x, y) :: ps =>
    ps.foldl (fun b (x, y) => ⟨min b.xmin x, min b.ymin y, max b.xmax x, max b.ymax y⟩)
      ⟨x, y, x, y⟩

/-- A hollow box: the rectangle from `(left, bottom)` to `(right, top)` less the rectangle set
in from it by `stroke` on every side. The outer contour runs up the left side, the inner one
runs the other way round. -/
def box (advance : Nat) (left bottom right top stroke : Int) : Glyph :=
  ⟨advance,
    [[(left, bottom), (left, top), (right, top), (right, bottom)],
     [(left + stroke, bottom + stroke), (right - stroke, bottom + stroke),
      (right - stroke, top - stroke), (left + stroke, top - stroke)]]⟩

/-- A sans-serif capital A standing on the baseline, 656 units high and 540 wide: two legs
meeting under a flat top, joined by a crossbar, with a triangular counter above the bar. The
counter's contour is drawn first, then the letter's outer one; both run clockwise, as the outer
one of the box does. -/
def capitalA : Glyph :=
  ⟨540,
    [[(173, 267), (369, 267), (270, 587)],
     [(6, 0), (224, 656), (320, 656), (541, 0), (452, 0), (390, 200), (151, 200), (85, 0)]]⟩

end Glyph

/-- A font face: units per em, line metrics, glyphs and the characters they draw. A character
with no glyph of its own is drawn with the first glyph. -/
structure FontFace where
  unitsPerEm : Nat
  ascent : Int
  descent : Int
  lineGap : Int
  glyphs : List Glyph
  charMap : List (Char × Nat)
  deriving DecidableEq, Repr

namespace FontFace

/-- The index of the glyph that draws a character. -/
def glyphIndex (face : FontFace) (c : Char) : Nat :=
  match face.charMap.find? (·.1 == c) with
  | some (_, i) => if i < face.glyphs.length then i else 0
  | none => 0

/-- The glyph that draws a character. -/
def glyphOf (face : FontFace) (c : Char) : Glyph :=
  face.glyphs.getD (face.glyphIndex c) ⟨0, []⟩

/-- The distance from one baseline to the next: ascent less descent plus the line gap. -/
def lineSize (face : FontFace) : Int := face.ascent - face.descent + face.lineGap

/-- The face of the shipped font files: a thousand units per em, a capital A of its own, and
every other character the same hollow box, five hundred units wide and seven hundred high with
a stroke of forty, advancing six hundred. -/
def sample : FontFace where
  unitsPerEm := 1000
  ascent := 1024
  descent := -400
  lineGap := 0
  glyphs := [Glyph.box 600 100 0 600 700 40, Glyph.capitalA]
  charMap := [('A', 1)]

/-- The four tags a font file may start with: a TrueType outline font, an Apple TrueType font,
an OpenType font with compact outlines, and a font collection. -/
def magics : List UInt32 := [0x00010000, 0x74727565, 0x4F54544F, 0x74746366]

/-- Why bytes that do not start with a known tag hold no face. -/
def unknownMagic : String :=
  "Face data must start with 0x00010000, 0x74727565, 0x4F54544F or 0x74746366."

/-- The big-endian word of the first four bytes, if there are four. -/
def leadingWord? (data : ByteArray) : Option UInt32 :=
  if data.size < 4 then none
  else
    some ((data.get! 0).toUInt32 <<< 24 ||| (data.get! 1).toUInt32 <<< 16 |||
      (data.get! 2).toUInt32 <<< 8 ||| (data.get! 3).toUInt32)

/-- What raw bytes decode to: without a known leading tag they are no font at all, and bytes
that carry a tag but are not one of the known faces are a malformed font. -/
def decode (data : ByteArray) : Except String FontFace :=
  match leadingWord? data with
  | some w => if magics.contains w then .error "Malformed font." else .error unknownMagic
  | none => .error unknownMagic

end FontFace

end DeskPanel
