import DeskPanel.Font.Measure
import DeskPanel.Raster.Canvas

/-!
# Text engines

What the panel needs of a font: a measure, and a way to draw a run of text with its top-left
corner at a logical point, clipped to a physical rectangle. The plain engine measures with
`fixedWidth` and draws nothing.

## Main definitions

* `TextEngine`, `TextEngine.plain`.
-/

namespace DeskPanel

/-- A measure and a way to draw text on a canvas. -/
structure TextEngine where
  measure : Measure
  draw : Canvas → String → Int → Int → ClipRect → Color → Checked Canvas

/-- Seven pixels per character, and nothing drawn. -/
def TextEngine.plain : TextEngine := ⟨fixedWidth, fun c _ _ _ _ _ => pure c⟩

end DeskPanel
