import DeskPanel.Config.Settings
import DeskPanel.Font.Engine
import DeskPanel.Layout.Row
import DeskPanel.Window.Registry

/-!
# Painting a frame

A frame is painted in logical pixels, in 32-bit arithmetic that faults on overflow: the
background colour everywhere; each window button as a rectangle inset 2 pixels from the top and
bottom edges, in the active colour for the active window, with its label; the clock's text; and
last a one-pixel line of the text colour along the bottom edge.

A label starts 8 pixels right of its widget's left edge, is centred vertically, and is clipped
to the widget less its padding: 16 pixels for a button, 8 for the clock.

## Main definitions

* `Scene`, `Scene.paint`.
-/

namespace DeskPanel

/-- How far buttons stand from the top and bottom edges. -/
def buttonInset : Int := 2

/-- Everything one frame draws. -/
structure Scene (η : Type) where
  widgets : List (Widget WindowKey)
  windows : Registry η
  clockLabel : String
  width : Int
  height : Int
  palette : Palette
  /-- The text on each window's button. -/
  labels : List (WindowKey × String)

namespace Scene

variable {η : Type} [BEq η]

/-- The text on a window's button. -/
def label (s : Scene η) (k : WindowKey) : String := (s.labels.lookup k).getD "?"

/-- Draws a label inside a widget, clipped to `clipWidth`. -/
def drawLabel (s : Scene η) (engine : TextEngine) (c : Canvas) (text : String) (w : Widget WindowKey)
    (clipWidth : Int) : Checked Canvas := do
  let x ← IntRange.i32.add w.x buttonPadding
  let m ← engine.measure text
  let y := (← IntRange.i32.sub s.height m.height).tdiv 2
  let clip := c.clip x 0 (max clipWidth 0) s.height
  engine.draw c text x y clip s.palette.text

/-- Paints one widget. -/
def paintWidget (s : Scene η) (engine : TextEngine) (c : Canvas) (w : Widget WindowKey) :
    Checked Canvas :=
  match w.kind with
  | .button k =>
    match s.windows.get? k with
    | none => pure c
    | some win => do
      let fill := if win.active then s.palette.buttonActive else s.palette.buttonBackground
      let h ← IntRange.i32.sub s.height (2 * buttonInset)
      let c := c.fillRect w.x buttonInset w.width h fill
      s.drawLabel engine c (s.label k) w (← IntRange.i32.sub w.width (2 * buttonPadding))
  | .clock => do s.drawLabel engine c s.clockLabel w (← IntRange.i32.sub w.width buttonPadding)
  | .spacer => pure c

/-- Paints the whole frame. -/
def paint (s : Scene η) (engine : TextEngine) (c : Canvas) : Checked Canvas := do
  let c := c.clear s.palette.background
  let c ← s.widgets.foldlM (s.paintWidget engine) c
  let bottom ← IntRange.i32.sub s.height 1
  pure (c.fillRect 0 bottom s.width 1 s.palette.text)

end Scene

end DeskPanel
