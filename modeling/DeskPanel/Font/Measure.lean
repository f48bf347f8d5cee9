import DeskPanel.Word

/-!
# Measuring text

A text measure gives the extent of a run of text in logical pixels. The panel lays out with any
measure; `fixedWidth` is the plain one, seven pixels per character and twelve high, whose width
is a 32-bit product that faults on overflow.

## Main definitions

* `TextSize`, `Measure`, `fixedWidth`.
-/

namespace DeskPanel

/-- The extent of a run of text. -/
structure TextSize where
  width : Int
  height : Int
  deriving DecidableEq, Repr, Inhabited

/-- A way to measure text. -/
abbrev Measure := String → Checked TextSize

/-- Seven pixels per character, twelve high. -/
def fixedWidth : Measure := fun s => do
  let w ← IntRange.i32.mul 7 (IntRange.i32.wrap s.length)
  pure ⟨w, 12⟩

end DeskPanel
