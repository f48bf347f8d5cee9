import DeskPanel.Word

/-!
# Widgets

A widget is a clickable span `[x, x + width)` of the panel, in logical pixels: a button of a
window, the clock or a spacer. Its right edge is computed in 32-bit arithmetic, which faults on
overflow; a point left of the widget is outside without computing it. A press goes to the first
widget that contains it, and only buttons act.

## Main definitions

* `Widget`, `Widget.right`, `Widget.contains`, `Widget.action`.
* `pressTarget` — what a press at a point activates.
-/

namespace DeskPanel

/-- What a widget shows; a button names its window by a key of type `κ`. -/
inductive WidgetKind (κ : Type) where
  | button (window : κ)
  | clock
  | spacer
  deriving DecidableEq, Repr, Inhabited

/-- A widget: its left edge, width and kind. -/
structure Widget (κ : Type) where
  x : Int
  width : Int
  kind : WidgetKind κ
  deriving DecidableEq, Repr, Inhabited

namespace Widget

variable {κ : Type}

/-- The right edge, exclusive. -/
def right (w : Widget κ) : Checked Int := IntRange.i32.add w.x w.width

/-- Whether the widget contains the point `x`. -/
def contains (w : Widget κ) (x : Int) : Checked Bool :=
  if w.x ≤ x then (x < ·) <$> w.right else pure false

/-- The window a press on the widget activates. -/
def action : Widget κ → Option κ
  | ⟨_, _, .button k⟩ => some k
  | _ => none

end Widget

/-- The window that a press at `x` activates: the action of the first widget containing it. -/
def pressTarget {κ : Type} : List (Widget κ) → Int → Checked (Option κ)
  | [], _ => pure none
  | w :: ws, x => do
    if ← w.contains x then pure w.action else pressTarget ws x

end DeskPanel
