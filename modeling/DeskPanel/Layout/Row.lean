import DeskPanel.Font.Measure
import DeskPanel.Layout.Item
import DeskPanel.Layout.Widget

/-!
# Laying out the panel row

One pass over the items, left to right, in logical pixels and 32-bit arithmetic that faults on
overflow. A taskbar is one button per window, each as wide as its label plus padding on both
sides, at most 200, with 8 pixels before, between and after the buttons; without windows it
takes no space at all. A clock is as wide as its text plus padding. Every spacer gets the width
left over by the other items, never less than zero.

## Main definitions

* `RowLayout` — what a pass lays out: items, width, the windows' labels and the clock's text.
* `RowLayout.naturalWidth`, `RowLayout.spacerWidth`, `RowLayout.compute`.
-/

namespace DeskPanel

/-- Padding around buttons and label text. -/
def buttonPadding : Int := 8

/-- The widest a button gets. -/
def buttonMaxWidth : Int := 200

/-- One layout pass: the items, the panel's width, each window's key and label in order, and
the clock's text. -/
structure RowLayout (κ : Type) where
  items : List Item
  width : Int
  buttons : List (κ × String)
  clockLabel : String

namespace RowLayout

variable {κ : Type}

/-- The width of a button with a label. -/
def buttonWidth (m : Measure) (label : String) : Checked Int := do
  let s ← m label
  let w ← IntRange.i32.add s.width (2 * buttonPadding)
  pure (min w buttonMaxWidth)

/-- The width of the clock. -/
def clockWidth (l : RowLayout κ) (m : Measure) : Checked Int := do
  let s ← m l.clockLabel
  IntRange.i32.add s.width (2 * buttonPadding)

/-- The sum of the terms `f a`, added from the left, each term computed just before it is
added. -/
def sumBy {α : Type} (f : α → Checked Int) (xs : List α) : Checked Int :=
  xs.foldlM (fun acc a => do IntRange.i32.add acc (← f a)) 0

/-- The width an item would take on its own. -/
def naturalWidth (l : RowLayout κ) (m : Measure) : Item → Checked Int
  | .taskbar =>
    if l.buttons.isEmpty then pure 0
    else do
      let s ← sumBy (fun (_, label) => do
        IntRange.i32.add (← buttonWidth m label) buttonPadding) l.buttons
      IntRange.i32.add s buttonPadding
  | .clock => l.clockWidth m
  | .spacer => pure 0

/-- The width left over by every item that is not a spacer, never negative. -/
def spacerWidth (l : RowLayout κ) (m : Measure) : Checked Int := do
  let fixed ← sumBy (l.naturalWidth m) (l.items.filter (· != .spacer))
  let rest ← IntRange.i32.sub l.width fixed
  pure (max rest 0)

/-- The widgets of one item placed from `x`, and the position after them. -/
def place (l : RowLayout κ) (m : Measure) (spacer : Int) (x : Int) :
    Item → Checked (List (Widget κ) × Int)
  | .taskbar =>
    if l.buttons.isEmpty then pure ([], x)
    else do
      let x ← IntRange.i32.add x buttonPadding
      l.buttons.foldlM (fun (acc : List (Widget κ) × Int) (k, label) => do
        let w ← buttonWidth m label
        let step ← IntRange.i32.add w buttonPadding
        let next ← IntRange.i32.add acc.2 step
        pure (acc.1 ++ [⟨acc.2, w, .button k⟩], next)) ([], x)
  | .clock => do
    let w ← l.clockWidth m
    let next ← IntRange.i32.add x w
    pure ([⟨x, w, .clock⟩], next)
  | .spacer => do
    let next ← IntRange.i32.add x spacer
    pure ([⟨x, spacer, .spacer⟩], next)

/-- Every widget, placed left to right from zero. -/
def compute (l : RowLayout κ) (m : Measure) : Checked (List (Widget κ)) := do
  let spacer ← l.spacerWidth m
  let (ws, _) ← l.items.foldlM (fun (acc : List (Widget κ) × Int) item => do
    let (more, next) ← l.place m spacer acc.2 item
    pure (acc.1 ++ more, next)) ([], 0)
  pure ws

end RowLayout

end DeskPanel
