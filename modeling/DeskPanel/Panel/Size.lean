import DeskPanel.Word

/-!
# Physical sizes

A surface of logical size `width × height` at an integer scale has `scale` times as many pixels
each way. The size exists only for a scale that is not negative and products that fit both
32-bit unsigned and 32-bit signed words.

## Main definitions

* `physicalSize?`.
-/

namespace DeskPanel

/-- The physical size of a surface, when it is representable. -/
def physicalSize? (width height : Nat) (scale : Int) : Option (Nat × Nat) :=
  if scale < 0 then none
  else
    let w := width * scale.toNat
    let h := height * scale.toNat
    if w ≤ IntRange.i32.hi ∧ h ≤ IntRange.i32.hi then some (w, h) else none

end DeskPanel
