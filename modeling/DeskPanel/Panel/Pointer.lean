import DeskPanel.Binary.Arith
import DeskPanel.Word

/-!
# Pointer positions

The last position of the pointer of each seat, in surface coordinates as double-precision
numbers. The horizontal position in whole pixels is the floor, brought into 32 bits by
saturation, with NaN as zero.

## Main definitions

* `Pointers`, `Pointers.update`, `Pointers.remove`, `Pointers.column?`.
-/

namespace DeskPanel

/-- The last pointer position of each seat. -/
structure Pointers where
  positions : List (Nat × Binary64 × Binary64) := []
  deriving Inhabited

namespace Pointers

/-- Records a seat's position. -/
def update (p : Pointers) (seat : Nat) (x y : Binary64) : Pointers :=
  ⟨(seat, x, y) :: p.positions.filter (·.1 != seat)⟩

/-- Forgets a seat. -/
def remove (p : Pointers) (seat : Nat) : Pointers := ⟨p.positions.filter (·.1 != seat)⟩

/-- The whole-pixel column of a seat's pointer, if the seat has a position. -/
def column? (p : Pointers) (seat : Nat) : Option Int :=
  (p.positions.find? (·.1 == seat)).map fun (_, x, _) =>
    x.floor.toIntSat IntRange.i32.lo IntRange.i32.hi

end Pointers

end DeskPanel
