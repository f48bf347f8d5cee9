import DeskPanel.Surface.Pool

/-!
# Buffer memory

Zeroed pixel memory of four bytes per pixel, made on request. The size in bytes is a 32-bit
unsigned product that faults on overflow. Making memory may be switched to fail, and the number
of buffers made is counted.

## Main definitions

* `PixelBuffer` — a buffer and the slot it was made for.
* `Memory`, `Memory.allocate`.
-/

namespace DeskPanel

/-- A pixel buffer and the slot it was made for. -/
structure PixelBuffer where
  slot : Slot
  pixels : ByteArray

/-- The state of buffer memory: whether making buffers fails, and how many were made. -/
structure Memory where
  failing : Bool := false
  allocations : Nat := 0

/-- Makes a zeroed buffer of `width × height` pixels, unless making buffers fails. -/
def Memory.allocate : Allocator Memory PixelBuffer where
  make slot width height m := do
    if m.failing then return (none, m)
    let area ← IntRange.u32.mul width height
    let bytes ← IntRange.u32.mul area 4
    return (some ⟨slot, ByteArray.mk (Array.replicate bytes.toNat 0)⟩,
      { m with allocations := m.allocations + 1 })
  drop _ m := m

end DeskPanel
