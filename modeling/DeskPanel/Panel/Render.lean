import DeskPanel.Clock
import DeskPanel.Markup
import DeskPanel.Panel.Core
import DeskPanel.Panel.Paint
import DeskPanel.Panel.Size
import DeskPanel.Surface.Memory

/-!
# Rendering a frame

A render lays the row out, takes a free buffer of the physical size, paints, swaps red and blue
for the compositor and submits the buffer. Nothing happens before the surface is configured or
when its physical size is not representable. When no buffer is free the frame is dropped and
marked pending, so that a released buffer brings it back; a failed allocation drops the frame
without marking it.

## Main definitions

* `Frame` — a submitted buffer.
* `Panel.render`.
-/

namespace DeskPanel

/-- A submitted frame: the buffer's slot, the physical size, the scale and the bytes. -/
structure Frame where
  slot : Nat
  width : Nat
  height : Nat
  scale : Int
  pixels : ByteArray

namespace Panel

variable {η σ : Type} [BEq η]

/-- The text on each window's button. -/
def buttonLabels (p : Panel η) : List (WindowKey × String) :=
  p.windows.entries.map fun (k, w) => (k, Markup.displayText w.label p.state.markup)

/-- The labels that are markup and fail to parse, with the fault, in the order of the windows. -/
def labelFaults (p : Panel η) : List (MarkupError × String) :=
  if !p.state.markup then []
  else p.windows.entries.filterMap fun (_, w) =>
    match Markup.text w.label with
    | .error e => some (e, w.label)
    | .ok _ => none

/-- Lays out, paints and submits one frame at the time of day `now`. Laying out notes the labels
whose markup failed to parse. -/
def render (p : Panel η) (pool : Pool PixelBuffer) (alloc : Allocator σ PixelBuffer) (mem : σ)
    (engine : TextEngine) (now : TimeOfDay) :
    Checked (Panel η × Pool PixelBuffer × σ × Option Frame) := do
  let st := p.state
  if st.width = 0 ∨ st.height = 0 then return (p, pool, mem, none)
  let some (pw, ph) := physicalSize? st.width st.height st.scale | return (p, pool, mem, none)
  let clockLabel := now.text
  let labels := p.buttonLabels
  let p := { p with markupFaults := p.markupFaults ++ p.labelFaults.toArray }
  let width := IntRange.i32.wrap st.width
  let height := IntRange.i32.wrap st.height
  let layout : RowLayout WindowKey := ⟨st.items, width, labels, clockLabel⟩
  let widgets ← layout.compute engine.measure
  let p := { p with widgets }
  let hadFree := pool.hasFree
  let (slot?, pool, mem) ← pool.acquire alloc mem pw ph
  let some i := slot? | return ({ p with pendingFrame := !hadFree }, pool, mem, none)
  let p := { p with pendingFrame := false }
  let some buf := pool.buffer? i | return (p, pool, mem, none)
  let some canvas := Canvas.create? buf.pixels pw ph st.scale | return (p, pool, mem, none)
  let scene : Scene η := ⟨widgets, p.windows, clockLabel, width, height, st.palette, labels⟩
  let canvas := (← scene.paint engine canvas).finish
  let pool := pool.modifyBuffer i fun b => { b with pixels := canvas.data }
  let frame : Frame := ⟨buf.slot.val, pw, ph, st.scale, canvas.data⟩
  return (p, pool.submit i, mem, some frame)

end Panel

end DeskPanel
