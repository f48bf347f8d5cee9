import DeskPanel.Panel.Render

/-!
# What the run loop drives

The run loop talks to two things: the display connection and the sources it waits on. Both are
given as operations on a state of their own, so that the loop runs against a real connection
or against a replay of recorded traffic alike.

Reading from the connection has two phases: `prepareRead` announces the intent and fails while
events are still queued; then exactly one of `read` and `cancelRead` completes it.

## Main definitions

* `DisplayError`, `DisplayError.wouldBlock?`.
* `Ready` — which sources are ready after a wait.
* `DisplayOps`, `SourceOps`.
-/

namespace DeskPanel

/-- A fault of the display connection. -/
inductive DisplayError where
  /-- The operation would block. -/
  | wouldBlock
  /-- The compositor reported a protocol error. -/
  | protocol (message : String)
  /-- The connection failed; `blocked` when the failure only says that it would block. -/
  | io (blocked : Bool) (message : String)
  deriving DecidableEq, Repr, Inhabited

/-- Whether a fault only says that the operation would block. -/
def DisplayError.wouldBlock? : DisplayError → Bool
  | .wouldBlock => true
  | .io blocked _ => blocked
  | .protocol _ => false

/-- The sources that are ready after a wait. -/
structure Ready where
  protocol : Bool := false
  timeout : Bool := false
  signal : Bool := false
  clock : Bool := false
  deriving DecidableEq, Repr, Inhabited

/-- The operations of a display connection with state `δ`, whose windows are named by ids of
type `η`. -/
structure DisplayOps (δ η : Type) where
  /-- Hands out the queued events it dispatched, and whether it faulted after them. -/
  dispatch : δ → (List (Event η) × Except DisplayError Unit) × δ
  /-- Announces a read; false while events are still queued. -/
  prepareRead : δ → Bool × δ
  read : δ → Except DisplayError Unit × δ
  cancelRead : δ → δ
  flush : δ → Except DisplayError Unit × δ
  /-- Makes and drops pixel buffers. -/
  buffers : Allocator δ PixelBuffer
  /-- Attaches a painted buffer to the panel surface and commits it. -/
  submit : δ → Frame → δ
  /-- Asks the compositor to activate a window for a seat. -/
  activate : δ → η → Nat → δ
  /-- Lets go of a window's handle. -/
  release : δ → η → δ
  /-- Destroys the connection's objects, once, after windows and buffers are gone. -/
  shutdown : δ → δ

/-- The operations of the sources waited on, with state `σ`, beside a connection with state
`δ`. -/
structure SourceOps (σ δ : Type) where
  /-- Blocks until some source is ready. The connection is among the sources, so its peer may
  act on it while the wait blocks. -/
  wait : σ → δ → Except String Ready × σ × δ
  /-- Takes the clock's tick once it was reported. -/
  consumeTick : σ → σ

end DeskPanel
