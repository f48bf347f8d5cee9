import DeskPanel.Loop.Display

/-!
# The run loop

The outermost driver of the panel: it dispatches protocol events to the panel, renders when the
panel asks, flushes, waits, and reads. It starts idle; `start` dispatches what the handshake
queued and, unless that already ended it, sets it running and forces the first frame. Each turn
dispatches queued events, prepares a read, flushes (a flush that would block is fine, any other
fault ends the loop), waits, then reads when the protocol is ready and cancels the read
otherwise. A ready timeout or signal ends the loop; a clock tick is consumed and renders.

Frames are drawn only while running. Ending the loop releases the windows, then the buffers,
then the connection's objects.

## Main definitions

* `LoopState`, `RunLoop`.
* `RunLoop.respond`, `RunLoop.wake` — an event's and a wait's effect short of rendering.
* `RunLoop.start`, `RunLoop.turn` (`flushForWait`, then `await`), `RunLoop.shutdown`,
  `RunLoop.run`, `RunLoop.trace`.
-/

namespace DeskPanel

/-- Where a run loop stands. -/
inductive LoopState where
  | idle
  | running
  | terminating
  deriving DecidableEq, Repr, Inhabited

/-- The name of a loop state. -/
def LoopState.name : LoopState → String
  | .idle => "idle"
  | .running => "running"
  | .terminating => "terminating"

/-- A run loop over a display with state `δ` and sources with state `σ`. -/
structure RunLoop (δ σ η : Type) where
  display : δ
  sources : σ
  panel : Panel η
  pool : Pool PixelBuffer := {}
  state : LoopState := .idle

namespace RunLoop

variable {δ σ η : Type} [BEq η]

/-- What the loop needs besides its state: the display's and the sources' operations, the text
engine and the time of day for the clock. -/
structure Env (δ σ η : Type) where
  display : DisplayOps δ η
  sources : SourceOps σ δ
  engine : TextEngine
  now : TimeOfDay

/-- Ends the loop. -/
def terminate (l : RunLoop δ σ η) : RunLoop δ σ η := { l with state := .terminating }

/-- Renders a frame while running and submits it. -/
def render (env : Env δ σ η) (l : RunLoop δ σ η) : Checked (RunLoop δ σ η) := do
  if l.state != .running then return l
  let (panel, pool, display, frame?) ← l.panel.render l.pool env.display.buffers l.display
    env.engine env.now
  let display := match frame? with
    | some f => env.display.submit display f
    | none => display
  return { l with panel, pool, display }

/-- Lets go of released handles. -/
def releaseAll (env : Env δ σ η) (l : RunLoop δ σ η) (hs : List η) : RunLoop δ σ η :=
  { l with display := hs.foldl env.display.release l.display }

/-- Renders when asked to. -/
def renderIf (env : Env δ σ η) : RunLoop δ σ η × Bool → Checked (RunLoop δ σ η)
  | (l, redraw) => if redraw then render env l else pure l

/-- Answers one event short of rendering: the loop after it, and whether it asks for a frame. -/
def respond (env : Env δ σ η) (l : RunLoop δ σ η) (e : Event η) : RunLoop δ σ η × Bool :=
  let (panel, out, rel) := l.panel.handle e
  let l := releaseAll env { l with panel } rel
  match out with
  | .idle => (l, false)
  | .render => (l, true)
  | .activate k seat =>
    match l.panel.windows.get? k with
    | some w => ({ l with display := env.display.activate l.display w.id seat }, false)
    | none => (l, false)
  | .bufferReleased slot =>
    let l := { l with pool := l.pool.release slot }
    let (panel, pending) := l.panel.takePending
    ({ l with panel }, pending)
  | .terminate => (l.terminate, false)

/-- Answers one event; a press whose hit test overflows stops the loop with its fault. -/
def handle (env : Env δ σ η) (l : RunLoop δ σ η) (e : Event η) : Checked (RunLoop δ σ η) :=
  match l.panel.fault? e with
  | some f => throw f
  | none => renderIf env (respond env l e)

/-- Dispatches the queued events; a dispatch fault ends the loop, and the events handed out before
it are still answered. -/
def dispatchQueued (env : Env δ σ η) (l : RunLoop δ σ η) : Checked (RunLoop δ σ η) := do
  let ((events, r), display) := env.display.dispatch l.display
  let l := { l with display }
  let l := match r with
    | .ok () => l
    | .error _ => l.terminate
  events.foldlM (handle env) l

/-- Dispatches what the handshake queued and forces the first frame. -/
def start (env : Env δ σ η) (l : RunLoop δ σ η) : Checked (RunLoop δ σ η) := do
  let l ← dispatchQueued env l
  if l.state == .idle then render env { l with state := .running } else return l

/-- Prepares a read, dispatching queued events until the display lets it, for at most `spins`
more dispatches; `none` when no read was prepared: the loop stopped running meanwhile, or the
display still refused when the dispatches ran out. The turn then ends without reading, and the
next one dispatches and announces again. -/
def prepare (env : Env δ σ η) : Nat → RunLoop δ σ η → Checked (Option (RunLoop δ σ η) × RunLoop δ σ η)
  | spins, l =>
    let (ok, display) := env.display.prepareRead l.display
    let l := { l with display }
    if ok then pure (some l, l)
    else
      match spins with
      | 0 => pure (none, l)
      | n + 1 => do
        let l ← dispatchQueued env l
        if l.state != .running then pure (none, l) else prepare env n l

/-- Cancels the read a turn prepared. -/
def cancelRead (env : Env δ σ η) (l : RunLoop δ σ η) : RunLoop δ σ η :=
  { l with display := env.display.cancelRead l.display }

/-- The flush before a wait: only while running, and a flush that would block is fine while any
other fault cancels the read and ends the loop. Whether the loop goes on to wait comes second. -/
def flushForWait (env : Env δ σ η) (l : RunLoop δ σ η) : RunLoop δ σ η × Bool :=
  if l.state != .running then (cancelRead env l, false)
  else
    let (flushed, display) := env.display.flush l.display
    let l := { l with display }
    match flushed with
    | .error e => if !e.wouldBlock? then ((cancelRead env l).terminate, false) else (l, true)
    | .ok () => (l, true)

/-- Completes the prepared read: reads when the protocol is ready and cancels the read otherwise.
Second comes whether the loop lives on: not after a read that failed other than by blocking. -/
def completeRead (env : Env δ σ η) (l : RunLoop δ σ η) (ready : Ready) : RunLoop δ σ η × Bool :=
  if ready.protocol then
    let (r, display) := env.display.read l.display
    match r with
    | .error e => ({ l with display }, e.wouldBlock?)
    | .ok () => ({ l with display }, true)
  else (cancelRead env l, true)

/-- Waits for the sources and completes the read; a ready timeout or signal ends the loop. The
loop after the wait comes first, and second whether a clock tick was consumed, which asks for a
frame. -/
def wake (env : Env δ σ η) (l : RunLoop δ σ η) : RunLoop δ σ η × Bool :=
  let (waited, sources, display) := env.sources.wait l.sources l.display
  let l := { l with sources, display }
  match waited with
  | .error _ => ((cancelRead env l).terminate, false)
  | .ok ready =>
    let (l, alive) := completeRead env l ready
    if !alive then (l.terminate, false)
    else if ready.timeout || ready.signal then (l.terminate, false)
    else if ready.clock then ({ l with sources := env.sources.consumeTick l.sources }, true)
    else (l, false)

/-- Waits, reads, and renders on a clock tick. -/
def await (env : Env δ σ η) (l : RunLoop δ σ η) : Checked (RunLoop δ σ η) :=
  renderIf env (wake env l)

/-- One turn of the loop body; `spins` bounds the dispatches while preparing the read. -/
def turn (env : Env δ σ η) (spins : Nat) (l : RunLoop δ σ η) : Checked (RunLoop δ σ η) := do
  let l ← dispatchQueued env l
  let (prepared, l) ← prepare env spins l
  let some l := prepared | return l
  let (l, waits) := flushForWait env l
  if waits then await env l else return l

/-- Ends the loop and releases the windows, then the buffers, then the connection's objects. -/
def shutdown (env : Env δ σ η) (l : RunLoop δ σ η) : RunLoop δ σ η :=
  let (windows, rel) := l.panel.windows.clear
  let l := releaseAll env { l with state := .terminating, panel := { l.panel with windows } } rel
  let (pool, display) := l.pool.clear env.display.buffers l.display
  { l with pool, display := env.display.shutdown display }

/-- Turns while running, at most `turns` times. -/
def turns (env : Env δ σ η) (spins : Nat) : Nat → RunLoop δ σ η → Checked (RunLoop δ σ η)
  | 0, l => pure l
  | n + 1, l => do
    if l.state != .running then return l
    turns env spins n (← turn env spins l)

/-- Starts, turns while running (at most `limit` turns), and shuts down. -/
def run (env : Env δ σ η) (spins limit : Nat) (l : RunLoop δ σ η) : Checked (RunLoop δ σ η) := do
  let l ← start env l
  let l ← turns env spins limit l
  return shutdown env l

/-- The loop after each turn while running, at most `limit` turns. -/
def turnTrace (env : Env δ σ η) (spins : Nat) : Nat → RunLoop δ σ η → Checked (List (RunLoop δ σ η))
  | 0, _ => pure []
  | n + 1, l => do
    if l.state != .running then return []
    let l ← turn env spins l
    return l :: (← turnTrace env spins n l)

/-- The loop after each phase of a run: after starting, after each turn while running (at most
`limit` turns), and after shutting down. -/
def trace (env : Env δ σ η) (spins limit : Nat) (l : RunLoop δ σ η) :
    Checked (List (RunLoop δ σ η)) := do
  let l ← start env l
  let ls ← turnTrace env spins limit l
  return l :: ls ++ [shutdown env (ls.getLast?.getD l)]

end RunLoop

end DeskPanel
