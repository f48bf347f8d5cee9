import DeskPanel.Loop.Run

/-!
# Replayed traffic

A display and sources that replay recorded traffic instead of talking to a compositor and the
operating system, and that record what the loop did to them.

The display hands out its queued events at each dispatch, so a read can be prepared exactly
when the queue is empty; each read moves the next recorded batch of events into the queue. A
flush fails once with the recorded fault, if any. Submitted frames, activations, released
handles, reads and cancelled reads are recorded, and buffers come from `Memory`.

The sources return the recorded readiness sets in order, then a signal forever.

## Main definitions

* `Replay`, `Replay.ops`.
* `ReplaySources`, `ReplaySources.ops`.
-/

namespace DeskPanel

/-- A display replaying recorded events, with windows named by numbers. -/
structure Replay where
  queue : List (Event Nat) := []
  batches : List (List (Event Nat)) := []
  flushError : Option DisplayError := none
  memory : Memory := {}
  reads : Nat := 0
  cancelledReads : Nat := 0
  frames : Array Frame := #[]
  activations : Array (Nat × Nat) := #[]
  released : Array Nat := #[]
  shutDown : Bool := false

/-- The operations of a replaying display. -/
def Replay.ops : DisplayOps Replay Nat where
  dispatch d := ((d.queue, .ok ()), { d with queue := [] })
  prepareRead d := (d.queue.isEmpty, d)
  read d :=
    match d.batches with
    | b :: rest => (.ok (), { d with reads := d.reads + 1, queue := d.queue ++ b, batches := rest })
    | [] => (.ok (), { d with reads := d.reads + 1 })
  cancelRead d := { d with cancelledReads := d.cancelledReads + 1 }
  flush d :=
    match d.flushError with
    | some e => (.error e, { d with flushError := none })
    | none => (.ok (), d)
  buffers := ⟨fun slot w h d => do
    let (b, m) ← Memory.allocate.make slot w h d.memory
    return (b, { d with memory := m }), fun _ d => d⟩
  submit d f := { d with frames := d.frames.push f }
  activate d id seat := { d with activations := d.activations.push (id, seat) }
  release d id := { d with released := d.released.push id }
  shutdown d := { d with shutDown := true }

/-- Sources replaying recorded readiness sets. -/
structure ReplaySources where
  script : List Ready := []
  waits : Nat := 0
  ticksConsumed : Nat := 0

/-- The operations of replayed sources: the recorded sets in order, then a signal. -/
def ReplaySources.ops : SourceOps ReplaySources Replay where
  wait s d :=
    match s.script with
    | r :: rest => (.ok r, { s with script := rest, waits := s.waits + 1 }, d)
    | [] => (.ok { signal := true }, { s with waits := s.waits + 1 }, d)
  consumeTick s := { s with ticksConsumed := s.ticksConsumed + 1 }

end DeskPanel
