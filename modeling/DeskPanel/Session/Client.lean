import DeskPanel.Session.Wire
import DeskPanel.Panel.Core

/-!
# The panel's side of the connection

What the panel keeps of its connection: requests written but not yet flushed, messages read
but not yet dispatched, and the objects it holds. Dispatching a message runs its handler,
which may write requests and hands the panel events.

The handlers follow the protocol. A new seat or output global is bound at once, seats at
version 5 at most and outputs at version 4 at most; a withdrawn one is dropped from its list by
moving the last entry into its place, and its objects are released where their version has a
release request. A seat that gains a pointer gets a pointer object; one that loses it releases
the object where it can. Entering the surface with a pointer sets the default cursor shape when
cursor shapes are offered. A configure is acknowledged at once. Messages to window handles the
panel destroyed, and releases of buffers it destroyed, are dropped. Coordinates arrive as
fixed-point numbers and become exact doubles. A window's state arrives as an array of words in
the machine's byte order; numbers that name no flag are ignored.

## Main definitions

* `ClientSeat`, `ClientOutput`, `Client`.
* `Client.parseStates`, `Client.receive`, `Client.dispatch`.
-/

namespace DeskPanel

/-- A seat the panel bound, at a version, with the version of its pointer object if it has
one. -/
structure ClientSeat where
  global : Global
  version : Nat
  pointer : Option Nat := none

/-- An output the panel bound, at a version, with its name once told. -/
structure ClientOutput where
  global : Global
  version : Nat
  name : Option String := none

/-- The panel's side of the connection. -/
structure Client where
  /-- Requests written and not yet flushed. -/
  outgoing : Array Request := #[]
  /-- Messages read and not yet dispatched. -/
  queue : List Message := []
  /-- Whether a read was announced. -/
  reading : Bool := false
  /-- Events handed out by the handlers and not yet taken. -/
  events : Array (Event Handle) := #[]
  seats : List ClientSeat := []
  outputs : List ClientOutput := []
  manager : Bool := false
  cursorShape : Bool := false
  layerShell : Nat := 0
  surface : Bool := false
  layerSurface : Bool := false
  /-- Window handles the panel destroyed. -/
  destroyed : List Handle := []
  /-- The slot each buffer was made for. -/
  bufferSlots : List (Nat × Nat) := []
  /-- The buffer that each slot holds now. -/
  slotBuffers : List (Nat × Nat) := []
  /-- Buffers the panel destroyed. -/
  deadBuffers : List Nat := []
  nextBuffer : Nat := 1
  /-- The protocol error that ended the connection, once read. -/
  broken : Option String := none

namespace Client

/-- Writes a request. -/
def send (c : Client) (r : Request) : Client := { c with outgoing := c.outgoing.push r }

/-- Hands out an event. -/
def emit (c : Client) (e : Event Handle) : Client := { c with events := c.events.push e }

/-- Removes the entry at an index by moving the last entry into its place. -/
def swapRemove {α : Type} (xs : List α) (i : Nat) : List α :=
  if i + 1 = xs.length then xs.take i
  else
    match xs.getLast? with
    | some last => (xs.set i last).dropLast
    | none => xs

/-- Binds a seat global. -/
def addSeat (c : Client) (g : Global) : Client :=
  let v := min g.version 5
  { c.send (.bind g v) with seats := c.seats ++ [⟨g, v, none⟩] }

/-- Binds an output global. -/
def addOutput (c : Client) (g : Global) : Client :=
  let v := min g.version 4
  { c.send (.bind g v) with outputs := c.outputs ++ [⟨g, v, none⟩] }

/-- Releases a seat's pointer (from version 3) and the seat itself (from version 5). -/
def releaseSeat (c : Client) (s : ClientSeat) : Client :=
  let c := match s.pointer with
    | some v => if 3 ≤ v then c.send (.pointerRelease s.global) else c
    | none => c
  if 5 ≤ s.version then c.send (.seatRelease s.global) else c

/-- Drops a withdrawn global: a seat or an output, released where it can be. -/
def removeGlobal (c : Client) (name : Nat) : Client :=
  match c.seats.findIdx? (·.global.name == name) with
  | some i =>
    match c.seats[i]? with
    | some s => ({ c with seats := swapRemove c.seats i }.releaseSeat s).emit (.seatRemoved name)
    | none => c
  | none =>
    match c.outputs.findIdx? (·.global.name == name) with
    | some i =>
      match c.outputs[i]? with
      | some o =>
        let c := { c with outputs := swapRemove c.outputs i }
        let c := if 3 ≤ o.version then c.send (.outputRelease o.global) else c
        c.emit (.outputRemoved name)
      | none => c
    | none => c

/-- A seat's pointer capability changed. -/
def capabilities (c : Client) (g : Global) (pointer : Bool) : Client :=
  match c.seats.findIdx? (·.global.name == g.name) with
  | some i =>
    match c.seats[i]?, pointer with
    | some s, true =>
      if s.pointer.isSome then c
      else { c.send (.getPointer g) with seats := c.seats.set i { s with pointer := some s.version } }
    | some s, false =>
      match s.pointer with
      | some v =>
        let c := if 3 ≤ v then c.send (.pointerRelease g) else c
        { c with seats := c.seats.set i { s with pointer := none } }
      | none => c
    | none, _ => c
  | none => c

/-- A fixed-point coordinate as a double. -/
def coordinate (v : Int) : Binary64 := Binary.Datum.div (Binary.Datum.ofInt v) (Binary.Datum.ofInt 256)

/-- The state a window reports: the flags that the complete words of its array name, each
word read in a byte order. -/
def parseStates (order : ByteOrder) (raw : List UInt8) : WindowState :=
  WindowState.ofRaw (order.words raw)

/-- Runs the handler of one message. -/
def receive (c : Client) (m : Message) : Client :=
  let live (h : Handle) (e : Event Handle) := if c.destroyed.contains h then c else c.emit e
  match m with
  | .global g =>
    match g.iface with
    | .seat => c.addSeat g
    | .output => c.addOutput g
    | _ => c
  | .globalRemove name => c.removeGlobal name
  | .capabilities g p => c.capabilities g p
  | .scale g f => c.emit (.outputScale g.name f)
  | .outputName g n =>
    { c with outputs := c.outputs.map fun o =>
        if o.global.name == g.name then { o with name := some n } else o }
  | .configure serial w h => (c.send (.ackConfigure serial)).emit (.configure w h)
  | .closed => c.emit .surfaceClosed
  | .enter g => c.emit (.surfaceEnter g.name)
  | .release n =>
    if c.deadBuffers.contains n then c
    else
      match c.bufferSlots.find? (·.1 == n) with
      | some (_, slot) => c.emit (.bufferReleased slot)
      | none => c
  | .toplevel h => c.emit (.appeared h)
  | .title h t => live h (.title h t)
  | .appId h t => live h (.appId h t)
  | .state h raw => live h (.state h (parseStates .native raw))
  | .done h => live h (.done h)
  | .toplevelClosed h => live h (.closed h)
  | .finished => { c with manager := false }
  | .pointerEnter g serial x y =>
    let c := if c.cursorShape then
        ((c.send (.cursorGetPointer g)).send (.cursorSetShape serial 1)).send .cursorDeviceDestroy
      else c
    c.emit (.pointerEnter g.name (coordinate x) (coordinate y))
  | .pointerMotion g x y => c.emit (.pointerMotion g.name (coordinate x) (coordinate y))
  | .pointerButton g serial _ pressed => c.emit (.button g.name serial pressed)
  | .error _ _ t => { c with broken := some t }
  | _ => c

/-- Dispatches every queued message in order. -/
def dispatch (c : Client) : Client :=
  let q := c.queue
  q.foldl receive { c with queue := [] }

end Client

end DeskPanel
