import DeskPanel.Session.Wire
import DeskPanel.Binary.Arith
import DeskPanel.Word

/-!
# A scripted compositor

The compositor the panel is run against. It advertises its globals in a fixed order (the
compositor, shared memory, the layer shell, the window list, cursor shapes, then the seats and
the outputs); registry names count up from one over the globals present, and globals added
later continue the count. It answers each request as a compositor does, and records every
request it handles and every buffer committed to the panel's surface.

Binding answers at once: shared memory lists its two formats; a seat tells its capabilities,
then its name from version 2; an output tells its geometry and mode, then its scale (version 2
on), its name (version 4 on) and a closing `done` (version 2 on); the window list announces
every window, each with its title, application id and state when known and a closing `done`.

The first commit of the surface without a buffer is answered by a configure with the initial
size, if there is one. A commit with a buffer shows a frame, read from the buffer's memory as
it is when the commit is handled; the buffer is then held until the compositor releases it.
After a set number of frames the compositor may close the surface.

Beyond answering, the compositor acts as a script tells it: it configures and closes the
surface, moves it between outputs, changes scales and windows, moves pointers, releases
buffers, adds and withdraws seats and outputs, and posts protocol errors. A protocol error is
fatal: the compositor hangs up and handles nothing more. Serials count up from one over the
configures and the pointer events, as they are sent; a motion takes one too, though its message
does not carry it.

## Main definitions

* `SeatSpec`, `OutputSpec`, `WindowSpec`, `CompositorSpec`.
* `Compositor`, `Compositor.ofSpec`, `Compositor.handle`.
* `Action`, `Compositor.perform`.
-/

namespace DeskPanel

/-- A seat to offer. -/
structure SeatSpec where
  version : Nat := 5
  pointer : Bool := true
  name : Option String := none
  deriving Repr

/-- An output to offer; an output without a name is called after its index. -/
structure OutputSpec where
  version : Nat := 4
  name : Option String := none
  scale : Int := 1
  deriving Repr

/-- A window of the script, with what is known of it when it appears. -/
structure WindowSpec where
  id : Nat
  title : Option String := none
  appId : Option String := none
  state : Option (List Nat) := none
  deriving Repr

/-- What a compositor offers: the version of each singular global, if offered; its seats,
outputs and windows; the size of its first configure, if it sends one; and after how many
frames it closes the surface, if it does. -/
structure CompositorSpec where
  compositor : Option Nat := some 4
  shm : Option Nat := some 1
  layerShell : Option Nat := some 3
  toplevelManager : Option Nat := some 3
  cursorShape : Option Nat := some 1
  seats : List SeatSpec := [{}]
  outputs : List OutputSpec := [{}]
  windows : List WindowSpec := []
  configure : Option (Nat × Nat) := some (800, 30)
  closeAfterFrames : Option Nat := none
  deriving Repr

/-- A seat as the compositor keeps it. -/
structure SeatState where
  global : Global
  pointer : Bool
  name : String
  removed : Bool := false
  /-- The version of the panel's seat object, while there is one. -/
  bound : Option Nat := none
  /-- The versions of the panel's pointer objects on this seat. -/
  pointerObjects : List Nat := []

/-- An output as the compositor keeps it. -/
structure OutputState where
  global : Global
  name : String
  scale : Int
  removed : Bool := false
  /-- The version of the panel's output object, while there is one. -/
  bound : Option Nat := none

/-- A buffer the panel made. -/
structure BufferState where
  number : Nat
  width : Nat
  height : Nat
  stride : Nat
  format : Nat

/-- A frame shown on the surface: the buffer, its layout, the buffer scale, and its pixels as
read when the commit was handled. -/
structure ShownFrame where
  buffer : Nat
  width : Nat
  height : Nat
  stride : Nat
  format : Nat
  scale : Int
  pixels : ByteArray

/-- Something the script tells the compositor to do. Seats and outputs are named by index,
windows by their id, coordinates in surface pixels. -/
inductive Action where
  | configure (width height : Nat)
  | close
  | surfaceEnter (output : Nat)
  | surfaceLeave (output : Nat)
  | outputScale (output : Nat) (factor : Int)
  | window (w : WindowSpec)
  | title (id : Nat) (text : String)
  | appId (id : Nat) (text : String)
  | state (id : Nat) (raw : List Nat)
  | done (id : Nat)
  | windowClosed (id : Nat)
  | windowOutputEnter (id output : Nat)
  | windowOutputLeave (id output : Nat)
  | finish
  | seatCaps (seat : Nat) (pointer : Bool)
  | pointerEnter (seat : Nat) (x y : Binary64)
  | pointerMotion (seat : Nat) (x y : Binary64)
  | pointerButton (seat : Nat) (pressed : Bool) (button : Nat)
  | pointerLeave (seat : Nat)
  | release (buffer : Nat)
  | releaseAll
  | addSeat (s : SeatSpec)
  | addOutput (o : OutputSpec)
  | removeSeat (seat : Nat)
  | removeOutput (output : Nat)
  | postError (object : String) (code : Nat) (text : String)
  | unknown (name : String)

/-- The compositor's state. -/
structure Compositor where
  /-- The singular globals, in the order they were advertised. -/
  singles : List Global
  seats : List SeatState
  outputs : List OutputState
  nextName : Nat
  windows : List WindowSpec
  /-- The version of the panel's window list object, while there is one. -/
  manager : Option Nat := none
  finished : Bool := false
  /-- The handles the panel holds and that are still open. -/
  handles : List Handle := []
  nextHandle : Nat := 1
  serial : Nat := 0
  firstSize : Option (Nat × Nat)
  configured : Bool := false
  layerSurface : Bool := false
  attached : Option Nat := none
  bufferScale : Int := 1
  buffers : List BufferState := []
  /-- Buffers shown and not yet released, in the order they were first held. -/
  held : List Nat := []
  commits : Nat := 0
  closeAfter : Option Nat
  dead : Bool := false
  /-- The written form of every request handled, and every frame shown, since last taken. -/
  log : Array (List Field) := #[]
  frames : Array ShownFrame := #[]

namespace Compositor

/-- A seat offered under a registry name, with its index among the seats. -/
def seatOf (name index : Nat) (s : SeatSpec) : SeatState where
  global := ⟨name, .seat, s.version, index⟩
  pointer := s.pointer
  name := s.name.getD ("seat" ++ toString index)

/-- An output offered under a registry name, with its index among the outputs. -/
def outputOf (name index : Nat) (o : OutputSpec) : OutputState where
  global := ⟨name, .output, o.version, index⟩
  name := o.name.getD ("OUT-" ++ toString index)
  scale := o.scale

/-- The compositor of a spec, before anyone connected. -/
def ofSpec (spec : CompositorSpec) : Compositor :=
  let singles := [(Interface.compositor, spec.compositor), (.shm, spec.shm),
    (.layerShell, spec.layerShell), (.toplevelManager, spec.toplevelManager),
    (.cursorShape, spec.cursorShape)].filterMap fun (i, v) => v.map fun v => (i, v)
  let (singles, next) := singles.foldl (fun (gs, n) (i, v) => (gs ++ [⟨n, i, v, 0⟩], n + 1)) ([], 1)
  let (seats, next) := spec.seats.foldl (fun (ss, n) s => (ss ++ [seatOf n ss.length s], n + 1))
    ([], next)
  let (outputs, next) := spec.outputs.foldl
    (fun (os, n) o => (os ++ [outputOf n os.length o], n + 1)) ([], next)
  { singles, seats, outputs, nextName := next, windows := spec.windows,
    firstSize := spec.configure, closeAfter := spec.closeAfterFrames }

/-- The globals advertised now, in creation order. -/
def globals (c : Compositor) : List Global :=
  c.singles ++ (c.seats.filter (!·.removed)).map (·.global) ++
    (c.outputs.filter (!·.removed)).map (·.global)

/-- The next serial. -/
def nextSerial (c : Compositor) : Compositor × Nat := ({ c with serial := c.serial + 1 }, c.serial + 1)

/-- Changes the seat of an index. -/
def modifySeat (c : Compositor) (i : Nat) (f : SeatState → SeatState) : Compositor :=
  { c with seats := c.seats.modify i f }

/-- Changes the output of an index. -/
def modifyOutput (c : Compositor) (i : Nat) (f : OutputState → OutputState) : Compositor :=
  { c with outputs := c.outputs.modify i f }

/-- Opens a handle for a window and tells everything known of it. -/
def announce (c : Compositor) (w : WindowSpec) : Compositor × List Message :=
  let h : Handle := ⟨c.nextHandle, w.id⟩
  let c := { c with handles := c.handles ++ [h], nextHandle := c.nextHandle + 1 }
  (c, [Message.toplevel h] ++ (w.title.map (Message.title h)).toList ++
    (w.appId.map (Message.appId h)).toList ++ (w.state.map fun vs => Message.state h (ByteOrder.native.array vs)).toList ++
    [Message.done h])

/-- Announces every window in order. -/
def announceAll (c : Compositor) (ws : List WindowSpec) : Compositor × List Message :=
  ws.foldl (fun (c, ms) w => let (c, ms') := c.announce w; (c, ms ++ ms')) (c, [])

/-- What binding a global answers, the binding recorded. -/
def bound (c : Compositor) (g : Global) (v : Nat) : Compositor × List Message :=
  match g.iface with
  | .shm => (c, [.format 0, .format 1])
  | .seat =>
    match c.seats[g.index]? with
    | some s =>
      (c.modifySeat g.index (fun st => { st with bound := some v }),
        [.capabilities g s.pointer] ++ (if 2 ≤ v then [.seatName g s.name] else []))
    | none => (c, [])
  | .output =>
    match c.outputs[g.index]? with
    | some o =>
      (c.modifyOutput g.index (fun st => { st with bound := some v }),
        [.geometry g, .mode g] ++ (if 2 ≤ v then [.scale g o.scale] else []) ++
          (if 4 ≤ v then [.outputName g o.name] else []) ++ (if 2 ≤ v then [.outputDone g] else []))
    | none => (c, [])
  | .toplevelManager => announceAll { c with manager := some v } c.windows
  | _ => (c, [])

/-- A shown frame of a buffer, its pixels read from `memory`. -/
def frameOf (c : Compositor) (memory : List (Nat × ByteArray)) (b : BufferState) : ShownFrame :=
  let pixels := match memory.find? (·.1 == b.number) with
    | some (_, px) => px
    | none => ByteArray.mk (Array.replicate (b.stride * b.height) 0)
  ⟨b.number, b.width, b.height, b.stride, b.format, c.bufferScale, pixels⟩

/-- A commit: with a buffer attached it shows a frame and may close the surface after the set
number of frames; the first without one is answered by the first configure. -/
def committed (c : Compositor) (memory : List (Nat × ByteArray)) : Compositor × List Message :=
  match c.attached with
  | some n =>
    match c.buffers.find? (·.number == n) with
    | some b =>
      let held := if c.held.contains n then c.held else c.held ++ [n]
      let c := { c with
        frames := c.frames.push (c.frameOf memory b)
        attached := none
        held
        commits := c.commits + 1 }
      if c.closeAfter == some c.commits && c.layerSurface then (c, [.closed]) else (c, [])
    | none => ({ c with attached := none }, [])
  | none =>
    if c.configured then (c, [])
    else
      let c := { c with configured := true }
      match c.firstSize with
      | some (w, h) => let (c, s) := c.nextSerial; (c, [.configure s w h])
      | none => (c, [])

/-- Handles one request from the panel, recording it. Nothing is handled after a protocol
error. -/
def handle (memory : List (Nat × ByteArray)) (c : Compositor) (r : Request) :
    Compositor × List Message :=
  if c.dead then (c, [])
  else
    let c := match r.entry? with
      | some e => { c with log := c.log.push e }
      | none => c
    match r with
    | .bind g v => c.bound g v
    | .sync => (c, [.synced])
    | .getPointer s =>
      (c.modifySeat s.index fun st => { st with pointerObjects := st.pointerObjects ++ st.bound.toList }, [])
    | .getLayerSurface _ _ _ => ({ c with layerSurface := true }, [])
    | .commit => c.committed memory
    | .createBuffer n _ w h s f => ({ c with buffers := c.buffers ++ [⟨n, w, h, s, f⟩] }, [])
    | .bufferDestroy n =>
      ({ c with buffers := c.buffers.filter (·.number != n), held := c.held.erase n }, [])
    | .setBufferScale s => ({ c with bufferScale := s }, [])
    | .attach b => ({ c with attached := b }, [])
    | .handleDestroy h => ({ c with handles := c.handles.erase h }, [])
    | .pointerRelease s =>
      (c.modifySeat s.index (fun st => { st with pointerObjects := st.pointerObjects.drop 1 }), [])
    | .seatRelease s => (c.modifySeat s.index (fun st => { st with bound := none }), [])
    | .outputRelease o => (c.modifyOutput o.index (fun st => { st with bound := none }), [])
    | .layerSurfaceDestroy => ({ c with layerSurface := false }, [])
    | .managerStop => ({ c with manager := none }, [])
    | _ => (c, [])

/-- A surface coordinate as a fixed-point number with eight fractional bits, cut toward zero
and held to the 32-bit range. -/
def fixed (v : Binary64) : Int :=
  (v * Binary.Datum.ofInt 256).toIntSat IntRange.i32.lo IntRange.i32.hi

/-- The messages of a pointer event to each of the panel's pointers on a seat, each followed by
a frame for pointers of version 5 on. Every pointer event that is sent at all takes a serial,
whether or not its message carries it. -/
def pointerEvent (c : Compositor) (i : Nat) (m : Global → Nat → Message) :
    Compositor × List Message :=
  match c.seats[i]? with
  | some s =>
    if s.pointerObjects.isEmpty then (c, [])
    else
      let (c, n) := c.nextSerial
      (c, s.pointerObjects.flatMap fun v =>
        [m s.global n] ++ (if 5 ≤ v then [.pointerFrame s.global] else []))
  | none => (c, [])

/-- The messages for each open handle of a window. -/
def toWindow (c : Compositor) (id : Nat) (m : Handle → Message) : List Message :=
  (c.handles.filter (·.window == id)).map m

/-- The panel's object for an output of an index, if it has one. -/
def boundOutput? (c : Compositor) (i : Nat) : Option (Global × Nat) := do
  let o ← c.outputs[i]?
  let v ← o.bound
  return (o.global, v)

/-- Does what the script says. Nothing is done after a protocol error. -/
def perform (c : Compositor) (a : Action) : Compositor × List Message :=
  if c.dead then (c, [])
  else
    match a with
    | .configure w h =>
      if c.layerSurface then let (c, s) := c.nextSerial; (c, [.configure s w h]) else (c, [])
    | .close => (c, if c.layerSurface then [.closed] else [])
    | .surfaceEnter i => (c, ((c.boundOutput? i).map fun (g, _) => Message.enter g).toList)
    | .surfaceLeave i => (c, ((c.boundOutput? i).map fun (g, _) => Message.leave g).toList)
    | .outputScale i f =>
      let c := c.modifyOutput i (fun st => { st with scale := f })
      match c.boundOutput? i with
      | some (g, v) => (c, if 2 ≤ v then [.scale g f, .outputDone g] else [])
      | none => (c, [])
    | .window w => if c.manager.isSome && !c.finished then c.announce w else (c, [])
    | .title id t => (c, c.toWindow id (Message.title · t))
    | .appId id t => (c, c.toWindow id (Message.appId · t))
    | .state id raw => (c, c.toWindow id (Message.state · (ByteOrder.native.array raw)))
    | .done id => (c, c.toWindow id Message.done)
    | .windowClosed id =>
      ({ c with handles := c.handles.filter (·.window != id) }, c.toWindow id Message.toplevelClosed)
    | .windowOutputEnter id o =>
      (c, match c.boundOutput? o with
        | some (g, _) => c.toWindow id (Message.outputEnter · g)
        | none => [])
    | .windowOutputLeave id o =>
      (c, match c.boundOutput? o with
        | some (g, _) => c.toWindow id (Message.outputLeave · g)
        | none => [])
    | .finish =>
      if c.manager.isSome && !c.finished then ({ c with finished := true }, [.finished])
      else (c, [])
    | .seatCaps i p =>
      let c := c.modifySeat i (fun st => { st with pointer := p })
      match c.seats[i]? with
      | some s => (c, if s.bound.isSome then [.capabilities s.global p] else [])
      | none => (c, [])
    | .pointerEnter i x y =>
      c.pointerEvent i fun g n => .pointerEnter g n (fixed x) (fixed y)
    | .pointerMotion i x y => c.pointerEvent i fun g _ => .pointerMotion g (fixed x) (fixed y)
    | .pointerButton i p b => c.pointerEvent i fun g n => .pointerButton g n b p
    | .pointerLeave i => c.pointerEvent i fun g n => .pointerLeave g n
    | .release n =>
      if c.held.contains n then ({ c with held := c.held.erase n }, [.release n]) else (c, [])
    | .releaseAll => ({ c with held := [] }, c.held.map Message.release)
    | .addSeat s =>
      let st := seatOf c.nextName c.seats.length s
      ({ c with seats := c.seats ++ [st], nextName := c.nextName + 1 }, [.global st.global])
    | .addOutput o =>
      let st := outputOf c.nextName c.outputs.length o
      ({ c with outputs := c.outputs ++ [st], nextName := c.nextName + 1 }, [.global st.global])
    | .removeSeat i =>
      match c.seats[i]? with
      | some s =>
        if s.removed then (c, [])
        else (c.modifySeat i (fun st => { st with removed := true }), [.globalRemove s.global.name])
      | none => (c, [])
    | .removeOutput i =>
      match c.outputs[i]? with
      | some o =>
        if o.removed then (c, [])
        else (c.modifyOutput i (fun st => { st with removed := true }), [.globalRemove o.global.name])
      | none => (c, [])
    | .postError obj code t => ({ c with dead := true }, [.error obj code t])
    | .unknown name => ({ c with log := c.log.push [.text "unknown_action", .text name] }, [])

end Compositor

end DeskPanel
