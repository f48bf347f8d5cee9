import DeskPanel.Session.Client
import DeskPanel.Session.Compositor
import DeskPanel.Loop.Display
import DeskPanel.Config.Settings
import DeskPanel.Text.Quote

/-!
# The connection

A session holds both ends of the connection and what travels between them: requests flushed
and not yet handled, messages sent and not yet read, and the shared memory of the pixel
buffers, which the compositor reads when it handles a commit.

Connecting lists the globals, binds those the panel needs (the compositor at version 4, shared
memory at version 1, the layer shell at version 1 to 3; the window list at 1 to 3 and cursor
shapes at 1 when offered) and every seat and output, then makes a round trip so that seats,
outputs and windows tell what they are. When the settings name an output, it must be among
them. Then the surface is made a layer surface on that output, anchored to its edge and both
sides, as high as the settings say with an exclusive zone of that height and no keyboard, and
committed; a second round trip brings the first configure.

For the run loop the session is a display whose reads take what the compositor sent, and a
script is its sources: each wait lets the compositor handle what was flushed, then act out the
next step of the script, and reports that step's ready set, or a signal once the script is
done.

## Main definitions

* `Session`, `Session.serve`, `Session.roundtrip`.
* `SurfaceOptions`, `SetupError`, `Endpoint`, `Session.connect`.
* `Session.ops`, `ScriptStep`, `Session.scriptOps`.
-/

namespace DeskPanel

/-- Both ends of a connection and what travels between them. -/
structure Session where
  client : Client
  /-- Requests flushed and not yet handled. -/
  toServer : List Request := []
  /-- Messages sent and not yet read. -/
  toClient : List Message := []
  server : Compositor
  /-- The pixels of each buffer. -/
  memory : List (Nat × ByteArray) := []

/-- Where the panel placed its surface: the output by name, the edge, the layer and the
height. -/
structure SurfaceOptions where
  output : Option String
  edge : Edge
  layer : Layer
  height : Nat

/-- The surface options of the settings. -/
def SurfaceOptions.ofSettings (s : Settings) : SurfaceOptions :=
  ⟨s.output, s.edge, s.layer, s.panelHeight⟩

/-- The anchor edges: the panel's edge and both sides. -/
def SurfaceOptions.anchor (o : SurfaceOptions) : Nat :=
  (match o.edge with
    | .top => 1
    | .bottom => 2) + 4 + 8

/-- Why connecting failed. -/
inductive SetupError where
  | connect (why : String)
  | missingGlobal (iface : Interface) (unsupported : Bool)
  | outputNotFound (name : String)
  deriving Repr

namespace SetupError

/-- The name of the kind of fault. -/
def kind : SetupError → String
  | .connect _ => "Connect"
  | .missingGlobal _ _ => "MissingGlobal"
  | .outputNotFound _ => "OutputNotFound"

/-- Why a global could not be bound. -/
def bindFault (unsupported : Bool) : String :=
  if unsupported then "the requested version of the global is not supported"
  else "the requested global was not found in the registry"

/-- What the fault says. -/
def message : SetupError → String
  | .connect why => "failed to connect to the wayland display: " ++ why
  | .missingGlobal i unsupported => "compositor does not provide " ++ i.name ++ ": " ++ bindFault unsupported
  | .outputNotFound name => "no output named " ++ Text.quote name

/-- What the fault says, followed by what the fault that caused it says. -/
def causes (e : SetupError) : List String :=
  match e with
  | .connect why => [e.message, why]
  | .missingGlobal _ unsupported => [e.message, bindFault unsupported]
  | .outputNotFound _ => [e.message]

end SetupError

/-- What the environment points the panel at: a compositor, a socket variable holding no
socket, or nothing at all. -/
inductive Endpoint where
  | compositor (spec : CompositorSpec)
  | garbledSocket
  | noSocket

/-- One step of a script: what the compositor does, then which sources are ready. -/
structure ScriptStep where
  actions : List Action
  ready : Ready := { protocol := true }

namespace Session

/-- Changes the panel's side. -/
def mapClient (s : Session) (f : Client → Client) : Session := { s with client := f s.client }

/-- The compositor handles every request flushed to it. -/
def serve (s : Session) : Session :=
  let (server, out) := s.toServer.foldl (fun (c, out) r =>
    let (c, ms) := c.handle s.memory r
    (c, out ++ ms)) (s.server, [])
  { s with server, toServer := [], toClient := s.toClient ++ out }

/-- The compositor acts out a step of its script. -/
def perform (s : Session) (actions : List Action) : Session :=
  let (server, out) := actions.foldl (fun (c, out) a =>
    let (c, ms) := c.perform a
    (c, out ++ ms)) (s.server, [])
  { s with server, toClient := s.toClient ++ out }

/-- Hands the written requests to the compositor. -/
def flushOut (s : Session) : Session :=
  { s with
    toServer := s.toServer ++ s.client.outgoing.toList
    client := { s.client with outgoing := #[] } }

/-- Reads every message sent so far. -/
def readIn (s : Session) : Session :=
  { s with client := { s.client with queue := s.client.queue ++ s.toClient }, toClient := [] }

/-- A round trip: the panel syncs and flushes, the compositor answers everything, and the panel
reads and dispatches all of it. -/
def roundtrip (s : Session) : Session :=
  ((s.mapClient (·.send .sync)).flushOut.serve.readIn).mapClient Client.dispatch

/-- Binds the first global of an interface at the highest version in a range the global
offers; the fault says whether the interface was there at all. -/
def bindIn (gs : List Global) (c : Client) (i : Interface) (lo hi : Nat) :
    Except SetupError (Client × Nat) :=
  match gs.find? (·.iface == i) with
  | none => .error (.missingGlobal i false)
  | some g =>
    if g.version < lo then .error (.missingGlobal i true)
    else let v := min g.version hi; .ok (c.send (.bind g v), v)

/-- Connects to an endpoint and maps the panel's layer surface. A fault comes with the session
as it stood when the fault was found, once there is one to speak of. -/
def connect (e : Endpoint) (o : SurfaceOptions) : Except (SetupError × Option Session) Session := do
  match e with
  | .garbledSocket => throw (.connect "WAYLAND_SOCKET was set but contained garbage", none)
  | .noSocket => throw (.connect "Could not find wayland compositor", none)
  | .compositor spec =>
    let server := Compositor.ofSpec spec
    let gs := server.globals
    let bind (c : Client) (i : Interface) (lo hi : Nat) :=
      (bindIn gs c i lo hi).mapError fun e => (e, none)
    let (c, _) ← bind {} .compositor 4 4
    let (c, _) ← bind c .shm 1 1
    let (c, shell) ← bind c .layerShell 1 3
    let c := { c with layerShell := shell }
    let c := match bindIn gs c .toplevelManager 1 3 with
      | .ok (c, _) => { c with manager := true }
      | .error _ => c
    let c := match bindIn gs c .cursorShape 1 1 with
      | .ok (c, _) => { c with cursorShape := true }
      | .error _ => c
    let c := gs.foldl (fun c g => match g.iface with
      | .seat => c.addSeat g
      | .output => c.addOutput g
      | _ => c) c
    let s := ({ client := c, server } : Session).roundtrip
    let (s, out) ← match o.output with
      | some wanted =>
        match s.client.outputs.find? (·.name == some wanted) with
        | some out => pure (s.mapClient (·.emit (.outputSelected out.global.name)), some out.global)
        | none => throw (.outputNotFound wanted, some s)
      | none => pure (s, none)
    let c := [Request.createSurface, .getLayerSurface out o.layer.index "taskstrip",
      .setAnchor o.anchor, .setSize 0 o.height, .setExclusiveZone (IntRange.i32.wrap o.height),
      .setKeyboardInteractivity 0, .commit].foldl Client.send s.client
    return { s with client := { c with surface := true, layerSurface := true } }.roundtrip

/-- Whether a buffer size can be shared: the row stride and the byte size fit 32 bits, and
width, height, stride and size are all valid 32-bit signed numbers. -/
def shareable (w h : Nat) : Bool :=
  let stride := w * 4
  let size := stride * h
  size ≤ 2147483647 && stride ≤ 2147483647 && w ≤ 2147483647 && h ≤ 2147483647

/-- The buffer a slot holds now. -/
def bufferOf? (s : Session) (slot : Nat) : Option Nat :=
  (s.client.slotBuffers.find? (·.1 == slot)).map (·.2)

/-- Makes a buffer in shared memory for a slot, unless its size cannot be shared. -/
def makeBuffer (slot : Slot) (w h : Nat) (s : Session) : Checked (Option PixelBuffer × Session) :=
  if !shareable w h then pure (none, s)
  else
    let n := s.client.nextBuffer
    let size := w * 4 * h
    let zero := ByteArray.mk (Array.replicate size 0)
    let c := [Request.createPool size, .createBuffer n 0 w h (w * 4) 0, .poolDestroy].foldl
      Client.send s.client
    let c := { c with
      nextBuffer := n + 1
      bufferSlots := c.bufferSlots ++ [(n, slot.val)]
      slotBuffers := (slot.val, n) :: c.slotBuffers.filter (·.1 != slot.val) }
    pure (some ⟨slot, zero⟩, { s with client := c, memory := (n, zero) :: s.memory })

/-- Destroys the buffer of a slot. -/
def dropBuffer (b : PixelBuffer) (s : Session) : Session :=
  match s.bufferOf? b.slot.val with
  | some n =>
    { s with
      client := { s.client.send (.bufferDestroy n) with
        deadBuffers := n :: s.client.deadBuffers
        slotBuffers := s.client.slotBuffers.filter (·.1 != b.slot.val) }
      memory := s.memory.filter (·.1 != n) }
  | none => s

/-- Destroys the surface and releases every object, then flushes what it can. The run loop's
shutdown then lets the compositor handle what reached it. -/
def close (s : Session) : Session :=
  let c : Client := { s.client with reading := false }
  let c : Client := if c.layerSurface then c.send .layerSurfaceDestroy else c
  let c : Client := if c.surface then c.send .surfaceDestroy else c
  let c : Client := c.seats.foldl Client.releaseSeat c
  let c := c.outputs.foldl (fun (c : Client) o =>
    if 3 ≤ o.version then c.send (.outputRelease o.global) else c) c
  let c : Client := if c.manager then c.send .managerStop else c
  let c : Client := if c.cursorShape then c.send .cursorManagerDestroy else c
  let c : Client := if 3 ≤ c.layerShell then c.send .layerShellDestroy else c
  let c := { c with
    layerSurface := false
    surface := false
    seats := []
    outputs := []
    manager := false
    cursorShape := false }
  let s := { s with client := c }
  if c.broken.isSome || s.server.dead then s else s.flushOut

/-- The session as the run loop's display, windows named by handles. -/
def ops : DisplayOps Session Handle where
  dispatch s :=
    match s.client.broken with
    | some t => ((s.client.events.toList, .error (.protocol t)), s.mapClient ({ · with events := #[] }))
    | none =>
      let c := s.client.dispatch
      ((c.events.toList, .ok ()), { s with client := { c with events := #[] } })
  prepareRead s :=
    if s.client.queue.isEmpty then (true, s.mapClient ({ · with reading := true }))
    else (false, s)
  read s :=
    if !s.client.reading then (.ok (), s)
    else
      let s := s.mapClient ({ · with reading := false })
      if s.toClient.isEmpty then (.error .wouldBlock, s)
      else
        let s := s.readIn.mapClient fun c =>
          let (before, after) := c.queue.span fun m => match m with
            | .error _ _ _ => false
            | _ => true
          match after with
          | .error _ _ t :: _ => { c with queue := before, broken := some t }
          | _ => c
        match s.client.broken with
        | some t => (.error (.protocol t), s)
        | none => (.ok (), s)
  cancelRead s := s.mapClient ({ · with reading := false })
  flush s :=
    match s.client.broken with
    | some t => (.error (.protocol t), s)
    | none =>
      if s.server.dead && !s.client.outgoing.isEmpty then
        (.error (.io false "Broken pipe (os error 32)"), s)
      else (.ok (), s.flushOut)
  buffers := ⟨makeBuffer, dropBuffer⟩
  submit s f :=
    match s.bufferOf? f.slot with
    | some n =>
      let c := [Request.setBufferScale f.scale, .attach (some n),
        .damageBuffer 0 0 f.width f.height, .commit].foldl Client.send s.client
      { s with client := c, memory := (n, f.pixels) :: s.memory.filter (·.1 != n) }
    | none => s
  activate s h seat :=
    match s.client.seats.find? (·.global.name == seat) with
    | some st => s.mapClient (·.send (.activate h st.global))
    | none => s
  release s h := s.mapClient fun c => { c.send (.handleDestroy h) with destroyed := h :: c.destroyed }
  shutdown s := (close s).serve

/-- A script as the run loop's sources: each wait lets the compositor handle what was flushed
and act out the next step, and reports the step's ready set; a done script reports a
signal. -/
def scriptOps : SourceOps (List ScriptStep) Session where
  wait script s :=
    let s := s.serve
    match script with
    | [] => (.ok { signal := true }, [], s)
    | st :: rest => (.ok st.ready, rest, s.perform st.actions)
  consumeTick script := script

end Session

end DeskPanel
