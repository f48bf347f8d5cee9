/-!
# The wire between panel and compositor

The panel talks to its compositor in requests and hears back in messages, each naming the
objects it is about. Objects the compositor advertises are globals: a registry name that counts
up from one, an interface, the highest version offered, and for seats and outputs their index
among the seats or outputs in the order they were created.

Window handles are objects the compositor creates; each stands for one window of the script
that drives the compositor, and several handles may stand for the same window.

Every request has a written form, a list of fields, by which the compositor records what it
handled: the request's name first, then its arguments.

An array argument travels as a byte string. An array of 32-bit words, such as the state of a
window, is sent as the bytes of each word in turn, in the byte order of the machine both ends
run on; the reader takes the string four bytes at a time and drops an incomplete tail.

## Main definitions

* `Interface`, `Global`, `Handle`.
* `Request`, `Request.entry?`.
* `ByteOrder`, `ByteOrder.word`, `ByteOrder.words`, `ByteOrder.array`.
* `Message`.
-/

namespace DeskPanel

/-- The interfaces of the globals a compositor advertises. -/
inductive Interface where
  | compositor
  | shm
  | layerShell
  | toplevelManager
  | cursorShape
  | seat
  | output
  deriving DecidableEq, Repr

/-- The protocol name of an interface. -/
def Interface.name : Interface → String
  | .compositor => "wl_compositor"
  | .shm => "wl_shm"
  | .layerShell => "zwlr_layer_shell_v1"
  | .toplevelManager => "zwlr_foreign_toplevel_manager_v1"
  | .cursorShape => "wp_cursor_shape_manager_v1"
  | .seat => "wl_seat"
  | .output => "wl_output"

/-- An advertised global. `index` counts the seats, or the outputs, in creation order. -/
structure Global where
  name : Nat
  iface : Interface
  version : Nat
  index : Nat
  deriving DecidableEq, Repr

/-- A window handle: the object's serial and the window it stands for. -/
structure Handle where
  serial : Nat
  window : Nat
  deriving DecidableEq, Repr

/-- A field of a request's written form. -/
inductive Field where
  | int (v : Int)
  | text (s : String)
  | none
  deriving DecidableEq, Repr

/-- What the panel asks of its compositor. -/
inductive Request where
  | bind (g : Global) (version : Nat)
  /-- Asks for an answer once everything before it was handled. -/
  | sync
  | getPointer (seat : Global)
  | createSurface
  | getLayerSurface (output : Option Global) (layer : Nat) (scope : String)
  | setAnchor (edges : Nat)
  | setSize (width height : Nat)
  | setExclusiveZone (zone : Int)
  | setKeyboardInteractivity (mode : Nat)
  | commit
  | ackConfigure (serial : Nat)
  | createPool (size : Nat)
  | createBuffer (buffer offset width height stride format : Nat)
  | poolDestroy
  | bufferDestroy (buffer : Nat)
  | setBufferScale (scale : Int)
  | attach (buffer : Option Nat)
  | damageBuffer (x y width height : Int)
  | cursorGetPointer (seat : Global)
  | cursorSetShape (serial shape : Nat)
  | cursorDeviceDestroy
  | activate (h : Handle) (seat : Global)
  | handleDestroy (h : Handle)
  | pointerRelease (seat : Global)
  | seatRelease (seat : Global)
  | outputRelease (output : Global)
  | layerSurfaceDestroy
  | surfaceDestroy
  | managerStop
  | cursorManagerDestroy
  | layerShellDestroy
  deriving Repr

namespace Request

/-- A field holding a natural number. -/
def nat (n : Nat) : Field := .int n

/-- The written form of a request; a sync leaves no record. -/
def entry? : Request → Option (List Field)
  | .bind g v =>
    if g.iface == .seat || g.iface == .output then
      some [.text "bind", .text g.iface.name, nat g.index, nat v]
    else some [.text "bind", .text g.iface.name, nat v]
  | .sync => none
  | .getPointer s => some [.text "get_pointer", nat s.index]
  | .createSurface => some [.text "create_surface"]
  | .getLayerSurface o layer ns =>
    some [.text "get_layer_surface", (o.map fun g => nat g.index).getD .none, nat layer, .text ns]
  | .setAnchor e => some [.text "set_anchor", nat e]
  | .setSize w h => some [.text "set_size", nat w, nat h]
  | .setExclusiveZone z => some [.text "set_exclusive_zone", .int z]
  | .setKeyboardInteractivity m => some [.text "set_keyboard_interactivity", nat m]
  | .commit => some [.text "commit"]
  | .ackConfigure s => some [.text "ack_configure", nat s]
  | .createPool size => some [.text "create_pool", nat size]
  | .createBuffer b o w h s f =>
    some [.text "create_buffer", nat b, nat o, nat w, nat h, nat s, nat f]
  | .poolDestroy => some [.text "pool_destroy"]
  | .bufferDestroy b => some [.text "buffer_destroy", nat b]
  | .setBufferScale s => some [.text "set_buffer_scale", .int s]
  | .attach b => some [.text "attach", (b.map nat).getD .none, nat 0, nat 0]
  | .damageBuffer x y w h => some [.text "damage_buffer", .int x, .int y, .int w, .int h]
  | .cursorGetPointer s => some [.text "cursor_get_pointer", nat s.index]
  | .cursorSetShape serial shape => some [.text "cursor_set_shape", nat serial, nat shape]
  | .cursorDeviceDestroy => some [.text "cursor_device_destroy"]
  | .activate h s => some [.text "toplevel_activate", nat h.window, nat s.index]
  | .handleDestroy h => some [.text "toplevel_destroy", nat h.window]
  | .pointerRelease s => some [.text "pointer_release", nat s.index]
  | .seatRelease s => some [.text "seat_release", nat s.index]
  | .outputRelease o => some [.text "output_release", nat o.index]
  | .layerSurfaceDestroy => some [.text "layer_surface_destroy"]
  | .surfaceDestroy => some [.text "surface_destroy"]
  | .managerStop => some [.text "manager_stop"]
  | .cursorManagerDestroy => some [.text "cursor_manager_destroy"]
  | .layerShellDestroy => some [.text "layer_shell_destroy"]

end Request

/-- The order in which a machine stores the four bytes of a 32-bit word, first address
first. -/
inductive ByteOrder where
  /-- Least significant byte first. -/
  | little
  /-- Most significant byte first. -/
  | big
  deriving DecidableEq, Repr

namespace ByteOrder

/-- The byte order of the machine the panel and its compositor share. -/
def native : ByteOrder := .little

/-- The 32-bit word that four bytes hold, in memory order. -/
def word : ByteOrder → UInt8 → UInt8 → UInt8 → UInt8 → Nat
  | .little, b₀, b₁, b₂, b₃ => b₀.toNat + 256 * b₁.toNat + 65536 * b₂.toNat + 16777216 * b₃.toNat
  | .big, b₀, b₁, b₂, b₃ => b₃.toNat + 256 * b₂.toNat + 65536 * b₁.toNat + 16777216 * b₀.toNat

/-- The four bytes that hold a 32-bit word, in memory order. -/
def bytes (o : ByteOrder) (v : Nat) : List UInt8 :=
  let low := [v.toUInt8, (v / 256).toUInt8, (v / 65536).toUInt8, (v / 16777216).toUInt8]
  match o with
  | .little => low
  | .big => low.reverse

/-- The words of a byte string, read four bytes at a time; the bytes after the last complete
word are dropped. -/
def words (o : ByteOrder) : List UInt8 → List Nat
  | b₀ :: b₁ :: b₂ :: b₃ :: rest => o.word b₀ b₁ b₂ b₃ :: o.words rest
  | _ => []

/-- An array of 32-bit words as it travels: the bytes of each word in turn. -/
def array (o : ByteOrder) (vs : List Nat) : List UInt8 := vs.flatMap o.bytes

end ByteOrder

/-- What the compositor tells the panel. Coordinates are fixed-point numbers with eight
fractional bits. -/
inductive Message where
  | global (g : Global)
  | globalRemove (name : Nat)
  | format (code : Nat)
  | capabilities (seat : Global) (pointer : Bool)
  | seatName (seat : Global) (name : String)
  | geometry (output : Global)
  | mode (output : Global)
  | scale (output : Global) (factor : Int)
  | outputName (output : Global) (name : String)
  | outputDone (output : Global)
  | configure (serial width height : Nat)
  | closed
  | enter (output : Global)
  | leave (output : Global)
  | release (buffer : Nat)
  | toplevel (h : Handle)
  | title (h : Handle) (text : String)
  | appId (h : Handle) (text : String)
  /-- A window's state: an array of 32-bit words, as bytes. -/
  | state (h : Handle) (raw : List UInt8)
  | done (h : Handle)
  | toplevelClosed (h : Handle)
  | outputEnter (h : Handle) (output : Global)
  | outputLeave (h : Handle) (output : Global)
  | finished
  | pointerEnter (seat : Global) (serial : Nat) (x y : Int)
  | pointerMotion (seat : Global) (x y : Int)
  | pointerButton (seat : Global) (serial button : Nat) (pressed : Bool)
  | pointerLeave (seat : Global) (serial : Nat)
  | pointerFrame (seat : Global)
  /-- The answer to a sync. -/
  | synced
  /-- A fatal protocol error; the compositor hangs up after it. -/
  | error (object : String) (code : Nat) (text : String)
  deriving Repr

end DeskPanel
