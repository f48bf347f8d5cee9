import DeskPanel.Config.Settings
import DeskPanel.Markup
import DeskPanel.Layout.Widget
import DeskPanel.Panel.Pointer
import DeskPanel.Window.Registry

/-!
# The panel and its events

The panel's state and how it answers each event the display reports. Window events change the
registry and ask for a render when they concern a tracked window. A configure sets the logical
size (a zero height keeps the old one). The scale follows the output the panel sits on: the one
named for it, or else the first the surface entered; a scale below 1 counts as 1 and one above 8
as 8, and only a change asks for a render. A press of the first button of a seat whose pointer
position is known activates the window under it; a hit test that overflows stops the panel.

## Main definitions

* `PanelState`, `Event`, `Outcome`.
* `Panel`, `Panel.fault?`, `Panel.handle`.
-/

namespace DeskPanel

/-- The largest scale the panel renders at. -/
def maxScale : Int := 8

/-- What the panel draws and at which size. -/
structure PanelState where
  width : Nat
  height : Nat
  scale : Int
  items : List Item
  palette : Palette
  markup : Bool

/-- The state of a panel before the compositor configured it. -/
def PanelState.ofSettings (s : Settings) : PanelState :=
  ⟨0, 0, 1, s.itemList, s.palette, s.markup⟩

/-- What the display reports; windows are named by their handle ids of type `η`. -/
inductive Event (η : Type) where
  | appeared (id : η)
  | title (id : η) (text : String)
  | appId (id : η) (text : String)
  | state (id : η) (s : WindowState)
  | done (id : η)
  | closed (id : η)
  | configure (width height : Nat)
  | surfaceClosed
  | surfaceEnter (output : Nat)
  | outputSelected (output : Nat)
  | outputScale (output : Nat) (factor : Int)
  | outputRemoved (output : Nat)
  | pointerEnter (seat : Nat) (x y : Binary64)
  | pointerMotion (seat : Nat) (x y : Binary64)
  | button (seat serial : Nat) (down : Bool)
  | seatRemoved (seat : Nat)
  | bufferReleased (slot : Nat)

/-- What the panel's owner must do after an event. -/
inductive Outcome where
  | idle
  | render
  | activate (window : WindowKey) (seat : Nat)
  | bufferReleased (slot : Nat)
  | terminate
  deriving DecidableEq, Repr, Inhabited

/-- A panel: its state, tracked windows, the widgets of its last render, pointer positions,
the scale of each output, the output it sits on, and whether a frame waits for a buffer. -/
structure Panel (η : Type) where
  state : PanelState
  windows : Registry η := {}
  widgets : List (Widget WindowKey) := []
  pointers : Pointers := {}
  outputScales : List (Nat × Int) := []
  activeOutput : Option Nat := none
  pendingFrame : Bool := false
  /-- The labels whose markup failed to parse, with the fault, once for each frame laid out
  with them. -/
  markupFaults : Array (MarkupError × String) := #[]

namespace Panel

variable {η : Type} [BEq η]

/-- A new panel. -/
def ofState (s : PanelState) : Panel η := { state := s }

/-- A render when the event concerned a tracked window. -/
def renderIf (known : Bool) : Outcome := if known then .render else .idle

/-- A window event's change, or the panel unchanged when the window is not tracked. -/
def onWindow (p : Panel η) (r? : Option (Registry η)) : Panel η × Outcome :=
  match r? with
  | some r => ({ p with windows := r }, .render)
  | none => (p, .idle)

/-- Applies the scale of the output the panel sits on. -/
def applyOutputScale (p : Panel η) : Panel η × Outcome :=
  match p.activeOutput.bind (fun o => p.outputScales.lookup o) with
  | none => (p, .idle)
  | some factor =>
    let scale := if factor < 1 then 1 else if maxScale < factor then maxScale else factor
    if scale = p.state.scale then (p, .idle)
    else ({ p with state := { p.state with scale } }, .render)

/-- Records the scale of an output. -/
def setScale (p : Panel η) (o : Nat) (f : Int) : Panel η :=
  { p with outputScales := (o, f) :: p.outputScales.filter (·.1 != o) }

/-- The fault the panel stops with when it answers an event: that of a press down whose hit
test overflows. -/
def fault? (p : Panel η) : Event η → Option Overflow
  | .button seat _ true =>
    match p.pointers.column? seat with
    | some x =>
      match pressTarget p.widgets x with
      | .error f => some f
      | .ok _ => none
    | none => none
  | _ => none

/-- Answers one event that does not stop the panel (`fault?`); the handles it releases come
third. -/
def handle (p : Panel η) : Event η → Panel η × Outcome × List η
  | .appeared id =>
    let (r, _, rel) := p.windows.report id
    ({ p with windows := r }, .render, rel)
  | .title id t => let (p, o) := p.onWindow (p.windows.setTitle id t); (p, o, [])
  | .appId id a => let (p, o) := p.onWindow (p.windows.setAppId id a); (p, o, [])
  | .state id s => let (p, o) := p.onWindow (p.windows.setState id s); (p, o, [])
  | .done id => (p, renderIf (p.windows.keyOf? id).isSome, [])
  | .closed id =>
    match p.windows.remove id with
    | some (r, rel) => ({ p with windows := r }, .render, rel)
    | none => (p, .idle, [])
  | .configure w h =>
    ({ p with state := { p.state with width := w, height := if h > 0 then h else p.state.height } },
      .render, [])
  | .surfaceClosed => (p, .terminate, [])
  | .outputSelected o => let (p, r) := { p with activeOutput := some o }.applyOutputScale; (p, r, [])
  | .surfaceEnter o =>
    let p := if p.activeOutput.isNone then { p with activeOutput := some o } else p
    let (p, r) := p.applyOutputScale
    (p, r, [])
  | .outputScale o f =>
    let p := p.setScale o f
    if p.activeOutput == some o then let (p, r) := p.applyOutputScale; (p, r, []) else (p, .idle, [])
  | .outputRemoved o =>
    let p := { p with outputScales := p.outputScales.filter (·.1 != o) }
    (p, if p.activeOutput == some o then .terminate else .idle, [])
  | .pointerEnter seat x y | .pointerMotion seat x y =>
    ({ p with pointers := p.pointers.update seat x y }, .idle, [])
  | .button seat _ down =>
    if !down then (p, .idle, [])
    else
      match p.pointers.column? seat with
      | none => (p, .idle, [])
      | some x =>
        -- a hit test that overflows stops the panel instead (`fault?`)
        match pressTarget p.widgets x with
        | .ok (some k) => (p, .activate k seat, [])
        | _ => (p, .idle, [])
  | .seatRemoved seat => ({ p with pointers := p.pointers.remove seat }, .idle, [])
  | .bufferReleased slot => (p, .bufferReleased slot, [])

/-- Whether a frame was dropped for lack of a free buffer; the flag is cleared. -/
def takePending (p : Panel η) : Panel η × Bool := ({ p with pendingFrame := false }, p.pendingFrame)

end Panel

end DeskPanel
