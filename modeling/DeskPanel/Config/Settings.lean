import DeskPanel.Color
import DeskPanel.Layout.Item

/-!
# Panel settings

What a user may set: the items of the panel, its font, the output and screen edge it sits on,
its layer, its height, a time after which it closes itself, whether window titles are markup,
and its colours. Every setting has a default, so an empty settings file is valid.

## Main definitions

* `Edge`, `Layer` — where the panel sits.
* `Palette` — the panel's colours.
* `Settings` — all settings with their defaults, and the values derived from them.
-/

namespace DeskPanel

/-- The screen edge the panel is anchored to. -/
inductive Edge where
  | top
  | bottom
  deriving DecidableEq, Repr, Inhabited

/-- The name of an edge in settings files. -/
def Edge.name : Edge → String
  | .top => "top"
  | .bottom => "bottom"

/-- All edges, in the order settings files list them. -/
def Edge.all : List Edge := [.top, .bottom]

/-- The stacking layer of the panel's surface. -/
inductive Layer where
  | background
  | bottom
  | top
  | overlay
  deriving DecidableEq, Repr, Inhabited

/-- The name of a layer in settings files. -/
def Layer.name : Layer → String
  | .background => "background"
  | .bottom => "bottom"
  | .top => "top"
  | .overlay => "overlay"

/-- All layers, in the order settings files list them. -/
def Layer.all : List Layer := [.background, .bottom, .top, .overlay]

/-- The number the layer-shell protocol gives a layer. -/
def Layer.index : Layer → Nat
  | .background => 0
  | .bottom => 1
  | .top => 2
  | .overlay => 3

/-- The panel's colours. -/
structure Palette where
  background : Color := ⟨0x323232FF⟩
  text : Color := ⟨0xFFFFFFFF⟩
  buttonBackground : Color := ⟨0x4A4A4AFF⟩
  buttonActive : Color := ⟨0x5A8AC6FF⟩
  deriving DecidableEq, Repr, Inhabited

/-- The height a panel gets when its setting is zero. -/
def defaultHeight : Nat := 30

/-- All settings. -/
structure Settings where
  /-- Item codes, left to right. -/
  items : String := "TSC"
  /-- A font description such as `Sans 10`. -/
  font : String := "Sans 10"
  /-- The output to place the panel on; the compositor chooses when unset. -/
  output : Option String := none
  edge : Edge := .top
  layer : Layer := .top
  height : UInt32 := 30
  /-- Seconds until the panel closes itself; zero keeps it open. -/
  closeAfter : UInt64 := 0
  /-- Whether window titles are markup. -/
  markup : Bool := false
  palette : Palette := {}
  deriving DecidableEq, Repr, Inhabited

/-- The panel items the settings select. -/
def Settings.itemList (s : Settings) : List Item := Item.listOf s.items

/-- The panel's height: the setting, or the default for zero. -/
def Settings.panelHeight (s : Settings) : Nat :=
  if s.height = 0 then defaultHeight else s.height.toNat

/-- Seconds until the panel closes itself, if it does. -/
def Settings.closeTimeout? (s : Settings) : Option Nat :=
  if s.closeAfter = 0 then none else some s.closeAfter.toNat

end DeskPanel
