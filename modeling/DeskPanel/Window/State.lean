/-!
# Window states

A window manager reports a window's state as a list of numbers: 0 maximized, 1 minimized,
2 activated, 3 fullscreen; numbers it does not know are ignored. The state is kept as a set of
flags in one byte.

## Main definitions

* `WindowFlag`, `WindowFlag.ofRaw?`, `WindowFlag.bit`.
* `WindowState`, `WindowState.ofFlags`, `WindowState.ofRaw`, `WindowState.flags`,
  `WindowState.active`.
-/

namespace DeskPanel

/-- One flag of a window's state. -/
inductive WindowFlag where
  | maximized
  | minimized
  | activated
  | fullscreen
  deriving DecidableEq, Repr, Inhabited

/-- All flags, by bit. -/
def WindowFlag.all : List WindowFlag := [.maximized, .minimized, .activated, .fullscreen]

/-- The flag a reported number stands for. -/
def WindowFlag.ofRaw? : Nat → Option WindowFlag
  | 0 => some .maximized
  | 1 => some .minimized
  | 2 => some .activated
  | 3 => some .fullscreen
  | _ => none

/-- The bit of a flag. -/
def WindowFlag.bit : WindowFlag → UInt8
  | .maximized => 1
  | .minimized => 2
  | .activated => 4
  | .fullscreen => 8

/-- The name of a flag. -/
def WindowFlag.name : WindowFlag → String
  | .maximized => "maximized"
  | .minimized => "minimized"
  | .activated => "activated"
  | .fullscreen => "fullscreen"

/-- A window's state: a set of flags. -/
structure WindowState where
  bits : UInt8 := 0
  deriving DecidableEq, Repr, Inhabited

/-- The state holding the given flags: their bits joined in turn. -/
def WindowState.ofFlags (fs : List WindowFlag) : WindowState :=
  ⟨fs.foldl (fun b f => b ||| f.bit) 0⟩

/-- The state a reported list of numbers describes. -/
def WindowState.ofRaw (raw : List Nat) : WindowState :=
  ofFlags (raw.filterMap WindowFlag.ofRaw?)

/-- Whether a state has a flag. -/
def WindowState.has (s : WindowState) (f : WindowFlag) : Bool := s.bits &&& f.bit != 0

/-- The flags of a state, by bit. -/
def WindowState.flags (s : WindowState) : List WindowFlag := WindowFlag.all.filter s.has

/-- Whether a window in this state is the active one. -/
def WindowState.active (s : WindowState) : Bool := s.has .activated

example : (WindowState.ofRaw [2, 0, 42]).bits = 5 := by decide

end DeskPanel
