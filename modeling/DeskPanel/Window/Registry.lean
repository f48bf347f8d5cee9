import DeskPanel.Window.State

/-!
# The window registry

The windows a panel tracks, in the order they were first reported. Each window has a handle,
named by its id, and a key issued when it was first reported. A registry keeps three
structures in step: a slot map from keys to windows, the keys in report order, and a map from
handle ids to keys. The slot map issues each key once, so a key of a forgotten window names
nothing, even after an id is reported again.

A handle is released exactly once: when its window is removed or the registry is cleared, or
at once when a second report of a tracked id brings a duplicate handle. Operations return the
handles they release, in order, beside the new registry.

## Main definitions

* `WindowKey`, `Tracked`, `Tracked.label`.
* `SlotMap` with `insert`, `get?`, `modify?`, `remove`.
* `Registry` with `report`, `keyOf?`, `get?`, `entries`, `setTitle`, `setAppId`, `setState`,
  `remove`, `clear`.
-/

namespace DeskPanel

/-- The key of a tracked window. -/
structure WindowKey where
  serial : Nat
  deriving DecidableEq, Repr, Inhabited, Hashable

/-- A tracked window: its handle's id, its title and application id when known, and whether
it is the active window. -/
structure Tracked (η : Type) where
  id : η
  title : Option String := none
  appId : Option String := none
  active : Bool := false
  deriving Repr, Inhabited

/-- The label of a window: its title, else its application id, else `?`. -/
def Tracked.label {η : Type} (w : Tracked η) : String :=
  match w.title, w.appId with
  | some t, _ => t
  | none, some a => a
  | none, none => "?"

/-- Values under keys that the map issues itself, each key once: a key is never issued again
after its value was removed. -/
structure SlotMap (α : Type) where
  entries : List (WindowKey × α) := []
  nextSerial : Nat := 0
  deriving Repr, Inhabited

namespace SlotMap

variable {α : Type}

/-- Stores a value under a new key, and returns the key. -/
def insert (m : SlotMap α) (v : α) : SlotMap α × WindowKey :=
  let k : WindowKey := ⟨m.nextSerial⟩
  (⟨m.entries ++ [(k, v)], m.nextSerial + 1⟩, k)

/-- The value under a key. -/
def get? (m : SlotMap α) (k : WindowKey) : Option α := m.entries.lookup k

/-- Changes the value under a key; `none` when the key names no value. -/
def modify? (m : SlotMap α) (k : WindowKey) (f : α → α) : Option (SlotMap α) :=
  if (m.get? k).isSome then
    some { m with entries := m.entries.map fun (k', v) => if k' == k then (k', f v) else (k', v) }
  else none

/-- Takes the value under a key out of the map. -/
def remove (m : SlotMap α) (k : WindowKey) : SlotMap α × Option α :=
  ({ m with entries := m.entries.filter (·.1 != k) }, m.get? k)

end SlotMap

/-- The tracked windows under their keys, the keys in report order, and the key of each
tracked handle id. -/
structure Registry (η : Type) where
  windows : SlotMap (Tracked η) := {}
  order : List WindowKey := []
  byId : List (η × WindowKey) := []
  deriving Repr, Inhabited

namespace Registry

variable {η : Type} [BEq η]

/-- The number of tracked windows. -/
def size (r : Registry η) : Nat := r.order.length

/-- Whether no window is tracked. -/
def isEmpty (r : Registry η) : Bool := r.order.isEmpty

/-- The key of the window with a handle id. -/
def keyOf? (r : Registry η) (id : η) : Option WindowKey := r.byId.lookup id

/-- The window with a key. -/
def get? (r : Registry η) (k : WindowKey) : Option (Tracked η) := r.windows.get? k

/-- The tracked windows with their keys, in report order. -/
def entries (r : Registry η) : List (WindowKey × Tracked η) :=
  r.order.filterMap fun k => (r.windows.get? k).map (k, ·)

/-- Tracks a newly reported handle and returns its key; a handle whose id is tracked already
is released, and the tracked window's key is returned. -/
def report (r : Registry η) (id : η) : Registry η × WindowKey × List η :=
  match r.byId.lookup id with
  | some k => (r, k, [id])
  | none =>
    let (windows, k) := r.windows.insert { id }
    ({ windows, order := r.order ++ [k], byId := (id, k) :: r.byId.filter (·.1 != id) }, k, [])

/-- Changes the window with a handle id; `none` when no window has it. -/
def modify? (r : Registry η) (id : η) (f : Tracked η → Tracked η) : Option (Registry η) :=
  match r.byId.lookup id with
  | some k => (r.windows.modify? k f).map fun windows => { r with windows }
  | none => none

/-- Sets a window's title. -/
def setTitle (r : Registry η) (id : η) (t : String) : Option (Registry η) :=
  r.modify? id fun w => { w with title := some t }

/-- Sets a window's application id. -/
def setAppId (r : Registry η) (id : η) (a : String) : Option (Registry η) :=
  r.modify? id fun w => { w with appId := some a }

/-- Sets whether a window is active from its reported state. -/
def setState (r : Registry η) (id : η) (s : WindowState) : Option (Registry η) :=
  r.modify? id fun w => { w with active := s.active }

/-- Forgets the window with a handle id and releases its handle; `none` when no window has
it. -/
def remove (r : Registry η) (id : η) : Option (Registry η × List η) :=
  match r.byId.lookup id with
  | none => none
  | some k =>
    let (windows, w?) := r.windows.remove k
    some (⟨windows, r.order.filter (· != k), r.byId.filter (·.1 != id)⟩, (w?.map (·.id)).toList)

/-- Takes each window of the report order out of the slot map and releases its handle, in
order. -/
def dropAll (m : SlotMap (Tracked η)) : List WindowKey → SlotMap (Tracked η) × List η
  | [] => (m, [])
  | k :: ks =>
    let (m, w?) := m.remove k
    let (m, rel) := dropAll m ks
    (m, (w?.map (·.id)).toList ++ rel)

/-- Forgets every window, releasing the handles in report order. -/
def clear (r : Registry η) : Registry η × List η :=
  let (windows, rel) := dropAll r.windows r.order
  (⟨windows, [], []⟩, rel)

end Registry

end DeskPanel
