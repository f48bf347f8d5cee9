import DeskPanel.Word

/-!
# The surface pool

Two reusable pixel buffers for a surface. A buffer that the compositor may still read is busy
and is never handed out; a frame takes the free buffer of highest index, reallocating it when
its size changed. The old memory is dropped before the new is asked for, so a failed
allocation leaves the slot empty. An empty size is refused, as is a frame when both buffers are
busy: the frame is dropped.

Only submitting a frame marks its buffer busy; the compositor's release marks it free again.

## Main definitions

* `Allocator` — how buffers are made and dropped, with the allocator's own state.
* `Pool`, `Pool.acquire`, `Pool.submit`, `Pool.release`, `Pool.clear`.
-/

namespace DeskPanel

/-- The number of buffers of a pool. -/
def poolSize : Nat := 2

/-- A slot of a pool. -/
abbrev Slot := Fin poolSize

/-- How buffers of type `β` are made and let go of, changing a state of type `σ`. Making
gives `none` when the allocation failed. -/
structure Allocator (σ β : Type) where
  make : Slot → Nat → Nat → σ → Checked (Option β × σ)
  drop : β → σ → σ

/-- A buffer with its size. -/
structure Allocated (β : Type) where
  buffer : β
  width : Nat
  height : Nat

/-- Lets go of the buffer a slot holds, if it holds one. -/
def Allocator.dropSlot {σ β : Type} (alloc : Allocator σ β) (a? : Option (Allocated β)) (s : σ) : σ :=
  match a? with
  | some a => alloc.drop a.buffer s
  | none => s

/-- Two buffer slots and whether each is busy. -/
structure Pool (β : Type) where
  slots : Vector (Option (Allocated β)) poolSize := Vector.replicate poolSize none
  busy : Vector Bool poolSize := Vector.replicate poolSize false

namespace Pool

variable {β σ : Type}

/-- The free slot of highest index. -/
def freeSlot? (p : Pool β) : Option Slot :=
  ((List.finRange poolSize).reverse.find? fun i => !p.busy[i])

/-- Whether a slot holds a buffer of exactly this size. -/
def fits (a? : Option (Allocated β)) (width height : Nat) : Bool :=
  match a? with
  | some a => a.width == width && a.height == height
  | none => false

/-- Hands out a free buffer of exactly `width × height`, making it when the slot is empty or
has another size. `none` when the size is empty, both buffers are busy or making failed. -/
def acquire (p : Pool β) (alloc : Allocator σ β) (s : σ) (width height : Nat) :
    Checked (Option Slot × Pool β × σ) :=
  if width = 0 ∨ height = 0 then pure (none, p, s)
  else
    match p.freeSlot? with
    | none => pure (none, p, s)
    | some i =>
      if fits p.slots[i] width height then pure (some i, p, s)
      else do
        let (made, s) ← alloc.make i width height (alloc.dropSlot p.slots[i] s)
        match made with
        | some b => pure (some i, { p with slots := p.slots.set i (some ⟨b, width, height⟩) }, s)
        | none => pure (none, { p with slots := p.slots.set i none }, s)

/-- The buffer of a slot. -/
def buffer? (p : Pool β) (i : Slot) : Option β := (p.slots[i]).map (·.buffer)

/-- Changes the buffer of a slot. -/
def modifyBuffer (p : Pool β) (i : Slot) (f : β → β) : Pool β :=
  { p with slots := p.slots.set i ((p.slots[i]).map fun a => { a with buffer := f a.buffer }) }

/-- Marks a slot's buffer as handed to the compositor. -/
def submit (p : Pool β) (i : Slot) : Pool β := { p with busy := p.busy.set i true }

/-- Marks a buffer free again once the compositor stopped reading it; unknown slots change
nothing. -/
def release (p : Pool β) (i : Nat) : Pool β :=
  if h : i < poolSize then { p with busy := p.busy.set i false } else p

/-- Whether a slot is busy; unknown slots are not. -/
def isBusy (p : Pool β) (i : Nat) : Bool := if h : i < poolSize then p.busy[i] else false

/-- Whether some buffer is free. -/
def hasFree (p : Pool β) : Bool := p.busy.toList.any (!·)

/-- Drops every buffer, slot by slot. -/
def clear (p : Pool β) (alloc : Allocator σ β) (s : σ) : Pool β × σ :=
  ({}, p.slots.toList.foldl (fun s a? => alloc.dropSlot a? s) s)

end Pool

end DeskPanel
