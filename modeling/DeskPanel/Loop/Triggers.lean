import DeskPanel.Loop.Display

/-!
# Operating-system triggers

Besides the compositor's socket, the run loop waits on three triggers: the termination
signals, an optional one-shot timer that closes the panel, and the minute timer of the clock.

Signals are held while the program runs and read one at a time. A signal that is raised again
while it is still pending is the same pending signal, so the pending ones form a set in the
order they were first raised. A wait reads one of them.

Waiting returns as soon as something is ready. The close timer only fires while nothing else
is: a wait that finds the socket readable or a signal pending returns before the timer is due,
while a wait with nothing ready sleeps until the timer fires. A fired timer is never read, so
it stays ready for every later wait. A zero delay disarms the timer. The clock's minute is never
due within the waits modelled here.

## Main definitions

* `Signal`, `Signal.name?`.
* `Triggers`, `Triggers.new`, `Triggers.raise`, `Triggers.wait`.
* `Ready.names` — the ready sources a caller sees.
-/

namespace DeskPanel

/-- The signals that end the program. -/
inductive Signal where
  | interrupt
  | terminate
  deriving DecidableEq, Repr

/-- The signal of a name. -/
def Signal.ofName? : String → Option Signal
  | "SIGINT" => some .interrupt
  | "SIGTERM" => some .terminate
  | _ => none

/-- The triggers a panel waits on besides its socket. -/
structure Triggers where
  /-- Signals raised and not yet read, in the order they were first raised. -/
  pending : List Signal
  /-- Whether the close timer is armed with a delay. -/
  armed : Bool
  /-- Whether the close timer has fired. -/
  fired : Bool
  /-- Whether the clock's minute timer runs. -/
  clock : Bool
  deriving DecidableEq, Repr

namespace Triggers

/-- Fresh triggers: no signal pending, the close timer armed for a positive delay in
milliseconds. -/
def new (closeAfterMs : Option Nat) (clock : Bool) : Triggers :=
  ⟨[], closeAfterMs.any (0 < ·), false, clock⟩

/-- Raises a signal; one already pending stays a single pending signal. -/
def raise (t : Triggers) (s : Signal) : Triggers :=
  if t.pending.contains s then t else { t with pending := t.pending ++ [s] }

/-- Waits once, with the socket readable or not or absent; `none` when the wait never
returns. A pending signal is read. -/
def wait (t : Triggers) (socketReadable : Bool) : Option (Ready × Triggers) :=
  let signal := !t.pending.isEmpty
  let timeout := t.fired || (t.armed && !socketReadable && !signal)
  if socketReadable || signal || timeout then
    some ({ protocol := socketReadable, timeout, signal }, { t with pending := t.pending.drop 1, fired := timeout })
  else none

/-- Waits `n` times in a row; `none` when one of the waits never returns. -/
def waits (t : Triggers) (socketReadable : Bool) : Nat → Option (List Ready)
  | 0 => some []
  | n + 1 => do
    let (r, t) ← t.wait socketReadable
    return r :: (← t.waits socketReadable n)

end Triggers

/-- The ready sources by name, in the order of their flags, the clock left out. -/
def Ready.names (r : Ready) : List String :=
  (if r.protocol then ["protocol"] else []) ++ (if r.timeout then ["timeout"] else []) ++
    (if r.signal then ["signal"] else [])

end DeskPanel
