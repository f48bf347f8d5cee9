import DeskPanel.Session.Connection
import DeskPanel.Loop.Triggers

/-!
# Live sources

When the panel runs as a program, it waits on its connection and on the operating-system
triggers together. The compositor answers whatever reached it while the panel waits, so a wait
first lets it handle the flushed requests; the connection is then ready when the compositor sent
something. A termination signal may be sent from outside once the compositor has shown a number
of frames.

Whoever runs the program waits only so long for it. A close timer due later than that never
fires within the run, and a wait that finds nothing ready sleeps past it: the run is then
stuck, and the loop stops there.

## Main definitions

* `LiveSources`, `LiveSources.new`, `LiveSources.ops`.
-/

namespace DeskPanel

/-- The triggers of a running program, beside its connection. -/
structure LiveSources where
  triggers : Triggers
  /-- The number of shown frames after which a termination signal arrives, until it has. -/
  signalAfter : Option Nat := none
  /-- Whether a wait found nothing ready and never returns. -/
  stuck : Bool := false

namespace LiveSources

/-- Sources with a close timer after `closeAfterMs` milliseconds and a minute clock if asked
for, watched for `patienceMs` milliseconds. -/
def new (closeAfterMs : Option Nat) (clock : Bool) (patienceMs : Nat) (signalAfter : Option Nat) :
    LiveSources :=
  { triggers := Triggers.new (closeAfterMs.filter (· < patienceMs)) clock, signalAfter }

/-- Raises the termination signal once enough frames were shown. -/
def signalDue (l : LiveSources) (shown : Nat) : LiveSources :=
  match l.signalAfter with
  | some n => if n ≤ shown then { l with triggers := l.triggers.raise .terminate, signalAfter := none } else l
  | none => l

/-- The sources as the run loop's, beside a session. -/
def ops : SourceOps LiveSources Session where
  wait l s :=
    let s := s.serve
    let l := l.signalDue s.server.frames.size
    match l.triggers.wait (!s.toClient.isEmpty) with
    | some (r, t) => (.ok r, { l with triggers := t }, s)
    | none => (.error "nothing is ready", { l with stuck := true }, s)
  consumeTick l := l

end LiveSources

end DeskPanel
