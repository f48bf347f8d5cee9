import DeskPanel.Command.Args
import DeskPanel.Session.Live
import DeskPanel.Config.Load
import DeskPanel.Font.Locate
import DeskPanel.Loop.Run

/-!
# The program

What the panel does when started with a command line. It reads the words; help and version
print and end, refused words end with status 2. Otherwise it loads the settings from the file
the options name, or from the settings file under the home directory: a file that cannot be
read or parsed is logged and the defaults stand. The options then override the output, the
items and the close timeout.

Then, in order, it loads the font, connects and maps the panel surface, and arms the triggers;
the first of these to fail is logged with the faults that caused it, and the program ends with
status 1. Otherwise the run loop runs until it ends, the connection is shut down, and the
program ends with status 0. A run whose wait never returns is stopped from outside and has no
status. Labels whose markup fails to parse are logged each time a frame is laid out with them.

The program's world is pure: the files it may read, its home directory, what the environment
points it at, how long its caller waits for it, and when a termination signal is sent.

## Main definitions

* `Program.World`, `Program.Exit`.
* `Options.settings`, `Options.apply`.
* `Program.run`.
-/

namespace DeskPanel

/-- A line of the error log, for a target. -/
def errorLine (target message : String) : String := "ERROR " ++ target ++ " " ++ message ++ "\n"

/-- The settings the options select, with what loading them logged. -/
def Options.settings (o : Options) (disk : Disk) (home : Option String) : Settings × String :=
  match o.config <|> configPath home with
  | none => ({}, "")
  | some path =>
    match Settings.load disk path with
    | .ok (some s) => (s, "")
    | .ok none => ({}, "")
    | .error e => ({}, errorLine (programName ++ "::common::config") e.message)

/-- The settings with the options' overrides. -/
def Options.apply (o : Options) (s : Settings) : Settings :=
  let s := match o.output with
    | some out => { s with output := some out }
    | none => s
  let s := match o.items with
    | some i => { s with items := i }
    | none => s
  match o.timeout with
  | some n => { s with closeAfter := n.toUInt64 }
  | none => s

/-- The log lines of labels whose markup failed to parse. -/
def markupLog (faults : Array (MarkupError × String)) : String :=
  String.join (faults.toList.map fun (e, label) =>
    errorLine (programName ++ "::ui::markup")
      ("failed to parse markup: " ++ e.message ++ ", label=" ++ Text.quote label))

namespace Program

/-- Where the program runs. -/
structure World where
  disk : Disk
  home : Option String
  endpoint : Endpoint
  /-- How long the caller waits for the program, in milliseconds. -/
  patienceMs : Nat
  /-- The number of shown frames after which a termination signal is sent. -/
  signalAfter : Option Nat := none
  now : TimeOfDay := ⟨12, 0, 0, 0⟩

/-- How a run ends: its status (`none` when it was stopped from outside), what it printed, and
the connection once there was one. -/
structure Exit where
  status : Option Nat
  stdout : String := ""
  stderr : String := ""
  session : Option Session := none

/-- The loop of a running program. -/
abbrev Loop := RunLoop Session LiveSources Handle

/-- Turns while running, at most the given number of turns, and not past a stuck wait. -/
def turns (env : RunLoop.Env Session LiveSources Handle) : Nat → Loop → Checked Loop
  | 0, l => pure l
  | n + 1, l => do
    if l.state != .running || l.sources.stuck then return l
    turns env n (← RunLoop.turn env 4 l)

/-- The most turns a run takes before it counts as never ending. -/
def turnLimit : Nat := 4096

/-- The timer fault of a close timeout in seconds: the timer takes signed seconds. -/
def timerFault? (s : Settings) : Option String :=
  match s.closeTimeout? with
  | some secs => if secs ≥ 2 ^ (63 : Nat) then some "EINVAL: Invalid argument" else none
  | none => none

/-- Runs the panel, connected, until its loop ends. -/
def serve (w : World) (s : Settings) (engine : TextEngine) (session : Session) : Exit :=
  match timerFault? s with
  | some why =>
    { status := some 1, session,
      stderr := errorLine programName ("creating timers and the signal descriptor: " ++ why) }
  | none =>
    let sources := LiveSources.new (s.closeTimeout?.map (· * 1000)) (Item.hasClock s.itemList)
      w.patienceMs w.signalAfter
    let env : RunLoop.Env Session LiveSources Handle := ⟨Session.ops, LiveSources.ops, engine, w.now⟩
    let l : Loop := { display := session, sources, panel := Panel.ofState (PanelState.ofSettings s) }
    let ran := do
      let l ← RunLoop.start env l
      turns env turnLimit l
    match ran with
    | .error e =>
      { status := some 101, stderr := "thread 'main' panicked: " ++ e.message ++ "\n", session }
    | .ok l =>
      let stderr := markupLog l.panel.markupFaults
      if l.sources.stuck || l.state == .running then { status := none, stderr, session := some l.display }
      else { status := some 0, stderr, session := some (RunLoop.shutdown env l).display }

/-- Runs the program with a command line. -/
def run (w : World) (args : List String) : Exit :=
  match Invocation.read args with
  | .refused m => { status := some 2, stderr := m }
  | .help => { status := some 0, stdout := helpText }
  | .version => { status := some 0, stdout := versionText }
  | .run o =>
    let (s, log) := o.settings w.disk w.home
    let s := o.apply s
    let fail (context : String) (causes : List String) (session : Option Session) : Exit :=
      { status := some 1, session,
        stderr := log ++ errorLine programName (": ".intercalate (context :: causes)) }
    match loadFont w.disk w.home (FontDescription.read s.font) with
    | .error e => fail ("loading font " ++ Text.quote s.font) e.causes none
    | .ok engine =>
      match Session.connect w.endpoint (SurfaceOptions.ofSettings s) with
      | .error (e, session) => fail "setting up the panel surface" e.causes session
      | .ok session =>
        let e := serve w s engine session
        { e with stderr := log ++ e.stderr }

end Program

end DeskPanel
