import DeskPanel.Command.Similar

/-!
# The command line

The panel takes four options with a value (`--config`, `--output`, `--panel-items`,
`--timeout`), a repeatable `-v`/`--verbose`, and `-h`/`--help` and `-V`/`--version`. There are
no positional words.

The words are read left to right. An option's value is either attached (`--output=DP-1`) or the
next word that does not look like an option; `--` ends the options. An option that waits for
its value is only taken once the next option is read or the words end, and taking it is where a
repeated option, a missing value, an empty config path or a timeout that is not a whole number
is refused. Short
options may be grouped (`-vv`), and each character of a group is read in turn.

A refusal is a message for the error stream, ending the program with status 2. It names the
fault and, for unknown words, repeats the usage line: the options given so far when there are
any (the one suggested included), else the placeholder `[OPTIONS]`. An unknown long option is
compared with the known ones (`Similar.closest?`) for a suggestion.

## Main definitions

* `ValueOption`, `Flag`, `Options`, `Invocation`.
* `Invocation.read` — what a list of words asks for.
* `helpText`, `versionText`.
-/

namespace DeskPanel

/-- The options that take a value. -/
inductive ValueOption where
  | config
  | output
  | items
  | timeout
  deriving DecidableEq, Repr

namespace ValueOption

/-- The long name of an option. -/
def long : ValueOption → String
  | .config => "config"
  | .output => "output"
  | .items => "panel-items"
  | .timeout => "timeout"

/-- The name of the value an option takes. -/
def placeholder : ValueOption → String
  | .config => "CONFIG"
  | .output => "OUTPUT"
  | .items => "PANEL_ITEMS"
  | .timeout => "TIMEOUT"

/-- The line of help an option has. -/
def about : ValueOption → String
  | .config => "Config file to read instead of the default location"
  | .output => "Output (monitor) name to place the panel on"
  | .items => "Item codes laid out left to right: T taskbar, C clock, S spacer"
  | .timeout => "Close the panel after this many seconds; 0 keeps it open"

end ValueOption

/-- Every option of the command line, in the order help lists them. -/
inductive Flag where
  | value (o : ValueOption)
  | verbose
  | help
  | version
  deriving DecidableEq, Repr

namespace Flag

/-- All options in the order help lists them. -/
def all : List Flag :=
  [.value .config, .value .output, .value .items, .value .timeout, .verbose, .help, .version]

/-- The long name of an option. -/
def long : Flag → String
  | .value o => o.long
  | .verbose => "verbose"
  | .help => "help"
  | .version => "version"

/-- The short name of an option, if it has one. -/
def short? : Flag → Option Char
  | .verbose => some 'v'
  | .help => some 'h'
  | .version => some 'V'
  | .value _ => none

/-- How an option is written in messages: `--config <CONFIG>`, `--verbose...`. -/
def shown : Flag → String
  | .value o => "--" ++ o.long ++ " <" ++ o.placeholder ++ ">"
  | .verbose => "--verbose..."
  | f => "--" ++ f.long

/-- The line of help an option has. -/
def about : Flag → String
  | .value o => o.about
  | .verbose => ""
  | .help => "Print help"
  | .version => "Print version"

/-- The option of a long name. -/
def ofLong? (name : String) : Option Flag := all.find? (·.long == name)

/-- The option of a short name. -/
def ofShort? (c : Char) : Option Flag := all.find? (·.short? == some c)

end Flag

/-- What the options set. -/
structure Options where
  config : Option String := none
  output : Option String := none
  items : Option String := none
  timeout : Option Nat := none
  verbose : Nat := 0
  deriving DecidableEq, Repr

/-- What a command line asks for. -/
inductive Invocation where
  | run (o : Options)
  | help
  | version
  /-- The words are refused, with the message for the error stream. -/
  | refused (message : String)
  deriving DecidableEq, Repr

/-- The name the program goes by. -/
def programName : String := "taskstrip"

/-- The text `--version` prints. -/
def versionText : String := programName ++ " 0.1.0\n"

/-- The text `--help` prints: options in two columns, the second starting two spaces after
the longest first. -/
def helpText : String :=
  let width := (Flag.all.map (·.shown.length)).foldl max 0
  let line (f : Flag) : String :=
    let lead := match f.short? with
      | some c => "  -" ++ String.singleton c ++ ", "
      | none => "      "
    lead ++ f.shown ++ String.ofList (List.replicate (width - f.shown.length + 2) ' ') ++ f.about
  "A thin Wayland panel with a taskbar and a clock\n\nUsage: " ++ programName ++
    " [OPTIONS]\n\nOptions:\n" ++ String.join (Flag.all.map (line · ++ "\n"))

/-- The usage line for the options given so far. -/
def usageLine (used : List Flag) : String :=
  "Usage: " ++ programName ++
    (if used.isEmpty then " [OPTIONS]" else String.join (used.map (" " ++ ·.shown)))

/-- The options that set something, as one alternative:
`<--config <CONFIG>|...|--verbose...>`. -/
def settingGroup : String :=
  "<" ++ "|".intercalate ((Flag.all.filter fun f => f != .help && f != .version).map (·.shown)) ++
    ">"

/-- The usage line when a flag is given a value. Before any option was taken it names the
flag alone; after, it names `settingGroup`, which holds `--verbose`, preceded by `--help` or
`--version` when that is the flag. -/
def flagUsageLine (taken : Bool) (f : Flag) : String :=
  let own := if f == .help || f == .version || !taken then [f.shown] else []
  let shown := own ++ if taken then [settingGroup] else []
  "Usage: " ++ programName ++ String.join (shown.map (" " ++ ·))

/-- A refusal's message, with a usage line when there is one. -/
def refusal (message : String) (usage : Option String) : String :=
  "error: " ++ message ++ (match usage with | some u => "\n\n" ++ u | none => "") ++
    "\n\nFor more information, try '--help'.\n"

/-- Reads an unsigned 64-bit number the way the standard library does: an optional `+`, then
decimal digits; the fault says why the text is no such number. -/
def readU64 (s : String) : Except String Nat :=
  let digits := match s.toList with
    | '+' :: rest => if rest.isEmpty then none else some rest
    | [] => some []
    | cs => some cs
  match digits with
  | some [] => .error "cannot parse integer from empty string"
  | none => .error "invalid digit found in string"
  | some cs => cs.foldlM (fun (acc : Nat) c =>
      if !c.isDigit then .error "invalid digit found in string"
      else
        let v := acc * 10 + (c.toNat - '0'.toNat)
        if v ≥ 2 ^ (64 : Nat) then .error "number too large to fit in target type" else .ok v) 0

/-- The reader's state between words. -/
structure ArgState where
  options : Options := {}
  /-- The options taken so far, each once, in the order first taken. -/
  used : List Flag := []
  /-- An option waiting for its value, with the value once read. -/
  pending : Option (ValueOption × Option String) := none
  /-- Whether `--` was read. -/
  escaped : Bool := false

namespace ArgState

/-- Sets an option's value. -/
def assign (st : ArgState) (o : ValueOption) (v : String) : Except String ArgState :=
  let st := { st with used := st.used ++ [Flag.value o] }
  let opts := st.options
  match o with
  | .config => .ok { st with options := { opts with config := some v } }
  | .output => .ok { st with options := { opts with output := some v } }
  | .items => .ok { st with options := { opts with items := some v } }
  | .timeout =>
    match readU64 v with
    | .ok n => .ok { st with options := { opts with timeout := some n } }
    | .error why =>
      .error (refusal ("invalid value '" ++ v ++ "' for '" ++ (Flag.value o).shown ++ "': " ++ why)
        none)

/-- The refusal of an option that lacks its value. -/
def valueRequired (o : ValueOption) : String :=
  refusal ("a value is required for '" ++ (Flag.value o).shown ++ "' but none was supplied") none

/-- Takes an option with its value; an option given before is refused, and so is an empty
config path. -/
def take (st : ArgState) (o : ValueOption) (v : String) : Except String ArgState :=
  if st.used.contains (.value o) then
    .error (refusal ("the argument '" ++ (Flag.value o).shown ++ "' cannot be used multiple times")
      (some (usageLine [])))
  else if o == .config && v.isEmpty then .error (valueRequired o)
  else st.assign o v

/-- Takes the option waiting for its value, if there is one. -/
def settle (st : ArgState) : Except String ArgState :=
  match st.pending with
  | none => .ok st
  | some (o, none) => .error (valueRequired o)
  | some (o, some v) => { st with pending := none }.take o v

/-- The options given, as a refusal sees them: the waiting option is taken if it can be, or
stays given while its value is bad, or its earlier use is dropped when it repeats. -/
def usedAtFault (st : ArgState) : List Flag :=
  match st.pending with
  | some (o, some _) =>
    if st.used.contains (.value o) then st.used.filter (· != Flag.value o) else st.used ++ [.value o]
  | _ => st.used

/-- Counts one more `--verbose`. -/
def louder (st : ArgState) : ArgState :=
  { st with
    options := { st.options with verbose := st.options.verbose + 1 }
    used := if st.used.contains .verbose then st.used else st.used ++ [.verbose] }

/-- The refusal of an unknown long option, with a suggestion when one is close. -/
def unknownLong (st : ArgState) (name : String) : String :=
  let tip := Similar.closest? name (Flag.all.map Flag.long)
  let used := st.usedAtFault
  let used := match tip.bind Flag.ofLong? with
    | some f => if used.contains f then used else used ++ [f]
    | none => used
  let hint := match tip with
    | some t => "\n\n  tip: a similar argument exists: '--" ++ t ++ "'"
    | none => ""
  refusal ("unexpected argument '--" ++ name ++ "' found" ++ hint) (some (usageLine used))

/-- The refusal of an unknown word. -/
def unexpected (word : String) : String :=
  refusal ("unexpected argument '" ++ word ++ "' found") (some (usageLine []))

/-- Reads a group of short options; `some` when one of them ends the reading. -/
def shorts (st : ArgState) : List Char → Except String (Option Invocation × ArgState)
  | [] => .ok (none, st)
  | c :: rest =>
    match Flag.ofShort? c with
    | some .help => do let _ ← st.settle; return (some .help, st)
    | some .version => do let _ ← st.settle; return (some .version, st)
    | some _ => do let st ← st.settle; shorts st.louder rest
    | none => .error (unexpected ("-" ++ String.singleton c))

/-- Reads a long option, its name and attached value given. -/
def longOption (st : ArgState) (name : String) (attached : Option String) :
    Except String (Option Invocation × ArgState) :=
  match Flag.ofLong? name, attached with
  | none, _ => .error (st.unknownLong name)
  | some (.value o), some v => do
    let st ← st.settle
    return (none, ← st.take o v)
  | some (.value o), none => do
    let st ← st.settle
    return (none, { st with pending := some (o, none) })
  | some f, some v =>
    .error (refusal ("unexpected value '" ++ v ++ "' for '" ++ f.shown ++
      "' found; no more were expected") (some (flagUsageLine (!st.used.isEmpty) f)))
  | some .help, none => do let _ ← st.settle; return (some .help, st)
  | some .version, none => do let _ ← st.settle; return (some .version, st)
  | some _, none => do let st ← st.settle; return (none, st.louder)

/-- A word that is no option: the waiting option's value, else refused. After `--` no option
waits any more, so every word is refused. -/
def plain (st : ArgState) (w : String) : Except String (Option Invocation × ArgState) :=
  match st.pending, st.escaped with
  | some (o, none), false => .ok (none, { st with pending := some (o, some w) })
  | _, _ => .error (unexpected w)

/-- Reads one word. -/
def word (st : ArgState) (w : String) : Except String (Option Invocation × ArgState) :=
  match w.toList with
  | ['-', '-'] =>
    if st.escaped then st.plain w else .ok (none, { st with escaped := true })
  | '-' :: '-' :: body =>
    if st.escaped then st.plain w
    else
      let name := body.takeWhile (· != '=')
      let rest := body.dropWhile (· != '=')
      st.longOption (String.ofList name)
        (if rest.isEmpty then none else some (String.ofList (rest.drop 1)))
  | '-' :: c :: cs => if st.escaped then st.plain w else st.shorts (c :: cs)
  | _ => st.plain w

/-- Reads the remaining words. -/
def words (st : ArgState) : List String → Invocation
  | [] =>
    match st.settle with
    | .ok st => .run st.options
    | .error m => .refused m
  | w :: ws =>
    match st.word w with
    | .error m => .refused m
    | .ok (some i, _) => i
    | .ok (none, st) => words st ws

end ArgState

/-- What a list of words asks for. -/
def Invocation.read (args : List String) : Invocation := ArgState.words {} args

end DeskPanel
