import DeskPanel.Config.Decode
import DeskPanel.Disk.Data
import DeskPanel.Text.Quote

/-!
# Loading settings from a file

The settings file lives at `taskstrip/config.toml` under the user's configuration directory,
`.config` in the home directory. A missing file is no fault: it means no settings were written,
and the defaults apply. A file that cannot be read as text, and text that is not a settings
document, are faults that name the path; whoever only wants settings takes the defaults then.

## Main definitions

* `configPath`.
* `ConfigError`, `ConfigError.kind`, `ConfigError.message`.
* `Settings.load`, `Settings.loadOrDefault`.
-/

namespace DeskPanel

/-- Where the settings file of a home directory lives. -/
def configPath (home : Option String) : Option String :=
  home.map (· ++ "/.config/taskstrip/config.toml")

/-- Why a settings file could not be loaded. -/
inductive ConfigError where
  | read (path : String) (fault : IoFault)
  | parse (path : String) (report : String)
  deriving Repr

namespace ConfigError

/-- The name of the kind of fault. -/
def kind : ConfigError → String
  | .read _ _ => "Read"
  | .parse _ _ => "Parse"

/-- What the fault says. -/
def message : ConfigError → String
  | .read path fault => "failed to read config " ++ Text.quote path ++ ": " ++ fault.message
  | .parse path report => "failed to parse config " ++ Text.quote path ++ ": " ++ report

end ConfigError

/-- The settings a file holds; none when there is no file. -/
def Settings.load (disk : Disk) (path : String) : Except ConfigError (Option Settings) :=
  match disk.read path with
  | .error .notFound => .ok none
  | .error e => .error (.read path e)
  | .ok data =>
    match data.text with
    | .error e => .error (.read path e)
    | .ok text =>
      match Settings.read text with
      | .ok s => .ok (some s)
      | .error report => .error (.parse path report)

/-- The settings a file holds, or the defaults when it holds none or cannot be loaded. -/
def Settings.loadOrDefault (disk : Disk) (path : String) : Settings :=
  match Settings.load disk path with
  | .ok (some s) => s
  | _ => {}

end DeskPanel
