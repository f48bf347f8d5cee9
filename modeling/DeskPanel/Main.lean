import DeskPanel.Command.Run

/-!
# The program's entry point

Runs the panel with the process's command line. The settings file the options select, or the
one under `HOME`, is read from the file system into a disk holding only that file. No
compositor is reachable from here, so a run that gets past its settings and its font ends with
the connection fault, as the panel does where no compositor runs.
-/

open DeskPanel

/-- The settings file the command line selects, read into a disk that holds only it. -/
def settingsDisk (args : List String) (home : Option String) : IO Disk := do
  let path := match Invocation.read args with
    | .run o => o.config <|> configPath home
    | _ => none
  match path with
  | none => return .dir []
  | some p =>
    match ← (IO.FS.readBinFile p).toBaseIO with
    | .ok bytes => return FileTree.singleton p (.bytes bytes)
    | .error _ => return .dir []

/-- Runs the panel and reports its output and status. -/
def main (args : List String) : IO UInt32 := do
  let home ← IO.getEnv "HOME"
  let disk ← settingsDisk args home
  let exit := Program.run { disk, home, endpoint := .noSocket, patienceMs := 0 } args
  IO.print exit.stdout
  IO.eprint exit.stderr
  return (exit.status.getD 1).toUInt32
