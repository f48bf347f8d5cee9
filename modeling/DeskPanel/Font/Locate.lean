import DeskPanel.Disk.Data
import DeskPanel.Font.Choice
import DeskPanel.Font.Description
import DeskPanel.Font.Text
import DeskPanel.Text.Quote

/-!
# Finding and loading fonts

A family resolves to a font file. An absolute path that names a file is taken as it is.
Otherwise the font directories are searched, each depth first: the user's data directory
twice (once as the font directory, once as the data directory's `fonts`), the legacy `.fonts`
in the home directory, and the two system directories. Every file whose extension is `ttf` or
`otf` in any case is a candidate, and the first whose stem matches the family's earliest
candidate stem wins.

Loading reads the file and decodes its face; each step has its own fault, which names the
path.

## Main definitions

* `FontError`, `FontError.kind`, `FontError.message`.
* `fontDirs`, `resolveFont`, `loadFont`.
-/

namespace DeskPanel

/-- Why a font could not be loaded. -/
inductive FontError where
  | notFound (family : String)
  | read (path : String) (fault : IoFault)
  | parse (path : String) (message : String)
  deriving Repr

namespace FontError

/-- The name of the kind of fault. -/
def kind : FontError → String
  | .notFound _ => "NotFound"
  | .read _ _ => "Read"
  | .parse _ _ => "Parse"

/-- What the fault says. -/
def message : FontError → String
  | .notFound family => "no font file found for family " ++ Text.quote family
  | .read path fault => "failed to read font " ++ Text.quote path ++ ": " ++ fault.message
  | .parse path why => "failed to parse font " ++ Text.quote path ++ ": " ++ why

/-- What the fault says, followed by what the fault that caused it says. -/
def causes (e : FontError) : List String :=
  match e with
  | .read _ fault => [e.message, fault.message]
  | _ => [e.message]

end FontError

/-- The directories searched for fonts, in order, for a home directory if there is one. -/
def fontDirs (home : Option String) : List String :=
  let system := ["/usr/local/share/fonts", "/usr/share/fonts"]
  match home with
  | some h => [h ++ "/.local/share/fonts", h ++ "/.local/share/fonts", h ++ "/.fonts"] ++ system
  | none => system

/-- Whether a path looks like a font file: its extension is `ttf` or `otf`, in any case. -/
def isFontPath (path : String) : Bool :=
  match Font.extension? path with
  | some e => let e := e.toLower; e == "ttf" || e == "otf"
  | none => false

/-- The font file of a family. -/
def resolveFont (disk : Disk) (home : Option String) (family : String) :
    Except FontError String :=
  if family.startsWith "/" && disk.isFile family then .ok family
  else
    let files := (fontDirs home).flatMap (disk.filesUnder isFontPath)
    match Font.pickFile? family files with
    | some i => .ok (files.getD i family)
    | none => .error (.notFound family)

/-- The engine of a described font: its file resolved, read and decoded, at the description's
pixel size. -/
def loadFont (disk : Disk) (home : Option String) (desc : FontDescription) :
    Except FontError TextEngine := do
  let path ← resolveFont disk home desc.family
  let data ← (disk.read path).mapError (FontError.read path)
  let face ← data.face.mapError (FontError.parse path)
  return TextEngine.ofFace face desc.pixelSize

end DeskPanel
