/-!
# Choosing a font file

A family is looked up among font files by the stems of their names, compared after
*normalising*: only ASCII letters and digits are kept, in lower case. The candidate stems of a
family are, best first, the usual files of a generic family (`sans`, `serif`, `mono`), then the
family with `-Regular`, then the family itself. The chosen file is the first one whose stem
matches the earliest candidate that any file matches.

The stem of a path is its last component without its extension: a path that ends in `..`, or
has no component, has none; a name whose only dot leads it is its own stem.

## Main definitions

* `normalizeName`, `candidateStems`.
* `fileStem?`, `pickFile?`.
-/

namespace DeskPanel.Font

/-- A name with only its ASCII letters and digits, in lower case. -/
def normalizeName (s : String) : String :=
  String.ofList ((s.toList.filter fun c => c.isAlphanum).map Char.toLower)

/-- The usual files of a generic family, best first. -/
def genericStems (normalized : String) : List String :=
  match normalized with
  | "sans" | "sansserif" =>
    ["DejaVuSans", "NotoSans-Regular", "LiberationSans-Regular", "Cantarell-Regular", "FreeSans"]
  | "serif" => ["DejaVuSerif", "NotoSerif-Regular", "LiberationSerif-Regular", "FreeSerif"]
  | "mono" | "monospace" =>
    ["DejaVuSansMono", "NotoSansMono-Regular", "LiberationMono-Regular", "FreeMono"]
  | _ => []

/-- The normalised stems to look for, best first. -/
def candidateStems (family : String) : List String :=
  (genericStems (normalizeName family)).map normalizeName ++
    [normalizeName (family ++ "-Regular"), normalizeName family]

/-- The parts of a path between slashes, in order. -/
def splitSlashes : List Char → List (List Char)
  | [] => [[]]
  | c :: rest =>
    match splitSlashes rest with
    | [] => [[c]]
    | part :: parts => if c == '/' then [] :: part :: parts else (c :: part) :: parts

/-- The last component of a path: components are separated by slashes, and empty ones and `.`
are skipped. -/
def fileName? (path : String) : Option (List Char) :=
  match ((splitSlashes path.toList).filter fun c => c != [] && c != ['.']).getLast? with
  | some ['.', '.'] => none
  | other => other

/-- The stem of a path: its file name before the last dot, unless that dot leads the name. -/
def fileStem? (path : String) : Option String := do
  let cs ← fileName? path
  match (cs.reverse.dropWhile (· != '.')) with
  | [] => return String.ofList cs
  | _ :: before =>
    if before.isEmpty then return String.ofList cs else return String.ofList before.reverse

/-- The extension of a path: its file name after the last dot, when that dot does not lead the
name. -/
def extension? (path : String) : Option String := do
  let cs ← fileName? path
  match cs.reverse.span (· != '.') with
  | (_, []) => none
  | (after, _ :: before) => if before.isEmpty then none else some (String.ofList after.reverse)

/-- The index of the file whose stem matches the earliest candidate stem of a family. -/
def pickFile? (family : String) (files : List String) : Option Nat :=
  (candidateStems family).findSome? fun stem =>
    files.findIdx? fun path => (fileStem? path).any fun s => normalizeName s == stem

end DeskPanel.Font
