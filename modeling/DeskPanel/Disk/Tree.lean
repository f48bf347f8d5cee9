/-!
# Directory trees

The files a program reads, held as a value: directories of named entries whose leaves are
files and dangling links. A path is looked up component by component from the root, the way
the operating system does it: a name steps into an entry of the directory reached so far, an
empty component or `.` stays there, and `..` steps back to the directory it was reached from
(the root is its own parent). Every component after the first needs a directory to act on, so
a file followed by anything, a trailing `/` included, is no directory, and a missing entry or
a dangling link followed by anything is not found. Reading gives a file's contents, or the fault
the operating system reports: no such entry, a directory where a file was wanted, or a file
where a directory was.

## Main definitions

* `IoFault`, `IoFault.message`.
* `FileTree`, `FileTree.find`, `FileTree.read`, `FileTree.isFile`.
* `FileTree.filesUnder` — every non-directory below a directory, depth first.
-/

namespace DeskPanel

/-- Why reading a path failed. -/
inductive IoFault where
  | notFound
  | isDirectory
  | notDirectory
  | notText
  deriving DecidableEq, Repr

/-- The words the operating system uses for a fault. -/
def IoFault.message : IoFault → String
  | .notFound => "No such file or directory (os error 2)"
  | .isDirectory => "Is a directory (os error 21)"
  | .notDirectory => "Not a directory (os error 20)"
  | .notText => "stream did not contain valid UTF-8"

/-- An entry of a directory tree whose files hold values of type `α`. -/
inductive FileTree (α : Type) where
  | file (contents : α)
  | dir (entries : List (String × FileTree α))
  | dangling

namespace FileTree

variable {α : Type}

/-- The components of a path, in order. -/
def components (path : String) : List String := path.splitOn "/"

/-- The entry the components lead to from the entry `t`, reached through the directories
`above`, nearest first. -/
def walk (above : List (FileTree α)) (t : FileTree α) : List String → Except IoFault (FileTree α)
  | [] => .ok t
  | c :: rest =>
    match t with
    | .dangling => .error .notFound
    | .file _ => .error .notDirectory
    | .dir es =>
      if c == "" || c == "." then walk above t rest
      else if c == ".." then
        match above with
        | p :: ps => walk ps p rest
        | [] => walk [] t rest
      else
        match es.lookup c with
        | some e => walk (t :: above) e rest
        | none => .error .notFound

/-- The names of the directories along a path and of its last entry, with empty components
and `.` dropped and `..` taking back the name before it. -/
def names (path : String) : List String :=
  ((components path).foldl (fun acc part =>
    if part == "" || part == "." then acc
    else if part == ".." then acc.drop 1
    else part :: acc) []).reverse

/-- A tree holding one file at a path, inside the directories the path names. -/
def singleton (path : String) (contents : α) : FileTree α :=
  (names path).foldr (fun name t => .dir [(name, t)]) (.file contents)

/-- The entry a path names; the empty path names nothing. -/
def find (t : FileTree α) (path : String) : Except IoFault (FileTree α) :=
  if path.isEmpty then .error .notFound else walk [] t (components path)

/-- The contents of the file a path names. -/
def read (t : FileTree α) (path : String) : Except IoFault α :=
  match t.find path with
  | .ok (.file c) => .ok c
  | .ok (.dir _) => .error .isDirectory
  | .ok .dangling => .error .notFound
  | .error e => .error e

/-- Whether a path names a file. -/
def isFile (t : FileTree α) (path : String) : Bool :=
  match t.find path with
  | .ok (.file _) => true
  | _ => false

mutual

/-- The paths below an entry at `path` that are not directories and that `keep` accepts. -/
def filesBelow (keep : String → Bool) (path : String) : FileTree α → List String
  | .dir es => filesAmong keep path es
  | _ => if keep path then [path] else []

/-- The paths below a directory's entries, entry by entry. -/
def filesAmong (keep : String → Bool) (path : String) : List (String × FileTree α) → List String
  | [] => []
  | (n, t) :: es => filesBelow keep (path ++ "/" ++ n) t ++ filesAmong keep path es

end

/-- Every path below a directory that is not a directory and that `keep` accepts, depth first
in the order of the entries; nothing when the path names no directory. -/
def filesUnder (t : FileTree α) (keep : String → Bool) (path : String) : List String :=
  match t.find path with
  | .ok (.dir es) => filesAmong keep path es
  | _ => []

end FileTree

end DeskPanel
