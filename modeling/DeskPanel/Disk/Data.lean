import DeskPanel.Disk.Tree
import DeskPanel.Font.Face

/-!
# What files hold

A file holds bytes, or a font. A font file is known here by the face it encodes, since that
face is all a reader ever takes from it. Reading a file as text checks that its bytes are
UTF-8; a font's tables are binary and never are.

## Main definitions

* `FileData`, `Disk`.
* `FileData.text`, `FileData.face`.
-/

namespace DeskPanel

/-- The contents of a file. -/
inductive FileData where
  | bytes (data : ByteArray)
  | font (face : FontFace)

/-- A directory tree of files. -/
abbrev Disk := FileTree FileData

namespace FileData

/-- The text a file holds, if its bytes are UTF-8. -/
def text : FileData → Except IoFault String
  | .bytes data => match String.fromUTF8? data with
    | some s => .ok s
    | none => .error .notText
  | .font _ => .error .notText

/-- The face a file holds, or why its bytes hold none. -/
def face : FileData → Except String FontFace
  | .bytes data => FontFace.decode data
  | .font f => .ok f

end FileData

end DeskPanel
