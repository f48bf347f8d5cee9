import DeskPanel.Binary.Decimal
import DeskPanel.Text.Classes

/-!
# Font descriptions

A font description names a family and a size in points, as in `pango:DejaVu Sans 11`: an
optional `pango:` prefix, then the family, then the size after the last white space. A size is
a positive single-precision number; when the last word is not one, the whole description is
the family and the size is 10 points. A missing family means `Sans`.

Sizes become pixels at 96 dots per inch: `size × 96 / 72`, each step rounded to single
precision.

## Main definitions

* `FontDescription`, `FontDescription.read`.
* `FontDescription.pixelSize`.
-/

namespace DeskPanel

/-- A font family and size. -/
structure FontDescription where
  family : String
  sizePt : Binary32
  deriving Repr, Inhabited

namespace FontDescription

/-- The size of a description that gives none. -/
def defaultSize : Binary32 := Binary.Datum.ofInt 10

/-- A size read from text: a number above zero. -/
def size? (word : List Char) : Option Binary32 :=
  match Binary.Datum.read? (String.ofList word) with
  | some x => if Binary.Datum.lt (Binary.Datum.ofInt 0) x then some x else none
  | none => none

/-- The characters before the last white space, and those after it, if there is one. -/
def splitLastWhite (cs : List Char) : Option (List Char × List Char) :=
  match (cs.reverse.dropWhile (!Text.isWhite ·)) with
  | [] => none
  | _ :: before =>
    let after := cs.reverse.takeWhile (!Text.isWhite ·)
    some (before.reverse, after.reverse)

/-- Reads a description; every text is one. -/
def read (s : String) : FontDescription :=
  let cs := Text.trimWhite s.toList
  let cs := if cs.take 6 == "pango:".toList then Text.trimWhite (cs.drop 6) else cs
  let (family, size) := match splitLastWhite cs with
    | some (family, word) =>
      match size? word with
      | some x => (Text.trimWhite family, x)
      | none => (cs, defaultSize)
    | none =>
      match size? cs with
      | some x => ([], x)
      | none => (cs, defaultSize)
  ⟨if family.isEmpty then "Sans" else String.ofList family, size⟩

/-- The size in pixels at 96 dots per inch. -/
def pixelSize (d : FontDescription) : Binary32 :=
  d.sizePt * Binary.Datum.ofInt 96 / Binary.Datum.ofInt 72

end FontDescription

end DeskPanel
