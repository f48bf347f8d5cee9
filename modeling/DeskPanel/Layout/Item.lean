/-!
# Panel items

A panel is a row of items, chosen by a string of one-letter codes read left to right: `T` a
taskbar of window buttons, `C` a clock, `S` a spacer that takes the width left over. Other
characters are skipped.

## Main definitions

* `Item`, `Item.ofCode?`, `Item.code`.
* `Item.listOf` — the items of a code string.
-/

namespace DeskPanel

/-- One slot of the panel. -/
inductive Item where
  | taskbar
  | clock
  | spacer
  deriving DecidableEq, Repr, Inhabited

/-- The item a code selects. -/
def Item.ofCode? : Char → Option Item
  | 'T' => some .taskbar
  | 'C' => some .clock
  | 'S' => some .spacer
  | _ => none

/-- The code of an item. -/
def Item.code : Item → Char
  | .taskbar => 'T'
  | .clock => 'C'
  | .spacer => 'S'

/-- The items of a code string, in order; unknown codes are skipped. -/
def Item.listOf (codes : String) : List Item := codes.toList.filterMap Item.ofCode?

/-- The codes of a list of items. -/
def Item.codes (items : List Item) : String := String.ofList (items.map Item.code)

/-- Whether a row of items has a clock. -/
def Item.hasClock (items : List Item) : Bool := items.contains .clock

theorem Item.ofCode?_code (i : Item) : Item.ofCode? i.code = some i := by
  cases i <;> rfl

example : Item.codes (Item.listOf "TéC☃S") = "TCS" := by decide

end DeskPanel
