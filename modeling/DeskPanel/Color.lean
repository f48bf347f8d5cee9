import DeskPanel.Text.Quote
import DeskPanel.Word

/-!
# Colors

A color is a 32-bit RGBA word, red in the most significant byte. Its text is `#` followed by
eight lowercase hexadecimal digits. Reading accepts a `#`, `0x` or `0X` prefix followed by six
digits (opaque, alpha `ff`) or eight digits.

## Main definitions

* `Color`, `Color.channels`, `Color.premultiplied`.
* `Color.parse` and its error `ColorError`, with the messages of `ColorError.message`.
* `Color.hex` — the text of a color.
-/

namespace DeskPanel

/-- A 32-bit RGBA color, red in the most significant byte. -/
structure Color where
  rgba : UInt32
  deriving DecidableEq, Repr, Inhabited

/-- Why a text is not a color. Each case keeps the whole text. -/
inductive ColorError where
  | missingPrefix (text : String)
  | badLength (text : String)
  | badDigit (text : String)
  deriving DecidableEq, Repr

/-- The name of the kind of a color error. -/
def ColorError.kind : ColorError → String
  | .missingPrefix _ => "MissingPrefix"
  | .badLength _ => "BadLength"
  | .badDigit _ => "BadDigit"

/-- The message of a color error. -/
def ColorError.message : ColorError → String
  | .missingPrefix s => "color " ++ Text.quote s ++ " must start with '#' or '0x'"
  | .badLength s => "color " ++ Text.quote s ++ " must have 6 or 8 hex digits"
  | .badDigit s => "color " ++ Text.quote s ++ " is not valid hex"

namespace Color

/-- The four channel bytes, red first. -/
def channels (c : Color) : List Nat :=
  let v := c.rgba.toNat
  [v / 2 ^ (24 : Nat) % 256, v / 2 ^ (16 : Nat) % 256, v / 2 ^ (8 : Nat) % 256, v % 256]

/-- Red channel. -/
def red (c : Color) : Nat := c.rgba.toNat / 2 ^ (24 : Nat) % 256

/-- Green channel. -/
def green (c : Color) : Nat := c.rgba.toNat / 2 ^ (16 : Nat) % 256

/-- Blue channel. -/
def blue (c : Color) : Nat := c.rgba.toNat / 2 ^ (8 : Nat) % 256

/-- Alpha channel. -/
def alpha (c : Color) : Nat := c.rgba.toNat % 256

/-- A channel weighted by alpha, rounded to nearest. -/
def weigh (v a : Nat) : Nat := (v * a + 127) / 255

/-- The bytes of the color premultiplied by its alpha, red first. -/
def premultiplied (c : Color) : List Nat :=
  [weigh c.red c.alpha, weigh c.green c.alpha, weigh c.blue c.alpha, c.alpha]

/-- Whether a character is an ASCII hexadecimal digit. -/
def isHexDigit (ch : Char) : Bool :=
  ch.isDigit || ('a' ≤ ch && ch ≤ 'f') || ('A' ≤ ch && ch ≤ 'F')

/-- The value of a hexadecimal digit. -/
def hexValue (ch : Char) : Nat :=
  if ch.isDigit then ch.toNat - '0'.toNat
  else if 'a' ≤ ch && ch ≤ 'f' then ch.toNat - 'a'.toNat + 10
  else ch.toNat - 'A'.toNat + 10

/-- The value of a run of hexadecimal digits. -/
def hexNumber (ds : List Char) : Nat := ds.foldl (fun acc ch => acc * 16 + hexValue ch) 0

/-- The digits after the first matching prefix among `#`, `0x`, `0X`. -/
def digitsOf? : List Char → Option (List Char)
  | '#' :: ds => some ds
  | '0' :: 'x' :: ds => some ds
  | '0' :: 'X' :: ds => some ds
  | _ => none

/-- Reads a color: prefix, then only hex digits, a value of 32 bits, and six or eight digits. -/
def parse (s : String) : Except ColorError Color :=
  match digitsOf? s.toList with
  | none => .error (.missingPrefix s)
  | some ds =>
    if !ds.all isHexDigit || ds.isEmpty || 2 ^ (32 : Nat) ≤ hexNumber ds then .error (.badDigit s)
    else if ds.length = 6 then .ok ⟨(hexNumber ds * 256 + 255).toUInt32⟩
    else if ds.length = 8 then .ok ⟨(hexNumber ds).toUInt32⟩
    else .error (.badLength s)

/-- The lowercase hexadecimal digit of a value below 16. -/
def hexDigit (n : Nat) : Char :=
  if n < 10 then Char.ofNat ('0'.toNat + n) else Char.ofNat ('a'.toNat + n - 10)

/-- Eight lowercase hexadecimal digits of a value, most significant first. -/
def hex8 (v : Nat) : List Char :=
  (List.range 8).reverse.map fun i => hexDigit (v / 16 ^ i % 16)

/-- The text of a color: `#` and eight lowercase hex digits. -/
def hex (c : Color) : String := String.ofList ('#' :: hex8 c.rgba.toNat)

end Color

end DeskPanel
