import DeskPanel.Text.Classes

/-!
# Quoted text

Error messages quote user text between double quotes. Inside the quotes a backslash, a double
quote, a tab, a line feed, a carriage return and NUL are written as two-character escapes, other
characters that are not shown as is (`Text.isShown`) as `\u{hex}` with lowercase hex digits, and
all remaining characters as themselves. A single quote stands as is.

## Main definitions

* `escapeChar` — the written form of one character.
* `quote` — the quoted form of a text.
-/

namespace DeskPanel.Text

/-- Lowercase hexadecimal digits of a number, without leading zeros. -/
def hexDigits (n : Nat) : String := String.ofList (Nat.toDigits 16 n)

/-- The written form of one character inside double quotes. -/
def escapeChar (c : Char) : String :=
  if c = '\\' then "\\\\"
  else if c = '"' then "\\\""
  else if c = '\t' then "\\t"
  else if c = '\n' then "\\n"
  else if c = '\r' then "\\r"
  else if c = '\x00' then "\\0"
  else if isShown c then String.singleton c
  else "\\u" ++ "\x7b" ++ hexDigits c.toNat ++ "\x7d"

/-- The text between double quotes, with escapes. -/
def quote (s : String) : String :=
  "\"" ++ String.join (s.toList.map escapeChar) ++ "\""

end DeskPanel.Text
