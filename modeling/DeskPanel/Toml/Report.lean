import DeskPanel.Toml.Document

/-!
# Reports of TOML faults

A fault is shown under the line it concerns:

```
TOML parse error at line 1, column 16
  |
1 | panel_items = [
  |                ^
unclosed array, expected `]`
```

A fault of the document as a whole is its message alone. Lines and columns count from one; the
column counts characters. A fault at the end of the text
stands on the last line, one column past its last character. The marks cover the fault's bytes,
at least one and at most to the end of the line.

## Main definitions

* `locate` — the line and column of a byte position.
* `placeOf` — the lines that show where a span stands.
* `Fault.report` — the report of a fault of a text.
-/

namespace DeskPanel.Toml

/-- The line and column, from zero, of the byte at `index`; a position past the end counts on
from the last byte. -/
def locate (src : ByteArray) (index : Nat) : Nat × Nat :=
  if src.size = 0 then (0, index)
  else
    let safe := min index (src.size - 1)
    let beyond := index - safe
    let before := (src.extract 0 safe).toList
    let breaks := before.zipIdx.filter (fun (b, _) => b == 10)
    let lineStart := match breaks.getLast? with
      | some (_, k) => k + 1
      | none => 0
    let column := match String.fromUTF8? (src.extract lineStart (safe + 1)) with
      | some s => s.length - 1
      | none => safe - lineStart
    (breaks.length, column + beyond)

/-- Repeats a character `n` times. -/
def repeatChar (c : Char) (n : Nat) : String := String.ofList (List.replicate n c)

/-- The lines that show where a span of `text` stands, down to its marks. -/
def placeOf (text : String) (span : Span) : String :=
  let src := text.toUTF8
  let (line, column) := locate src span.start
  let lineNo := toString (line + 1)
  let content := ((text.splitOn "\n")[line]?).getD ""
  let marks := min (span.stop - span.start) (content.utf8ByteSize - column)
  let gutter := repeatChar ' ' (lineNo.length + 1)
  "TOML parse error at line " ++ lineNo ++ ", column " ++ toString (column + 1) ++ "\n" ++
    gutter ++ "|\n" ++
    lineNo ++ " | " ++ content ++ "\n" ++
    gutter ++ "|" ++ repeatChar ' ' (column + 1) ++ "^" ++ repeatChar '^' (marks - 1) ++ "\n"

/-- The report of a fault of `text`: where it stands, if it stands somewhere, then its
message. -/
def Fault.report (f : Fault) (text : String) : String :=
  (match f.span with
    | some span => placeOf text span
    | none => "") ++ f.message ++ "\n"

end DeskPanel.Toml
