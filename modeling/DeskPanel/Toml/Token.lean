import DeskPanel.Toml.Document

/-!
# TOML tokens

The first step of reading a TOML document cuts its bytes into tokens, without any context:
punctuation, runs of blanks, comments, line breaks, the four kinds of strings, and atoms. An
atom is a run of bytes that are none of the others (quotes included, once the atom has
started), so a bare key, a number, a boolean or a
date is one atom, or several joined by dots. Every token but the last covers at least one
byte; the last is an empty end-of-text token.

A string token ends at its closing quote, or, when it is not closed, before the line feed of
its line (one-line strings) or at the end of the text (block strings). Inside a basic string a
backslash takes a following backslash or double quote along, so that neither ends the string.
A block string's closing run of quotes may hold two more quotes, which belong to the body.

## Main definitions

* `TokenKind`, `Token`.
* `Token.lex` — the tokens of a text.
-/

namespace DeskPanel.Toml

/-- The kinds of tokens. -/
inductive TokenKind where
  | dot
  | equals
  | comma
  | openBracket
  | closeBracket
  | openBrace
  | closeBrace
  /-- A run of spaces and tabs. -/
  | whitespace
  /-- A `#` and the rest of its line, line break excluded. -/
  | comment
  /-- A line feed, a carriage return and line feed, or a lone carriage return. -/
  | newline
  /-- `'...'` -/
  | literal
  /-- `"..."` -/
  | basic
  /-- `'''...'''` -/
  | literalBlock
  /-- `"""..."""` -/
  | basicBlock
  | atom
  /-- The empty token at the end of the text. -/
  | eof
  deriving DecidableEq, Repr, Inhabited

/-- A token: its kind and its bytes. -/
structure Token where
  kind : TokenKind
  span : Span
  deriving Repr, Inhabited

namespace TokenKind

/-- Whether a token is a string of some kind. -/
def isString : TokenKind → Bool
  | .literal | .basic | .literalBlock | .basicBlock => true
  | _ => false

end TokenKind

/-- The character a byte stands for; bytes of multi-byte characters map to characters that
play no part in the syntax. -/
def charAt (src : ByteArray) (i : Nat) : Option Char :=
  (src[i]?).map fun b => Char.ofNat b.toNat

/-- Bytes that start a token of their own and so end an atom: punctuation, blanks, line
ends and comment marks. A quote starts a string only where a token starts, and inside an
atom is one of its bytes. -/
def isBoundary : Char → Bool
  | '.' | '=' | ',' | '[' | ']' | '{' | '}' | ' ' | '\t' | '#' | '\r' | '\n' => true
  | _ => false

/-- The end of the run of bytes from `i` whose characters satisfy `p`. -/
def scanWhile (src : ByteArray) (p : Char → Bool) (i : Nat) : Nat :=
  if h : i < src.size then
    if p (Char.ofNat src[i].toNat) then scanWhile src p (i + 1) else i
  else i
termination_by src.size - i

/-- Whether the bytes from `i` spell `s`. -/
def spellsAt (src : ByteArray) (i : Nat) (s : String) : Bool :=
  (s.toList.zipIdx.all fun (c, k) => charAt src (i + k) == some c)

/-- Spaces and tabs. -/
def isSpace (c : Char) : Bool := c == ' ' || c == '\t'

/-- The end of a one-line literal string whose body starts at `i`: past the closing quote, or
at the line feed or the end of the text. -/
def literalEnd (src : ByteArray) (i : Nat) : Nat :=
  let j := scanWhile src (fun c => c != '\'' && c != '\n') i
  if charAt src j == some '\'' then j + 1 else j

/-- The end of a one-line basic string whose body starts at `i`: past the closing quote, or
at the line feed or the end of the text. A backslash takes a following backslash or double
quote along. -/
def basicEnd (src : ByteArray) (i : Nat) : Nat :=
  if _h : i < src.size then
    match charAt src i with
    | some '"' => i + 1
    | some '\n' => i
    | some '\\' =>
      let c := charAt src (i + 1)
      if c == some '\\' || c == some '"' then basicEnd src (i + 2) else basicEnd src (i + 1)
    | _ => basicEnd src (i + 1)
  else i
termination_by src.size - i

/-- The end of a block string whose body starts at `i`, closed by three `q`: past the closing
run of quotes, two more of which may belong to the body, or the end of the text. In a basic
block a backslash takes a following backslash or double quote along. -/
def blockEnd (src : ByteArray) (q : Char) (escapes : Bool) (i : Nat) : Nat :=
  if _h : i < src.size then
    if spellsAt src i (String.ofList [q, q, q]) then
      min (scanWhile src (· == q) i) (i + 5)
    else if escapes && charAt src i == some '\\' then
      let c := charAt src (i + 1)
      if c == some '\\' || c == some '"' then blockEnd src q escapes (i + 2)
      else blockEnd src q escapes (i + 1)
    else blockEnd src q escapes (i + 1)
  else i
termination_by src.size - i

/-- The end of the token that starts at `i`, which is before the end of the text, and its
kind. -/
def tokenAt (src : ByteArray) (i : Nat) : TokenKind × Nat :=
  match charAt src i with
  | some '.' => (.dot, i + 1)
  | some '=' => (.equals, i + 1)
  | some ',' => (.comma, i + 1)
  | some '[' => (.openBracket, i + 1)
  | some ']' => (.closeBracket, i + 1)
  | some '{' => (.openBrace, i + 1)
  | some '}' => (.closeBrace, i + 1)
  | some ' ' | some '\t' => (.whitespace, scanWhile src isSpace i)
  | some '#' => (.comment, scanWhile src (fun c => c != '\r' && c != '\n') i)
  | some '\n' => (.newline, i + 1)
  | some '\r' => (.newline, if charAt src (i + 1) == some '\n' then i + 2 else i + 1)
  | some '\'' =>
    if spellsAt src i "'''" then (.literalBlock, blockEnd src '\'' false (i + 3))
    else (.literal, literalEnd src (i + 1))
  | some '"' =>
    if spellsAt src i "\"\"\"" then (.basicBlock, blockEnd src '"' true (i + 3))
    else (.basic, basicEnd src (i + 1))
  | _ => (.atom, scanWhile src (fun c => !isBoundary c) i)

/-- The tokens from `i` on, after `acc`, ended by the end-of-text token. -/
def lexFrom (src : ByteArray) (i : Nat) (acc : Array Token) : Array Token :=
  if h : i < src.size then
    let (kind, stop) := tokenAt src i
    let stop := max stop (i + 1)
    have : src.size - stop < src.size - i := by omega
    lexFrom src stop (acc.push ⟨kind, ⟨i, stop⟩⟩)
  else acc.push ⟨.eof, .at src.size⟩
termination_by src.size - i

/-- The tokens of a text from byte `start` on. -/
def Token.lex (src : ByteArray) (start : Nat) : Array Token := lexFrom src start #[]

end DeskPanel.Toml
