import DeskPanel.Binary.Decimal

/-!
# TOML documents

A TOML document read into a tree that remembers where each part stands in the text. Spans are
byte ranges of the UTF-8 text, so that a fault can later be shown under its line.

Tables remember how they came to be, because TOML forbids defining a table twice: a table named
by a `[header]`, one created on the way to a longer header (it may still get its own header
later), one created by a dotted key, and an inline table, which is closed at once.

## Main definitions

* `Span` — a byte range.
* `Scalar` — strings, integers, floats, booleans and date-times, and numbers whose value
  overflows, which only reading the value refuses.
* `Node` — scalars, arrays, arrays of tables and tables, each with its span.
* `Fault` — a fault of a document: where, if anywhere, and what.
-/

namespace DeskPanel.Toml

/-- A byte range `[start, stop)` of the document. -/
structure Span where
  start : Nat
  stop : Nat
  deriving DecidableEq, Repr, Inhabited

/-- The empty range at a position. -/
def Span.at (pos : Nat) : Span := ⟨pos, pos⟩

/-- A fault of a document: the bytes it concerns, unless it concerns the document as a whole,
and its message. -/
structure Fault where
  span : Option Span
  message : String
  deriving Repr, Inhabited

/-- A scalar value. -/
inductive Scalar where
  | string (s : String)
  | integer (v : Int)
  | float (x : Binary64)
  | boolean (b : Bool)
  | datetime (text : String)
  /-- An integer whose text gives no value from `-2^127` up to `2^128`; reading its value
  fails. -/
  | integerOverflow
  /-- A float whose value is beyond the finite ones; reading its value fails. -/
  | floatOverflow
  deriving Repr, Inhabited

/-- How a table came to be. -/
inductive Origin where
  /-- Named by its own `[header]`. -/
  | header
  /-- Created on the way to a longer header; it may still be named by a header. -/
  | implicit
  /-- Created by a dotted key. -/
  | dotted
  /-- Written inline, `{ ... }`; closed. -/
  | inline
  deriving DecidableEq, Repr, Inhabited

/-- A part of a document, with its span. -/
inductive Node where
  | scalar (v : Scalar) (span : Span)
  /-- An array value `[ ... ]`. -/
  | array (items : List Node) (span : Span)
  /-- An array of tables built by `[[header]]`s; each table's span is its header. -/
  | tables (items : List Node) (span : Span)
  /-- A table: entries in order of first definition, each with the span of its key. -/
  | table (entries : List (String × Span × Node)) (origin : Origin) (span : Span)
  deriving Repr, Inhabited

/-- The span of a node. -/
def Node.span : Node → Span
  | .scalar _ s => s
  | .array _ s => s
  | .tables _ s => s
  | .table _ _ s => s

/-- The empty root table. -/
def Node.root : Node := .table [] .header ⟨0, 0⟩

end DeskPanel.Toml
